/-!
# Numbers — integers in texts

An integer in a text is a run of decimal digits, perhaps behind one
sign. Zeros in front do not matter; anything else does.
-/

namespace Storefront.Decimal

/-- The number that decimal digits stand for. -/
def ofDigits (cs : List Char) : Nat :=
  cs.foldl (fun n c => 10 * n + (c.toNat - 48)) 0

/-- A number without a sign. -/
def unsigned? (cs : List Char) : Option Nat :=
  if !cs.isEmpty && cs.all Char.isDigit then some (ofDigits cs) else none

/-- An integer with or without a sign. -/
def int? (s : String) : Option Int :=
  match s.toList with
  | '-' :: cs => (unsigned? cs).map fun n => -(n : Int)
  | '+' :: cs => (unsigned? cs).map fun n => (n : Int)
  | cs => (unsigned? cs).map fun n => (n : Int)

/-- A number with or without a plus. -/
def nat? (s : String) : Option Nat :=
  match s.toList with
  | '+' :: cs => unsigned? cs
  | cs => unsigned? cs

end Storefront.Decimal
