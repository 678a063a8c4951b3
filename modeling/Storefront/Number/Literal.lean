import Storefront.Number.Binary64
/-!
# Numbers — floating point numbers in texts

A number in a text has digits, perhaps with a point among them or at
either end of them, perhaps an exponent, and perhaps a sign in front.
Infinity and the number that is none have names, in either case of
letter.
-/

namespace Storefront.Binary64

/-- A sign in front, and what follows it; true for a minus. -/
def signed : List Char → Bool × List Char
  | '-' :: cs => (true, cs)
  | '+' :: cs => (false, cs)
  | cs => (false, cs)

/-- The number that decimal digits stand for. -/
def digitsValue (cs : List Char) : Nat :=
  cs.foldl (fun n c => 10 * n + (c.toNat - 48)) 0

/-- The exponent that fills the rest, behind its letter if it is there. -/
def exponentPart? : List Char → Option Int
  | [] => some 0
  | c :: cs =>
    let (negative, ds) := signed cs
    if (c == 'e' || c == 'E') && !ds.isEmpty && ds.all Char.isDigit then
      let n : Int := digitsValue ds
      some (if negative then -n else n)
    else none

/-- The fraction in front, without its point, and what follows it. -/
def fractionPart : List Char → List Char × List Char
  | '.' :: cs => cs.span Char.isDigit
  | cs => ([], cs)

/-- A number without a sign that fills the whole text. -/
def unsigned? (negative : Bool) (cs : List Char) : Option Binary64 :=
  let name := String.ofList (cs.map Char.toLower)
  if name == "inf" || name == "infinity" then some (infinity negative)
  else if name == "nan" then some nan
  else
    let (whole, rest) := cs.span Char.isDigit
    let (fraction, rest) := fractionPart rest
    if whole.isEmpty && fraction.isEmpty then none
    else
      (exponentPart? rest).map fun e =>
        ofDecimal negative (digitsValue (whole ++ fraction)) (e - fraction.length)

/-- The number that a text stands for. -/
def ofText? (s : String) : Option Binary64 :=
  let (negative, cs) := signed s.toList
  unsigned? negative cs

end Storefront.Binary64
