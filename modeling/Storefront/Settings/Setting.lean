import Storefront.Number.Decimal
import Storefront.Number.Literal
import Storefront.Number.Shortest
import Storefront.Toml.Value
import Storefront.Verse.Mode
/-!
# Settings — the value of a setting

A setting comes from a file, where it has a type, or from a variable,
where it is a text; so it is read leniently. A flag may be a number or a
word such as `on`, a text may be a number, and a mode may be the only
key of a table.
-/

namespace Storefront

/-- A value as it was set. -/
inductive Setting where
  /-- Nothing, in front of or between the items of a list. -/
  | absent
  | bool (value : Bool)
  | int (value : Int64)
  | float (value : Binary64)
  | text (value : String)
  | list (items : List Setting)
  | table (entries : List (String × Setting))
  deriving Repr, Inhabited

namespace Setting

mutual

/-- The setting that a TOML value writes; a datetime is a text. -/
def ofToml : Toml → Setting
  | .text s => text s
  | .int n => int n
  | .float x => float x
  | .bool b => bool b
  | .datetime d => text d.text
  | .list items => list (ofTomlItems items)
  | .table entries => table (ofTomlEntries entries)

/-- The settings that the items of a list write. -/
def ofTomlItems : List Toml → List Setting
  | [] => []
  | v :: vs => ofToml v :: ofTomlItems vs

/-- The settings that the entries of a table write. -/
def ofTomlEntries : List (String × Toml) → List (String × Setting)
  | [] => []
  | (k, v) :: rest => (k, ofToml v) :: ofTomlEntries rest

end

/-- A text in lower case. -/
def lower (s : String) : String := s.map Char.toLower

/-- An integer in a text, if it fits a word of 64 bits with a sign. -/
def word? (s : String) : Option Int64 :=
  (Decimal.int? s).bind fun n =>
    if Int64.minValue.toInt ≤ n && n ≤ Int64.maxValue.toInt then some (Int64.ofInt n)
    else none

/-- The setting that a variable makes: a flag, an integer or a number if
it reads as one, and else a text. -/
def ofVariable (value : String) : Setting :=
  if lower value == "true" then bool true
  else if lower value == "false" then bool false
  else
    match word? value with
    | some n => int n
    | none =>
      match Binary64.ofText? value with
      | some x => float x
      | none => text value

/-- A setting read as a flag. -/
def bool? : Setting → Option Bool
  | bool b => some b
  | int n => some (n != 0)
  | float x => some (!x.isZero)
  | text s =>
    if ["1", "true", "on", "yes"].contains (lower s) then some true
    else if ["0", "false", "off", "no"].contains (lower s) then some false
    else none
  | _ => none

/-- A setting read as a text. -/
def text? : Setting → Option String
  | text s => some s
  | bool b => some (if b then "true" else "false")
  | int n => some (toString n.toInt)
  | float x => some x.text
  | _ => none

/-- The greatest number that fits a word of 64 bits. -/
def greatestCount : Nat := 18446744073709551615

/-- A number rounded to a count; below and above the counts it sticks to
the least and the greatest. -/
def countOf : Binary64 → Nat
  | .nan => 0
  | .infinity negative => if negative then 0 else greatestCount
  | x => min greatestCount (x.roundToInt?.getD 0).toNat

/-- A setting read as a count. -/
def count? : Setting → Option Nat
  | bool b => some (if b then 1 else 0)
  | int n => if 0 ≤ n then some n.toInt.toNat else none
  | float x => some (countOf x)
  | text s =>
    if ["true", "on", "yes"].contains (lower s) then some 1
    else if ["false", "off", "no"].contains (lower s) then some 0
    else (Decimal.nat? s).filter fun n => n ≤ greatestCount
  | _ => none

/-- A setting read as a mode. -/
def mode? : Setting → Option Mode
  | text s => Mode.ofName? s
  | table [(key, _)] => Mode.ofName? key
  | _ => none

/-- A setting read as a table with these keys; a list holds the values
of the keys in order. -/
def entries? (keys : List String) : Setting → Option (List (String × Setting))
  | table entries => some entries
  | list items => some (keys.zip items)
  | _ => none

end Setting

end Storefront
