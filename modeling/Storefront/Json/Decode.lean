import Storefront.Json.Value
/-!
# JSON — reading typed values

Readers for the parts of a stored value. They are strict: an integer is
no flag, a text is no integer, and an integer has to fit its word. A
structure may be written as a record, in which other fields are ignored,
or as the list of its fields in order.
-/

namespace Storefront.Json

/-- A text. -/
def text? : Json → Option String
  | text s => some s
  | _ => none

/-- A flag. -/
def bool? : Json → Option Bool
  | bool b => some b
  | _ => none

/-- An integer that fits a signed word of 64 bits. -/
def int64? : Json → Option Int64
  | int n =>
    if Int64.minValue.toInt ≤ n && n ≤ Int64.maxValue.toInt then some (Int64.ofInt n) else none
  | _ => none

/-- An integer that fits an unsigned word of 32 bits. -/
def uint32? : Json → Option UInt32
  | int n => if 0 ≤ n && n < 4294967296 then some (UInt32.ofNat n.toNat) else none
  | _ => none

/-- A list whose items are all read. -/
def list? (read : Json → Option α) : Json → Option (List α)
  | list items => items.mapM read
  | _ => none

/-- The value of one field of a structure. A record gives it by name, a
list of the right length by its place in the layout. -/
def member? (layout : List String) (j : Json) (name : String) : Option Json :=
  match j with
  | record fields => lookup name fields
  | list items =>
    if items.length == layout.length then (layout.zip items).lookup name else none
  | _ => none

/-- A field that has to be there. -/
def required (layout : List String) (j : Json) (name : String) (read : Json → Option α) :
    Option α :=
  (member? layout j name).bind read

/-- A field that may be missing, but has to be readable if it is there. -/
def optional (layout : List String) (j : Json) (name : String) (read : Json → Option α)
    (default : α) : Option α :=
  match member? layout j name with
  | some v => read v
  | none => some default

/-- A word that stands alone, or as the only field of a record that
holds nothing. -/
def word? : Json → Option String
  | text s => some s
  | record [(name, null)] => some name
  | _ => none

end Storefront.Json
