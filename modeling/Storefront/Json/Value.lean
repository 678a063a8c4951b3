/-!
# JSON — values

A JSON value keeps its integers apart from its other numbers, because a
catalog's amounts are integers and `100.0` is none. The fields of a
record keep the order in which they were written, and where a name
occurs twice the last field counts.
-/

namespace Storefront

/-- A JSON value. A number with a fraction or an exponent keeps its
written form. -/
inductive Json where
  | null
  | bool (value : Bool)
  | int (value : Int)
  | real (written : String)
  | text (value : String)
  | list (items : List Json)
  | record (fields : List (String × Json))
  deriving Repr, Inhabited

namespace Json

/-- The last field of this name. -/
def lookup (name : String) (fields : List (String × Json)) : Option Json :=
  (fields.reverse.find? fun f => f.1 == name).map (·.2)

/-- The value under a name, if this is a record that has one. -/
def get? (name : String) : Json → Option Json
  | record fields => lookup name fields
  | _ => none

/-- A count as a JSON number. -/
def ofNat (n : Nat) : Json := int n

/-- A list of texts. -/
def texts (items : List String) : Json := list (items.map text)

/-- A value, or null for none. -/
def ofOption (toJson : α → Json) : Option α → Json
  | some x => toJson x
  | none => null

end Json

end Storefront
