/-!
# Catalog — kinds of entry

A catalog holds four kinds of entry. Reports, listings and errors name
a kind by one lower-case word.
-/

namespace Storefront

/-- The four kinds of entry, in the order in which a catalog lists them. -/
inductive Kind where
  | info
  | entitlement
  | offer
  | bundle
  deriving DecidableEq, Repr

namespace Kind

/-- Every kind, in catalog order. -/
def all : List Kind := [info, entitlement, offer, bundle]

/-- The word for a kind. -/
def name : Kind → String
  | info => "info"
  | entitlement => "entitlement"
  | offer => "offer"
  | bundle => "bundle"

/-- The kind a word stands for. -/
def ofName? (s : String) : Option Kind :=
  all.find? fun k => k.name == s

/-- A kind is read back from its word. -/
@[simp] theorem ofName?_name (k : Kind) : ofName? k.name = some k := by
  cases k <;> rfl

end Kind

end Storefront
