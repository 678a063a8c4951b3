import Storefront.Catalog.Basic
/-!
# Sessions — where a catalog comes from

A catalog comes from a manifest file, from a manifest text with a label,
or is held in memory under a label. A source describes itself by its
path or label, which messages and logs repeat.
-/

namespace Storefront

/-- Where a catalog comes from. -/
inductive Source where
  | file (path : String)
  | inline (label text : String)
  | held (label : String) (catalog : Catalog)
  deriving DecidableEq, Repr

namespace Source

/-- The label of a source in memory that was given none. -/
def memoryLabel : String := "memory"

/-- A source in memory without entries. -/
def memory : Source := held memoryLabel .empty

/-- The path or label of a source. -/
def describe : Source → String
  | file path => path
  | inline label _ => label
  | held label _ => label

/-- The path of a source that is a file. -/
def path? : Source → Option String
  | file path => some path
  | _ => none

/-- Append an entry to a catalog held in memory; other sources stay as
they are. -/
def commit (s : Source) (e : Entry) : Except CatalogError (Nat × Source) :=
  match s with
  | held label c => (c.put none e).map fun r => (r.1, held label r.2)
  | s => .ok (0, s)

end Source

end Storefront
