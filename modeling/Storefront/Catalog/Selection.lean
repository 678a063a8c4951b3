import Storefront.Catalog.Basic
import Storefront.Catalog.NameSet
/-!
# Catalog — selections

A selection says which class names the call-site documents act on. It
remembers how many entitlements, offers and bundles the catalog held
when it was last reset; `sync` resets it to everything as soon as one of
these counts differs. Editing the names never touches what is remembered.
-/

namespace Storefront

/-- The counts that a selection keeps an eye on. -/
structure ShapeCounts where
  entitlements : Nat := 0
  offers : Nat := 0
  bundles : Nat := 0
  deriving DecidableEq, Repr

/-- The counts of a catalog. -/
def Catalog.shape (c : Catalog) : ShapeCounts :=
  ⟨c.count .entitlement, c.count .offer, c.count .bundle⟩

/-- Selected names, and the counts seen at the last reset. -/
structure Selection where
  names : NameSet := {}
  seen : ShapeCounts := {}
  deriving DecidableEq, Repr

namespace Selection

/-- Every class name of a catalog. -/
def all (c : Catalog) : Selection :=
  ⟨NameSet.ofList c.classNames, c.shape⟩

/-- Just these names, with nothing remembered. -/
def ofList (names : List String) : Selection :=
  ⟨NameSet.ofList names, {}⟩

/-- Whether a name is selected. -/
def contains (s : Selection) (name : String) : Bool := s.names.contains name

/-- Whether the catalog's counts differ from the remembered ones. -/
def isStale (s : Selection) (c : Catalog) : Bool := c.shape != s.seen

/-- Reset to everything if a count changed. -/
def sync (s : Selection) (c : Catalog) : Selection :=
  if s.isStale c then all c else s

/-- Select a name. -/
def insert (s : Selection) (name : String) : Selection :=
  { s with names := s.names.insert name }

/-- Deselect a name. -/
def erase (s : Selection) (name : String) : Selection :=
  { s with names := s.names.erase name }

/-- Select a name that is not selected, and deselect one that is. -/
def toggle (s : Selection) (name : String) : Selection :=
  if s.contains name then s.erase name else s.insert name

/-- Select a name, and say whether it is new. -/
def insertNew (s : Selection) (name : String) : Bool × Selection :=
  (!s.contains name, s.insert name)

/-- Deselect a name, and say whether it was found. -/
def eraseFound (s : Selection) (name : String) : Bool × Selection :=
  (s.contains name, s.erase name)

/-- Toggle a name, and say whether it is selected now: a name that is
found to deselect is not, and any other is. -/
def flip (s : Selection) (name : String) : Bool × Selection :=
  match s.eraseFound name with
  | (true, rest) => (false, rest)
  | (false, _) => (true, (s.insertNew name).2)

/-- Keep only the names of a list. -/
def restrictTo (s : Selection) (keep : List String) : Selection :=
  { s with names := s.names.filter fun n => keep.contains n }

/-- Drop the names of a list. -/
def exclude (s : Selection) (drop : List String) : Selection :=
  { s with names := s.names.filter fun n => !drop.contains n }

/-- Drop every name. -/
def clear (s : Selection) : Selection :=
  { s with names := .empty }

/-- The selected names, in increasing order. -/
def toList (s : Selection) : List String := s.names.names

/-- The number of selected names. -/
def size (s : Selection) : Nat := s.names.size

end Selection

end Storefront
