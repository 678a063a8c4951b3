import Storefront.Catalog.Rule
/-!
# Catalog — the four sequences

A catalog is four ordered sequences, one for each kind of entry. Nothing
sorts them: their order is the order of every generated document. `put`
appends an entry or replaces one in place, `remove` takes one out by its
position, and both leave the catalog as it was when they refuse.
Several entries may share a name; a look-up finds the first.
-/

namespace Storefront

/-- A shop's entries, in order. -/
structure Catalog where
  infos : List InfoModule := []
  entitlements : List Entitlement := []
  offers : List Offer := []
  bundles : List Bundle := []
  deriving DecidableEq, Repr, Inhabited

namespace Catalog

/-- The catalog without entries. -/
def empty : Catalog := {}

/-- The number of entries of a kind. -/
def count (c : Catalog) : Kind → Nat
  | .info => c.infos.length
  | .entitlement => c.entitlements.length
  | .offer => c.offers.length
  | .bundle => c.bundles.length

/-- The entries of a kind, in order. -/
def entries (c : Catalog) : Kind → List Entry
  | .info => c.infos.map .info
  | .entitlement => c.entitlements.map .entitlement
  | .offer => c.offers.map .offer
  | .bundle => c.bundles.map .bundle

/-- The names of the entries of a kind, in order. -/
def keys (c : Catalog) (k : Kind) : List String :=
  (c.entries k).map Entry.key

/-- Every entry: info modules, entitlements, offers, then bundles. -/
def allEntries (c : Catalog) : List Entry :=
  Kind.all.flatMap c.entries

/-- Whether a catalog has no entry at all. -/
def isEmpty (c : Catalog) : Bool :=
  Kind.all.all fun k => c.count k == 0

/-- The names that can be selected: those of entitlements, offers and
bundles. -/
def classNames (c : Catalog) : List String :=
  c.entitlements.map (·.className) ++ c.offers.map (·.className) ++
    c.bundles.map (·.className)

/-- The first info module of this name. -/
def findInfo? (c : Catalog) (name : String) : Option InfoModule :=
  c.infos.find? fun m => m.moduleName == name

/-- The first entitlement of this name. -/
def findEntitlement? (c : Catalog) (name : String) : Option Entitlement :=
  c.entitlements.find? fun e => e.className == name

/-- The first offer of this name. -/
def findOffer? (c : Catalog) (name : String) : Option Offer :=
  c.offers.find? fun o => o.className == name

/-- The first bundle of this name. -/
def findBundle? (c : Catalog) (name : String) : Option Bundle :=
  c.bundles.find? fun b => b.className == name

/-- The first entry of this kind and name. -/
def find? (c : Catalog) (k : Kind) (name : String) : Option Entry :=
  (c.entries k).find? fun e => e.key == name

/-- A sequence with a value at an index, or at its end. -/
def place (index : Option Nat) (x : α) (xs : List α) : List α :=
  match index with
  | some i => xs.set i x
  | none => xs ++ [x]

/-- The catalog with an entry placed in the sequence of its kind. -/
def store (c : Catalog) (index : Option Nat) : Entry → Catalog
  | .info m => { c with infos := place index m c.infos }
  | .entitlement e => { c with entitlements := place index e c.entitlements }
  | .offer o => { c with offers := place index o c.offers }
  | .bundle b => { c with bundles := place index b c.bundles }

/-- Append an entry, or replace the one at an index. The answer is the
index where the entry now stands and the new catalog. A broken rule is
reported before a bad index. -/
def put (c : Catalog) (index : Option Nat) (e : Entry) :
    Except CatalogError (Nat × Catalog) :=
  match e.check with
  | .error reason => .error reason
  | .ok () =>
    let len := c.count e.kind
    match index with
    | none => .ok (len, c.store none e)
    | some i =>
      if i < len then .ok (i, c.store (some i) e)
      else .error (.indexOutOfRange e.kind i len)

/-- Append an entry. -/
def append (c : Catalog) (e : Entry) : Except CatalogError Catalog :=
  (c.put none e).map (·.2)

/-- The catalog without the entry at an index of a kind. -/
def erase (c : Catalog) (k : Kind) (i : Nat) : Catalog :=
  match k with
  | .info => { c with infos := c.infos.eraseIdx i }
  | .entitlement => { c with entitlements := c.entitlements.eraseIdx i }
  | .offer => { c with offers := c.offers.eraseIdx i }
  | .bundle => { c with bundles := c.bundles.eraseIdx i }

/-- Take the entry at an index out of the sequence of a kind. References
to it stay as they are. -/
def remove (c : Catalog) (k : Kind) (i : Nat) : Except CatalogError (Entry × Catalog) :=
  match (c.entries k)[i]? with
  | some e => .ok (e, c.erase k i)
  | none => .error (.indexOutOfRange k i (c.count k))

end Catalog

end Storefront
