import Storefront.Catalog.Basic
/-!
# Catalog — integrity

A catalog may refer to entries it does not hold, use a name twice, or
sell an empty bundle; code is generated from it all the same. `issues`
lists these flaws: first the references without a target, then the names
that occur more than once, then the bundles without items, each in
catalog order.
-/

namespace Storefront

/-- The places in which an entry refers to another. -/
inductive RefField where
  | infoModule
  | entitlementType
  | offers
  deriving DecidableEq, Repr

/-- The word for such a place. -/
def RefField.name : RefField → String
  | infoModule => "info_module"
  | entitlementType => "entitlement_type"
  | offers => "offers"

/-- One reference from an entry to another. -/
structure Reference where
  kind : Kind
  owner : String
  field : RefField
  target : String
  expected : Kind
  deriving DecidableEq, Repr

/-- A flaw of a catalog. -/
inductive Issue where
  /-- No entry of the expected kind has the target's name. -/
  | dangling (reference : Reference)
  /-- Several entries of a kind share a name. -/
  | duplicate (kind : Kind) (key : String) (occurrences : Nat)
  /-- A bundle holds no items. -/
  | emptyBundle (className : String)
  deriving DecidableEq, Repr

/-- The sentence that reports a flaw. -/
def Issue.message : Issue → String
  | dangling r =>
    s!"{r.kind.name} '{r.owner}' references missing {r.expected.name} " ++
      s!"'{r.target}' ({r.field.name})"
  | duplicate kind key occurrences =>
    s!"{kind.name} key '{key}' appears {occurrences} times"
  | emptyBundle className =>
    s!"bundle '{className}' is priced but includes no offers"

/-- The reference of an entitlement. -/
def Entitlement.references (e : Entitlement) : List Reference :=
  [⟨.entitlement, e.className, .infoModule, e.infoModule, .info⟩]

/-- The references of an offer. -/
def Offer.references (o : Offer) : List Reference :=
  [⟨.offer, o.className, .infoModule, o.infoModule, .info⟩,
    ⟨.offer, o.className, .entitlementType, o.entitlementType, .entitlement⟩]

/-- The references of a bundle, one for each item. -/
def Bundle.references (b : Bundle) : List Reference :=
  b.items.map fun i => ⟨.bundle, b.className, .offers, i.offer, .offer⟩

/-- The references that an entry holds. -/
def Entry.references : Entry → List Reference
  | info _ => []
  | entitlement e => e.references
  | offer o => o.references
  | bundle b => b.references

namespace Catalog

/-- Every reference of a catalog, in order. -/
def references (c : Catalog) : List Reference :=
  c.allEntries.flatMap Entry.references

/-- Whether the target of a reference is there. -/
def resolves (c : Catalog) (r : Reference) : Bool :=
  (c.keys r.expected).contains r.target

/-- The names of a list that occur more than once, each at its first
place and with its number of occurrences. -/
def repeated (names : List String) : List (String × Nat) :=
  (names.eraseDups.map fun n => (n, names.count n)).filter fun r => 1 < r.2

/-- The references without a target. -/
def danglingIssues (c : Catalog) : List Issue :=
  (c.references.filter fun r => !c.resolves r).map .dangling

/-- The names that occur more than once within a kind. -/
def duplicateIssues (c : Catalog) : List Issue :=
  Kind.all.flatMap fun k => (repeated (c.keys k)).map fun r => .duplicate k r.1 r.2

/-- The bundles without items. -/
def emptyBundleIssues (c : Catalog) : List Issue :=
  (c.bundles.filter fun b => b.items.isEmpty).map fun b => .emptyBundle b.className

/-- Every flaw of a catalog, in report order. -/
def issues (c : Catalog) : List Issue :=
  c.danglingIssues ++ c.duplicateIssues ++ c.emptyBundleIssues

end Catalog

end Storefront
