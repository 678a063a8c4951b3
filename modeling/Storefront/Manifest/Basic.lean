import Storefront.Catalog.Basic
import Storefront.Catalog.Parent
/-!
# Manifest — what a manifest says

A manifest is a catalog as a shop keeper writes it: four lists of
records, in which display texts may be plain or carry a localization key
and parents are named by a word. `toCatalog` admits the records one by
one, info modules first, then entitlements, offers and bundles; the
first one that is refused fails the whole manifest.
-/

namespace Storefront.Manifest

/-- A display text as written: plain, or with a key. -/
inductive Wording where
  | plain (text : String)
  | keyed (key text : String)
  deriving DecidableEq, Repr

/-- The message that a wording stands for. -/
def Wording.message : Wording → Message
  | plain text => .plain text
  | keyed key text => ⟨key, text⟩

/-- An info module as written. -/
structure InfoRecord where
  moduleName : String
  name : Wording
  description : Wording := .plain ""
  shortDescription : Wording := .plain ""
  deriving DecidableEq, Repr

/-- An entitlement as written. -/
structure EntitlementRecord where
  className : String
  infoModule : String
  parentClass : String := "island_entitlement"
  customParent : Option String := none
  icon : String := ""
  consequential : Bool := false
  maxCount : Int64 := 1
  consumable : Bool := false
  paidRandomItem : Bool := false
  paidArea : Bool := false
  deriving DecidableEq, Repr

/-- An offer as written. -/
structure OfferRecord where
  className : String
  infoModule : String
  entitlementType : String
  icon : String := ""
  price : Int64
  deriving DecidableEq, Repr

/-- A bundle item as written. -/
structure ItemRecord where
  offer : String
  quantity : UInt32 := 1
  deriving DecidableEq, Repr

/-- A bundle as written. -/
structure BundleRecord where
  className : String
  name : Wording
  description : Wording := .plain ""
  shortDescription : Wording := .plain ""
  icon : String := ""
  price : Int64
  items : List ItemRecord := []
  deriving DecidableEq, Repr

/-- The info module of a record. -/
def InfoRecord.value (r : InfoRecord) : InfoModule :=
  { moduleName := r.moduleName
    name := r.name.message
    description := r.description.message
    shortDescription := r.shortDescription.message }

/-- The entitlement of a record, if its parent can be told. -/
def EntitlementRecord.value (r : EntitlementRecord) : Except CatalogError Entitlement :=
  (Parent.ofParts r.className r.parentClass r.customParent).map fun parent =>
    { className := r.className
      parent := parent
      infoModule := r.infoModule
      icon := r.icon
      consequential := r.consequential
      maxCount := r.maxCount
      consumable := r.consumable
      paidRandomItem := r.paidRandomItem
      paidArea := r.paidArea }

/-- The offer of a record. -/
def OfferRecord.value (r : OfferRecord) : Offer :=
  { className := r.className
    infoModule := r.infoModule
    icon := r.icon
    entitlementType := r.entitlementType
    price := .vbucks r.price }

/-- The bundle of a record. -/
def BundleRecord.value (r : BundleRecord) : Bundle :=
  { className := r.className
    name := r.name.message
    description := r.description.message
    shortDescription := r.shortDescription.message
    icon := r.icon
    items := r.items.map fun i => ⟨i.offer, i.quantity⟩
    price := .vbucks r.price }

end Storefront.Manifest

namespace Storefront

/-- A catalog as it is written. -/
structure Manifest where
  infos : List Manifest.InfoRecord := []
  entitlements : List Manifest.EntitlementRecord := []
  offers : List Manifest.OfferRecord := []
  bundles : List Manifest.BundleRecord := []
  deriving DecidableEq, Repr

namespace Manifest

/-- The entries that a manifest asks for, in the order in which they are
admitted. -/
def candidates (m : Manifest) : List (Except CatalogError Entry) :=
  m.infos.map (fun r => .ok (.info r.value)) ++
    m.entitlements.map (fun r => r.value.map .entitlement) ++
    m.offers.map (fun r => .ok (.offer r.value)) ++
    m.bundles.map (fun r => .ok (.bundle r.value))

/-- Admit one more candidate to a catalog. -/
def accept (c : Catalog) (candidate : Except CatalogError Entry) :
    Except CatalogError Catalog :=
  candidate.bind c.append

/-- The catalog of a manifest. -/
def toCatalog (m : Manifest) : Except CatalogError Catalog :=
  m.candidates.foldlM accept .empty

end Manifest

end Storefront
