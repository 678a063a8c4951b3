import Storefront.Catalog.Kind
import Storefront.Catalog.Price
/-!
# Catalog — entries

The four values that a catalog stores. Entries refer to each other by
name: an entitlement to the info module that describes it, an offer to
its info module and to the entitlement it grants, a bundle to offers.
Nothing is checked when a value is built; the rules stand apart.
-/

namespace Storefront

/-- A display text, with the key reserved for looking it up in a
localization table. Only the text reaches generated code. -/
structure Message where
  key : String := ""
  text : String := ""
  deriving DecidableEq, Repr

/-- A message without a key. -/
def Message.plain (text : String) : Message := ⟨"", text⟩

/-- The class that an entitlement extends: one of two built-in bases, or
a named class of the shop's own. -/
inductive Parent where
  | island
  | cosmetic
  | custom (name : String)
  deriving DecidableEq, Repr

namespace Parent

/-- The word for the kind of parent in stored catalogs. -/
def kindName : Parent → String
  | island => "island_entitlement"
  | cosmetic => "cosmetic_entitlement"
  | custom _ => "custom"

/-- The class name that generated code extends. -/
def identifier : Parent → String
  | island => "island_entitlement"
  | cosmetic => "cosmetic_entitlement"
  | custom name => name

/-- Whether the parent is a class of the shop's own. -/
def isCustom : Parent → Bool
  | custom _ => true
  | _ => false

/-- The parent as a reader sees it. -/
def text : Parent → String
  | custom name => "custom(" ++ name ++ ")"
  | p => p.kindName

end Parent

/-- A group of display texts that entitlements and offers refer to. -/
structure InfoModule where
  moduleName : String
  name : Message
  description : Message
  shortDescription : Message
  deriving DecidableEq, Repr

/-- Something a player can own. -/
structure Entitlement where
  className : String
  parent : Parent := .island
  infoModule : String
  icon : String := ""
  consequential : Bool := false
  maxCount : Int64 := 1
  consumable : Bool := false
  paidRandomItem : Bool := false
  paidArea : Bool := false
  deriving DecidableEq, Repr

/-- Something for sale that grants one entitlement. -/
structure Offer where
  className : String
  infoModule : String
  icon : String := ""
  entitlementType : String
  price : Price
  deriving DecidableEq, Repr

/-- Some copies of one offer inside a bundle. -/
structure BundleItem where
  offer : String
  quantity : UInt32
  deriving DecidableEq, Repr

/-- Several offers sold at one price, with display texts of its own. -/
structure Bundle where
  className : String
  name : Message
  description : Message := {}
  shortDescription : Message := {}
  icon : String := ""
  items : List BundleItem := []
  price : Price
  deriving DecidableEq, Repr

/-- A value of one of the four kinds. -/
inductive Entry where
  | info (value : InfoModule)
  | entitlement (value : Entitlement)
  | offer (value : Offer)
  | bundle (value : Bundle)
  deriving DecidableEq, Repr

namespace Entry

/-- The kind of an entry. -/
def kind : Entry → Kind
  | info _ => .info
  | entitlement _ => .entitlement
  | offer _ => .offer
  | bundle _ => .bundle

/-- The name by which other entries refer to this one. -/
def key : Entry → String
  | info m => m.moduleName
  | entitlement e => e.className
  | offer o => o.className
  | bundle b => b.className

end Entry

end Storefront
