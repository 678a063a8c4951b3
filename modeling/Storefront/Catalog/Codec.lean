import Storefront.Catalog.Integrity
import Storefront.Json.Decode
import Storefront.Verse.Mode
/-!
# Catalog — stored form

How catalogs, entries and their parts are written as JSON values and
read back. Reading runs no rules: a stored catalog may hold entries that
would be refused today. Fields may come in any order and unknown fields
are ignored; a message's key and a price's currency may be missing.
-/

namespace Storefront

open Json (required optional)

/-- A message as JSON. -/
def Message.toJson (m : Message) : Json :=
  .record [("key", .text m.key), ("text", .text m.text)]

/-- A message from JSON. -/
def Message.ofJson? (j : Json) : Option Message := do
  let layout := ["key", "text"]
  let key ← optional layout j "key" Json.text? ""
  let text ← required layout j "text" Json.text?
  return ⟨key, text⟩

/-- A kind from JSON. -/
def Kind.ofJson? (j : Json) : Option Kind := j.word?.bind ofName?

/-- A mode from JSON. -/
def Mode.ofJson? (j : Json) : Option Mode := j.word?.bind ofName?

/-- A currency from JSON. -/
def Currency.ofJson? (j : Json) : Option Currency := j.word?.bind ofName?

/-- A parent as JSON: a word, or a record that names the class. -/
def Parent.toJson : Parent → Json
  | custom name => .record [("custom", .text name)]
  | p => .text p.kindName

/-- A parent from JSON. -/
def Parent.ofJson? : Json → Option Parent
  | .record [("custom", .text name)] => some (custom name)
  | j => j.word?.bind fun w =>
    if w == island.kindName then some island
    else if w == cosmetic.kindName then some cosmetic
    else none

/-- A price as JSON. -/
def Price.toJson (p : Price) : Json :=
  .record [("type", .text p.currency.name), ("amount", .int p.amount.toInt)]

/-- A price from JSON. -/
def Price.ofJson? (j : Json) : Option Price := do
  let layout := ["type", "amount"]
  let currency ← optional layout j "type" Currency.ofJson? .vbucks
  let amount ← required layout j "amount" Json.int64?
  return ⟨currency, amount⟩

/-- The fields of an info module. -/
def InfoModule.fields (m : InfoModule) : List (String × Json) :=
  [("module_name", .text m.moduleName),
    ("name", m.name.toJson),
    ("description", m.description.toJson),
    ("short_description", m.shortDescription.toJson)]

/-- An info module from JSON. -/
def InfoModule.ofJson? (j : Json) : Option InfoModule := do
  let layout := ["module_name", "name", "description", "short_description"]
  let moduleName ← required layout j "module_name" Json.text?
  let name ← required layout j "name" Message.ofJson?
  let description ← required layout j "description" Message.ofJson?
  let shortDescription ← required layout j "short_description" Message.ofJson?
  return { moduleName, name, description, shortDescription }

/-- The fields of an entitlement. -/
def Entitlement.fields (e : Entitlement) : List (String × Json) :=
  [("class_name", .text e.className),
    ("parent", e.parent.toJson),
    ("info_module", .text e.infoModule),
    ("icon", .text e.icon),
    ("consequential_to_gameplay", .bool e.consequential),
    ("max_count", .int e.maxCount.toInt),
    ("consumable", .bool e.consumable),
    ("paid_random_item", .bool e.paidRandomItem),
    ("paid_area", .bool e.paidArea)]

/-- An entitlement from JSON. -/
def Entitlement.ofJson? (j : Json) : Option Entitlement := do
  let layout := ["class_name", "parent", "info_module", "icon",
    "consequential_to_gameplay", "max_count", "consumable", "paid_random_item", "paid_area"]
  let className ← required layout j "class_name" Json.text?
  let parent ← required layout j "parent" Parent.ofJson?
  let infoModule ← required layout j "info_module" Json.text?
  let icon ← required layout j "icon" Json.text?
  let consequential ← required layout j "consequential_to_gameplay" Json.bool?
  let maxCount ← required layout j "max_count" Json.int64?
  let consumable ← required layout j "consumable" Json.bool?
  let paidRandomItem ← required layout j "paid_random_item" Json.bool?
  let paidArea ← required layout j "paid_area" Json.bool?
  return { className, parent, infoModule, icon, consequential, maxCount, consumable,
           paidRandomItem, paidArea }

/-- The fields of an offer. -/
def Offer.fields (o : Offer) : List (String × Json) :=
  [("class_name", .text o.className),
    ("info_module", .text o.infoModule),
    ("icon", .text o.icon),
    ("entitlement_type", .text o.entitlementType),
    ("price", o.price.toJson)]

/-- An offer from JSON. -/
def Offer.ofJson? (j : Json) : Option Offer := do
  let layout := ["class_name", "info_module", "icon", "entitlement_type", "price"]
  let className ← required layout j "class_name" Json.text?
  let infoModule ← required layout j "info_module" Json.text?
  let icon ← required layout j "icon" Json.text?
  let entitlementType ← required layout j "entitlement_type" Json.text?
  let price ← required layout j "price" Price.ofJson?
  return { className, infoModule, icon, entitlementType, price }

/-- A bundle item as JSON. -/
def BundleItem.toJson (i : BundleItem) : Json :=
  .record [("offer_ref", .text i.offer), ("quantity", .ofNat i.quantity.toNat)]

/-- A bundle item from JSON. -/
def BundleItem.ofJson? (j : Json) : Option BundleItem := do
  let layout := ["offer_ref", "quantity"]
  let offer ← required layout j "offer_ref" Json.text?
  let quantity ← required layout j "quantity" Json.uint32?
  return ⟨offer, quantity⟩

/-- The fields of a bundle. -/
def Bundle.fields (b : Bundle) : List (String × Json) :=
  [("class_name", .text b.className),
    ("name", b.name.toJson),
    ("description", b.description.toJson),
    ("short_description", b.shortDescription.toJson),
    ("icon", .text b.icon),
    ("offers", .list (b.items.map BundleItem.toJson)),
    ("price", b.price.toJson)]

/-- A bundle from JSON. -/
def Bundle.ofJson? (j : Json) : Option Bundle := do
  let layout := ["class_name", "name", "description", "short_description", "icon", "offers",
    "price"]
  let className ← required layout j "class_name" Json.text?
  let name ← required layout j "name" Message.ofJson?
  let description ← required layout j "description" Message.ofJson?
  let shortDescription ← required layout j "short_description" Message.ofJson?
  let icon ← required layout j "icon" Json.text?
  let items ← required layout j "offers" (Json.list? BundleItem.ofJson?)
  let price ← required layout j "price" Price.ofJson?
  return { className, name, description, shortDescription, icon, items, price }

namespace Entry

/-- The fields of an entry's value. -/
def fields : Entry → List (String × Json)
  | info m => m.fields
  | entitlement e => e.fields
  | offer o => o.fields
  | bundle b => b.fields

/-- The value of an entry as JSON, without its kind. -/
def valueJson (e : Entry) : Json := .record e.fields

/-- An entry as JSON: its value with its kind in front. -/
def toJson (e : Entry) : Json :=
  .record (("kind", .text e.kind.name) :: e.fields)

/-- An entry from JSON. The kind may stand anywhere in the record. -/
def ofJson? : Json → Option Entry
  | .record fs => do
    let kind ← (Json.lookup "kind" fs).bind Json.text?
    match ← Kind.ofName? kind with
    | .info => (InfoModule.ofJson? (.record fs)).map info
    | .entitlement => (Entitlement.ofJson? (.record fs)).map entitlement
    | .offer => (Offer.ofJson? (.record fs)).map offer
    | .bundle => (Bundle.ofJson? (.record fs)).map bundle
  | _ => none

end Entry

namespace Catalog

/-- A catalog as JSON. -/
def toJson (c : Catalog) : Json :=
  .record
    [("entitlement_infos", .list (c.infos.map fun m => .record m.fields)),
      ("entitlements", .list (c.entitlements.map fun e => .record e.fields)),
      ("offers", .list (c.offers.map fun o => .record o.fields)),
      ("bundles", .list (c.bundles.map fun b => .record b.fields))]

/-- A catalog from JSON. -/
def ofJson? (j : Json) : Option Catalog := do
  let layout := ["entitlement_infos", "entitlements", "offers", "bundles"]
  let infos ← required layout j "entitlement_infos" (Json.list? InfoModule.ofJson?)
  let entitlements ← required layout j "entitlements" (Json.list? Entitlement.ofJson?)
  let offers ← required layout j "offers" (Json.list? Offer.ofJson?)
  let bundles ← required layout j "bundles" (Json.list? Bundle.ofJson?)
  return { infos, entitlements, offers, bundles }

end Catalog

/-- A flaw as JSON, its fields in alphabetical order. -/
def Issue.toJson : Issue → Json
  | dangling r =>
    .record
      [("expected", .text r.expected.name),
        ("field", .text r.field.name),
        ("issue", .text "dangling_reference"),
        ("kind", .text r.kind.name),
        ("owner", .text r.owner),
        ("target", .text r.target)]
  | duplicate kind key occurrences =>
    .record
      [("issue", .text "duplicate_key"),
        ("key", .text key),
        ("kind", .text kind.name),
        ("occurrences", .ofNat occurrences)]
  | emptyBundle className =>
    .record [("class_name", .text className), ("issue", .text "empty_bundle")]

end Storefront
