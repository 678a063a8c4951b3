import Storefront.Manifest.Basic
import Storefront.Number.Shortest
import Storefront.Text.Quoted
import Storefront.Toml.Value
/-!
# Manifest — the shape of a manifest

A manifest is read from a TOML table of a fixed shape. Unknown keys are
refused, except beside a message's key and text. The entries of a table
are looked at in the order of their keys, so the first bad one in that
order is reported; a missing field is reported only if all entries are
fine. A record may also be written as the list of its fields in
declaration order.
-/

namespace Storefront.Manifest

/-- Why a value does not have the shape of a manifest. -/
inductive ShapeError where
  /-- A key that the record does not have. -/
  | unknownField (name : String) (known : List String)
  /-- A field that has to be there. -/
  | missingField (name : String)
  /-- A value of another type. -/
  | wrongType (found expected : String)
  /-- An integer that its field cannot hold. -/
  | outOfRange (value : Int64) (expected : String)
  /-- A list too short for the fields of its record. -/
  | tooShort (length : Nat) (title : String) (size : Nat)
  /-- A display text that is neither plain nor keyed. -/
  | noWording
  deriving DecidableEq, Repr

/-- A name between backticks. -/
def ticked (name : String) : String := "`" ++ name ++ "`"

/-- The names that would have been right. -/
def oneOf : List String → String
  | [] => "there are no fields"
  | [a] => "expected " ++ ticked a
  | [a, b] => "expected " ++ ticked a ++ " or " ++ ticked b
  | names => "expected one of " ++ ", ".intercalate (names.map ticked)

/-- The sentence that reports a wrong shape. -/
def ShapeError.message : ShapeError → String
  | unknownField name known => "unknown field " ++ ticked name ++ ", " ++ oneOf known
  | missingField name => "missing field " ++ ticked name
  | wrongType found expected => "invalid type: " ++ found ++ ", expected " ++ expected
  | outOfRange value expected =>
    "invalid value: integer " ++ ticked (toString value) ++ ", expected " ++ expected
  | tooShort length title size =>
    s!"invalid length {length}, expected struct {title} with {size} " ++
      (if size == 1 then "element" else "elements")
  | noWording => "data did not match any variant of untagged enum MessageEntry"

/-- A value as the report of a wrong type shows it. -/
def found : Toml → String
  | .text s => "string " ++ Text.quoted s
  | .int n => "integer " ++ ticked (toString n)
  | .float x => "floating point " ++ ticked x.pointedText
  | .bool b => "boolean " ++ ticked (if b then "true" else "false")
  | .datetime _ => "map"
  | .list _ => "sequence"
  | .table _ => "map"

/-- A reader of values of one shape. -/
abbrev Shape (α : Type) := Toml → Except ShapeError α

/-- A text. -/
def asText : Shape String
  | .text s => .ok s
  | v => .error (.wrongType (found v) "a string")

/-- A flag. -/
def asBool : Shape Bool
  | .bool b => .ok b
  | v => .error (.wrongType (found v) "a boolean")

/-- A signed integer. -/
def asInt64 : Shape Int64
  | .int n => .ok n
  | v => .error (.wrongType (found v) "i64")

/-- A count of at most 32 bits. -/
def asUInt32 : Shape UInt32
  | .int n =>
    if 0 ≤ n.toInt && n.toInt < 4294967296 then .ok (UInt32.ofNat n.toInt.toNat)
    else .error (.outOfRange n "u32")
  | v => .error (.wrongType (found v) "u32")

/-- A list whose items all have one shape. -/
def asList (item : Shape α) : Shape (List α)
  | .list items => items.mapM item
  | v => .error (.wrongType (found v) "a sequence")

/-- A display text: a plain text, or a table with a text and perhaps a
key. -/
def asWording : Shape Wording
  | .text s => .ok (.plain s)
  | .table entries =>
    match entries.lookup "text", entries.lookup "key" with
    | some (.text text), some (.text key) => .ok (.keyed key text)
    | some (.text text), none => .ok (.keyed "" text)
    | _, _ => .error .noWording
  | _ => .error .noWording

/-- A shape whose value does not matter. -/
def holds (shape : Shape α) : Shape Unit := fun v => (shape v).map fun _ => ()

/-- The name of a record and its fields in declaration order. -/
structure Layout where
  title : String
  fields : List (String × Shape Unit)

namespace Layout

/-- The names of the fields. -/
def names (l : Layout) : List String := l.fields.map (·.1)

/-- Look at one entry of a table. -/
def visit (l : Layout) (entry : String × Toml) : Except ShapeError Unit :=
  match l.fields.lookup entry.1 with
  | some shape => shape entry.2
  | none => .error (.unknownField entry.1 l.names)

/-- The key under which a date is stored where a table is expected. -/
def datetimeKey : String := "$__toml_private_datetime"

/-- Look at all entries of a table in order. -/
def check (l : Layout) : Shape Unit
  | .table entries => entries.forM l.visit
  | .list _ => .ok ()
  | .datetime _ => .error (.unknownField datetimeKey l.names)
  | v => .error (.wrongType (found v) ("struct " ++ l.title))

/-- The value of a field, by its key or by its place. -/
def get? (l : Layout) (v : Toml) (name : String) : Option Toml :=
  match v with
  | .table entries => entries.lookup name
  | .list items => (l.names.zip items).lookup name
  | _ => none

/-- The report of a field that is not there. -/
def missing (l : Layout) (v : Toml) (name : String) : ShapeError :=
  match v with
  | .list _ => .tooShort (l.names.idxOf name) l.title l.names.length
  | _ => .missingField name

/-- A field that has to be there. -/
def required (l : Layout) (v : Toml) (name : String) (shape : Shape α) :
    Except ShapeError α :=
  match l.get? v name with
  | some x => shape x
  | none => .error (l.missing v name)

/-- A field with a default. -/
def optional (l : Layout) (v : Toml) (name : String) (shape : Shape α) (default : α) :
    Except ShapeError α :=
  match l.get? v name with
  | some x => shape x
  | none => .ok default

/-- A field that a table may leave out and a list may not. -/
def maybe (l : Layout) (v : Toml) (name : String) (shape : Shape α) :
    Except ShapeError (Option α) :=
  match v, l.get? v name with
  | _, some x => (shape x).map some
  | .list _, none => .error (l.missing v name)
  | _, none => .ok none

end Layout

/-- The fields of an info module. -/
def infoLayout : Layout :=
  ⟨"InfoEntry",
    [("module_name", holds asText),
      ("name", holds asWording),
      ("description", holds asWording),
      ("short_description", holds asWording)]⟩

/-- An info module. -/
def asInfo : Shape InfoRecord := fun v => do
  let l := infoLayout
  l.check v
  let moduleName ← l.required v "module_name" asText
  let name ← l.required v "name" asWording
  let description ← l.optional v "description" asWording (.plain "")
  let shortDescription ← l.optional v "short_description" asWording (.plain "")
  return { moduleName, name, description, shortDescription }

/-- The fields of an entitlement. -/
def entitlementLayout : Layout :=
  ⟨"EntitlementEntry",
    [("class_name", holds asText),
      ("info_module", holds asText),
      ("parent_class", holds asText),
      ("custom_parent", holds asText),
      ("icon", holds asText),
      ("consequential_to_gameplay", holds asBool),
      ("max_count", holds asInt64),
      ("consumable", holds asBool),
      ("paid_random_item", holds asBool),
      ("paid_area", holds asBool)]⟩

/-- An entitlement. -/
def asEntitlement : Shape EntitlementRecord := fun v => do
  let l := entitlementLayout
  l.check v
  let className ← l.required v "class_name" asText
  let infoModule ← l.required v "info_module" asText
  let parentClass ← l.optional v "parent_class" asText "island_entitlement"
  let customParent ← l.maybe v "custom_parent" asText
  let icon ← l.optional v "icon" asText ""
  let consequential ← l.optional v "consequential_to_gameplay" asBool false
  let maxCount ← l.optional v "max_count" asInt64 1
  let consumable ← l.optional v "consumable" asBool false
  let paidRandomItem ← l.optional v "paid_random_item" asBool false
  let paidArea ← l.optional v "paid_area" asBool false
  return { className, infoModule, parentClass, customParent, icon, consequential, maxCount,
           consumable, paidRandomItem, paidArea }

/-- The fields of an offer. -/
def offerLayout : Layout :=
  ⟨"OfferEntry",
    [("class_name", holds asText),
      ("info_module", holds asText),
      ("entitlement_type", holds asText),
      ("icon", holds asText),
      ("price", holds asInt64)]⟩

/-- An offer. -/
def asOffer : Shape OfferRecord := fun v => do
  let l := offerLayout
  l.check v
  let className ← l.required v "class_name" asText
  let infoModule ← l.required v "info_module" asText
  let entitlementType ← l.required v "entitlement_type" asText
  let icon ← l.optional v "icon" asText ""
  let price ← l.required v "price" asInt64
  return { className, infoModule, entitlementType, icon, price }

/-- The fields of a bundle item. -/
def itemLayout : Layout :=
  ⟨"BundleItemEntry", [("offer", holds asText), ("quantity", holds asUInt32)]⟩

/-- A bundle item. -/
def asItem : Shape ItemRecord := fun v => do
  let l := itemLayout
  l.check v
  let offer ← l.required v "offer" asText
  let quantity ← l.optional v "quantity" asUInt32 1
  return { offer, quantity }

/-- The fields of a bundle. -/
def bundleLayout : Layout :=
  ⟨"BundleEntry",
    [("class_name", holds asText),
      ("name", holds asWording),
      ("description", holds asWording),
      ("short_description", holds asWording),
      ("icon", holds asText),
      ("price", holds asInt64),
      ("items", holds (asList asItem))]⟩

/-- A bundle. -/
def asBundle : Shape BundleRecord := fun v => do
  let l := bundleLayout
  l.check v
  let className ← l.required v "class_name" asText
  let name ← l.required v "name" asWording
  let description ← l.optional v "description" asWording (.plain "")
  let shortDescription ← l.optional v "short_description" asWording (.plain "")
  let icon ← l.optional v "icon" asText ""
  let price ← l.required v "price" asInt64
  let items ← l.optional v "items" (asList asItem) []
  return { className, name, description, shortDescription, icon, price, items }

/-- The sections of a manifest. -/
def manifestLayout : Layout :=
  ⟨"CatalogManifest",
    [("info", holds (asList asInfo)),
      ("entitlements", holds (asList asEntitlement)),
      ("offers", holds (asList asOffer)),
      ("bundles", holds (asList asBundle))]⟩

/-- A whole manifest. -/
def asManifest : Shape Manifest := fun v => do
  let l := manifestLayout
  l.check v
  let infos ← l.optional v "info" (asList asInfo) []
  let entitlements ← l.optional v "entitlements" (asList asEntitlement) []
  let offers ← l.optional v "offers" (asList asOffer) []
  let bundles ← l.optional v "bundles" (asList asBundle) []
  return { infos, entitlements, offers, bundles }

end Storefront.Manifest
