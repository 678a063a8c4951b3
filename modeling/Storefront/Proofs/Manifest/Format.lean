import Storefront.Manifest.Shape
/-!
# Manifest — the format and its shorthand

A manifest is a table with four sections, each a list of tables; the
bundles among them hold lists of items. `Part.columns` is that format with
the defaults it documents. Much of a manifest may be written in several
ways: `Step` writes one place of it another way, at any depth, and `Stray`
says that there is a key somewhere which the format does not declare.
-/

namespace Storefront.Manifest

/-- The entries of a table. -/
abbrev Table := List (String × Toml)

/-- **The parts of a manifest that are tables.** -/
inductive Part where
  | whole
  | entry (kind : Kind)
  | item

/-- **What a field of a part holds.** -/
inductive Column where
  | text
  | flag
  | integer
  | count
  /-- A display text. -/
  | message
  /-- The word for the parent of an entitlement. -/
  | parentWord
  /-- The name of a parent of the shop's own. -/
  | parentName
  /-- A list of tables. -/
  | rows (part : Part)

/-- **The fields of a part**, each with the value that stands for it where
it is missing. -/
def Part.columns : Part → List (String × Column × Option Toml)
  | whole =>
    [("info", .rows (.entry .info), some (.list [])),
      ("entitlements", .rows (.entry .entitlement), some (.list [])),
      ("offers", .rows (.entry .offer), some (.list [])),
      ("bundles", .rows (.entry .bundle), some (.list []))]
  | entry .info =>
    [("module_name", .text, none),
      ("name", .message, none),
      ("description", .message, some (.text "")),
      ("short_description", .message, some (.text ""))]
  | entry .entitlement =>
    [("class_name", .text, none),
      ("info_module", .text, none),
      ("parent_class", .parentWord, some (.text "island_entitlement")),
      ("custom_parent", .parentName, none),
      ("icon", .text, some (.text "")),
      ("consequential_to_gameplay", .flag, some (.bool false)),
      ("max_count", .integer, some (.int 1)),
      ("consumable", .flag, some (.bool false)),
      ("paid_random_item", .flag, some (.bool false)),
      ("paid_area", .flag, some (.bool false))]
  | entry .offer =>
    [("class_name", .text, none),
      ("info_module", .text, none),
      ("entitlement_type", .text, none),
      ("icon", .text, some (.text "")),
      ("price", .integer, none)]
  | entry .bundle =>
    [("class_name", .text, none),
      ("name", .message, none),
      ("description", .message, some (.text "")),
      ("short_description", .message, some (.text "")),
      ("icon", .text, some (.text "")),
      ("price", .integer, none),
      ("items", .rows .item, some (.list []))]
  | item =>
    [("offer", .text, none),
      ("quantity", .count, some (.int 1))]

/-! ## Ways to write a manifest -/

/-- **A value of a column, written another way.** -/
inductive Spelled : Column → Toml → Toml → Prop
  /-- A display text as a table with its text. -/
  | bare (t : String) : Spelled .message (.text t) (.table [("text", .text t)])
  /-- A display text as a table with an empty key and its text. -/
  | keyed (t : String) :
      Spelled .message (.text t) (.table [("key", .text ""), ("text", .text t)])
  /-- A display text that is a table has one more key, which it ignores. -/
  | ignored {front back : Table} {name : String} (v : Toml) : name ≠ "key" → name ≠ "text" →
      Spelled .message (.table (front ++ back)) (.table (front ++ (name, v) :: back))
  /-- The word for a parent in other letter cases. -/
  | letters {s t : String} : s.map Char.toLower = t.map Char.toLower →
      Spelled .parentWord (.text s) (.text t)
  /-- The name of a parent with blanks around it. -/
  | padded {front back : List Char} (s : String) : (∀ c ∈ front ++ back, Text.isBlank c) →
      Spelled .parentName (.text s) (.text (String.ofList (front ++ s.toList ++ back)))

/-- **An entitlement with a built-in parent**: by its word, in any letter
cases, or because there is none. -/
def BuiltIn (es : Table) : Prop :=
  ∀ v, es.lookup "parent_class" = some v →
    ∃ word, v = .text word ∧
      word.map Char.toLower ∈ ["island_entitlement", "cosmetic_entitlement"]

/-- **One place of a table, written another way.** -/
inductive Step : Part → Table → Table → Prop
  /-- The value that stands for a missing field is written out. -/
  | default {p : Part} {front back : Table} {name : String} {col : Column} {v : Toml} :
      p.columns.lookup name = some (col, some v) → name ∉ (front ++ back).map (·.1) →
      Step p (front ++ back) (front ++ (name, v) :: back)
  /-- A field is written another way. -/
  | respell {p : Part} {front back : Table} {name : String} {col : Column} {d : Option Toml}
      {v w : Toml} : p.columns.lookup name = some (col, d) → Spelled col v w →
      Step p (front ++ (name, v) :: back) (front ++ (name, w) :: back)
  /-- A table in a list is written another way. -/
  | row {p q : Part} {front back es fs : Table} {before after : List Toml} {name : String}
      {d : Option Toml} : p.columns.lookup name = some (.rows q, d) → Step q es fs →
      Step p (front ++ (name, .list (before ++ .table es :: after)) :: back)
        (front ++ (name, .list (before ++ .table fs :: after)) :: back)
  /-- A parent of the shop's own is named beside a built-in one. -/
  | name {front back : Table} (s : String) : BuiltIn (front ++ back) →
      "custom_parent" ∉ (front ++ back).map (·.1) →
      Step (.entry .entitlement) (front ++ back) (front ++ ("custom_parent", .text s) :: back)
  /-- The name of such a parent is another one. -/
  | rename {front back : Table} (s t : String) : BuiltIn (front ++ back) →
      Step (.entry .entitlement) (front ++ ("custom_parent", .text s) :: back)
        (front ++ ("custom_parent", .text t) :: back)

/-- **A part with a key that the format does not declare**: in the part
itself or in a table of one of its lists. -/
inductive Stray : Part → Table → Prop
  | key {p : Part} {es : Table} {name : String} {v : Toml} : (name, v) ∈ es →
      p.columns.lookup name = none → Stray p es
  | row {p q : Part} {es fs : Table} {items : List Toml} {name : String} {d : Option Toml} :
      (name, .list items) ∈ es → p.columns.lookup name = some (.rows q, d) →
      .table fs ∈ items → Stray q fs → Stray p es

/-! ## What is read from a part -/

namespace Part

/-- What a part is read as. -/
def Record : Part → Type
  | whole => Manifest
  | entry .info => InfoRecord
  | entry .entitlement => EntitlementRecord
  | entry .offer => OfferRecord
  | entry .bundle => BundleRecord
  | item => ItemRecord

/-- The reader of a part. -/
def read : (p : Part) → Shape p.Record
  | whole => asManifest
  | entry .info => asInfo
  | entry .entitlement => asEntitlement
  | entry .offer => asOffer
  | entry .bundle => asBundle
  | item => asItem

/-- The layout by which a part is read. -/
def layout : Part → Layout
  | whole => manifestLayout
  | entry .info => infoLayout
  | entry .entitlement => entitlementLayout
  | entry .offer => offerLayout
  | entry .bundle => bundleLayout
  | item => itemLayout

/-- What a part means to a catalog. -/
def Meaning : Part → Type
  | whole => Except CatalogError Catalog
  | entry .info => InfoModule
  | entry .entitlement => Except CatalogError Entitlement
  | entry .offer => Offer
  | entry .bundle => Bundle
  | item => BundleItem

/-- What the record of a part means. -/
def meaning : (p : Part) → p.Record → p.Meaning
  | whole, m => m.toCatalog
  | entry .info, r => InfoRecord.value r
  | entry .entitlement, r => EntitlementRecord.value r
  | entry .offer, r => OfferRecord.value r
  | entry .bundle, r => BundleRecord.value r
  | item, r => ⟨ItemRecord.offer r, ItemRecord.quantity r⟩

end Part

namespace Column

/-- What a column is read as. -/
def Content : Column → Type
  | text | parentWord | parentName => String
  | flag => Bool
  | integer => Int64
  | count => UInt32
  | message => Wording
  | rows p => List p.Record

/-- The reader of a column. -/
def read : (c : Column) → Shape c.Content
  | text | parentWord | parentName => asText
  | flag => asBool
  | integer => asInt64
  | count => asUInt32
  | message => asWording
  | rows p => asList p.read

end Column

/-- **The readers keep to the format**: a part is read by the fields that
it is documented with. -/
theorem fields_layout (p : Part) :
    p.layout.fields = p.columns.map fun f => (f.1, holds f.2.1.read) := by
  cases p with
  | whole => rfl
  | entry k => cases k <;> rfl
  | item => rfl

/-- **Every default is a value of its column.** -/
theorem isOk_read_default {p : Part} {name : String} {col : Column} {v : Toml}
    (h : p.columns.lookup name = some (col, some v)) : (col.read v).isOk = true := by
  have hall : p.columns.all (fun f => f.2.2.all fun v => (f.2.1.read v).isOk) = true := by
    cases p with
    | whole => rfl
    | entry k => cases k <;> rfl
    | item => rfl
  obtain ⟨front, back, hcolumns, -⟩ := List.lookup_eq_some_iff.1 h
  simpa using List.all_eq_true.1 hall (name, col, some v) (by simp [hcolumns])

end Storefront.Manifest
