import Storefront.Proofs.Verse.ReadBack
/-!
# Verse — what the definitions document tells

Two catalogs are alike when they agree, entry by entry, on what the
document is meant to carry. Alike catalogs have the same document, and
the document of a readable catalog tells it apart from every catalog it
is not alike to (`definitions_eq_iff`): the document is read back as
modules, and a module tells the declarations of its entries. Keys for
localization and the flags for paid content are not compared.
-/

namespace Storefront

open Verse

/-- Agreement on the name and the three texts. -/
@[mk_iff] structure InfoModule.Alike (m n : InfoModule) : Prop where
  moduleName : m.moduleName = n.moduleName
  name : m.name.text = n.name.text
  description : m.description.text = n.description.text
  shortDescription : m.shortDescription.text = n.shortDescription.text

/-- Agreement on everything but the flags for paid content; of the
parents, on the class they name. -/
@[mk_iff] structure Entitlement.Alike (e f : Entitlement) : Prop where
  className : e.className = f.className
  parent : e.parent.identifier = f.parent.identifier
  infoModule : e.infoModule = f.infoModule
  icon : e.icon = f.icon
  consequential : e.consequential = f.consequential
  maxCount : e.maxCount = f.maxCount
  consumable : e.consumable = f.consumable

/-- Agreement on every field; of the prices, on the amount. -/
@[mk_iff] structure Offer.Alike (o p : Offer) : Prop where
  className : o.className = p.className
  infoModule : o.infoModule = p.infoModule
  icon : o.icon = p.icon
  entitlementType : o.entitlementType = p.entitlementType
  amount : o.price.amount = p.price.amount

/-- Agreement on every field, with the items in order; of the messages,
on the texts, and of the prices, on the amount. -/
@[mk_iff] structure Bundle.Alike (b d : Bundle) : Prop where
  className : b.className = d.className
  name : b.name.text = d.name.text
  description : b.description.text = d.description.text
  shortDescription : b.shortDescription.text = d.shortDescription.text
  icon : b.icon = d.icon
  items : b.items = d.items
  amount : b.price.amount = d.price.amount

/-- **Agreement of two catalogs**: entry by entry, in the same order, and
on the built-in base classes in the order of first use. -/
structure Catalog.Alike (p q : Catalog) : Prop where
  infos : List.Forall₂ InfoModule.Alike p.infos q.infos
  entitlements : List.Forall₂ Entitlement.Alike p.entitlements q.entitlements
  baseClasses : p.baseClasses = q.baseClasses
  offers : List.Forall₂ Offer.Alike p.offers q.offers
  bundles : List.Forall₂ Bundle.Alike p.bundles q.bundles

/-! ## Declarations tell what entries agree on -/

theorem InfoModule.declaration_eq_iff (m n : InfoModule) :
    m.declaration = n.declaration ↔ m.Alike n := by
  rw [InfoModule.alike_iff]
  simp [InfoModule.declaration, Field.localized]

theorem Entitlement.declaration_eq_iff (e f : Entitlement) :
    e.declaration = f.declaration ↔ e.Alike f := by
  rw [Entitlement.alike_iff]
  simp [Entitlement.declaration, delegatedFields, iconField, Field.overriding]

theorem Offer.declaration_eq_iff (o p : Offer) : o.declaration = p.declaration ↔ o.Alike p := by
  rw [Offer.alike_iff]
  simp [Offer.declaration, delegatedFields, iconField, priceField, Field.overriding]

theorem Bundle.declaration_eq_iff (b d : Bundle) : b.declaration = d.declaration ↔ b.Alike d := by
  have hinj : Function.Injective fun i : BundleItem =>
      ((⟨.offer, i.offer⟩, i.quantity) : QualifiedName × UInt32) := by
    rintro ⟨o, n⟩ ⟨p, m⟩ h
    simpa using h
  rw [Bundle.alike_iff]
  simp [Bundle.declaration, iconField, priceField, Field.overriding,
    (List.map_injective_iff.2 hinj).eq_iff]

/-- Two lists have the same images when their members have, one by one. -/
theorem map_eq_map_iff {α β : Type} {f : α → β} {R : α → α → Prop}
    (h : ∀ x y, f x = f y ↔ R x y) {xs ys : List α} :
    xs.map f = ys.map f ↔ List.Forall₂ R xs ys := by
  rw [← List.forall₂_eq_eq_eq, List.forall₂_map_left_iff, List.forall₂_map_right_iff]
  simp only [h]

/-! ## Modules tell the declarations of their entries -/

/-- The names of a group of abstract classes. -/
def Verse.Declaration.abstractNames : Declaration → List String
  | abstractClasses names => names
  | _ => []

namespace Catalog

variable {p q : Catalog}

/-- The declarations in the module of a kind, none where there is no such
module. -/
def declarations (c : Catalog) (k : Kind) : List Declaration :=
  (c.blocks.filter fun b => b.home == k).flatMap Block.declarations

theorem declarations_eq (c : Catalog) (k : Kind) :
    c.declarations k = c.preamble k ++ (c.entries k).map Entry.declaration := by
  rw [declarations, filter_blocks, block?]
  split
  · next hnil =>
    rw [hnil]
    cases k with
    | entitlement =>
      have hbases : c.baseClasses = [] := by
        have : c.entitlements = [] := List.map_eq_nil_iff.1 hnil
        simp [baseClasses, this]
      simp [preamble, hbases]
    | info => rfl
    | offer => rfl
    | bundle => rfl
  · simp

theorem declarations_congr (h : p.blocks = q.blocks) (k : Kind) :
    p.declarations k = q.declarations k := by
  rw [declarations, declarations, h]

/-- The base classes are those of the abstract classes in the module of
the entitlements. -/
theorem flatMap_abstractNames (c : Catalog) :
    (c.declarations .entitlement).flatMap Declaration.abstractNames = c.baseClasses := by
  have hclasses : ((c.entries .entitlement).map Entry.declaration).flatMap
      Declaration.abstractNames = [] := by
    simp [entries, Entry.declaration, Entitlement.declaration, Declaration.abstractNames]
  rw [declarations_eq, List.flatMap_append, hclasses, List.append_nil]
  cases hbases : c.baseClasses with
  | nil => simp [preamble, hbases]
  | cons name names => simp [preamble, hbases, Declaration.abstractNames]

/-- The preamble of a module depends on the base classes alone. -/
theorem preamble_congr (h : p.baseClasses = q.baseClasses) (k : Kind) :
    p.preamble k = q.preamble k := by
  cases k <;> simp [preamble, h]

/-- **The modules of two catalogs are equal** just when the declarations
of their entries and their base classes are. -/
theorem blocks_eq_iff :
    p.blocks = q.blocks ↔ p.baseClasses = q.baseClasses ∧
      ∀ k, (p.entries k).map Entry.declaration = (q.entries k).map Entry.declaration := by
  constructor
  · intro h
    have hbases : p.baseClasses = q.baseClasses := by
      rw [← flatMap_abstractNames, ← flatMap_abstractNames, declarations_congr h]
    refine ⟨hbases, fun k => ?_⟩
    have hk := declarations_congr h k
    rw [declarations_eq, declarations_eq, preamble_congr hbases] at hk
    exact List.append_cancel_left hk
  · rintro ⟨hbases, hentries⟩
    have hblock : p.block? = q.block? := by
      funext k
      have hk := hentries k
      rw [block?, block?, preamble_congr hbases]
      cases hp : p.entries k with
      | nil =>
        have hq : q.entries k = [] := by simpa [hp] using hk
        rw [hq]
      | cons e es =>
        rw [hp] at hk
        cases hq : q.entries k with
        | nil => simp [hq] at hk
        | cons f fs => rw [hq] at hk; simp [hk]
    rw [blocks, blocks, hblock]

theorem map_declaration_info (c : Catalog) :
    (c.entries .info).map Entry.declaration = c.infos.map InfoModule.declaration := by
  simp [entries, Entry.declaration]

theorem map_declaration_entitlement (c : Catalog) :
    (c.entries .entitlement).map Entry.declaration =
      c.entitlements.map Entitlement.declaration := by
  simp [entries, Entry.declaration]

theorem map_declaration_offer (c : Catalog) :
    (c.entries .offer).map Entry.declaration = c.offers.map Offer.declaration := by
  simp [entries, Entry.declaration]

theorem map_declaration_bundle (c : Catalog) :
    (c.entries .bundle).map Entry.declaration = c.bundles.map Bundle.declaration := by
  simp [entries, Entry.declaration]

/-- **Alike catalogs have the same modules**, and only they have. -/
theorem blocks_eq_iff_alike : p.blocks = q.blocks ↔ p.Alike q := by
  have hkinds : (∀ k, (p.entries k).map Entry.declaration = (q.entries k).map Entry.declaration) ↔
      p.infos.map InfoModule.declaration = q.infos.map InfoModule.declaration ∧
      p.entitlements.map Entitlement.declaration = q.entitlements.map Entitlement.declaration ∧
      p.offers.map Offer.declaration = q.offers.map Offer.declaration ∧
      p.bundles.map Bundle.declaration = q.bundles.map Bundle.declaration := by
    simp only [← map_declaration_info, ← map_declaration_entitlement, ← map_declaration_offer,
      ← map_declaration_bundle]
    constructor
    · intro h
      exact ⟨h .info, h .entitlement, h .offer, h .bundle⟩
    · rintro ⟨hinfo, hentitlement, hoffer, hbundle⟩ k
      cases k with
      | info => exact hinfo
      | entitlement => exact hentitlement
      | offer => exact hoffer
      | bundle => exact hbundle
  rw [blocks_eq_iff, hkinds, map_eq_map_iff InfoModule.declaration_eq_iff,
    map_eq_map_iff Entitlement.declaration_eq_iff, map_eq_map_iff Offer.declaration_eq_iff,
    map_eq_map_iff Bundle.declaration_eq_iff]
  constructor
  · rintro ⟨hbases, hinfos, hentitlements, hoffers, hbundles⟩
    exact ⟨hinfos, hentitlements, hbases, hoffers, hbundles⟩
  · rintro ⟨hinfos, hentitlements, hbases, hoffers, hbundles⟩
    exact ⟨hbases, hinfos, hentitlements, hoffers, hbundles⟩

/-- **The definitions document carries what catalogs agree on, and
nothing else.** -/
theorem definitions_eq_iff (hp : p.Readable) (hq : q.Readable) :
    definitions p = definitions q ↔ p.Alike q := by
  rw [← blocks_eq_iff_alike]
  constructor
  · intro h
    have hread := readDefinitions?_definitions hp
    rw [h, readDefinitions?_definitions hq] at hread
    exact (Option.some.inj hread).symm
  · intro h
    rw [definitions, definitions, definitionsParagraphs, definitionsParagraphs, h]

/-- A shop with entries of every kind and parents of two sorts. -/
def swordShop : Catalog where
  infos := [⟨"sword_info", .plain "Sword", .plain "A \"sharp\" sword", .plain ""⟩]
  entitlements :=
    [{ className := "sword", infoModule := "sword_info" },
      { className := "relic", parent := .custom "relic_base", infoModule := "lost_info",
        maxCount := 3, consumable := true }]
  offers :=
    [{ className := "sword_offer", infoModule := "sword_info", entitlementType := "sword",
       price := .vbucks 100 }]
  bundles :=
    [{ className := "pack", name := .plain "Pack", items := [⟨"sword_offer", 2⟩, ⟨"gone", 1⟩],
       price := .vbucks 500 }]

/-- The same shop with keys for its messages and flags for paid
content. -/
def translatedShop : Catalog :=
  { swordShop with
    infos := swordShop.infos.map fun m => { m with name := ⟨"sword_name", m.name.text⟩ }
    entitlements := swordShop.entitlements.map fun e =>
      { e with paidRandomItem := true, paidArea := true } }

/-- Keys and flags make another shop with the same document. -/
theorem definitions_translatedShop :
    swordShop.Readable ∧ translatedShop.Readable ∧ swordShop ≠ translatedShop ∧
      definitions swordShop = definitions translatedShop := by
  have hsword : swordShop.Readable := by decide
  have htranslated : translatedShop.Readable := by decide
  refine ⟨hsword, htranslated, by decide, (definitions_eq_iff hsword htranslated).2 ?_⟩
  rw [← blocks_eq_iff_alike]
  rfl

end Catalog

end Storefront
