import Mathlib.Data.List.DropRight
import Storefront.Proofs.Manifest.Commits
/-!
# Manifest — the catalogs that can be written down

Every catalog is written as a manifest, record by record; `toManifest`
always gives a message a key and a custom parent its name. The manifest
loads as the catalog again if the entries pass their rules and no custom
parent has a name that a manifest would read differently: an empty one,
or one with blanks at its ends. No manifest loads as any other catalog
(`exists_toCatalog_eq_iff`).
-/

namespace Storefront

/-! ## Names without blanks at their ends -/

namespace Text

/-- Trimmed characters have nothing left to trim. -/
theorem trimChars_trimChars (cs : List Char) : trimChars (trimChars cs) = trimChars cs := by
  have htrim : ∀ ds, trimChars ds = (ds.dropWhile isBlank).rdropWhile isBlank := fun _ => rfl
  -- what is dropped at the end leaves the front as it was, and that is no blank
  have hfront : (trimChars cs).dropWhile isBlank = trimChars cs := by
    rw [List.dropWhile_eq_self_iff]
    intro hpos
    have hinitial : trimChars cs <+: cs.dropWhile isBlank := List.rdropWhile_prefix _ _
    have hdropped := List.dropWhile_eq_self_iff.1 (List.dropWhile_idempotent isBlank cs)
    rw [hinitial.getElem hpos]
    exact hdropped (lt_of_lt_of_le hpos hinitial.length_le)
  rw [htrim (trimChars cs), hfront, htrim cs, List.rdropWhile_idempotent]

/-- **A trimmed text has nothing left to trim.** -/
theorem trim_trim (s : String) : trim (trim s) = trim s := by
  rw [trim, trim, String.toList_ofList, trimChars_trimChars]

end Text

namespace Parent

/-- **A parent that can be written down**: a class of the shop's own has a
name, without blanks at its ends. -/
def Writable (p : Parent) : Prop :=
  ∀ name, p = .custom name → name ≠ "" ∧ Text.trim name = name

/-- **A parent that is read can be written down.** -/
theorem writable_of_ofParts {className word : String} {customName : Option String} {p : Parent}
    (h : ofParts className word customName = .ok p) : p.Writable := by
  rintro name rfl
  simp only [ofParts] at h
  split at h
  · cases h
  split at h
  · cases h
  split at h
  · cases hcustom : customName.map Text.trim with
    | none => simp [hcustom] at h
    | some trimmed =>
      obtain ⟨written, -, hwritten⟩ := Option.map_eq_some_iff.1 hcustom
      simp only [hcustom] at h
      split at h
      · cases h
      · next hne =>
        obtain rfl : trimmed = name := Parent.custom.inj (Except.ok.inj h)
        refine ⟨by simpa using hne, ?_⟩
        rw [← hwritten, Text.trim_trim]
  · cases h

/-- The name that a manifest gives next to the word for a parent. -/
def customName? : Parent → Option String
  | custom name => some name
  | _ => none

/-- The word for a parent is in lower case. -/
theorem map_toLower_kindName (p : Parent) : p.kindName.map Char.toLower = p.kindName := by
  cases p <;> simp [kindName, ← String.toList_inj]

/-- **A parent that can be written down is read back** from its word and
its name. -/
theorem ofParts_customName? {p : Parent} (h : p.Writable) (className : String) :
    ofParts className p.kindName p.customName? = .ok p := by
  rw [ofParts, map_toLower_kindName]
  cases p with
  | island => simp
  | cosmetic => simp [kindName]
  | custom name =>
    obtain ⟨hne, htrim⟩ := h name rfl
    simp [kindName, customName?, htrim, hne]

end Parent

/-! ## Writing a catalog -/

/-- A message with its key, be it empty. -/
def Message.wording (m : Message) : Manifest.Wording := .keyed m.key m.text

@[simp] theorem Message.message_wording (m : Message) : m.wording.message = m := rfl

/-- The record that writes an info module. -/
def InfoModule.record (m : InfoModule) : Manifest.InfoRecord where
  moduleName := m.moduleName
  name := m.name.wording
  description := m.description.wording
  shortDescription := m.shortDescription.wording

@[simp] theorem InfoModule.value_record (m : InfoModule) : m.record.value = m := rfl

/-- The record that writes an entitlement. -/
def Entitlement.record (e : Entitlement) : Manifest.EntitlementRecord where
  className := e.className
  infoModule := e.infoModule
  parentClass := e.parent.kindName
  customParent := e.parent.customName?
  icon := e.icon
  consequential := e.consequential
  maxCount := e.maxCount
  consumable := e.consumable
  paidRandomItem := e.paidRandomItem
  paidArea := e.paidArea

/-- The record of an entitlement stands for it if its parent can be
written down. -/
theorem Entitlement.value_record {e : Entitlement} (h : e.parent.Writable) :
    e.record.value = .ok e := by
  have hparent := Parent.ofParts_customName? h e.className
  simp [Manifest.EntitlementRecord.value, record, hparent, Except.map]

/-- The record that writes an offer. -/
def Offer.record (o : Offer) : Manifest.OfferRecord where
  className := o.className
  infoModule := o.infoModule
  entitlementType := o.entitlementType
  icon := o.icon
  price := o.price.amount

@[simp] theorem Offer.value_record (o : Offer) : o.record.value = o := by
  simp [Manifest.OfferRecord.value, record, Price.vbucks]

/-- The record that writes a bundle. -/
def Bundle.record (b : Bundle) : Manifest.BundleRecord where
  className := b.className
  name := b.name.wording
  description := b.description.wording
  shortDescription := b.shortDescription.wording
  icon := b.icon
  price := b.price.amount
  items := b.items.map fun i => ⟨i.offer, i.quantity⟩

@[simp] theorem Bundle.value_record (b : Bundle) : b.record.value = b := by
  simp [Manifest.BundleRecord.value, record, Price.vbucks, Function.comp_def]

namespace Catalog

variable {c : Catalog}

/-- **The manifest that writes a catalog**, record by record. -/
def toManifest (c : Catalog) : Manifest where
  infos := c.infos.map InfoModule.record
  entitlements := c.entitlements.map Entitlement.record
  offers := c.offers.map Offer.record
  bundles := c.bundles.map Bundle.record

/-- A catalog converts the manifest that writes it. -/
theorem converts_toManifest (h : ∀ e ∈ c.entitlements, e.parent.Writable) :
    c.toManifest.Converts c := by
  refine ⟨?_, ?_, ?_, ?_⟩
  · simp [toManifest, Function.comp_def]
  · simp only [toManifest, List.map_map]
    exact List.map_congr_left fun e he => Entitlement.value_record (h e he)
  · simp [toManifest, Function.comp_def]
  · simp [toManifest, Function.comp_def]

/-- What a manifest loads as has parents that can be written down. -/
theorem writable_of_converts {m : Manifest} (h : m.Converts c) :
    ∀ e ∈ c.entitlements, e.parent.Writable := by
  intro e he
  have hmem : Except.ok e ∈ m.entitlements.map Manifest.EntitlementRecord.value := by
    rw [h.entitlements]
    exact List.mem_map_of_mem he
  obtain ⟨r, -, hvalue⟩ := List.mem_map.1 hmem
  obtain ⟨p, hp⟩ := Manifest.exists_value_iff.1 ⟨e, hvalue⟩
  have hparent : e.parent = p := by
    simp only [Manifest.EntitlementRecord.value, hp, Except.map, Except.ok.injEq] at hvalue
    rw [← hvalue]
  rw [hparent]
  exact Parent.writable_of_ofParts hp

/-- **Which catalogs a manifest can express**: those whose entries pass
their rules and whose custom parents have names that are neither empty
nor changed by trimming. -/
theorem exists_toCatalog_eq_iff (c : Catalog) :
    (∃ m : Manifest, m.toCatalog = .ok c) ↔
      (∀ e ∈ c.allEntries, e.check = .ok ()) ∧
        ∀ e ∈ c.entitlements, ∀ name, e.parent = .custom name →
          name ≠ "" ∧ Text.trim name = name := by
  constructor
  · rintro ⟨m, hload⟩
    obtain ⟨hconverts, hcheck⟩ := Manifest.converts_of_toCatalog hload
    exact ⟨hcheck, writable_of_converts hconverts⟩
  · rintro ⟨hcheck, hparents⟩
    exact ⟨c.toManifest, Manifest.toCatalog_of_converts (converts_toManifest hparents) hcheck⟩

end Catalog

end Storefront
