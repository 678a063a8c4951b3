import Mathlib
import Storefront.Manifest.Load
import Storefront.Proofs.Lookup
import Storefront.Proofs.Manifest.Expressible
import Storefront.Proofs.Manifest.Format
import Storefront.Proofs.Results
/-!
# Manifest — shorthand means what it says

A manifest loads as the same catalog however it is written: with a default
written out or left out, with a display text plain or in a table, with the
word for a parent in other letter cases. Every reader sees a table only
through its check and through the fields it looks up (`same_of_agree`), and
a `Step` changes neither what the check says nor what a field means
(`same_of_step`). A key that the format does not declare fails the load
(`read_of_stray`).
-/

namespace Storefront

/-! ## What a parent is read from -/

namespace Text

/-- **Blanks around a text are trimmed with it.** -/
theorem trimChars_padded {front back : List Char} (cs : List Char)
    (h : ∀ c ∈ front ++ back, isBlank c) : trimChars (front ++ cs ++ back) = trimChars cs := by
  have hfront : ∀ c ∈ front, isBlank c := fun c hc => h c (List.mem_append_left _ hc)
  have hback : ∀ c ∈ back, isBlank c := fun c hc => h c (List.mem_append_right _ hc)
  have hdrop : back.dropWhile isBlank = [] := List.dropWhile_eq_nil_iff.2 hback
  rw [trimChars, trimChars, List.append_assoc, List.dropWhile_append_of_pos hfront,
    List.dropWhile_append]
  cases hcs : cs.dropWhile isBlank with
  | nil => simp [hdrop]
  | cons c rest =>
    have hreverse : ∀ c ∈ back.reverse, isBlank c := fun c hc => hback c (List.mem_reverse.1 hc)
    rw [List.isEmpty_cons, if_neg Bool.false_ne_true, List.reverse_append,
      List.dropWhile_append_of_pos hreverse]

end Text

namespace Parent

variable {className w w' : String} {c c' : Option String}

/-- The letter cases of the word and the blanks around the name do not
matter. -/
theorem ofParts_congr (hword : w.map Char.toLower = w'.map Char.toLower)
    (hname : c.map Text.trim = c'.map Text.trim) :
    ofParts className w c = ofParts className w' c' := by
  rw [ofParts, ofParts, hword, hname]

/-- Beside the word for a built-in parent, the name does not matter. -/
theorem ofParts_builtIn
    (h : w.map Char.toLower ∈ ["island_entitlement", "cosmetic_entitlement"]) :
    ofParts className w c = ofParts className w c' := by
  rcases List.mem_cons.1 h with hisland | hcosmetic
  · simp [ofParts, hisland, kindName]
  · rw [List.mem_singleton] at hcosmetic
    simp [ofParts, hcosmetic, kindName]

end Parent

namespace Manifest

variable {p q : Part} {name n : String} {col : Column} {d : Option Toml} {v w : Toml}
variable {es fs front back : Table}

/-! ## Values that mean the same -/

/-- What a column means. -/
def Column.Meaning : Column → Type
  | message => Message
  | rows p => List p.Meaning
  | c => c.Content

/-- What the content of a column means. -/
def Column.meaning : (c : Column) → c.Content → c.Meaning
  | text, s => s
  | flag, b => b
  | integer, n => n
  | count, n => n
  | message, m => Wording.message m
  | parentWord, s => String.map Char.toLower s
  | parentName, s => Text.trim s
  | rows p, rs => List.map p.meaning rs

/-- **Values that mean the same in a column**, or are both none of it. -/
def Column.Same (c : Column) (v w : Toml) : Prop :=
  Alike (fun a b => c.meaning a = c.meaning b) (c.read v) (c.read w)

/-- **Values that mean the same as a part**, or are both none. -/
def Part.Same (p : Part) (v w : Toml) : Prop :=
  Alike (fun a b => p.meaning a = p.meaning b) (p.read v) (p.read w)

theorem Column.Same.refl (v : Toml) : col.Same v v := 
  Alike.refl (fun a => Eq.refl (col.meaning a)) _

/-- **A value written another way means the same.** -/
theorem Spelled.same (h : Spelled col v w) : col.Same v w := by
  cases h with
  | bare t => exact .ok rfl
  | keyed t => exact .ok rfl
  | ignored v hkey htext =>
    have hread : ∀ es fs : Table, es.lookup "text" = fs.lookup "text" →
        es.lookup "key" = fs.lookup "key" → asWording (.table es) = asWording (.table fs) := by
      intro es fs htext hkey
      rw [asWording, asWording, htext, hkey]
    rw [Column.Same, Column.read,
      hread _ _ (lookup_insert_of_ne htext.symm) (lookup_insert_of_ne hkey.symm)]
    exact Alike.refl (fun a => Eq.refl (Wording.message a)) _
  | letters h => exact .ok h
  | padded s h =>
    refine .ok ?_
    change Text.trim s = Text.trim _
    rw [Text.trim, Text.trim, String.toList_ofList, Text.trimChars_padded _ h]

/-! ## The check of a table -/

theorem holds_eq_ok_iff {shape : Shape α} : holds shape v = .ok () ↔ (shape v).isOk = true := by
  rw [holds]
  cases shape v <;> simp [Except.map, Except.isOk, Except.toBool]

/-- **An entry passes the check** if its key is declared and its value is
one of the column. -/
theorem visit_eq_ok_iff :
    p.layout.visit (name, v) = .ok () ↔
      ∃ col d, p.columns.lookup name = some (col, d) ∧ (col.read v).isOk = true := by
  have hfields := lookup_map p.columns (fun c => holds c.1.read) name
  rw [Layout.visit, fields_layout, hfields]
  cases p.columns.lookup name with
  | none => simp
  | some c =>
    obtain ⟨col, d⟩ := c
    simp [holds_eq_ok_iff]

theorem check_eq_ok_iff :
    p.layout.check (.table es) = .ok () ↔ ∀ entry ∈ es, p.layout.visit entry = .ok () :=
  forM_eq_ok_iff

theorem check_insert :
    p.layout.check (.table (front ++ (name, v) :: back)) = .ok () ↔
      p.layout.visit (name, v) = .ok () ∧ p.layout.check (.table (front ++ back)) = .ok () := by
  simp only [check_eq_ok_iff, List.forall_mem_append, List.forall_mem_cons]
  exact ⟨fun ⟨hfront, hentry, hback⟩ => ⟨hentry, hfront, hback⟩,
    fun ⟨hentry, hfront, hback⟩ => ⟨hfront, hentry, hback⟩⟩

/-- An entry that passes the check may be added. -/
theorem check_insert_of_read (hcol : p.columns.lookup name = some (col, d))
    (hread : (col.read v).isOk = true) :
    p.layout.check (.table (front ++ back)) = .ok () ↔
      p.layout.check (.table (front ++ (name, v) :: back)) = .ok () := by
  rw [check_insert, and_iff_right (visit_eq_ok_iff.2 ⟨col, d, hcol, hread⟩)]

/-- An entry may be exchanged for one that means the same. -/
theorem check_replace (hcol : p.columns.lookup name = some (col, d)) (hsame : col.Same v w) :
    p.layout.check (.table (front ++ (name, v) :: back)) = .ok () ↔
      p.layout.check (.table (front ++ (name, w) :: back)) = .ok () := by
  have hread : (col.read v).isOk = (col.read w).isOk := by
    rw [Column.Same] at hsame
    generalize col.read v = x, col.read w = y at hsame ⊢
    cases hsame <;> rfl
  simp only [check_insert, visit_eq_ok_iff, hcol, Option.some.injEq, Prod.mk.injEq]
  simp [hread]

/-! ## Tables that agree -/

/-- **Tables agree on a field** if it means the same in both, or what
stands for it where it is missing does. -/
def Agree (p : Part) (name : String) (es fs : Table) : Prop :=
  ∀ col d, p.columns.lookup name = some (col, d) →
    Option.Rel col.Same ((es.lookup name).or d) ((fs.lookup name).or d)

theorem Agree.of_lookup (h : es.lookup name = fs.lookup name) : Agree p name es fs := by
  intro col d _
  rw [h]
  cases (fs.lookup name).or d with
  | none => exact .none
  | some v => exact .some (.refl v)

theorem agree_default (hcol : p.columns.lookup name = some (col, some v))
    (hmissing : name ∉ (front ++ back).map (·.1)) :
    Agree p n (front ++ back) (front ++ (name, v) :: back) := by
  by_cases hn : n = name
  · subst hn
    intro col' d hcol'
    obtain ⟨rfl, rfl⟩ : col = col' ∧ some v = d := by simpa [hcol] using hcol'
    have hfront : n ∉ front.map (·.1) := fun h => hmissing (by simp [List.map_append, h])
    rw [lookup_eq_none_of_notMem hmissing, lookup_insert_self, lookup_eq_none_of_notMem hfront]
    exact .some (.refl v)
  · exact .of_lookup (lookup_insert_of_ne hn).symm

theorem agree_replace (hcol : p.columns.lookup name = some (col, d)) (hsame : col.Same v w) :
    Agree p n (front ++ (name, v) :: back) (front ++ (name, w) :: back) := by
  by_cases hn : n = name
  · subst hn
    intro col' d' hcol'
    obtain ⟨rfl, rfl⟩ : col = col' ∧ d = d' := by simpa [hcol] using hcol'
    rw [lookup_insert_self, lookup_insert_self]
    cases front.lookup n with
    | none => exact .some hsame
    | some u => exact .some (.refl u)
  · exact .of_lookup ((lookup_insert_of_ne hn).trans (lookup_insert_of_ne hn).symm)

/-- A field without a default is read alike. -/
theorem Agree.required (h : Agree p name es fs)
    (hcol : p.columns.lookup name = some (col, none)) :
    Alike (fun a b => col.meaning a = col.meaning b)
      (p.layout.required (.table es) name col.read)
      (p.layout.required (.table fs) name col.read) := by
  have hrel := h col none hcol
  rw [Option.or_none, Option.or_none] at hrel
  rw [Layout.required, Layout.required, Layout.get?, Layout.get?]
  generalize es.lookup name = m, fs.lookup name = m' at hrel
  cases hrel with
  | some hsame => exact hsame
  | none => exact .error _ _

/-- A field with a default is read alike, if the value that stands for a
missing one is read as that default. -/
theorem Agree.optional {x : col.Content} (h : Agree p name es fs)
    (hcol : p.columns.lookup name = some (col, some v)) (hdefault : col.read v = .ok x) :
    Alike (fun a b => col.meaning a = col.meaning b)
      (p.layout.optional (.table es) name col.read x)
      (p.layout.optional (.table fs) name col.read x) := by
  have hread : ∀ es : Table, ∃ u, (es.lookup name).or (some v) = some u ∧
      p.layout.optional (.table es) name col.read x = col.read u := by
    intro es
    rw [Layout.optional, Layout.get?]
    cases es.lookup name with
    | none => exact ⟨v, rfl, hdefault.symm⟩
    | some u => exact ⟨u, rfl, rfl⟩
  have hrel := h col (some v) hcol
  obtain ⟨u, hu, hes⟩ := hread es
  obtain ⟨u', hu', hfs⟩ := hread fs
  rw [hu, hu'] at hrel
  rw [hes, hfs]
  cases hrel with
  | some hsame => exact hsame

theorem maybe_table {shape : Shape α} (l : Layout) (es : Table) :
    l.maybe (.table es) name shape =
      match es.lookup name with
      | some v => (shape v).map some
      | none => .ok none := by
  cases hlookup : es.lookup name <;> simp [Layout.maybe, Layout.get?, hlookup]

/-- A field that a table may leave out is read alike. -/
theorem Agree.maybe (h : Agree p name es fs) (hcol : p.columns.lookup name = some (col, none)) :
    Alike (Option.Rel fun a b => col.meaning a = col.meaning b)
      (p.layout.maybe (.table es) name col.read) (p.layout.maybe (.table fs) name col.read) := by
  have hrel := h col none hcol
  rw [Option.or_none, Option.or_none] at hrel
  rw [maybe_table, maybe_table]
  generalize es.lookup name = m, fs.lookup name = m' at hrel
  cases hrel with
  | some hsame => exact Alike.map hsame fun _ _ hab => .some hab
  | none => exact .ok .none

/-! ## One part -/

theorem same_info
    (hcheck : infoLayout.check (.table es) = .ok () ↔ infoLayout.check (.table fs) = .ok ())
    (h : ∀ name, Agree (.entry .info) name es fs) :
    Part.Same (.entry .info) (.table es) (.table fs) := by
  have hmodule := (h "module_name").required rfl
  have hname := (h "name").required rfl
  have hdescription := (h "description").optional rfl rfl
  have hshort := (h "short_description").optional rfl rfl
  refine (Alike.of_iff hcheck).bind fun _ _ _ => ?_
  refine hmodule.bind fun (s s' : String) (hs : s = s') => ?_
  refine hname.bind fun (m m' : Wording) (hm : m.message = m'.message) => ?_
  refine hdescription.bind fun (k k' : Wording) (hk : k.message = k'.message) => ?_
  refine hshort.bind fun (l l' : Wording) (hl : l.message = l'.message) => .ok ?_
  change InfoRecord.value _ = InfoRecord.value _
  simp only [InfoRecord.value, hs, hm, hk, hl]

/-- **How the parent of an entitlement is named may differ**, if the
records that are read name the same one. -/
theorem same_entitlement
    (hcheck : entitlementLayout.check (.table es) = .ok () ↔
      entitlementLayout.check (.table fs) = .ok ())
    (h : ∀ name ≠ "custom_parent", Agree (.entry .entitlement) name es fs)
    (hparent : ∀ w w', w.map Char.toLower = w'.map Char.toLower →
      entitlementLayout.optional (.table es) "parent_class" asText "island_entitlement" = .ok w →
      Alike (fun c c' => ∀ className, Parent.ofParts className w c = Parent.ofParts className w' c')
        (entitlementLayout.maybe (.table es) "custom_parent" asText)
        (entitlementLayout.maybe (.table fs) "custom_parent" asText)) :
    Part.Same (.entry .entitlement) (.table es) (.table fs) := by
  have hclass := (h "class_name" (by decide)).required rfl
  have hinfo := (h "info_module" (by decide)).required rfl
  have hword := (h "parent_class" (by decide)).optional rfl rfl
  have hicon := (h "icon" (by decide)).optional rfl rfl
  have hconsequential := (h "consequential_to_gameplay" (by decide)).optional rfl rfl
  have hmax := (h "max_count" (by decide)).optional rfl rfl
  have hconsumable := (h "consumable" (by decide)).optional rfl rfl
  have hitem := (h "paid_random_item" (by decide)).optional rfl rfl
  have harea := (h "paid_area" (by decide)).optional rfl rfl
  refine (Alike.of_iff hcheck).bind fun _ _ _ => ?_
  refine hclass.bind fun (s s' : String) (hs : s = s') => ?_
  refine hinfo.bind fun (i i' : String) (hi : i = i') => ?_
  refine hword.and_eq.bind fun (w w' : String) ⟨hw, hread, _⟩ => ?_
  refine (hparent w w' hw hread).bind fun c c' hc => ?_
  refine hicon.bind fun (k k' : String) (hk : k = k') => ?_
  refine hconsequential.bind fun (q q' : Bool) (hq : q = q') => ?_
  refine hmax.bind fun (m m' : Int64) (hm : m = m') => ?_
  refine hconsumable.bind fun (u u' : Bool) (hu : u = u') => ?_
  refine hitem.bind fun (r r' : Bool) (hr : r = r') => ?_
  refine harea.bind fun (a a' : Bool) (ha : a = a') => .ok ?_
  change EntitlementRecord.value _ = EntitlementRecord.value _
  simp only [EntitlementRecord.value, hs, hi, hc, hk, hq, hm, hu, hr, ha]

theorem same_offer
    (hcheck : offerLayout.check (.table es) = .ok () ↔ offerLayout.check (.table fs) = .ok ())
    (h : ∀ name, Agree (.entry .offer) name es fs) :
    Part.Same (.entry .offer) (.table es) (.table fs) := by
  have hclass := (h "class_name").required rfl
  have hinfo := (h "info_module").required rfl
  have htype := (h "entitlement_type").required rfl
  have hicon := (h "icon").optional rfl rfl
  have hprice := (h "price").required rfl
  refine (Alike.of_iff hcheck).bind fun _ _ _ => ?_
  refine hclass.bind fun (s s' : String) (hs : s = s') => ?_
  refine hinfo.bind fun (i i' : String) (hi : i = i') => ?_
  refine htype.bind fun (t t' : String) (ht : t = t') => ?_
  refine hicon.bind fun (k k' : String) (hk : k = k') => ?_
  refine hprice.bind fun (a a' : Int64) (ha : a = a') => .ok ?_
  rw [hs, hi, ht, hk, ha]

theorem same_item
    (hcheck : itemLayout.check (.table es) = .ok () ↔ itemLayout.check (.table fs) = .ok ())
    (h : ∀ name, Agree .item name es fs) : Part.Same .item (.table es) (.table fs) := by
  have hoffer := (h "offer").required rfl
  have hquantity := (h "quantity").optional rfl rfl
  refine (Alike.of_iff hcheck).bind fun _ _ _ => ?_
  refine hoffer.bind fun (o o' : String) (ho : o = o') => ?_
  refine hquantity.bind fun (n n' : UInt32) (hn : n = n') => .ok ?_
  rw [ho, hn]

theorem same_bundle
    (hcheck : bundleLayout.check (.table es) = .ok () ↔ bundleLayout.check (.table fs) = .ok ())
    (h : ∀ name, Agree (.entry .bundle) name es fs) :
    Part.Same (.entry .bundle) (.table es) (.table fs) := by
  have hclass := (h "class_name").required rfl
  have hname := (h "name").required rfl
  have hdescription := (h "description").optional rfl rfl
  have hshort := (h "short_description").optional rfl rfl
  have hicon := (h "icon").optional rfl rfl
  have hprice := (h "price").required rfl
  have hitems := (h "items").optional rfl rfl
  refine (Alike.of_iff hcheck).bind fun _ _ _ => ?_
  refine hclass.bind fun (s s' : String) (hs : s = s') => ?_
  refine hname.bind fun (m m' : Wording) (hm : m.message = m'.message) => ?_
  refine hdescription.bind fun (k k' : Wording) (hk : k.message = k'.message) => ?_
  refine hshort.bind fun (l l' : Wording) (hl : l.message = l'.message) => ?_
  refine hicon.bind fun (i i' : String) (hi : i = i') => ?_
  refine hprice.bind fun (a a' : Int64) (ha : a = a') => ?_
  refine hitems.bind fun (r r' : List ItemRecord)
    (hr : r.map (Part.meaning .item) = r'.map (Part.meaning .item)) => .ok ?_
  change BundleRecord.value _ = BundleRecord.value _
  have hitems : r.map (fun i => BundleItem.mk i.offer i.quantity) =
      r'.map fun i => BundleItem.mk i.offer i.quantity := hr
  simp only [BundleRecord.value, hs, hm, hk, hl, hi, ha, hitems]

/-- Equal values of the records are admitted in the same way. -/
theorem toCatalog_congr {m m' : Manifest}
    (hinfos : m.infos.map InfoRecord.value = m'.infos.map InfoRecord.value)
    (hentitlements : m.entitlements.map EntitlementRecord.value =
      m'.entitlements.map EntitlementRecord.value)
    (hoffers : m.offers.map OfferRecord.value = m'.offers.map OfferRecord.value)
    (hbundles : m.bundles.map BundleRecord.value = m'.bundles.map BundleRecord.value) :
    m.toCatalog = m'.toCatalog := by
  have hvalues : ∀ m : Manifest, m.candidates =
      (m.infos.map InfoRecord.value).map (fun i => .ok (.info i)) ++
        (m.entitlements.map EntitlementRecord.value).map (Except.map .entitlement) ++
        (m.offers.map OfferRecord.value).map (fun o => .ok (.offer o)) ++
        (m.bundles.map BundleRecord.value).map (fun b => .ok (.bundle b)) := by
    intro m
    simp [candidates, Function.comp_def]
  rw [toCatalog, toCatalog, hvalues, hvalues, hinfos, hentitlements, hoffers, hbundles]

theorem same_whole
    (hcheck : manifestLayout.check (.table es) = .ok () ↔
      manifestLayout.check (.table fs) = .ok ())
    (h : ∀ name, Agree .whole name es fs) : Part.Same .whole (.table es) (.table fs) := by
  have hinfos := (h "info").optional rfl rfl
  have hentitlements := (h "entitlements").optional rfl rfl
  have hoffers := (h "offers").optional rfl rfl
  have hbundles := (h "bundles").optional rfl rfl
  refine (Alike.of_iff hcheck).bind fun _ _ _ => ?_
  refine hinfos.bind fun _ _ hi => ?_
  refine hentitlements.bind fun _ _ he => ?_
  refine hoffers.bind fun _ _ ho => ?_
  exact hbundles.bind fun _ _ hb => .ok (toCatalog_congr hi he ho hb)

/-- **A reader sees a table through its check and its fields.** -/
theorem same_of_agree
    (hcheck : p.layout.check (.table es) = .ok () ↔ p.layout.check (.table fs) = .ok ())
    (h : ∀ name, Agree p name es fs) : p.Same (.table es) (.table fs) := by
  cases p with
  | whole => exact same_whole hcheck h
  | entry k =>
    cases k with
    | info => exact same_info hcheck h
    | entitlement =>
      refine same_entitlement hcheck (fun name _ => h name) fun w w' hw _ => ?_
      refine ((h "custom_parent").maybe rfl).mono fun c c' hc className => ?_
      refine Parent.ofParts_congr hw ?_
      cases hc with
      | some hname => exact congrArg some hname
      | none => rfl
    | offer => exact same_offer hcheck h
    | bundle => exact same_bundle hcheck h
  | item => exact same_item hcheck h

/-! ## One step -/

/-- **A list means the same** when one of its tables does. -/
theorem same_row {before after : List Toml} (h : q.Same v w) :
    (Column.rows q).Same (.list (before ++ v :: after)) (.list (before ++ w :: after)) := by
  have hitems : List.Forall₂ q.Same (before ++ v :: after) (before ++ w :: after) := by
    have hrefl : ∀ items : List Toml, List.Forall₂ q.Same items items := fun items =>
      List.forall₂_same.2 fun u _ => Alike.refl (fun a => Eq.refl (q.meaning a)) _
    exact List.rel_append (hrefl before) (.cons h (hrefl after))
  refine (Alike.mapM hitems).mono fun rs rs' hrs => ?_
  change rs.map q.meaning = rs'.map q.meaning
  rwa [← List.forall₂_eq_eq_eq, List.forall₂_map_left_iff, List.forall₂_map_right_iff]

/-- The word that names a built-in parent is one of the two. -/
theorem BuiltIn.word {w : String} (h : BuiltIn es)
    (hread : entitlementLayout.optional (.table es) "parent_class" asText "island_entitlement" =
      .ok w) :
    w.map Char.toLower ∈ ["island_entitlement", "cosmetic_entitlement"] := by
  rw [Layout.optional, Layout.get?] at hread
  cases hlookup : es.lookup "parent_class" with
  | none =>
    obtain rfl : "island_entitlement" = w := by simpa [hlookup] using hread
    exact List.mem_cons.2 (.inl (Parent.map_toLower_kindName .island))
  | some v =>
    obtain ⟨word, rfl, hword⟩ := h v hlookup
    obtain rfl : word = w := by simpa [hlookup, asText] using hread
    exact hword

/-- **Beside a built-in parent, the name of another one does not matter.** -/
theorem same_builtIn (h : BuiltIn es)
    (hcheck : entitlementLayout.check (.table es) = .ok () ↔
      entitlementLayout.check (.table fs) = .ok ())
    (hlookup : ∀ name ≠ "custom_parent", es.lookup name = fs.lookup name)
    (hname : Alike (fun _ _ => True) (entitlementLayout.maybe (.table es) "custom_parent" asText)
      (entitlementLayout.maybe (.table fs) "custom_parent" asText)) :
    Part.Same (.entry .entitlement) (.table es) (.table fs) := by
  refine same_entitlement hcheck (fun name hne => .of_lookup (hlookup name hne)) ?_
  refine fun w w' hw hread => hname.mono fun c c' _ className => ?_
  exact (Parent.ofParts_builtIn (h.word hread)).trans (Parent.ofParts_congr hw rfl)

/-- **A step does not change what a table means**, by induction on the
depth of the place that it writes another way. -/
theorem same_of_step (h : Step p es fs) : p.Same (.table es) (.table fs) := by
  induction h with
  | default hcol hmissing =>
    exact same_of_agree (check_insert_of_read hcol (isOk_read_default hcol)) fun _ =>
      agree_default hcol hmissing
  | respell hcol hspelled =>
    exact same_of_agree (check_replace hcol hspelled.same) fun _ => agree_replace hcol hspelled.same
  | row hcol _ ih =>
    exact same_of_agree (check_replace hcol (same_row ih)) fun _ => agree_replace hcol (same_row ih)
  | @name front back s hbuiltIn hmissing =>
    have hfront : "custom_parent" ∉ front.map (·.1) := fun h =>
      hmissing (by simp [List.map_append, h])
    refine same_builtIn hbuiltIn (check_insert_of_read (p := .entry .entitlement) rfl rfl)
      (fun _ hne => (lookup_insert_of_ne hne).symm) ?_
    rw [maybe_table, maybe_table, lookup_eq_none_of_notMem hmissing, lookup_insert_self,
      lookup_eq_none_of_notMem hfront]
    exact .ok trivial
  | @rename front back s t hbuiltIn =>
    have hbuiltIn' : BuiltIn (front ++ ("custom_parent", .text s) :: back) := by
      rwa [BuiltIn, lookup_insert_of_ne (by decide)]
    have hcheck (t : String) : entitlementLayout.check (.table (front ++ back)) = .ok () ↔
        entitlementLayout.check (.table (front ++ ("custom_parent", .text t) :: back)) = .ok () :=
      check_insert_of_read (p := .entry .entitlement) rfl rfl
    refine same_builtIn hbuiltIn' ((hcheck s).symm.trans (hcheck t))
      (fun _ hne => (lookup_insert_of_ne hne).trans (lookup_insert_of_ne hne).symm) ?_
    rw [maybe_table, maybe_table, lookup_insert_self, lookup_insert_self]
    cases front.lookup "custom_parent" with
    | none => exact .ok trivial
    | some u => exact .refl (fun _ => trivial) _

/-! ## Keys that the format does not declare -/

theorem check_of_read {r : p.Record} (h : p.read (.table es) = .ok r) :
    p.layout.check (.table es) = .ok () := by
  cases p with
  | whole => exact (bind_eq_ok_iff.1 h).choose_spec.1
  | entry k => cases k <;> exact (bind_eq_ok_iff.1 h).choose_spec.1
  | item => exact (bind_eq_ok_iff.1 h).choose_spec.1

/-- **A stray key fails the part that it is in**, and with it all the parts
around that one. -/
theorem read_of_stray (h : Stray p es) (r : p.Record) : p.read (.table es) ≠ .ok r := by
  induction h with
  | key hmem hcol =>
    intro hread
    have hvisit := check_eq_ok_iff.1 (check_of_read hread) _ hmem
    obtain ⟨col, d, hdeclared, -⟩ := visit_eq_ok_iff.1 hvisit
    exact absurd (hdeclared.symm.trans hcol) (Option.some_ne_none _)
  | @row p q es fs items name d hmem hcol hrow _ ih =>
    intro hread
    have hvisit := check_eq_ok_iff.1 (check_of_read hread) _ hmem
    obtain ⟨col, d', hcol', hrows⟩ := visit_eq_ok_iff.1 hvisit
    obtain ⟨rfl, rfl⟩ : Column.rows q = col ∧ d = d' := by simpa [hcol] using hcol'
    cases hitems : (Column.rows q).read (.list items) with
    | error e => simp [hitems, Except.isOk, Except.toBool] at hrows
    | ok rs =>
      obtain ⟨r, hr⟩ := exists_of_mapM_eq_ok hitems _ hrow
      exact ih r hr

/-! ## The catalog of a tree -/

/-- **The catalog that a tree loads as**, if it does. -/
def catalog? (v : Toml) : Option Catalog :=
  (asManifest v).toOption.bind fun m => m.toCatalog.toOption

/-- A text loads as the catalog of its tree. -/
theorem toOption_load (origin text : String) :
    (load origin text).toOption = (Toml.parse? text).bind catalog? := by
  rw [load, parseFrom, parse]
  cases Toml.parse? text with
  | none => rfl
  | some v =>
    rw [Option.bind_some, catalog?]
    cases hread : asManifest v with
    | error e => simp only [hread, Except.mapError, Except.bind, Except.toOption, Option.bind_none]
    | ok m =>
      simp only [hread, Except.mapError, Except.bind, Except.toOption, Option.bind_some]
      cases m.toCatalog <;> rfl

/-- Trees that mean the same manifest load as the same catalog. -/
theorem catalog?_of_same (h : Part.Same .whole v w) : catalog? v = catalog? w := by
  have hcatalog : ∀ v, catalog? v =
      ((asManifest v).toOption.map toCatalog).bind Except.toOption := by
    intro v
    rw [catalog?]
    cases asManifest v <;> rfl
  rw [hcatalog, hcatalog]
  exact congrArg (Option.bind · Except.toOption) (Alike.toOption_map h)

/-- **Shorthand means what it says.** A tree loads as the same catalog, or
not at all, however its places are written; with a key that the format does
not declare it does not load. A text loads as its tree does. -/
theorem spelling_immaterial (es : Table) :
    (∀ fs, Relation.EqvGen (Step .whole) es fs → catalog? (.table fs) = catalog? (.table es)) ∧
    (Stray .whole es → catalog? (.table es) = none) ∧
    ∀ origin text, Toml.parse? text = some (.table es) →
      (load origin text).toOption = catalog? (.table es) := by
  refine ⟨fun fs hspelled => ?_, fun hstray => ?_, fun origin text htree => ?_⟩
  · induction hspelled with
    | rel es fs hstep => exact (catalog?_of_same (same_of_step hstep)).symm
    | refl es => rfl
    | symm es fs _ ih => exact ih.symm
    | trans es fs gs _ _ ih ih' => exact ih'.trans ih
  · rw [catalog?]
    cases hread : asManifest (.table es) with
    | error e => rfl
    | ok m => exact absurd hread (read_of_stray hstray m)
  · rw [toOption_load, htree, Option.bind_some]

/-- A gem and its info module, as a text. -/
def gemText : String :=
  "[[entitlements]]\nclass_name = \"gem\"\ninfo_module = \"gem_info\"\n" ++
    "[[info]]\nmodule_name = \"gem_info\"\nname = \"Gem\"\n"

/-- A manifest of one info module and one entitlement. -/
def gemManifest (gem : Table) : Table :=
  [("entitlements", .list [.table gem]),
    ("info", .list [.table [("module_name", .text "gem_info"), ("name", .text "Gem")]])]

/-- The entitlement, written as short as it can be. -/
def shortGem : Table := [("class_name", .text "gem"), ("info_module", .text "gem_info")]

/-- The gem is the same one with its parent spelled out, in other letter
cases; a misspelled section fails the load. -/
theorem gem_spelling_immaterial :
    catalog? (.table (gemManifest (shortGem ++ [("parent_class", .text "Island_Entitlement")]))) =
        catalog? (.table (gemManifest shortGem)) ∧
      catalog? (.table (("bundle", .list []) :: gemManifest shortGem)) = none ∧
      (load "shop.toml" gemText).toOption = catalog? (.table (gemManifest shortGem)) ∧
      (catalog? (.table (gemManifest shortGem))).isSome = true := by
  have hdefault : Step (.entry .entitlement) shortGem
      (shortGem ++ [("parent_class", .text "island_entitlement")]) :=
    @Step.default _ shortGem [] "parent_class" .parentWord _ rfl (by decide)
  have hletters : Step (.entry .entitlement)
      (shortGem ++ [("parent_class", .text "island_entitlement")])
      (shortGem ++ [("parent_class", .text "Island_Entitlement")]) :=
    @Step.respell _ shortGem [] "parent_class" .parentWord _ _ _ rfl (.letters (by cbv))
  have hrow : ∀ {es fs : Table}, Step (.entry .entitlement) es fs →
      Step .whole (gemManifest es) (gemManifest fs) := fun hstep =>
    @Step.row .whole _ [] _ _ _ [] [] "entitlements" _ rfl hstep
  have hspelled := Relation.EqvGen.trans _ _ _ (.rel _ _ (hrow hdefault)) (.rel _ _ (hrow hletters))
  have hstray : Stray .whole (("bundle", .list []) :: gemManifest shortGem) :=
    .key List.mem_cons_self rfl
  have htree : Toml.parse? gemText = some (.table (gemManifest shortGem)) := by cbv
  exact ⟨(spelling_immaterial _).1 _ hspelled, (spelling_immaterial _).2.1 hstray,
    (spelling_immaterial _).2.2 "shop.toml" gemText htree, by cbv⟩

end Manifest

end Storefront
