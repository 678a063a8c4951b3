import Storefront.Proofs.Verse.Called
import Storefront.Proofs.Verse.Determined
/-!
# Verse — the layout rules

Every document starts with the two lines of its banner and ends in
exactly one newline, and its empty lines stand one by one between its
paragraphs. This holds of all paragraphs that have lines, none of them
empty or broken (`laidOut_documentText`); the paragraphs of the three
documents are counted from the catalog and from what is selected
(`layout_rules`).
-/

namespace Storefront.Verse

open Text

/-- **The layout rules of a text**: how it ends and starts, and that its
empty lines stand apart from each other and are so many. -/
structure LaidOut (banner : Paragraph) (separators : Nat) (text : String) : Prop where
  ends : ∃ cs c, text.toList = cs ++ [c, '\n'] ∧ c ≠ '\n'
  starts : (lines text).take 2 = banner
  apart : (lines text).IsChain fun l m => l ≠ "" ∨ m ≠ ""
  count : (lines text).count "" = separators

/-- **A solid paragraph**: it has lines, and none of them is empty or
broken. -/
def Solid (p : Paragraph) : Prop := p ≠ [] ∧ ∀ l ∈ p, SingleLine l ∧ l ≠ ""

/-! ## Solid paragraphs -/

section Layout

variable {p : Paragraph} {ps : List Paragraph}

theorem Solid.empty_not_mem (h : Solid p) : "" ∉ p :=
  fun hmem => (h.2 "" hmem).2 rfl

/-- **The empty lines of a layout are the separators.** -/
theorem count_layout (h : ∀ q ∈ p :: ps, Solid q) : (layout (p :: ps)).count "" = ps.length := by
  have hp : p.count "" = 0 := List.count_eq_zero.2 (h p List.mem_cons_self).empty_not_mem
  induction ps generalizing p with
  | nil => rw [layout_singleton, hp, List.length_nil]
  | cons q qs ih =>
    have hq := h q (List.mem_cons_of_mem _ List.mem_cons_self)
    have ih := ih (fun r hr => h r (List.mem_cons_of_mem _ hr))
      (List.count_eq_zero.2 hq.empty_not_mem)
    rw [layout_cons (List.cons_ne_nil q qs), List.count_append, hp, List.count_cons_self, ih,
      List.length_cons, Nat.zero_add]

/-- A layout starts with the first line of its first paragraph. -/
theorem head?_layout (h : Solid p) (ps : List Paragraph) : (layout (p :: ps)).head? = p.head? := by
  rcases eq_or_ne ps [] with rfl | hne
  · rw [layout_singleton]
  · rw [layout_cons hne, List.head?_append_of_ne_nil _ h.1]

/-- **No two empty lines of a layout are neighbours**, since an empty line
stands in front of a solid paragraph. -/
theorem isChain_layout (h : ∀ q ∈ p :: ps, Solid q) :
    (layout (p :: ps)).IsChain fun l m => l ≠ "" ∨ m ≠ "" := by
  have hchain : ∀ q, Solid q → q.IsChain fun l m => l ≠ "" ∨ m ≠ "" := by
    intro q hq
    have hlines : ∀ l ∈ q, ∀ m ∈ q, l ≠ "" ∨ m ≠ "" := fun l hl m _ => .inl (hq.2 l hl).2
    exact (List.pairwise_of_forall_mem_list hlines).isChain
  induction ps generalizing p with
  | nil =>
    rw [layout_singleton]
    exact hchain p (h p List.mem_cons_self)
  | cons q qs ih =>
    have hp := h p List.mem_cons_self
    have hq := h q (List.mem_cons_of_mem _ List.mem_cons_self)
    have hrest := ih fun r hr => h r (List.mem_cons_of_mem _ hr)
    rw [layout_cons (List.cons_ne_nil q qs)]
    -- the separator stands between the last line of `p` and the first line of `q`
    refine List.isChain_append.2 ⟨hchain p hp, hrest.cons fun m hm => ?_, fun l hl _ _ => ?_⟩
    · rw [head?_layout hq] at hm
      exact .inr (hq.2 m (List.mem_of_head? hm)).2
    · exact .inl (hp.2 l (List.mem_of_getLast? hl)).2

/-- A layout ends in a line that is neither empty nor broken. -/
theorem exists_layout_eq_append (h : ∀ q ∈ p :: ps, Solid q) :
    ∃ ls l, layout (p :: ps) = ls ++ [l] ∧ SingleLine l ∧ l ≠ "" := by
  induction ps generalizing p with
  | nil =>
    obtain ⟨hne, hlines⟩ := h p List.mem_cons_self
    refine ⟨p.dropLast, p.getLast hne, ?_, hlines _ (List.getLast_mem hne)⟩
    rw [layout_singleton, List.dropLast_append_getLast]
  | cons q qs ih =>
    obtain ⟨ls, l, hlayout, hl⟩ := ih fun r hr => h r (List.mem_cons_of_mem _ hr)
    refine ⟨p ++ "" :: ls, l, ?_, hl⟩
    rw [layout_cons (List.cons_ne_nil q qs), hlayout, List.append_assoc, List.cons_append]

/-- A text of lines ends in exactly one newline if its last line is not
empty. -/
theorem exists_unlines_eq {ls : List String} {l : String} (hline : SingleLine l) (hne : l ≠ "") :
    ∃ cs c, (unlines (ls ++ [l])).toList = cs ++ [c, '\n'] ∧ c ≠ '\n' := by
  have hl : l.toList ≠ [] := by simpa using hne
  have htext : (unlines (ls ++ [l])).toList = (unlines ls).toList ++ l.toList ++ ['\n'] := by
    simp [unlines]
  refine ⟨(unlines ls).toList ++ l.toList.dropLast, l.toList.getLast hl, ?_, fun hlast => ?_⟩
  · conv_lhs => rw [htext, ← List.dropLast_append_getLast hl]
    simp
  · exact hline (hlast ▸ List.getLast_mem hl)

/-- **A document of solid paragraphs obeys the layout rules.** -/
theorem laidOut_documentText {banner : Paragraph} (hlength : banner.length = 2)
    (h : ∀ q ∈ banner :: ps, Solid q) :
    LaidOut banner ps.length (documentText (banner :: ps)) := by
  have hlines : lines (documentText (banner :: ps)) = layout (banner :: ps) := by
    refine lines_unlines fun l hl => ?_
    rcases mem_layout hl with rfl | ⟨q, hq, hlq⟩
    · decide
    · exact ((h q hq).2 l hlq).1
  refine ⟨?_, ?_, ?_, ?_⟩
  · obtain ⟨ls, l, hlayout, hl, hne⟩ := exists_layout_eq_append h
    rw [documentText, hlayout]
    exact exists_unlines_eq hl hne
  · rw [hlines]
    rcases eq_or_ne ps [] with rfl | hne
    · rw [layout_singleton, ← hlength, List.take_length]
    · rw [layout_cons hne, ← hlength, List.take_left]
  · rw [hlines]
    exact isChain_layout h
  · rw [hlines]
    exact count_layout h

end Layout

end Storefront.Verse

namespace Storefront

open Verse Text

/-! ## The paragraphs of the call-site documents -/

/-- The paragraph of an unbroken stanza is solid. -/
theorem Verse.Stanza.solid_lines {t : Stanza} (h : t.Unbroken) : Solid t.lines := by
  refine ⟨?_, t.singleLine_lines h⟩
  cases t <;> simp [Stanza.lines, buyLines, attempt]

/-- **A call-site document of unbroken stanzas obeys the layout rules**,
with a separator for each stanza. -/
theorem Verse.laidOut_calls {banner : Paragraph} {stanzas : List Stanza}
    (hlength : banner.length = 2) (hbanner : ∀ l ∈ banner, SingleLine l ∧ l ≠ "")
    (h : ∀ t ∈ stanzas, t.Unbroken) :
    LaidOut banner stanzas.length (documentText (banner :: stanzas.map Stanza.lines)) := by
  have hsolid : ∀ p ∈ banner :: stanzas.map Stanza.lines, Solid p := by
    intro p hp
    rcases List.mem_cons.1 hp with rfl | hp
    · exact ⟨List.ne_nil_of_length_eq_add_one hlength, hbanner⟩
    · obtain ⟨t, ht, rfl⟩ := List.mem_map.1 hp
      exact Stanza.solid_lines (h t ht)
  have hlaid := laidOut_documentText hlength hsolid
  rwa [List.length_map] at hlaid

theorem Verse.length_callSection {α : Type} (title : String) (stanza : α → Stanza) (xs : List α) :
    (callSection title stanza xs).length = if xs = [] then 0 else 1 + xs.length := by
  by_cases hxs : xs = []
  · simp [callSection, hxs]
  · simp [callSection, hxs, Nat.add_comm]

/-! ## The paragraphs of the definitions document -/

/-- **The fields of an entry are of one line when its texts are.** -/
theorem Entry.singleLine_fields {e : Entry} (h : ∀ t ∈ e.texts, SingleLine t) :
    ∀ f ∈ e.declaration.fields, SingleLine f.line := by
  cases e with
  | info m =>
    simp only [Entry.texts, List.forall_mem_cons] at h
    obtain ⟨-, hname, hdescription, hshort, -⟩ := h
    simp only [Entry.declaration, InfoModule.declaration, Declaration.fields,
      List.forall_mem_cons, List.not_mem_nil, false_implies, implies_true, and_true]
    exact ⟨(legible_literal (by decide) hname).singleLine,
      (legible_literal (by decide) hdescription).singleLine,
      (legible_literal (by decide) hshort).singleLine⟩
  | entitlement e =>
    simp only [Entry.texts, List.forall_mem_cons] at h
    obtain ⟨-, -, hmodule, hicon, -⟩ := h
    refine List.forall_mem_append.2
      ⟨fun f hf => (legible_delegatedFields hmodule f hf).singleLine, ?_⟩
    simp only [List.forall_mem_cons, List.not_mem_nil, false_implies, implies_true, and_true]
    exact ⟨(legible_iconField hicon).singleLine,
      Field.singleLine_line (by decide) (by simp [Value.texts]),
      Field.singleLine_line (by decide) (by simp [Value.texts]),
      Field.singleLine_line (by decide) (by simp [Value.texts])⟩
  | offer o =>
    simp only [Entry.texts, List.forall_mem_cons] at h
    obtain ⟨-, hmodule, hicon, htype, -⟩ := h
    refine List.forall_mem_append.2
      ⟨fun f hf => (legible_delegatedFields hmodule f hf).singleLine, ?_⟩
    simp only [List.forall_mem_cons, List.not_mem_nil, false_implies, implies_true, and_true]
    exact ⟨(legible_iconField hicon).singleLine,
      Field.singleLine_line (by decide) (by simpa [Value.texts] using htype),
      (legible_priceField o.price).singleLine⟩
  | bundle b =>
    simp only [Entry.texts, List.forall_mem_append, List.forall_mem_cons] at h
    obtain ⟨⟨-, hname, hdescription, hshort, hicon, -⟩, hitems⟩ := h
    simp only [Entry.declaration, Bundle.declaration, Declaration.fields,
      List.forall_mem_cons, List.not_mem_nil, false_implies, implies_true, and_true]
    exact ⟨(legible_literal (by decide) hname).singleLine,
      (legible_literal (by decide) hdescription).singleLine,
      (legible_literal (by decide) hshort).singleLine, (legible_iconField hicon).singleLine,
      Field.singleLine_line (by decide) (by simpa [Value.texts] using hitems),
      (legible_priceField b.price).singleLine⟩

/-- Indented lines are not empty. -/
theorem Verse.solid_of_indented {p : Paragraph} (hne : p ≠ [])
    (h : ∀ l ∈ p, SingleLine l ∧ l.toList.head? = some ' ') : Solid p := by
  refine ⟨hne, fun l hl => ⟨(h l hl).1, fun hempty => ?_⟩⟩
  have hhead := (h l hl).2
  simp [hempty] at hhead

theorem Verse.solid_concreteClass {name base : String} {fields : List Field}
    (hname : SingleLine name) (hbase : SingleLine base) (h : ∀ f ∈ fields, SingleLine f.line) :
    Solid (Declaration.concreteClass name base fields).lines := by
  have hfirst : SingleLine (name ++ classClosing base) :=
    singleLine_append.2 ⟨hname, singleLine_classClosing hbase⟩
  rw [lines_concreteClass]
  exact solid_of_indented (List.cons_ne_nil _ _) (lines_cons_fields hfirst h)

/-- **The paragraph of an entry is solid when its texts are of one line.** -/
theorem Entry.solid_lines {e : Entry} (h : ∀ t ∈ e.texts, SingleLine t) :
    Solid e.declaration.lines := by
  have hfields := e.singleLine_fields h
  cases e with
  | info m =>
    have hname : SingleLine (m.moduleName ++ "<public> := module:") :=
      singleLine_append.2 ⟨h _ (by simp [Entry.texts]), by decide⟩
    exact solid_of_indented (List.cons_ne_nil _ _) (lines_cons_fields hname hfields)
  | entitlement e =>
    exact solid_concreteClass (h _ (by simp [Entry.texts])) (h _ (by simp [Entry.texts])) hfields
  | offer o => exact solid_concreteClass (h _ (by simp [Entry.texts])) (by decide) hfields
  | bundle b => exact solid_concreteClass (h _ (by simp [Entry.texts])) (by decide) hfields

/-- The paragraphs of a module are solid if its declarations are. -/
theorem Verse.Block.solid_paragraphs {b : Block} (h : ∀ d ∈ b.declarations, Solid d.lines) :
    ∀ p ∈ b.paragraphs, Solid p := by
  intro p hp
  refine ⟨?_, fun l hl => ?_⟩
  · obtain ⟨home, ds⟩ := b
    cases ds with
    | nil => simp_all [Block.paragraphs]
    | cons d ds =>
      have hp : p = Block.header ⟨home, d :: ds⟩ :: d.lines ∨ ∃ e ∈ ds, e.lines = p := by
        simpa [Block.paragraphs] using hp
      rcases hp with rfl | ⟨e, he, rfl⟩
      · exact List.cons_ne_nil _ _
      · exact (h e (List.mem_cons_of_mem _ he)).1
  · rcases mem_paragraphs hp hl with rfl | ⟨d, hd, hld⟩
    · exact ⟨singleLine_header b, header_ne_empty b⟩
    · exact (h d hd).2 l hld

/-- A module has a paragraph for each declaration. -/
theorem Verse.Block.length_paragraphs {b : Block} (h : b.declarations ≠ []) :
    b.paragraphs.length = b.declarations.length := by
  obtain ⟨home, ds⟩ := b
  cases ds with
  | nil => exact absurd rfl h
  | cons d ds => simp [Block.paragraphs]

namespace Catalog

variable {c : Catalog}

/-- The group of base classes is solid. -/
theorem solid_of_mem_preamble {k : Kind} {d : Declaration} (h : d ∈ c.preamble k) :
    Solid d.lines := by
  have hlegible := c.legible_preamble k d h
  refine solid_of_indented ?_ fun l hl => ⟨hlegible.singleLine l hl, hlegible.indented l hl⟩
  intro hnil
  -- nothing is read from no lines
  have hread := hlegible.read
  simp [hnil, Declaration.read?] at hread

/-- **The paragraphs of a definitions document are solid.** -/
theorem solid_definitionsParagraphs (h : ∀ e ∈ c.allEntries, ∀ t ∈ e.texts, SingleLine t) :
    ∀ p ∈ definitionsParagraphs c, Solid p := by
  intro p hp
  rcases List.mem_cons.1 hp with rfl | hp
  · exact ⟨by decide, by decide⟩
  · obtain ⟨b, hb, hp⟩ := List.mem_flatMap.1 hp
    obtain ⟨k, rfl, -⟩ := exists_of_mem_blocks hb
    refine Block.solid_paragraphs (fun d hd => ?_) p hp
    rcases List.mem_append.1 hd with hd | hd
    · exact solid_of_mem_preamble hd
    · obtain ⟨e, he, rfl⟩ := List.mem_map.1 hd
      exact Entry.solid_lines (h e (mem_allEntries he))

/-- The module of a kind has a paragraph for each entry, and one for the
base classes if there are any. -/
theorem length_paragraphs_block? (c : Catalog) (k : Kind) :
    ((c.block? k).toList.flatMap Block.paragraphs).length =
      (c.preamble k).length + c.count k := by
  have hdeclarations := congrArg List.length (c.declarations_eq k)
  -- the declarations of a kind are those of its module, be it omitted or not
  rw [List.length_append, List.length_map, length_entries, declarations, filter_blocks]
    at hdeclarations
  rw [← hdeclarations]
  cases hk : c.block? k with
  | none => rfl
  | some b =>
    obtain ⟨rfl, hne⟩ := block?_eq_some hk
    rw [Option.toList_some, List.flatMap_singleton, List.flatMap_singleton]
    exact Block.length_paragraphs (by simpa using fun _ => hne)

/-- Base classes are in use when some entitlement has a built-in parent. -/
theorem baseClasses_eq_nil_iff :
    c.baseClasses = [] ↔ ¬ ∃ e ∈ c.entitlements, e.parent.isCustom = false := by
  have hcustom : ∀ p : Parent, p.builtIn? = none ↔ ¬ p.isCustom = false := by
    intro p
    cases p <;> simp [Parent.builtIn?, Parent.isCustom]
  simp only [baseClasses, List.eq_nil_iff_forall_not_mem, List.mem_eraseDups]
  rw [← List.eq_nil_iff_forall_not_mem, List.filterMap_eq_nil_iff]
  simp only [hcustom, not_exists, not_and]

/-- **The number of paragraphs behind the banner** of a definitions
document. -/
theorem length_blocks_paragraphs (c : Catalog) :
    (c.blocks.flatMap Block.paragraphs).length =
      c.infos.length + c.entitlements.length + c.offers.length + c.bundles.length +
        if ∃ e ∈ c.entitlements, e.parent.isCustom = false then 1 else 0 := by
  have hpreamble : (c.preamble .entitlement).length =
      if ∃ e ∈ c.entitlements, e.parent.isCustom = false then 1 else 0 := by
    by_cases hbases : c.baseClasses = []
    · rw [if_neg (baseClasses_eq_nil_iff.1 hbases)]
      simp [preamble, hbases]
    · rw [if_pos (not_not.1 fun hno => hbases (baseClasses_eq_nil_iff.2 hno))]
      obtain ⟨name, names, hnames⟩ := List.exists_cons_of_ne_nil hbases
      simp [preamble, hnames]
  have hkinds : c.blocks.flatMap Block.paragraphs =
      Kind.all.flatMap fun k => (c.block? k).toList.flatMap Block.paragraphs := by
    rw [blocks, List.filterMap_eq_flatMap_toList, List.flatMap_assoc]
  rw [hkinds, ← hpreamble]
  simp only [Kind.all, List.flatMap_cons, List.flatMap_nil, List.append_nil, List.length_append,
    length_paragraphs_block?, count, preamble, List.length_nil]
  omega

/-! ## The three documents -/

theorem laidOut_definitions (h : ∀ e ∈ c.allEntries, ∀ t ∈ e.texts, SingleLine t) :
    LaidOut definitionsBanner
      (c.infos.length + c.entitlements.length + c.offers.length + c.bundles.length +
        if ∃ e ∈ c.entitlements, e.parent.isCustom = false then 1 else 0) (definitions c) := by
  rw [← length_blocks_paragraphs]
  exact laidOut_documentText rfl (solid_definitionsParagraphs h)

theorem laidOut_purchaseCalls {s : Selection}
    (hoffers : ∀ o ∈ c.offers, s.contains o.className = true → SingleLine o.className)
    (hbundles : ∀ b ∈ c.bundles, s.contains b.className = true → SingleLine b.className) :
    LaidOut purchaseBanner
      (if c.soldOffers s = [] ∧ c.soldBundles s = [] then 1
        else (if c.soldOffers s = [] then 0 else 1 + (c.soldOffers s).length) +
          (if c.soldBundles s = [] then 0 else 1 + (c.soldBundles s).length))
      (purchaseCalls c s) := by
  have hlaid := laidOut_calls rfl singleLine_purchaseBanner (unbroken_sold hoffers hbundles)
  have hlength : (purchaseDocument (c.soldOffers s) (c.soldBundles s)).length =
      if c.soldOffers s = [] ∧ c.soldBundles s = [] then 1
        else (if c.soldOffers s = [] then 0 else 1 + (c.soldOffers s).length) +
          (if c.soldBundles s = [] then 0 else 1 + (c.soldBundles s).length) := by
    rw [purchaseDocument]
    split
    · rfl
    · rw [List.length_append, length_callSection, length_callSection]
  rwa [← purchaseCalls_eq, hlength] at hlaid

theorem laidOut_consumeCalls {s : Selection} (quantity : UInt32)
    (h : ∀ e ∈ c.entitlements, e.consumable = true → s.contains e.className = true →
      SingleLine e.className) :
    LaidOut consumeBanner (max 1 (c.consumed s).length) (consumeCalls c s quantity) := by
  have hlaid := laidOut_calls rfl singleLine_consumeBanner (unbroken_consumed h quantity)
  have hlength : (consumeDocument (c.consumed s) quantity).length =
      max 1 (c.consumed s).length := by
    rw [consumeDocument]
    split
    · next hnil => simp [hnil]
    · next hne =>
      have hpos := List.length_pos_iff.2 hne
      rw [List.length_map, Nat.max_eq_right hpos]
  rwa [← consumeCalls_eq, hlength] at hlaid

/-- **The layout rules of every document.** Where no text that goes into
it holds a newline, each document starts with its banner, ends in exactly
one newline, and has no two empty lines in a row. Its empty lines are
counted: one for each entry of the catalog, and one more if some
entitlement has a built-in parent; one for each selected offer and bundle
and one for the heading of each section, or one in all if nothing is
selected; one for each selected consumable entitlement, or one in all. -/
theorem layout_rules (c : Catalog) (s : Selection) (quantity : UInt32) :
    ((∀ e ∈ c.allEntries, ∀ t ∈ e.texts, SingleLine t) →
      LaidOut definitionsBanner
        (c.infos.length + c.entitlements.length + c.offers.length + c.bundles.length +
          if ∃ e ∈ c.entitlements, e.parent.isCustom = false then 1 else 0) (definitions c)) ∧
    ((∀ o ∈ c.offers, s.contains o.className = true → SingleLine o.className) →
      (∀ b ∈ c.bundles, s.contains b.className = true → SingleLine b.className) →
      LaidOut purchaseBanner
        (if c.soldOffers s = [] ∧ c.soldBundles s = [] then 1
          else (if c.soldOffers s = [] then 0 else 1 + (c.soldOffers s).length) +
            (if c.soldBundles s = [] then 0 else 1 + (c.soldBundles s).length))
        (purchaseCalls c s)) ∧
    ((∀ e ∈ c.entitlements, e.consumable = true → s.contains e.className = true →
        SingleLine e.className) →
      LaidOut consumeBanner (max 1 (c.consumed s).length) (consumeCalls c s quantity)) :=
  ⟨laidOut_definitions, laidOut_purchaseCalls, laidOut_consumeCalls quantity⟩

/-- The documents of a shop with both sorts of parents and one entry to
consume, for everything and for nothing selected. -/
theorem layout_swordShop :
    LaidOut definitionsBanner 6 (definitions swordShop) ∧
      LaidOut purchaseBanner 4 (purchaseCalls swordShop (.all swordShop)) ∧
      LaidOut purchaseBanner 1 (purchaseCalls swordShop (.ofList [])) ∧
      LaidOut consumeBanner 1 (consumeCalls swordShop (.all swordShop) 3) := by
  obtain ⟨hdefinitions, hpurchase, hconsume⟩ := layout_rules swordShop (.all swordShop) 3
  obtain ⟨-, hnothing, -⟩ := layout_rules swordShop (.ofList []) 3
  exact ⟨hdefinitions (by decide), hpurchase (by decide) (by decide),
    hnothing (by decide) (by decide), hconsume (by decide)⟩

end Catalog

end Storefront
