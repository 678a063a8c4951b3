import Storefront.Proofs.Catalog.Entries
import Storefront.Proofs.Catalog.Rules
import Storefront.Proofs.Verse.DefinitionsReader
/-!
# Verse — catalogs that can be read back

Texts go into a document as they are stored, so a text with a newline, or
an entitlement with an angle bracket in its name, can be mistaken for
something else. A catalog without such texts is readable, and its
definitions document is read back as exactly its modules
(`readDefinitions?_definitions`).
-/

namespace Storefront

open Verse Text

/-- The texts of an entry that its declaration repeats. -/
def Entry.texts : Entry → List String
  | info m => [m.moduleName, m.name.text, m.description.text, m.shortDescription.text]
  | entitlement e => [e.className, e.parent.identifier, e.infoModule, e.icon]
  | offer o => [o.className, o.infoModule, o.icon, o.entitlementType]
  | bundle b =>
    [b.className, b.name.text, b.description.text, b.shortDescription.text, b.icon] ++
      b.items.map (·.offer)

/-- The names of an entry end where the document ends them: at the angle
bracket behind a class, at the brace behind an instance. -/
def Entry.NamesEnd : Entry → Prop
  | entitlement e => '<' ∉ e.className.toList
  | bundle b => ∀ i ∈ b.items, '\x7b' ∉ i.offer.toList
  | _ => True

instance (e : Entry) : Decidable e.NamesEnd := by
  cases e <;> unfold Entry.NamesEnd <;> infer_instance

/-- **A catalog whose document can be read back**: none of its texts is
broken over lines, and its names end where they seem to. -/
def Catalog.Readable (c : Catalog) : Prop :=
  ∀ e ∈ c.allEntries, (∀ t ∈ e.texts, SingleLine t) ∧ e.NamesEnd

instance (c : Catalog) : Decidable c.Readable :=
  inferInstanceAs (Decidable (∀ e ∈ c.allEntries, _))

/-- **A tidy catalog**: none of its texts is broken over lines, and the
items of its bundles name offers without braces. -/
structure Catalog.Tidy (c : Catalog) : Prop where
  singleLine : ∀ e ∈ c.allEntries, ∀ t ∈ e.texts, SingleLine t
  items : ∀ b ∈ c.bundles, ∀ i ∈ b.items, '\x7b' ∉ i.offer.toList

instance (c : Catalog) : Decidable c.Tidy :=
  decidable_of_iff
    ((∀ e ∈ c.allEntries, ∀ t ∈ e.texts, SingleLine t) ∧
      ∀ b ∈ c.bundles, ∀ i ∈ b.items, '\x7b' ∉ i.offer.toList)
    ⟨fun h => ⟨h.1, h.2⟩, fun h => ⟨h.singleLine, h.items⟩⟩

/-- A tidy catalog is readable if the names of its entitlements are. -/
theorem Catalog.Tidy.readable {c : Catalog} (h : c.Tidy)
    (hnames : ∀ e ∈ c.entitlements, '<' ∉ e.className.toList) : c.Readable := by
  intro e he
  refine ⟨h.singleLine e he, ?_⟩
  cases e with
  | info m => trivial
  | entitlement e => exact hnames e (entitlement_mem_allEntries.1 he)
  | offer o => trivial
  | bundle b => exact h.items b (bundle_mem_allEntries.1 he)

/-- So is one whose entries pass their rules, which see to these names. -/
theorem Catalog.Tidy.readable_of_check {c : Catalog} (h : c.Tidy)
    (hrules : ∀ e ∈ c.allEntries, e.check = .ok ()) : c.Readable := by
  refine h.readable fun e he => ?_
  have hcheck : e.check = .ok () := hrules _ (entitlement_mem_allEntries.2 he)
  exact (entitlement_check_iff.1 hcheck).1.angle_not_mem

namespace Verse

/-! ## Fields -/

/-- The stored texts that a value repeats. -/
def Value.texts : Value → List String
  | literal text => [text]
  | displayText infoModule field => [infoModule, field]
  | verbatim text => [text]
  | classRef name => [name.name]
  | tuples items => items.map (·.1.name)
  | _ => []

theorem singleLine_qualifiedName {q : QualifiedName} (h : SingleLine q.name) :
    SingleLine q.text := by
  have hhome : SingleLine (moduleName q.home ++ ".") := by
    cases q.home <;> decide
  exact singleLine_append.2 ⟨hhome, h⟩

/-- **A value is of one line when the texts it repeats are.** -/
theorem Value.singleLine_text {v : Value} (h : ∀ t ∈ v.texts, SingleLine t) :
    SingleLine v.text := by
  cases v with
  | literal text =>
    have h := h text (by simp [Value.texts])
    simp only [Value.text_literal, singleLine_append]
    exact ⟨⟨by decide, h⟩, by decide⟩
  | displayText infoModule field =>
    have hmodule := h infoModule (by simp [Value.texts])
    have hfield := h field (by simp [Value.texts])
    simp only [Value.text_displayText, moduleName, singleLine_append]
    exact ⟨⟨⟨⟨by decide, by decide⟩, hmodule⟩, by decide⟩, hfield⟩
  | verbatim text => exact h text (by simp [Value.texts])
  | logic value => cases value <;> decide
  | int value => exact singleLine_int64 value
  | classRef name => exact singleLine_qualifiedName (h _ (by simp [Value.texts]))
  | tuples items =>
    have hitems : ∀ s ∈ items.map tupleText, SingleLine s := by
      intro s hs
      obtain ⟨i, hi, rfl⟩ := List.mem_map.1 hs
      have hname : SingleLine i.1.text :=
        singleLine_qualifiedName (h _ (List.mem_map.2 ⟨i, hi, rfl⟩))
      have hcount : SingleLine (toString i.2) := not_mem_uint32 (by decide)
      simp only [tupleText, singleLine_append]
      exact ⟨⟨⟨⟨by decide, hname⟩, by decide⟩, hcount⟩, by decide⟩
    have hjoin := singleLine_intercalate ", " (by decide) hitems
    simp only [Value.text_tuples, singleLine_append]
    exact ⟨⟨by decide, hjoin⟩, by decide⟩
  | price amount =>
    simp only [Value.text_price, singleLine_append]
    exact ⟨⟨by decide, singleLine_int64 amount⟩, by decide⟩

/-- A name, specifiers and a type that a reader of fields takes apart. -/
def Plain (name specifiers type : String) : Prop :=
  ('<' ∉ name.toList ∧ SingleLine name) ∧
    (specifiers.toList.head? = some '<' ∧ ':' ∉ specifiers.toList ∧ SingleLine specifiers) ∧
    ('=' ∉ type.toList ∧ SingleLine type)

instance (name specifiers type : String) : Decidable (Plain name specifiers type) :=
  inferInstanceAs (Decidable (_ ∧ _))

/-- **A field is of one line when the texts in its value are.** -/
theorem Field.singleLine_line {name specifiers type : String} {value : Value}
    (hplain : Plain name specifiers type) (htexts : ∀ t ∈ value.texts, SingleLine t) :
    SingleLine (Field.line ⟨name, specifiers, type, value⟩) := by
  obtain ⟨⟨-, hname⟩, ⟨-, -, hspecifiers⟩, ⟨-, htype⟩⟩ := hplain
  have hvalue := Value.singleLine_text htexts
  simp only [Field.line, singleLine_indent, singleLine_append]
  exact ⟨⟨⟨⟨⟨hname, hspecifiers⟩, by decide⟩, htype⟩, by decide⟩, hvalue⟩

theorem legible_field {name specifiers type : String} {value : Value}
    (hplain : Plain name specifiers type) (htexts : ∀ t ∈ value.texts, SingleLine t)
    (hread : Value.read? name type value.text.toList = some value) :
    Field.Legible ⟨name, specifiers, type, value⟩ := by
  have hline := Field.singleLine_line hplain htexts
  obtain ⟨⟨hname, -⟩, ⟨hhead, hcolon, -⟩, ⟨htype, -⟩⟩ := hplain
  obtain ⟨s, hs⟩ := List.head?_eq_some_iff.1 hhead
  exact ⟨hline, hname, ⟨s, hs, fun h => hcolon (hs ▸ List.mem_cons_of_mem _ h)⟩, htype, hread⟩

theorem legible_iconField {icon : String} (h : SingleLine icon) : (iconField icon).Legible :=
  legible_field (by decide) (by simpa [Value.texts] using h) (Value.read?_verbatim _ _)

theorem legible_priceField (p : Price) : (priceField p).Legible :=
  legible_field (by decide) (by simp [Value.texts]) (Value.read?_price _ _)

theorem legible_delegatedFields {infoModule : String} (h : SingleLine infoModule) :
    ∀ f ∈ delegatedFields infoModule, f.Legible := by
  have hdisplay : ∀ name, Plain name "<override>" "message" →
      (Field.overriding name "message" (.displayText infoModule name)).Legible := by
    intro name hplain
    refine legible_field hplain (fun t ht => ?_) (Value.read?_displayText _ _)
    have ht : t = infoModule ∨ t = name := by simpa [Value.texts] using ht
    rcases ht with rfl | rfl
    · exact h
    · exact hplain.1.2
  simp only [delegatedFields, List.forall_mem_map, List.forall_mem_cons, List.not_mem_nil,
    false_implies, implies_true, and_true]
  exact ⟨hdisplay _ (by decide), hdisplay _ (by decide), hdisplay _ (by decide)⟩

/-- A message between quotes, whatever its specifiers. -/
theorem legible_literal {name specifiers text : String} (hplain : Plain name specifiers "message")
    (h : SingleLine text) : Field.Legible ⟨name, specifiers, "message", .literal text⟩ :=
  legible_field hplain (by simpa [Value.texts] using h) (Value.read?_literal _ _)

end Verse

/-! ## Entries -/

/-- **The fields of an entry are legible** when its texts are of one line
and, in a bundle, its items name offers without braces. -/
theorem Entry.legible_fields {e : Entry} (h : ∀ t ∈ e.texts, SingleLine t)
    (hitems : ∀ b, e = .bundle b → ∀ i ∈ b.items, '\x7b' ∉ i.offer.toList) :
    ∀ f ∈ e.declaration.fields, f.Legible := by
  cases e with
  | info m =>
    simp only [Entry.texts, List.forall_mem_cons] at h
    obtain ⟨-, hname, hdescription, hshort, -⟩ := h
    simp only [Entry.declaration, InfoModule.declaration, Declaration.fields,
      List.forall_mem_cons, List.not_mem_nil, false_implies, implies_true, and_true]
    exact ⟨legible_literal (by decide) hname, legible_literal (by decide) hdescription,
      legible_literal (by decide) hshort⟩
  | entitlement e =>
    simp only [Entry.texts, List.forall_mem_cons] at h
    obtain ⟨-, -, hmodule, hicon, -⟩ := h
    refine List.forall_mem_append.2 ⟨legible_delegatedFields hmodule, ?_⟩
    simp only [List.forall_mem_cons, List.not_mem_nil, false_implies, implies_true, and_true]
    exact ⟨legible_iconField hicon,
      legible_field (by decide) (by simp [Value.texts]) (Value.read?_logic _ _),
      legible_field (by decide) (by simp [Value.texts]) (Value.read?_int _ _),
      legible_field (by decide) (by simp [Value.texts]) (Value.read?_logic _ _)⟩
  | offer o =>
    simp only [Entry.texts, List.forall_mem_cons] at h
    obtain ⟨-, hmodule, hicon, htype, -⟩ := h
    refine List.forall_mem_append.2 ⟨legible_delegatedFields hmodule, ?_⟩
    simp only [List.forall_mem_cons, List.not_mem_nil, false_implies, implies_true, and_true]
    exact ⟨legible_iconField hicon,
      legible_field (by decide) (by simpa [Value.texts] using htype) (Value.read?_classRef _ _),
      legible_priceField o.price⟩
  | bundle b =>
    simp only [Entry.texts, List.forall_mem_append, List.forall_mem_cons] at h
    obtain ⟨⟨-, hname, hdescription, hshort, hicon, -⟩, hoffers⟩ := h
    simp only [Entry.declaration, Bundle.declaration, Declaration.fields,
      List.forall_mem_cons, List.not_mem_nil, false_implies, implies_true, and_true]
    refine ⟨legible_literal (by decide) hname, legible_literal (by decide) hdescription,
      legible_literal (by decide) hshort, legible_iconField hicon, ?_, legible_priceField b.price⟩
    refine legible_field (by decide) (by simpa [Value.texts] using hoffers)
      (Value.read?_tuples _ ?_)
    simpa using hitems b rfl

/-- **The declaration of a readable entry is legible.** -/
theorem Entry.legible_declaration {e : Entry} (h : ∀ t ∈ e.texts, SingleLine t)
    (hname : e.NamesEnd) : e.declaration.Legible e.kind := by
  have hfields := e.legible_fields h fun b hb => by
    subst hb
    exact hname
  cases e with
  | info m => exact legible_fieldModule (h _ (by simp [Entry.texts])) hfields
  | entitlement e =>
    exact legible_entitlementClass hname (h _ (by simp [Entry.texts]))
      (h _ (by simp [Entry.texts])) hfields
  | offer o => exact legible_class rfl (h _ (by simp [Entry.texts])) hfields
  | bundle b => exact legible_class rfl (h _ (by simp [Entry.texts])) hfields

namespace Catalog

variable {c : Catalog}

/-- A base class that a document declares is a built-in one. -/
theorem eq_of_mem_baseClasses {name : String} (h : name ∈ c.baseClasses) :
    name = "island_entitlement" ∨ name = "cosmetic_entitlement" := by
  rw [baseClasses, List.mem_eraseDups] at h
  obtain ⟨e, -, he⟩ := List.mem_filterMap.1 h
  cases hp : e.parent with
  | island => exact .inl (by simpa [hp, Parent.builtIn?, Parent.identifier] using he.symm)
  | cosmetic => exact .inr (by simpa [hp, Parent.builtIn?, Parent.identifier] using he.symm)
  | custom name => simp [hp, Parent.builtIn?] at he

/-- What stands in front of the entries of a kind is a group of base
classes, if anything. -/
theorem eq_of_mem_preamble {k : Kind} {d : Declaration} (h : d ∈ c.preamble k) :
    k = .entitlement ∧ c.baseClasses ≠ [] ∧ d = .abstractClasses c.baseClasses := by
  cases k with
  | entitlement =>
    cases hbases : c.baseClasses with
    | nil => simp [preamble, hbases] at h
    | cons name names => exact ⟨rfl, List.cons_ne_nil _ _, by simpa [preamble, hbases] using h⟩
  | info => simp [preamble] at h
  | offer => simp [preamble] at h
  | bundle => simp [preamble] at h

theorem legible_preamble (c : Catalog) (k : Kind) : ∀ d ∈ c.preamble k, d.Legible k := by
  intro d hd
  obtain ⟨rfl, hne, rfl⟩ := eq_of_mem_preamble hd
  refine legible_abstractClasses hne fun n hn => ?_
  rcases eq_of_mem_baseClasses hn with rfl | rfl <;> decide

/-- The module of a kind, where there is one. -/
theorem block?_eq_some {k : Kind} {b : Block} (h : c.block? k = some b) :
    b = ⟨k, c.preamble k ++ (c.entries k).map Entry.declaration⟩ ∧ c.entries k ≠ [] := by
  rw [block?] at h
  split at h
  · cases h
  · next hne => exact ⟨(Option.some.inj h).symm, hne⟩

/-- **A module of the document** is that of a kind with entries. -/
theorem exists_of_mem_blocks {b : Block} (h : b ∈ c.blocks) :
    ∃ k, b = ⟨k, c.preamble k ++ (c.entries k).map Entry.declaration⟩ ∧ c.entries k ≠ [] := by
  obtain ⟨k, -, hk⟩ := List.mem_filterMap.1 h
  exact ⟨k, block?_eq_some hk⟩

/-- **A document has one module for a kind with entries**, and none for
the others. -/
theorem filter_blocks (c : Catalog) (k : Kind) :
    c.blocks.filter (fun b => b.home == k) = (c.block? k).toList := by
  have hhome : (fun l => (c.block? l).filter fun b => b.home == k) =
      fun l => if l = k then c.block? l else none := by
    funext l
    cases hl : c.block? l with
    | none => simp
    | some b =>
      obtain ⟨rfl, -⟩ := block?_eq_some hl
      by_cases hlk : l = k <;> simp [hlk]
  rw [blocks, List.filter_filterMap, hhome, Kind.filterMap_all]

/-- **The modules of a readable catalog are legible.** -/
theorem legible_blocks (h : c.Readable) : ∀ b ∈ c.blocks, b.Legible := by
  intro b hb
  obtain ⟨k, rfl, hne⟩ := exists_of_mem_blocks hb
  refine ⟨by simpa using fun _ => hne, fun d hd => ?_⟩
  rcases List.mem_append.1 hd with hd | hd
  · exact legible_preamble c k d hd
  · obtain ⟨e, he, rfl⟩ := List.mem_map.1 hd
    obtain ⟨htexts, hname⟩ := h e (mem_allEntries he)
    exact kind_of_mem_entries he ▸ e.legible_declaration htexts hname

/-- **The definitions document of a readable catalog is read back** as
the modules it was written from. -/
theorem readDefinitions?_definitions (h : c.Readable) :
    readDefinitions? (definitions c) = some c.blocks :=
  readDefinitions?_documentText (legible_blocks h)

end Catalog

end Storefront
