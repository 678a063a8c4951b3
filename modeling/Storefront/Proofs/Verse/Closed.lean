import Storefront.Catalog.Integrity
import Storefront.Proofs.Verse.ReadBack
/-!
# Verse — references in the definitions document

A document is closed when every name it uses from a module is declared
there: a display text by a module of texts, an entitlement or an offer by
a concrete class. Both sides are read off the text. The integrity report
of a readable catalog is free of dangling references just when its
document is closed, and the built-in base classes are declared whatever
the report says (`dangling_free_iff_closed`).
-/

namespace Storefront

namespace Verse

/-- The names that a declaration in the module of a kind offers to
others: that of a module of texts, or that of a concrete class. -/
def Declaration.provides (home : Kind) (d : Declaration) : List String :=
  match home, d with
  | .info, fieldModule name _ => [name]
  | .info, _ => []
  | _, concreteClass name _ _ => [name]
  | _, _ => []

/-- The qualified names that a value uses. -/
def Value.mentions : Value → List QualifiedName
  | displayText infoModule _ => [⟨.info, infoModule⟩]
  | classRef name => [name]
  | tuples items => items.map (·.1)
  | _ => []

/-- The qualified names that a declaration uses. -/
def Declaration.mentions : Declaration → List QualifiedName
  | fieldModule _ fields => fields.flatMap fun f => f.value.mentions
  | abstractClasses _ => []
  | concreteClass _ _ fields => fields.flatMap fun f => f.value.mentions

/-- Whether some module of a document declares a name for others. -/
def Declares (bs : List Block) (q : QualifiedName) : Prop :=
  ∃ b ∈ bs, b.home = q.home ∧ ∃ d ∈ b.declarations, q.name ∈ d.provides q.home

/-- **A closed text**: it reads as a definitions document, and every name
that a declaration uses is declared in the module it is taken from. -/
def ClosedText (text : String) : Prop :=
  ∃ bs, readDefinitions? text = some bs ∧
    ∀ b ∈ bs, ∀ d ∈ b.declarations, ∀ q ∈ d.mentions, Declares bs q

/-- **A text that declares a base class**: its one module of entitlements
opens with a group of abstract classes that names the base class exactly
once, and nothing but concrete classes follows. -/
def DeclaresBase (text base : String) : Prop :=
  ∃ bs names classes, readDefinitions? text = some bs ∧
    bs.filter (fun b => b.home == .entitlement) =
      [⟨.entitlement, .abstractClasses names :: classes⟩] ∧
    names.count base = 1 ∧ ∀ d ∈ classes, ∃ name parent fields,
      d = .concreteClass name parent fields

end Verse

open Verse

/-! ## Mentions are references -/

/-- The name that a reference uses. -/
def Reference.qualified (r : Reference) : QualifiedName := ⟨r.expected, r.target⟩

/-- **A declaration uses the names that its entry refers to.** An info
module is used for three texts and referred to once, so this is about
membership. -/
theorem Entry.mem_mentions {e : Entry} {q : QualifiedName} :
    q ∈ e.declaration.mentions ↔ ∃ r ∈ e.references, r.qualified = q := by
  cases e with
  | info m => simp [Entry.declaration, InfoModule.declaration, Declaration.mentions,
      Field.localized, Value.mentions, Entry.references]
  | entitlement e =>
    simp [Entry.declaration, Entitlement.declaration, Declaration.mentions, delegatedFields,
      iconField, Field.overriding, Value.mentions, Entry.references, Entitlement.references,
      Reference.qualified, eq_comm]
  | offer o =>
    simp [Entry.declaration, Offer.declaration, Declaration.mentions, delegatedFields,
      iconField, priceField, Field.overriding, Value.mentions, Entry.references,
      Offer.references, Reference.qualified, eq_comm]
  | bundle b =>
    simp [Entry.declaration, Bundle.declaration, Declaration.mentions, iconField, priceField,
      Field.overriding, Value.mentions, Entry.references, Bundle.references,
      Reference.qualified, eq_comm]

/-- The declaration of an entry offers its key. -/
theorem Entry.provides_declaration (e : Entry) :
    e.declaration.provides e.kind = [e.key] := by
  cases e <;> rfl

namespace Catalog

variable {c : Catalog}

/-- The preamble of a module offers nothing and uses nothing. -/
theorem provides_of_mem_preamble {k : Kind} {d : Declaration} (h : d ∈ c.preamble k) :
    d.provides k = [] ∧ d.mentions = [] := by
  obtain ⟨rfl, -, rfl⟩ := eq_of_mem_preamble h
  exact ⟨rfl, rfl⟩

/-- The declarations of the modules are the preambles and those of the
entries. -/
theorem mem_blocks_iff {k : Kind} {d : Declaration} :
    (∃ b ∈ c.blocks, b.home = k ∧ d ∈ b.declarations) ↔
      c.entries k ≠ [] ∧ (d ∈ c.preamble k ∨ ∃ e ∈ c.entries k, e.declaration = d) := by
  constructor
  · rintro ⟨b, hb, rfl, hd⟩
    obtain ⟨k, rfl, hne⟩ := exists_of_mem_blocks hb
    exact ⟨hne, by simpa using hd⟩
  · rintro ⟨hne, hd⟩
    have hblock : c.block? k = some ⟨k, c.preamble k ++ (c.entries k).map Entry.declaration⟩ := by
      rw [block?]
      split
      · next hnil => exact absurd hnil hne
      · rfl
    refine ⟨_, List.mem_filterMap.2 ⟨k, by cases k <;> simp [Kind.all], hblock⟩, rfl, ?_⟩
    simpa using hd

/-- **A document declares for others exactly the keys of its catalog.** -/
theorem declares_blocks {q : QualifiedName} :
    Declares c.blocks q ↔ q.name ∈ c.keys q.home := by
  have hregroup : Declares c.blocks q ↔
      ∃ d, (∃ b ∈ c.blocks, b.home = q.home ∧ d ∈ b.declarations) ∧
        q.name ∈ d.provides q.home := by
    constructor
    · rintro ⟨b, hb, hhome, d, hd, hname⟩
      exact ⟨d, ⟨b, hb, hhome, hd⟩, hname⟩
    · rintro ⟨d, ⟨b, hb, hhome, hd⟩, hname⟩
      exact ⟨b, hb, hhome, d, hd, hname⟩
  simp only [hregroup, mem_blocks_iff, keys, List.mem_map]
  constructor
  · rintro ⟨d, ⟨-, hd | ⟨e, he, rfl⟩⟩, hname⟩
    · simp [(provides_of_mem_preamble hd).1] at hname
    · rw [← kind_of_mem_entries he, e.provides_declaration] at hname
      exact ⟨e, he, (List.mem_singleton.1 hname).symm⟩
  · rintro ⟨e, he, hkey⟩
    refine ⟨e.declaration, ⟨List.ne_nil_of_mem he, .inr ⟨e, he, rfl⟩⟩, ?_⟩
    rw [← kind_of_mem_entries he, e.provides_declaration]
    simp [hkey]

/-- What the declarations of a document use is what the catalog refers
to. -/
theorem mem_mentions_blocks {q : QualifiedName} :
    (∃ b ∈ c.blocks, ∃ d ∈ b.declarations, q ∈ d.mentions) ↔
      ∃ r ∈ c.references, r.qualified = q := by
  constructor
  · rintro ⟨b, hb, d, hd, hq⟩
    obtain ⟨-, hd | ⟨e, he, rfl⟩⟩ := mem_blocks_iff.1 ⟨b, hb, rfl, hd⟩
    · simp [(provides_of_mem_preamble hd).2] at hq
    · obtain ⟨r, hr, hrq⟩ := Entry.mem_mentions.1 hq
      exact ⟨r, List.mem_flatMap.2 ⟨e, mem_allEntries he, hr⟩, hrq⟩
  · rintro ⟨r, hr, hrq⟩
    obtain ⟨e, he, hre⟩ := List.mem_flatMap.1 hr
    obtain ⟨k, -, hek⟩ := List.mem_flatMap.1 he
    obtain ⟨b, hb, -, hd⟩ := mem_blocks_iff.2
      ⟨List.ne_nil_of_mem hek, .inr ⟨e, hek, rfl⟩⟩
    exact ⟨b, hb, e.declaration, hd, Entry.mem_mentions.2 ⟨r, hre, hrq⟩⟩

/-- The report has no dangling reference just when every reference has a
target. -/
theorem dangling_not_mem_issues :
    (∀ r, Issue.dangling r ∉ c.issues) ↔ ∀ r ∈ c.references, c.resolves r = true := by
  have hmem : ∀ r, Issue.dangling r ∈ c.issues ↔ r ∈ c.references ∧ c.resolves r = false := by
    intro r
    simp [issues, danglingIssues, duplicateIssues, emptyBundleIssues]
  simp only [hmem, not_and, Bool.not_eq_false]

/-- **The document of a readable catalog is closed** just when every
reference has a target. -/
theorem closedText_definitions (h : c.Readable) :
    ClosedText (definitions c) ↔ ∀ r ∈ c.references, c.resolves r = true := by
  have hread := readDefinitions?_definitions h
  constructor
  · rintro ⟨bs, hbs, hclosed⟩ r hr
    obtain rfl : bs = c.blocks := Option.some.inj (hbs.symm.trans hread)
    obtain ⟨b, hb, d, hd, hq⟩ := mem_mentions_blocks.2 ⟨r, hr, rfl⟩
    have hkey := declares_blocks.1 (hclosed b hb d hd _ hq)
    simpa [resolves, Reference.qualified] using hkey
  · intro hresolves
    refine ⟨c.blocks, hread, fun b hb d hd q hq => declares_blocks.2 ?_⟩
    obtain ⟨r, hr, rfl⟩ := mem_mentions_blocks.1 ⟨b, hb, d, hd, hq⟩
    simpa [resolves, Reference.qualified] using hresolves r hr

/-- **The built-in parent of an entitlement is declared**, in whatever
state the references are. -/
theorem declaresBase_definitions (h : c.Readable) {e : Entitlement} (he : e ∈ c.entitlements)
    {base : String} (hbase : e.parent.builtIn? = some base) :
    DeclaresBase (definitions c) base := by
  have hmem : base ∈ c.baseClasses := by
    rw [baseClasses, List.mem_eraseDups]
    exact List.mem_filterMap.2 ⟨e, he, hbase⟩
  have hcount : c.baseClasses.count base = 1 :=
    List.count_eq_one_of_mem (nodup_eraseDups _) hmem
  have hpreamble : c.preamble .entitlement = [.abstractClasses c.baseClasses] := by
    obtain ⟨name, names, hnames⟩ := List.exists_cons_of_ne_nil (List.ne_nil_of_mem hmem)
    simp [preamble, hnames]
  have hne : c.entries .entitlement ≠ [] := by
    simpa [entries] using List.ne_nil_of_mem he
  have hblock : c.block? .entitlement = some ⟨.entitlement, .abstractClasses c.baseClasses ::
      (c.entries .entitlement).map Entry.declaration⟩ := by
    rw [block?, hpreamble]
    split
    · next hnil => exact absurd hnil hne
    · rfl
  refine ⟨c.blocks, c.baseClasses, (c.entries .entitlement).map Entry.declaration,
    readDefinitions?_definitions h, ?_, hcount, fun d hd => ?_⟩
  · rw [filter_blocks, hblock]
    rfl
  · obtain ⟨f, hf, rfl⟩ := List.mem_map.1 hd
    obtain ⟨g, -, rfl⟩ := List.mem_map.1 hf
    exact ⟨_, _, _, rfl⟩

/-- **The report and the text agree about references**, and the built-in
base classes are declared whatever the report says. -/
theorem dangling_free_iff_closed (h : c.Readable) :
    ((∀ r, Issue.dangling r ∉ c.issues) ↔ ClosedText (definitions c)) ∧
      ∀ e ∈ c.entitlements, ∀ base, e.parent.builtIn? = some base →
        DeclaresBase (definitions c) base :=
  ⟨by rw [dangling_not_mem_issues, closedText_definitions h],
    fun _ he _ hbase => declaresBase_definitions h he hbase⟩

/-- A shop with a reference that leads nowhere: a relic without its info
module, though an entitlement has the module's name. -/
def lostShop : Catalog where
  infos := [⟨"gem_info", .plain "Gem", .plain "", .plain ""⟩]
  entitlements :=
    [{ className := "relic", infoModule := "lost_info" },
      { className := "lost_info", parent := .cosmetic, infoModule := "gem_info" }]

/-- Its document is not closed, and it declares both base classes. -/
theorem not_closed_lostShop :
    lostShop.Readable ∧ ¬ ClosedText (definitions lostShop) ∧
      DeclaresBase (definitions lostShop) "island_entitlement" ∧
      DeclaresBase (definitions lostShop) "cosmetic_entitlement" := by
  have hread : lostShop.Readable := by decide
  obtain ⟨hclosed, hbases⟩ := dangling_free_iff_closed hread
  refine ⟨hread, fun h => ?_, hbases _ (List.mem_cons_self) _ rfl,
    hbases _ (List.mem_cons_of_mem _ List.mem_cons_self) _ rfl⟩
  exact hclosed.2 h ⟨.entitlement, "relic", .infoModule, "lost_info", .info⟩ (by decide)

end Catalog

end Storefront
