import Storefront.Proofs.Verse.DeclarationReader
import Storefront.Verse.Definitions
/-!
# Verse — reading a definitions document

A reader for whole definitions documents: the text is cut into
paragraphs, a line that opens a module starts the paragraphs of a kind,
and each paragraph is read as a declaration of that kind. The main
statement (`readDefinitions?_documentText`) says that a document is read
back as the blocks it was written from, if each of their declarations is
legible. Nothing here depends on what the declarations are about.
-/

namespace Storefront.Verse

open Text

/-- The kind whose module a line opens. -/
def opened? (line : String) : Option Kind :=
  Kind.all.find? fun k => Block.header ⟨k, []⟩ == line

/-- Paragraphs sorted into the modules they stand in, after those that
stand in front of the first module. -/
def sections : List Paragraph → List Paragraph × List (Kind × List Paragraph)
  | [] => ([], [])
  | p :: ps =>
    let (loose, done) := sections ps
    match p with
    | [] => (p :: loose, done)
    | first :: rest =>
      match opened? first with
      | some k => ([], (k, rest :: loose) :: done)
      | none => (p :: loose, done)

/-- The module that the paragraphs of a kind write. -/
def Block.read? (part : Kind × List Paragraph) : Option Block := do
  return ⟨part.1, ← part.2.mapM (Declaration.read? part.1)⟩

/-- The modules that a definitions document writes. -/
def readDefinitions? (text : String) : Option (List Block) :=
  match (lines text).splitOn "" with
  | [] => none
  | banner :: body =>
    if banner = definitionsBanner then
      match sections body with
      | ([], parts) => parts.mapM Block.read?
      | _ => none
    else none

/-! ## Whole documents -/

/-- **A module that is understood**: it is not empty, and all it declares
is legible. -/
structure Block.Legible (b : Block) : Prop where
  declarations_ne_nil : b.declarations ≠ []
  declarations : ∀ d ∈ b.declarations, d.Legible b.home

/-- The line that opens a module depends on its kind alone. -/
theorem Block.header_eq (b : Block) : b.header = moduleName b.home ++ "<public> := module:" :=
  rfl

theorem opened?_header (b : Block) : opened? b.header = some b.home := by
  obtain ⟨home, ds⟩ := b
  cases home <;> simp [opened?, Kind.all, Block.header_eq, moduleName]

/-- The line that opens a module is not indented. -/
theorem head?_header (b : Block) : b.header.toList.head? ≠ some ' ' := by
  obtain ⟨home, ds⟩ := b
  cases home <;> simp [Block.header_eq, moduleName]

theorem opened?_indented {l : String} (h : l.toList.head? = some ' ') : opened? l = none := by
  rw [opened?, List.find?_eq_none]
  intro k _ hk
  have hl : Block.header ⟨k, []⟩ = l := by simpa using hk
  exact head?_header ⟨k, []⟩ (hl ▸ h)

theorem singleLine_header (b : Block) : SingleLine b.header := by
  obtain ⟨home, ds⟩ := b
  cases home <;> simp [Block.header_eq, moduleName, SingleLine]

theorem header_ne_empty (b : Block) : b.header ≠ "" := by
  obtain ⟨home, ds⟩ := b
  cases home <;> simp [Block.header_eq, moduleName, ← String.toList_inj]

/-- Paragraphs that open no module stay with the module before them. -/
theorem sections_append {ps qs : List Paragraph} {done : List (Kind × List Paragraph)}
    (hps : ∀ p ∈ ps, ∀ l ∈ p, l.toList.head? = some ' ') (hqs : sections qs = ([], done)) :
    sections (ps ++ qs) = (ps, done) := by
  induction ps with
  | nil => exact hqs
  | cons p ps ih =>
    have ih := ih fun q hq => hps q (List.mem_cons_of_mem _ hq)
    cases p with
    | nil => simp [sections, ih]
    | cons first rest =>
      have hfirst := opened?_indented (hps _ List.mem_cons_self first List.mem_cons_self)
      simp [sections, ih, hfirst]

/-- Every line of a declaration is indented. -/
theorem Declaration.head?_of_mem_lines {d : Declaration} {l : String} (h : l ∈ d.lines) :
    l.toList.head? = some ' ' := by
  have hfields : ∀ fields : List Field, ∀ m ∈ fields.map Field.line, m.toList.head? = some ' ' := by
    intro fields m hm
    obtain ⟨f, -, rfl⟩ := List.mem_map.1 hm
    exact head?_indent_succ 1 _
  cases d with
  | fieldModule name fields =>
    rcases List.mem_cons.1 h with rfl | h
    · exact head?_indent_succ 0 _
    · exact hfields fields l h
  | abstractClasses names =>
    obtain ⟨n, -, rfl⟩ := List.mem_map.1 h
    exact head?_indent_succ 0 _
  | concreteClass name base fields =>
    rcases List.mem_cons.1 h with rfl | h
    · exact head?_indent_succ 0 _
    · exact hfields fields l h

/-- The paragraphs of a module, without its opening line. -/
def Block.part (b : Block) : Kind × List Paragraph := (b.home, b.declarations.map Declaration.lines)

/-- **The paragraphs of modules are sorted back into them.** -/
theorem sections_paragraphs {bs : List Block} (h : ∀ b ∈ bs, b.declarations ≠ []) :
    sections (bs.flatMap Block.paragraphs) = ([], bs.map Block.part) := by
  induction bs with
  | nil => rfl
  | cons b bs ih =>
    have ih := ih fun c hc => h c (List.mem_cons_of_mem _ hc)
    obtain ⟨d, ds, hds⟩ := List.exists_cons_of_ne_nil (h b List.mem_cons_self)
    have hparagraphs : b.paragraphs = (b.header :: d.lines) :: ds.map Declaration.lines := by
      simp [Block.paragraphs, hds]
    have hrest : sections (ds.map Declaration.lines ++ bs.flatMap Block.paragraphs) =
        (ds.map Declaration.lines, bs.map Block.part) := by
      refine sections_append (fun p hp l hl => ?_) ih
      obtain ⟨e, he, rfl⟩ := List.mem_map.1 hp
      exact Declaration.head?_of_mem_lines hl
    rw [List.flatMap_cons, hparagraphs, List.cons_append, sections, hrest]
    simp [opened?_header, Block.part, hds]

theorem Block.read?_lines {b : Block} (h : b.Legible) :
    Block.read? b.part = some b := by
  have hread : (b.declarations.map Declaration.lines).mapM (Declaration.read? b.home) =
      some b.declarations :=
    mapM_map_eq_some fun d hd => (h.declarations d hd).read
  simp [Block.read?, Block.part, hread]

/-- A line of a module opens it or stands in one of its declarations. -/
theorem mem_paragraphs {b : Block} {p : Paragraph} {l : String} (hp : p ∈ b.paragraphs)
    (hl : l ∈ p) : l = b.header ∨ ∃ d ∈ b.declarations, l ∈ d.lines := by
  obtain ⟨home, ds⟩ := b
  cases ds with
  | nil =>
    have hp : p = [Block.header ⟨home, []⟩] := by simpa [Block.paragraphs] using hp
    exact .inl (by simpa [hp] using hl)
  | cons d ds =>
    have hp : p = Block.header ⟨home, d :: ds⟩ :: d.lines ∨ ∃ e ∈ ds, e.lines = p := by
      simpa [Block.paragraphs] using hp
    rcases hp with rfl | ⟨e, he, rfl⟩
    · rcases List.mem_cons.1 hl with rfl | hl
      · exact .inl rfl
      · exact .inr ⟨d, List.mem_cons_self, hl⟩
    · exact .inr ⟨e, List.mem_cons_of_mem _ he, hl⟩

/-- The lines of a document of legible modules are neither empty nor
broken. -/
theorem singleLine_of_mem_document {bs : List Block} (h : ∀ b ∈ bs, b.Legible) {p : Paragraph}
    (hp : p ∈ definitionsBanner :: bs.flatMap Block.paragraphs) {l : String} (hl : l ∈ p) :
    SingleLine l ∧ l ≠ "" := by
  rcases List.mem_cons.1 hp with rfl | hp
  · have hbanner : ∀ l ∈ definitionsBanner, SingleLine l ∧ l ≠ "" := by decide
    exact hbanner l hl
  · obtain ⟨b, hb, hpb⟩ := List.mem_flatMap.1 hp
    rcases mem_paragraphs hpb hl with rfl | ⟨d, hd, hld⟩
    · exact ⟨singleLine_header b, header_ne_empty b⟩
    · have hdl := (h b hb).declarations d hd
      refine ⟨hdl.singleLine l hld, fun h => ?_⟩
      have hhead := hdl.indented l hld
      simp [h] at hhead

/-- **A definitions document is read back.** The modules are found again,
with every declaration in its place. -/
theorem readDefinitions?_documentText {bs : List Block} (h : ∀ b ∈ bs, b.Legible) :
    readDefinitions? (documentText (definitionsBanner :: bs.flatMap Block.paragraphs)) =
      some bs := by
  have hsplit : (lines (documentText (definitionsBanner :: bs.flatMap
      Block.paragraphs))).splitOn "" = definitionsBanner :: bs.flatMap Block.paragraphs :=
    splitOn_lines_documentText (by simp)
      (fun p hp l hl => (singleLine_of_mem_document h hp hl).1)
      fun p hp hempty => (singleLine_of_mem_document h hp hempty).2 rfl
  have hread : (bs.map Block.part).mapM Block.read? = some bs :=
    mapM_map_eq_some fun b hb => Block.read?_lines (h b hb)
  have hsections := sections_paragraphs fun b hb => (h b hb).declarations_ne_nil
  simp only [readDefinitions?, hsplit, ↓reduceIte, hsections, hread]

end Storefront.Verse
