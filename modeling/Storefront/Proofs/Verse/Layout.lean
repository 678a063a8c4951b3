import Storefront.Proofs.Text.Cutting
import Storefront.Verse.Layout
/-!
# Verse — taking a layout apart

A document of paragraphs is laid out as lines and written as a text. The
lines are found again when none of them holds a newline, and the
paragraphs when none of them holds an empty line.
-/

namespace Storefront.Verse

open Text

/-- A text of lines, as the list of its characters: every line ends in a
newline. -/
theorem toList_unlines (ls : List String) :
    (unlines ls).toList = ['\n'].intercalate (ls.map String.toList ++ [[]]) := by
  induction ls with
  | nil => simp [unlines]
  | cons l ls ih =>
    have hne : ls.map String.toList ++ [[]] ≠ [] := by simp
    rw [List.map_cons, List.cons_append, List.intercalate_cons_of_ne_nil hne, ← ih]
    simp [unlines]

/-- **The lines of a text are found again.** -/
theorem lines_unlines {ls : List String} (h : ∀ l ∈ ls, SingleLine l) :
    lines (unlines ls) = ls := by
  have hsplit : (unlines ls).toList.splitOn '\n' = ls.map String.toList ++ [[]] := by
    rw [toList_unlines]
    refine List.splitOn_intercalate '\n' (fun cs hcs => ?_) (by simp)
    rcases List.mem_append.1 hcs with hcs | hcs
    · obtain ⟨l, hl, rfl⟩ := List.mem_map.1 hcs
      exact h l hl
    · simp [List.mem_singleton.1 hcs]
  rw [lines, hsplit]
  simp [Function.comp_def]

/-- **The paragraphs of a layout are found again.** -/
theorem splitOn_layout {ps : List Paragraph} (hne : ps ≠ []) (h : ∀ p ∈ ps, "" ∉ p) :
    (layout ps).splitOn "" = ps :=
  List.splitOn_intercalate "" h hne

theorem layout_cons {ps : List Paragraph} (hne : ps ≠ []) (p : Paragraph) :
    layout (p :: ps) = p ++ "" :: layout ps := by
  rw [layout, List.intercalate_cons_of_ne_nil hne, List.append_assoc]
  rfl

theorem layout_singleton (p : Paragraph) : layout [p] = p := by
  simp [layout]

/-- A line of a layout is empty or a line of one of its paragraphs. -/
theorem mem_layout {ps : List Paragraph} {l : String} (h : l ∈ layout ps) :
    l = "" ∨ ∃ p ∈ ps, l ∈ p := by
  induction ps with
  | nil => simp [layout] at h
  | cons p ps ih =>
    rcases eq_or_ne ps [] with rfl | hne
    · exact .inr ⟨p, List.mem_cons_self, by simpa [layout] using h⟩
    · rw [layout, List.intercalate_cons_of_ne_nil hne] at h
      simp only [List.mem_append, List.mem_singleton] at h
      rcases h with (h | h) | h
      · exact .inr ⟨p, List.mem_cons_self, h⟩
      · exact .inl h
      · rcases ih h with rfl | ⟨q, hq, hl⟩
        · exact .inl rfl
        · exact .inr ⟨q, List.mem_cons_of_mem _ hq, hl⟩

/-- **The paragraphs of a document are found again.** -/
theorem splitOn_lines_documentText {ps : List Paragraph} (hne : ps ≠ [])
    (hline : ∀ p ∈ ps, ∀ l ∈ p, SingleLine l) (hfull : ∀ p ∈ ps, "" ∉ p) :
    (lines (documentText ps)).splitOn "" = ps := by
  rw [documentText, lines_unlines, splitOn_layout hne hfull]
  intro l hl
  rcases mem_layout hl with rfl | ⟨p, hp, hlp⟩
  · decide
  · exact hline p hp l hlp

/-! ## Indentation -/

/-- An indented line starts with a blank. -/
theorem head?_indent_succ (n : Nat) (s : String) : (indent (n + 1) s).toList.head? = some ' ' := by
  simp [indent, Nat.mul_add, List.replicate_succ]

@[simp] theorem singleLine_indent {n : Nat} {s : String} :
    SingleLine (indent n s) ↔ SingleLine s := by
  simp [indent, SingleLine]

end Storefront.Verse
