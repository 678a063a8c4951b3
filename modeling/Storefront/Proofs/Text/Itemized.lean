import Storefront.Proofs.Catalog.Gate
import Storefront.Proofs.Text.Styled
/-!
# Text — items behind marks

A report shows items: each ends a line, and marks stand in front of it, the
ends of empty lines, blanks, signs and the words that announce something.
`Shows` says which items a text shows. What a text says line by line when
the marks are left out, its `substance`, is that of its items
(`substance_of_shows`), so two texts that show the same items say the same.
-/

namespace Storefront.Text

/-- The marks that stand in front of an item on its line. -/
def lineMarks : List String := [" ", "✗", "-", "→", "ℹ", "Error:", "Caused by:"]

/-- **The marks**: those of a line, and the end of an empty line. -/
def marks : List String := "\n" :: lineMarks

/-- **A text that shows items**: they stand in it one after the other, each
at the end of a line, and nothing but marks stands between them. -/
inductive Shows : String → List String → Prop
  | nil : Shows "" []
  | mark {m text : String} {items : List String} (hm : m ∈ marks) (h : Shows text items) :
      Shows (m ++ text) items
  | item (i : String) {text : String} {items : List String} (h : Shows text items) :
      Shows (i ++ "\n" ++ text) (i :: items)

/-- A line without the marks in front. -/
def unmarked : List Char → List Char
  | ' ' :: cs => unmarked cs
  | '✗' :: cs => unmarked cs
  | '-' :: cs => unmarked cs
  | '→' :: cs => unmarked cs
  | 'ℹ' :: cs => unmarked cs
  | 'E' :: 'r' :: 'r' :: 'o' :: 'r' :: ':' :: cs => unmarked cs
  | 'C' :: 'a' :: 'u' :: 's' :: 'e' :: 'd' :: ' ' :: 'b' :: 'y' :: ':' :: cs => unmarked cs
  | cs => cs

/-- **What a text says**: its lines without the marks in front, as far as
anything is left of them. -/
def substance (s : String) : List (List Char) :=
  ((s.toList.splitOn '\n').map unmarked).filter (· ≠ [])

variable {s t text m i : String} {items items' : List String}

/-! ## Texts that show items -/

/-- Marks in a row may stand in front. -/
theorem Shows.marks (ms : List String) (hms : ∀ m ∈ ms, m ∈ Text.marks) (h : Shows text items) :
    Shows (String.join ms ++ text) items := by
  induction ms with
  | nil => simpa using h
  | cons m ms ih =>
    rw [String.join_cons, String.append_assoc]
    exact .mark (hms m List.mem_cons_self) (ih fun n hn => hms n (List.mem_cons_of_mem m hn))

/-- **One item on its line**, behind marks. -/
theorem shows_line (front : String) (ms : List String) (hfront : String.join ms = front)
    (hms : ∀ m ∈ ms, m ∈ marks) (i : String) : Shows (front ++ i ++ "\n") [i] := by
  have hitem := (Shows.item i .nil).marks ms hms
  rw [hfront, String.append_empty, ← String.append_assoc] at hitem
  exact hitem

theorem Shows.append (h : Shows s items) (h' : Shows t items') :
    Shows (s ++ t) (items ++ items') := by
  induction h with
  | nil => simpa using h'
  | mark hm _ ih =>
    rw [String.append_assoc]
    exact .mark hm ih
  | item i _ ih =>
    rw [String.append_assoc, List.cons_append]
    exact .item i ih

/-- A line for every item. -/
theorem shows_map {line : String → String} (h : ∀ i, Shows (line i) [i]) (items : List String) :
    Shows (String.join (items.map line)) items := by
  induction items with
  | nil => exact .nil
  | cons i items ih =>
    rw [List.map_cons, String.join_cons]
    exact (h i).append ih

/-- What occurs in a text occurs wherever the text does. -/
theorem Occurs.trans (h : Occurs s t) (h' : Occurs t text) : Occurs s text := by
  obtain ⟨before, after, rfl⟩ := h'
  exact (h.append_left before).append_right after

/-- **Each item ends a line**, character by character. -/
theorem Shows.occurs_line (h : Shows text items) (hi : i ∈ items) : Occurs (i ++ "\n") text := by
  induction h with
  | nil => cases hi
  | mark _ _ ih => exact (ih hi).append_left _
  | item j _ ih =>
    rcases List.mem_cons.1 hi with rfl | hi
    · exact (occurs_self (i ++ "\n")).append_right _
    · exact (ih hi).append_left _

theorem Shows.occurs (h : Shows text items) (hi : i ∈ items) : Occurs i text :=
  ((occurs_self i).append_right "\n").trans (h.occurs_line hi)

/-! ## Escape characters -/

/-- **Nothing but the items brings in escape characters.** -/
theorem Shows.count_escape (h : Shows text items) :
    text.toList.count escape = (items.flatMap String.toList).count escape := by
  induction h with
  | nil => rfl
  | @mark m _ _ hm _ ih =>
    have hmarks : ∀ m ∈ Text.marks, m.toList.count escape = 0 := by decide
    rw [String.toList_append, List.count_append, ih, hmarks m hm, Nat.zero_add]
  | item i _ ih =>
    have hend : "\n".toList.count escape = 0 := by decide
    rw [String.toList_append, String.toList_append, List.count_append, List.count_append, ih, hend,
      List.flatMap_cons, List.count_append, Nat.add_zero]

/-- So there is none if no item has one. -/
theorem Shows.unescaped (h : Shows text items) (hitems : ∀ i ∈ items, Unescaped i) :
    Unescaped text := by
  rw [Unescaped, ← List.count_eq_zero, h.count_escape, List.count_eq_zero, List.mem_flatMap]
  rintro ⟨i, hi, hescape⟩
  exact hitems i hi hescape

/-! ## What a text says -/

/-- A mark of a line is left out, whatever follows it. -/
theorem unmarked_mark (hm : m ∈ lineMarks) (cs : List Char) :
    unmarked (m.toList ++ cs) = unmarked cs := by
  simp only [lineMarks, List.mem_cons, List.not_mem_nil, or_false] at hm
  rcases hm with rfl | rfl | rfl | rfl | rfl | rfl | rfl <;> rfl

/-- Characters of one line lengthen the first line of what they are put in
front of. -/
theorem splitOn_append_of_notMem {front cs first : List Char} {rest : List (List Char)}
    (hfront : '\n' ∉ front) (h : cs.splitOn '\n' = first :: rest) :
    (front ++ cs).splitOn '\n' = (front ++ first) :: rest := by
  induction front with
  | nil => exact h
  | cons c front ih =>
    obtain ⟨hc, hfront⟩ := List.ne_and_not_mem_of_not_mem_cons hfront
    have hbeq : (c == '\n') = false := beq_false_of_ne (Ne.symm hc)
    rw [List.cons_append, List.splitOn_cons_eq_if_modifyHead, hbeq, if_neg Bool.false_ne_true,
      ih hfront]
    rfl

theorem substance_lineMark (hm : m ∈ lineMarks) (t : String) :
    substance (m ++ t) = substance t := by
  have hline : ∀ m ∈ lineMarks, '\n' ∉ m.toList := by decide
  obtain ⟨first, rest, hsplit⟩ := List.exists_cons_of_ne_nil (List.splitOn_ne_nil '\n' t.toList)
  rw [substance, substance, String.toList_append, hsplit,
    splitOn_append_of_notMem (hline m hm) hsplit, List.map_cons, List.map_cons, unmarked_mark hm]

/-- **What is said up to the end of a line**, and what is said after it. -/
theorem substance_line (s t : String) :
    substance (s ++ "\n" ++ t) = substance s ++ substance t := by
  have hchars : (s ++ "\n" ++ t).toList = s.toList ++ '\n' :: t.toList := by simp
  rw [substance, hchars, List.splitOn_append_cons_self, List.map_append, List.filter_append]
  rfl

/-- No mark says anything. -/
theorem substance_mark (hm : m ∈ marks) (t : String) : substance (m ++ t) = substance t := by
  rcases List.mem_cons.1 hm with rfl | hm
  · exact substance_line "" t
  · exact substance_lineMark hm t

/-- **A text says what its items say**, one after the other. -/
theorem substance_of_shows (h : Shows text items) : substance text = items.flatMap substance := by
  induction h with
  | nil => rfl
  | mark hm _ ih => rw [substance_mark hm, ih]
  | item i _ ih => rw [substance_line, ih, List.flatMap_cons]

end Storefront.Text
