import Mathlib.Data.List.Basic
/-!
# Text — cutting a text

A reader takes a text apart from its ends and at the first occurrence of
a character. What was put together with `++` is found again as long as
the part in front does not hold the character that ends it; the lemmas
say so, one for each way to cut. Texts are cut as lists of characters.
-/

namespace Storefront.Text

variable {cs ds : List Char} {stop : Char}

/-- What follows an opening. -/
def after? (opening : String) (cs : List Char) : Option (List Char) :=
  cs.dropPrefix? opening.toList

/-- What stands in front of a closing. -/
def before? (closing : String) (cs : List Char) : Option (List Char) :=
  (cs.reverse.dropPrefix? closing.toList.reverse).map List.reverse

/-- The characters in front of the first `stop`, and those from it on. -/
def upTo (stop : Char) (cs : List Char) : List Char × List Char :=
  (cs.takeWhile (· != stop), cs.dropWhile (· != stop))

@[simp] theorem after?_append (opening : String) (cs : List Char) :
    after? opening (opening.toList ++ cs) = some cs :=
  List.dropPrefix?_append_of_beq cs (beq_self_eq_true _)

@[simp] theorem before?_append (closing : String) (cs : List Char) :
    before? closing (cs ++ closing.toList) = some cs := by
  have h : (closing.toList.reverse ++ cs.reverse).dropPrefix? closing.toList.reverse =
      some cs.reverse :=
    List.dropPrefix?_append_of_beq _ (beq_self_eq_true _)
  simp [before?, h]

/-- **A part that does not hold the character is found whole.** -/
theorem upTo_append (h : stop ∉ cs) : upTo stop (cs ++ stop :: ds) = (cs, stop :: ds) := by
  have hpass : ∀ c ∈ cs, (c != stop) = true := by
    intro c hc
    simpa using fun hcs : c = stop => h (hcs ▸ hc)
  simp [upTo, List.takeWhile_append_of_pos hpass, List.dropWhile_append_of_pos hpass]

/-! ## Texts of one line -/

/-- A text of one line: no newline inside. -/
def SingleLine (s : String) : Prop := '\n' ∉ s.toList

instance (s : String) : Decidable (SingleLine s) := inferInstanceAs (Decidable (_ ∉ _))

@[simp] theorem singleLine_append {s t : String} :
    SingleLine (s ++ t) ↔ SingleLine s ∧ SingleLine t := by
  simp [SingleLine]

/-- **A character that none of some texts holds**, nor what they are joined
by, is not in them joined. -/
theorem notMem_intercalate {c : Char} {ss : List String} {separator : String}
    (hsep : c ∉ separator.toList) (h : ∀ s ∈ ss, c ∉ s.toList) :
    c ∉ (separator.intercalate ss).toList := by
  induction ss with
  | nil => simp
  | cons s ss ih =>
    have hs := h s List.mem_cons_self
    have ih := ih fun t ht => h t (List.mem_cons_of_mem _ ht)
    cases ss with
    | nil => simpa using hs
    | cons t ts =>
      rw [String.intercalate_cons_cons]
      simp only [String.toList_append, List.mem_append, not_or]
      exact ⟨⟨hs, hsep⟩, ih⟩

/-- A list of texts joined by a text of one line is of one line when
each of them is. -/
theorem singleLine_intercalate {ss : List String} (separator : String)
    (hsep : SingleLine separator) (h : ∀ s ∈ ss, SingleLine s) :
    SingleLine (separator.intercalate ss) :=
  notMem_intercalate hsep h

/-- The lines of a text in which every line ends in a newline. -/
def lines (s : String) : List String :=
  ((s.toList.splitOn '\n').map String.ofList).dropLast

end Storefront.Text
