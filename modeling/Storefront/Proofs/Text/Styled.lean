import Storefront.Proofs.Text.Cutting
import Storefront.Text.Style
/-!
# Text — texts without their styles

A style is put on a text by escape sequences in front of it and behind it.
`Bares` says what is left of a styled text when they are taken out again.
Where nothing is left that could be taken for the start of a sequence,
`withoutStyles` finds them in the text alone (`withoutStyles_of_bares`).
-/

namespace Storefront.Text

/-- The character that starts an escape sequence. -/
def escape : Char := '\x1b'

/-- A text in which no escape sequence starts. -/
def Unescaped (s : String) : Prop := escape ∉ s.toList

instance (s : String) : Decidable (Unescaped s) := inferInstanceAs (Decidable (_ ∉ _))

/-- The escape sequence of a style, by its number. -/
def sequenceOf (number : String) : String := "\x1b[" ++ number ++ "m"

/-- **A text without its styles**: what is left of a styled text when the
escape sequences that style it are taken out, and no others. -/
inductive Bares : String → String → Prop
  | refl (s : String) : Bares s s
  | style (number : String) (h : number.toList.all Char.isDigit = true) :
      Bares (sequenceOf number) ""
  | append {styled styled' bare bare' : String} (h : Bares styled bare)
      (h' : Bares styled' bare') : Bares (styled ++ styled') (bare ++ bare')

/-- What is left of characters without escape sequences, each of which
ends with the letter m; `inside` says whether one is open. -/
def dropStyles (inside : Bool) : List Char → List Char
  | [] => []
  | c :: cs =>
    if inside then dropStyles (c != 'm') cs
    else if c == escape then dropStyles true cs
    else c :: dropStyles false cs

/-- A text without any escape sequence. -/
def withoutStyles (s : String) : String := String.ofList (dropStyles false s.toList)

variable {s t styled bare : String}

@[simp] theorem unescaped_append : Unescaped (s ++ t) ↔ Unescaped s ∧ Unescaped t := by
  simp [Unescaped]

theorem Unescaped.append (hs : Unescaped s) (ht : Unescaped t) : Unescaped (s ++ t) :=
  unescaped_append.2 ⟨hs, ht⟩

theorem unescaped_ofList {cs : List Char} (h : escape ∉ cs) : Unescaped (String.ofList cs) := by
  rwa [Unescaped, String.toList_ofList]

section Framed

variable {front back : List Char}

theorem Unescaped.after (h : Unescaped s) (hfront : escape ∉ front) :
    Unescaped (String.ofList front ++ s) :=
  (unescaped_ofList hfront).append h

theorem Unescaped.before (h : Unescaped s) (hback : escape ∉ back) :
    Unescaped (s ++ String.ofList back) :=
  h.append (unescaped_ofList hback)

/-- A text between fixed words. -/
theorem Unescaped.between (h : Unescaped s) (hfront : escape ∉ front) (hback : escape ∉ back) :
    Unescaped (String.ofList front ++ s ++ String.ofList back) :=
  (h.after hfront).before hback

end Framed

/-! ## The styles in use -/

theorem bares_colored (c : Color) (s : String) : Bares (colored c s) s := by
  have hcode : c.code.toList.all Char.isDigit = true := by cases c <;> decide
  have hreset : "39".toList.all Char.isDigit = true := by decide
  have hstyled := ((Bares.style c.code hcode).append (.refl s)).append (.style "39" hreset)
  simpa [colored, sequenceOf, String.append_assoc] using hstyled

/-- A text in a weight has the sequence that starts the weight in front and
the one that ends all styles behind. -/
theorem bares_weight (number : String) (h : number.toList.all Char.isDigit = true)
    (hs : Bares styled bare) : Bares (sequenceOf number ++ styled ++ sequenceOf "0") bare := by
  have hstyled := ((Bares.style number h).append hs).append (.style "0" (by decide))
  simpa using hstyled

theorem bares_bold (h : Bares styled bare) : Bares (bold styled) bare :=
  bares_weight "1" (by decide) h

theorem bares_dimmed (h : Bares styled bare) : Bares (dimmed styled) bare :=
  bares_weight "2" (by decide) h

/-- Texts in a row lose their styles one by one. -/
theorem bares_join {styled bare : List String} (h : List.Forall₂ Bares styled bare) :
    Bares (String.join styled) (String.join bare) := by
  induction h with
  | nil => exact .refl _
  | cons hfirst _ ih =>
    rw [String.join_cons, String.join_cons]
    exact hfirst.append ih

/-! ## Finding the styles again -/

theorem dropStyles_append {cs : List Char} (h : escape ∉ cs) (rest : List Char) :
    dropStyles false (cs ++ rest) = cs ++ dropStyles false rest := by
  induction cs with
  | nil => rfl
  | cons c cs ih =>
    obtain ⟨hc, hcs⟩ := List.ne_and_not_mem_of_not_mem_cons h
    have hbeq : (c == escape) = false := beq_false_of_ne (Ne.symm hc)
    rw [List.cons_append, dropStyles, hbeq, if_neg Bool.false_ne_true,
      if_neg Bool.false_ne_true, ih hcs, List.cons_append]

/-- Inside a sequence everything up to its last letter is dropped. -/
theorem dropStyles_number {cs : List Char} (h : ∀ c ∈ cs, c.isDigit = true) (rest : List Char) :
    dropStyles true (cs ++ 'm' :: rest) = dropStyles false rest := by
  induction cs with
  | nil => rfl
  | cons c cs ih =>
    have hc : (c != 'm') = true := by
      rw [bne_iff_ne]
      rintro rfl
      exact absurd (h 'm' List.mem_cons_self) (by decide)
    rw [List.cons_append, dropStyles, if_pos rfl, hc]
    exact ih fun d hd => h d (List.mem_cons_of_mem c hd)

/-- **The sequences are found**, whatever follows, if what is left holds no
other; by induction on how the text was styled. -/
theorem dropStyles_of_bares (h : Bares styled bare) (hbare : Unescaped bare)
    (rest : List Char) :
    dropStyles false (styled.toList ++ rest) = bare.toList ++ dropStyles false rest := by
  induction h generalizing rest with
  | refl s => exact dropStyles_append hbare rest
  | style number hnumber =>
    have hchars : (sequenceOf number).toList ++ rest =
        escape :: '[' :: (number.toList ++ 'm' :: rest) := by
      simp [sequenceOf, escape]
    have hopen : dropStyles false (escape :: '[' :: (number.toList ++ 'm' :: rest)) =
        dropStyles true (number.toList ++ 'm' :: rest) := rfl
    rw [hchars, hopen, dropStyles_number (List.all_eq_true.1 hnumber)]
    rfl
  | append _ _ ih ih' =>
    obtain ⟨hfirst, hsecond⟩ := unescaped_append.1 hbare
    rw [String.toList_append, String.toList_append, List.append_assoc, ih hfirst, ih' hsecond,
      List.append_assoc]

theorem withoutStyles_of_bares (h : Bares styled bare) (hbare : Unescaped bare) :
    withoutStyles styled = bare := by
  have hdrop := dropStyles_of_bares h hbare []
  rw [List.append_nil] at hdrop
  rw [withoutStyles, hdrop]
  simp [dropStyles]

/-- A red word in bold. -/
example : withoutStyles (bold (colored .red "Error:") ++ " none") = "Error: none" := by decide

end Storefront.Text
