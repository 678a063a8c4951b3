import Mathlib.Data.List.Basic
import Storefront.Csv.Printer
/-!
# CSV — reading records

A reader for records goes through a document once, character by character.
Commas separate fields and the end of a line ends a record, except between
quotation marks, where two of them stand for one. It is strict: a quotation
mark or a carriage return within a field that does not stand between
quotation marks is refused. What is written is read back, whatever
characters the fields hold (`read?_text`).
-/

namespace Storefront.Csv

/-- Where a reader is within a field: at its start, inside it without
quotation marks, between quotation marks, or behind one that closes the
field unless another follows. -/
inductive Place where
  | start
  | plain
  | quoted
  | closed
  deriving DecidableEq, Repr

/-- The records of the characters ahead, where the reader has a part of a
field behind it, and the fields in front of that. -/
def readFrom (place : Place) (part : List Char) (fields : List String) :
    List Char → Option (List (List String))
  | [] =>
    if place = .quoted then none
    else if place = .start && fields.isEmpty then some []
    else some [fields ++ [String.ofList part]]
  | c :: cs =>
    match place, c with
    | .quoted, '"' => readFrom .closed part fields cs
    | .quoted, c => readFrom .quoted (part ++ [c]) fields cs
    | .closed, '"' => readFrom .quoted (part ++ ['"']) fields cs
    | .start, '"' => readFrom .quoted part fields cs
    | _, ',' => readFrom .start [] (fields ++ [String.ofList part]) cs
    | _, '\n' =>
      (readFrom .start [] [] cs).map fun records => (fields ++ [String.ofList part]) :: records
    | .closed, _ => none
    | _, '"' => none
    | _, '\r' => none
    | _, c => readFrom .plain (part ++ [c]) fields cs

/-- The records of a document. -/
def read? (s : String) : Option (List (List String)) := readFrom .start [] [] s.toList

variable {place : Place} {part cs rest : List Char} {fields : List String}

/-! ## Fields -/

/-- A comma ends a field that is not within quotation marks. -/
theorem readFrom_comma (h : place ≠ .quoted) :
    readFrom place part fields (',' :: rest) =
      readFrom .start [] (fields ++ [String.ofList part]) rest := by
  cases place with
  | quoted => exact absurd rfl h
  | _ => rfl

/-- The end of a line ends a record. -/
theorem readFrom_newline (h : place ≠ .quoted) :
    readFrom place part fields ('\n' :: rest) =
      (readFrom .start [] [] rest).map fun records =>
        (fields ++ [String.ofList part]) :: records := by
  cases place with
  | quoted => exact absurd rfl h
  | _ => rfl

/-- **What stands between quotation marks is read back**, by induction on
it. -/
theorem readFrom_doubled (part cs rest : List Char) (fields : List String) :
    readFrom .quoted part fields (doubled cs ++ '"' :: rest) =
      readFrom .closed (part ++ cs) fields rest := by
  induction cs generalizing part with
  | nil =>
    rw [List.append_nil]
    rfl
  | cons c cs ih =>
    by_cases hc : c = '"'
    · subst hc
      have hmore := ih (part ++ ['"'])
      rw [List.append_assoc] at hmore
      exact hmore
    · have hbeq : (c == '"') = false := beq_false_of_ne hc
      have hstep : readFrom .quoted part fields (c :: (doubled cs ++ '"' :: rest)) =
          readFrom .quoted (part ++ [c]) fields (doubled cs ++ '"' :: rest) := by
        simp [readFrom]
      rw [doubled, hbeq, if_neg Bool.false_ne_true, List.cons_append, hstep, ih,
        List.append_assoc]
      rfl

/-- A character that is not special is one more of the field. -/
theorem readFrom_self {c : Char} (hplace : place = .start ∨ place = .plain)
    (hc : isSpecial c = false) :
    readFrom place part fields (c :: rest) = readFrom .plain (part ++ [c]) fields rest := by
  simp only [isSpecial, Bool.or_eq_false_iff, beq_eq_false_iff_ne] at hc
  obtain ⟨⟨⟨hcomma, hquote⟩, hreturn⟩, hnewline⟩ := hc
  rcases hplace with rfl | rfl
  · simp only [readFrom]
    split <;> first | rfl | contradiction
  · simp [readFrom]

/-- Characters that are not special are read back. -/
theorem readFrom_plain (hcs : cs.any isSpecial = false) (part rest : List Char)
    (fields : List String) :
    readFrom .plain part fields (cs ++ rest) = readFrom .plain (part ++ cs) fields rest := by
  induction cs generalizing part with
  | nil => rw [List.nil_append, List.append_nil]
  | cons c cs ih =>
    rw [List.any_cons, Bool.or_eq_false_iff] at hcs
    rw [List.cons_append, readFrom_self (.inr rfl) hcs.1, ih hcs.2, List.append_assoc]
    rfl

/-- **A field is read back** up to its end. -/
theorem exists_readFrom_field (s : String) (fields : List String) (rest : List Char) :
    ∃ place, place ≠ .quoted ∧
      readFrom .start [] fields (field s ++ rest) = readFrom place s.toList fields rest := by
  cases hs : s.toList.any isSpecial with
  | true =>
    have hfield : field s ++ rest = '"' :: (doubled s.toList ++ '"' :: rest) := by
      rw [field, hs, if_pos rfl]
      simp
    refine ⟨.closed, by decide, ?_⟩
    rw [hfield]
    exact readFrom_doubled [] s.toList rest fields
  | false =>
    rw [field, hs, if_neg Bool.false_ne_true]
    cases hchars : s.toList with
    | nil =>
      -- an empty field ends where it starts
      exact ⟨.start, by decide, rfl⟩
    | cons c cs =>
      rw [hchars, List.any_cons, Bool.or_eq_false_iff] at hs
      refine ⟨.plain, by decide, ?_⟩
      rw [List.cons_append, readFrom_self (.inl rfl) hs.1, readFrom_plain hs.2]
      rfl

/-! ## Records -/

theorem readFrom_field_comma (s : String) (fields : List String) (rest : List Char) :
    readFrom .start [] fields (field s ++ ',' :: rest) =
      readFrom .start [] (fields ++ [s]) rest := by
  obtain ⟨place, hplace, hread⟩ := exists_readFrom_field s fields (',' :: rest)
  rw [hread, readFrom_comma hplace, String.ofList_toList]

theorem readFrom_field_newline (s : String) (fields : List String) (rest : List Char) :
    readFrom .start [] fields (field s ++ '\n' :: rest) =
      (readFrom .start [] [] rest).map fun records => (fields ++ [s]) :: records := by
  obtain ⟨place, hplace, hread⟩ := exists_readFrom_field s fields ('\n' :: rest)
  rw [hread, readFrom_newline hplace, String.ofList_toList]

/-- **A record is read back**, by induction on its fields. -/
theorem readFrom_record (s : String) (ss fields : List String) (rest : List Char) :
    readFrom .start [] fields (record (s :: ss) ++ rest) =
      (readFrom .start [] [] rest).map fun records => (fields ++ s :: ss) :: records := by
  induction ss generalizing s fields with
  | nil =>
    have hrecord : record [s] ++ rest = field s ++ '\n' :: rest := by simp [record]
    rw [hrecord, readFrom_field_newline]
  | cons t ts ih =>
    have hrecord : record (s :: t :: ts) ++ rest =
        field s ++ ',' :: (record (t :: ts) ++ rest) := by
      simp [record, List.intercalate]
    rw [hrecord, readFrom_field_comma, ih, List.append_assoc]
    rfl

/-- **What is written is read back**, if every record has a field. -/
theorem read?_text {records : List (List String)} (h : ∀ r ∈ records, r ≠ []) :
    read? (text records) = some records := by
  have hread : readFrom .start [] [] (records.flatMap record) = some records := by
    induction records with
    | nil => rfl
    | cons r records ih =>
      obtain ⟨s, ss, rfl⟩ := List.exists_cons_of_ne_nil (h r List.mem_cons_self)
      rw [List.flatMap_cons, readFrom_record, ih fun q hq => h q (List.mem_cons_of_mem _ hq)]
      rfl
  rw [read?, text, String.toList_ofList, hread]

/-- A comma, quotation marks and the ends of lines within fields. -/
example : read? "a,\"b, \"\"c\"\"\"\n\"d\r\ne\",\n" = some [["a", "b, \"c\""], ["d\r\ne", ""]] := by
  decide

end Storefront.Csv
