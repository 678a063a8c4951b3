import Mathlib.Data.List.Basic
/-!
# Association lists — values by key

Tables, disks and the values of options are lists of keys with values, of
which the first value of a key counts. An entry of another key does not
matter, and a key whose entries are replaced by one at the end has the
value of that one.
-/

namespace Storefront

variable {α β γ : Type} [BEq α] [LawfulBEq α] {front back es : List (α × β)} {k n : α} {v : β}

theorem lookup_insert_self :
    (front ++ (k, v) :: back).lookup k = (front.lookup k).or (some v) := by
  rw [List.lookup_append, List.lookup_cons_self]

/-- An entry of another key does not matter. -/
theorem lookup_insert_of_ne (h : n ≠ k) :
    (front ++ (k, v) :: back).lookup n = (front ++ back).lookup n := by
  rw [List.lookup_append, List.lookup_append, List.lookup_cons, beq_false_of_ne h]

theorem lookup_eq_none_of_notMem (h : k ∉ es.map (·.1)) : es.lookup k = none := by
  refine List.lookup_eq_none_iff.2 fun e he => bne_iff_ne.2 ?_
  rintro rfl
  exact h (List.mem_map_of_mem he)

omit [LawfulBEq α] in
theorem lookup_map (es : List (α × β)) (f : β → γ) (k : α) :
    (es.map fun e => (e.1, f e.2)).lookup k = (es.lookup k).map f := by
  induction es with
  | nil => rfl
  | cons e es ih =>
    rw [List.map_cons, List.lookup_cons, List.lookup_cons]
    split <;> first | rfl | exact ih

theorem lookup_filter_ne [DecidableEq α] (es : List (α × β)) (k n : α) :
    (es.filter fun e => e.1 != k).lookup n = if n = k then none else es.lookup n := by
  induction es with
  | nil => simp
  | cons e es ih =>
    obtain ⟨m, v⟩ := e
    by_cases hm : m = k
    · subst hm
      by_cases hn : n = m
      · simpa [hn] using ih
      · simpa [hn, List.lookup_cons, beq_false_of_ne hn] using ih
    · by_cases hn : n = m
      · subst hn
        simp [hm]
      · simpa [hm, List.lookup_cons, beq_false_of_ne hn] using ih

/-- **A key that is given a value** has that value, and every other key
what it had. -/
theorem lookup_replace [DecidableEq α] (es : List (α × β)) (k n : α) (v : β) :
    ((es.filter fun e => e.1 != k) ++ [(k, v)]).lookup n =
      if n = k then some v else es.lookup n := by
  rw [List.lookup_append, lookup_filter_ne]
  by_cases hn : n = k
  · simp [hn]
  · simp [hn, List.lookup_cons, beq_false_of_ne hn]

end Storefront
