import Mathlib.Data.List.InsertIdx
import Storefront.Proofs.Catalog.Entries
/-!
# Catalog — what an edit does

An edit puts an entry into the sequence of its kind or takes one out of a
sequence. When it is refused, the reason is read off the entry, the index
and the length of that sequence; when it is not, it changes that sequence
and no other (`Stores`, `TakesOut`).
-/

namespace Storefront.Catalog

variable {c d : Catalog} {e : Entry} {k : Kind} {index : Option Nat} {i : Nat}
variable {reason : CatalogError}

/-! ## The sequences after an edit -/

/-- A stored entry goes into the sequence of its kind, and the other
sequences are left alone. -/
theorem entries_store (c : Catalog) (index : Option Nat) (e : Entry) (k : Kind) :
    (c.store index e).entries k =
      if e.kind = k then place index e (c.entries k) else c.entries k := by
  cases e <;> cases k <;> cases index <;> simp [store, place, entries, Entry.kind, List.map_set]

/-- An entry is erased from the sequence of a kind, and the other
sequences are left alone. -/
theorem entries_erase (c : Catalog) (k : Kind) (i : Nat) (l : Kind) :
    (c.erase k i).entries l = if k = l then (c.entries l).eraseIdx i else c.entries l := by
  cases k <;> cases l <;> simp [erase, entries, List.eraseIdx_map]

/-- Storing an entry brings in no other. -/
theorem eq_or_mem_of_mem_store {f : Entry} (h : f ∈ (c.store index e).allEntries) :
    f = e ∨ f ∈ c.allEntries := by
  rw [mem_allEntries_iff, entries_store] at h
  split at h
  · cases index with
    | none =>
      rcases List.mem_append.1 h with h | h
      · exact .inr (mem_allEntries h)
      · exact .inl (List.mem_singleton.1 h)
    | some i => exact (List.mem_or_eq_of_mem_set h).symm.imp_right mem_allEntries
  · exact .inr (mem_allEntries h)

/-- Erasing an entry brings in none. -/
theorem mem_of_mem_erase {f : Entry} (h : f ∈ (c.erase k i).allEntries) : f ∈ c.allEntries := by
  rw [mem_allEntries_iff, entries_erase] at h
  split at h
  · exact mem_allEntries (List.mem_of_mem_eraseIdx h)
  · exact mem_allEntries h

/-! ## When an edit is refused -/

/-- **An entry is put in place** when it passes its rules and the index,
if there is one, is in range. -/
theorem put_eq_ok_iff : c.put index e = .ok (i, d) ↔
    e.check = .ok () ∧ (∀ j, index = some j → j < c.count e.kind) ∧
      i = index.getD (c.count e.kind) ∧ d = c.store index e := by
  cases hcheck : e.check with
  | error reason => simp [put, hcheck]
  | ok u =>
    cases index with
    | none => simp [put, hcheck, eq_comm]
    | some j =>
      by_cases hj : j < c.count e.kind
      · simp [put, hcheck, hj, eq_comm]
      · simp [put, hcheck, hj]

/-- **A put is refused** for the rules that the entry breaks, and for its
index only if it breaks none. -/
theorem put_eq_error_iff : c.put index e = .error reason ↔
    e.check = .error reason ∨ e.check = .ok () ∧
      ∃ j, index = some j ∧ c.count e.kind ≤ j ∧
        reason = .indexOutOfRange e.kind j (c.count e.kind) := by
  cases hcheck : e.check with
  | error fault => simp [put, hcheck]
  | ok u =>
    cases index with
    | none => simp [put, hcheck]
    | some j =>
      by_cases hj : j < c.count e.kind
      · simp [put, hcheck, hj, Nat.not_le_of_lt hj]
      · simp [put, hcheck, hj, Nat.le_of_not_lt hj, eq_comm]

/-- **An entry is taken out** when there is one at the index. -/
theorem remove_eq_ok_iff :
    c.remove k i = .ok (e, d) ↔ (c.entries k)[i]? = some e ∧ d = c.erase k i := by
  cases hentry : (c.entries k)[i]? with
  | none => simp [remove, hentry]
  | some f => simp [remove, hentry, eq_comm]

/-- **A removal is refused** for its index alone. -/
theorem remove_eq_error_iff : c.remove k i = .error reason ↔
    c.count k ≤ i ∧ reason = .indexOutOfRange k i (c.count k) := by
  have hrange : (c.entries k)[i]? = none ↔ c.count k ≤ i := by
    rw [List.getElem?_eq_none_iff, length_entries]
  cases hentry : (c.entries k)[i]? with
  | none => simp [remove, hentry, hrange.1 hentry, eq_comm]
  | some f =>
    have hlt : ¬ c.count k ≤ i := fun hle => by simp [hrange.2 hle] at hentry
    simp [remove, hentry, hlt]

/-! ## What an edit changes -/

/-- **An entry is stored at a place**: it stands there, what stands at any
other place of its sequence is what stood there, and the other sequences
are the same. -/
structure Stores (c d : Catalog) (place : Nat) (e : Entry) : Prop where
  here : (d.entries e.kind)[place]? = some e
  elsewhere : ∀ j, j ≠ place → (d.entries e.kind)[j]? = (c.entries e.kind)[j]?
  others : ∀ k, k ≠ e.kind → d.entries k = c.entries k

/-- **An entry is taken out of a place**: it stood there, the rest of the
sequence is what remains, in order, and the other sequences are the same. -/
structure TakesOut (c d : Catalog) (k : Kind) (i : Nat) (e : Entry) : Prop where
  there : (c.entries k)[i]? = some e
  rest : d.entries k = (c.entries k).eraseIdx i
  others : ∀ l, l ≠ k → d.entries l = c.entries l

/-- What is put into a catalog is stored at the place that is answered. -/
theorem stores_of_put (h : c.put index e = .ok (i, d)) : Stores c d i e := by
  obtain ⟨-, hrange, rfl, rfl⟩ := put_eq_ok_iff.1 h
  have hown : (c.store index e).entries e.kind = place index e (c.entries e.kind) := by
    rw [entries_store, if_pos rfl]
  refine ⟨?_, fun j hj => ?_, fun k hk => ?_⟩
  · rw [hown]
    cases index with
    | none => simp [place, ← length_entries]
    | some j =>
      have hj := hrange j rfl
      rw [← length_entries] at hj
      simp [place, List.getElem?_set_self hj]
  · rw [hown]
    cases index with
    | none =>
      -- past the end there was nothing, and there is nothing but the new entry
      rw [Option.getD_none, ← length_entries] at hj
      rcases Nat.lt_or_gt_of_ne hj with hlt | hgt
      · exact List.getElem?_append_left hlt
      · have hbeyond : (c.entries e.kind ++ [e]).length ≤ j := by
          rw [List.length_append, List.length_singleton]
          omega
        rw [place, List.getElem?_eq_none hbeyond, List.getElem?_eq_none (by omega)]
    | some i => exact List.getElem?_set_ne (Ne.symm hj)
  · rw [entries_store, if_neg (Ne.symm hk)]

/-- What is taken out of a catalog stood at the index. -/
theorem takesOut_of_remove (h : c.remove k i = .ok (e, d)) : TakesOut c d k i e := by
  obtain ⟨hentry, rfl⟩ := remove_eq_ok_iff.1 h
  refine ⟨hentry, ?_, fun l hl => ?_⟩
  · rw [entries_erase, if_pos rfl]
  · rw [entries_erase, if_neg (Ne.symm hl)]

/-! ## What an edit lets in -/

end Storefront.Catalog
