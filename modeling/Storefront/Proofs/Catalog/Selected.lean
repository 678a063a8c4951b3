import Mathlib.Data.List.Sort
import Storefront.Catalog.Selection
import Storefront.Proofs.Catalog.Edits
/-!
# Catalog — what is selected, and what is counted

A selection is read name by name: each edit decides whether a name is
selected from whether it was. What a selection remembers, the shape of
the catalog, changes when an entitlement, offer or bundle is appended or
taken out, and in no other way.
-/

namespace Storefront

namespace NameSet

variable {s : NameSet} {name y : String}

theorem contains_insert : (s.insert name).contains y = (y == name || s.contains y) := by
  rw [Bool.eq_iff_iff]
  simp [contains, insert, mem_insertSorted]

theorem contains_filter (p : String → Bool) :
    (s.filter p).contains y = (s.contains y && p y) := by
  rw [Bool.eq_iff_iff]
  simp [contains, filter]

theorem contains_foldl_insert (names : List String) :
    (names.foldl insert s).contains y = (s.contains y || names.contains y) := by
  induction names generalizing s with
  | nil => simp
  | cons n names ih =>
    rw [List.foldl_cons, ih, contains_insert, List.contains_cons]
    cases s.contains y <;> simp

/-- The set of a list has its members. -/
theorem contains_ofList (names : List String) : (ofList names).contains y = names.contains y := by
  rw [ofList, contains_foldl_insert]
  simp [contains, empty]

/-- A set of names is known by its members. -/
theorem eq_of_contains {s t : NameSet} (h : ∀ y, s.contains y = t.contains y) : s = t := by
  refine NameSet.ext (s.sorted.eq_of_mem_iff t.sorted fun y => ?_)
  have hy := h y
  rw [Bool.eq_iff_iff] at hy
  simpa [contains] using hy

end NameSet

namespace Selection

variable {s : Selection} {name y : String}

theorem contains_all (c : Catalog) : (all c).contains y = c.classNames.contains y :=
  NameSet.contains_ofList _

theorem contains_insert : (s.insert name).contains y = (y == name || s.contains y) :=
  NameSet.contains_insert

theorem contains_erase : (s.erase name).contains y = (s.contains y && y != name) :=
  NameSet.contains_filter _

/-- Toggling a name flips it and leaves the others alone. -/
theorem contains_toggle :
    (s.toggle name).contains y = if name = y then !s.contains y else s.contains y := by
  by_cases hy : name = y
  · subst hy
    rw [toggle, if_pos rfl]
    split
    · next hs => simp [contains_erase, hs]
    · next hs => simp [contains_insert, hs]
  · have hbeq : (y == name) = false := beq_false_of_ne (Ne.symm hy)
    rw [toggle, if_neg hy]
    split
    · simp [contains_erase, bne, hbeq]
    · simp [contains_insert, hbeq]

theorem contains_restrictTo (keep : List String) :
    (s.restrictTo keep).contains y = (s.contains y && keep.contains y) :=
  NameSet.contains_filter _

theorem contains_exclude (drop : List String) :
    (s.exclude drop).contains y = (s.contains y && !drop.contains y) :=
  NameSet.contains_filter _

end Selection

namespace Catalog

variable {c d : Catalog} {e : Entry} {k l : Kind} {i : Nat}

/-- An appended entry counts for its kind. -/
theorem count_store_none (c : Catalog) (e : Entry) (k : Kind) :
    (c.store none e).count k = c.count k + if e.kind = k then 1 else 0 := by
  cases e <;> cases k <;> simp [store, place, count, Entry.kind]

/-- A replaced entry counts as before. -/
theorem count_store_some (c : Catalog) (i : Nat) (e : Entry) (k : Kind) :
    (c.store (some i) e).count k = c.count k := by
  cases e <;> cases k <;> simp [store, place, count]

/-- An entry that is taken out counts no more. -/
theorem count_erase (h : i < c.count k) (l : Kind) :
    (c.erase k i).count l = c.count l - if k = l then 1 else 0 := by
  cases k <;> cases l <;> simp_all [erase, count, List.length_eraseIdx]

/-- The shape is the count of every kind but info modules. -/
theorem shape_eq_iff : c.shape = d.shape ↔ ∀ k, k ≠ .info → c.count k = d.count k := by
  constructor
  · intro h k hk
    obtain ⟨he, ho, hb⟩ := ShapeCounts.mk.inj h
    cases k with
    | info => exact absurd rfl hk
    | entitlement => exact he
    | offer => exact ho
    | bundle => exact hb
  · intro h
    rw [shape, shape, h .entitlement nofun, h .offer nofun, h .bundle nofun]

/-- **Storing an entry changes the shape only if it is appended** and is no
info module. -/
theorem shape_of_put {index : Option Nat} {place : Nat} (h : c.put index e = .ok (place, d)) :
    d.shape = c.shape ↔ index ≠ none ∨ e.kind = .info := by
  obtain ⟨-, -, -, rfl⟩ := put_eq_ok_iff.1 h
  rw [shape_eq_iff]
  cases index with
  | some i => simp [count_store_some]
  | none =>
    constructor
    · intro hcount
      by_contra hkind
      have := hcount e.kind fun hinfo => hkind (.inr hinfo)
      rw [count_store_none, if_pos rfl] at this
      omega
    · rintro (hnone | hinfo) k hk
      · exact absurd rfl hnone
      · have hne : e.kind ≠ k := fun heq => hk (heq.symm.trans hinfo)
        rw [count_store_none, if_neg hne, Nat.add_zero]

/-- **Taking an entry out changes the shape** unless it is an info module. -/
theorem shape_of_remove (h : c.remove k i = .ok (e, d)) : d.shape = c.shape ↔ k = .info := by
  obtain ⟨hentry, rfl⟩ := remove_eq_ok_iff.1 h
  have hpos : i < c.count k := by
    rw [← length_entries]
    exact (List.getElem?_eq_some_iff.1 hentry).1
  rw [shape_eq_iff]
  constructor
  · intro hcount
    by_contra hkind
    have := hcount k hkind
    rw [count_erase hpos, if_pos rfl] at this
    omega
  · intro hinfo l hl
    have hne : k ≠ l := fun heq => hl (heq.symm.trans hinfo)
    rw [count_erase hpos, if_neg hne, Nat.sub_zero]

end Catalog

end Storefront
