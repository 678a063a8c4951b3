/-!
# Catalog — sets of names

A set of names is a list in strictly increasing order, so that two sets
with the same members are equal and a report lists a name once, in
order. Names are ordered by their code points.
-/

namespace Storefront

/-- A list with one more name at its place. -/
def insertSorted (name : String) : List String → List String
  | [] => [name]
  | x :: xs =>
    if name < x then name :: x :: xs
    else if x < name then x :: insertSorted name xs
    else x :: xs

/-- Insertion adds the name and keeps the others. -/
theorem mem_insertSorted {name y : String} {xs : List String} :
    y ∈ insertSorted name xs ↔ y = name ∨ y ∈ xs := by
  induction xs with
  | nil => simp [insertSorted]
  | cons x xs ih =>
    simp only [insertSorted]
    split
    · simp
    · split
      · simp only [List.mem_cons, ih]
        exact or_left_comm
      · next h₁ h₂ =>
        have : name = x :=
          String.le_antisymm (String.not_lt.1 h₂) (String.not_lt.1 h₁)
        subst this
        simp

/-- Insertion keeps a list in strictly increasing order. -/
theorem sorted_insertSorted {name : String} {xs : List String}
    (h : xs.Pairwise (· < ·)) : (insertSorted name xs).Pairwise (· < ·) := by
  induction xs with
  | nil => simp [insertSorted]
  | cons x xs ih =>
    obtain ⟨hx, hxs⟩ := List.pairwise_cons.1 h
    simp only [insertSorted]
    split
    · next hlt =>
      refine List.pairwise_cons.2 ⟨fun y hy => ?_, h⟩
      rcases List.mem_cons.1 hy with rfl | hy
      · exact hlt
      · exact String.lt_trans hlt (hx y hy)
    · split
      · next hlt =>
        refine List.pairwise_cons.2 ⟨fun y hy => ?_, ih hxs⟩
        rcases mem_insertSorted.1 hy with rfl | hy
        · exact hlt
        · exact hx y hy
      · exact h

/-- A finite set of names. -/
structure NameSet where
  names : List String := []
  sorted : names.Pairwise (· < ·) := by exact List.Pairwise.nil
  deriving DecidableEq, Repr

namespace NameSet

/-- The set without names. -/
def empty : NameSet := {}

/-- Whether a name is in the set. -/
def contains (s : NameSet) (name : String) : Bool := s.names.contains name

/-- The set with one more name. -/
def insert (s : NameSet) (name : String) : NameSet :=
  ⟨insertSorted name s.names, sorted_insertSorted s.sorted⟩

/-- The members that pass a test. -/
def filter (s : NameSet) (p : String → Bool) : NameSet :=
  ⟨s.names.filter p, s.sorted.filter p⟩

/-- The set without one name. -/
def erase (s : NameSet) (name : String) : NameSet := s.filter (· != name)

/-- The set of the names of a list. -/
def ofList (names : List String) : NameSet :=
  names.foldl insert empty

/-- The number of names in the set. -/
def size (s : NameSet) : Nat := s.names.length

/-- Two sets with the same list of names are the same set. -/
theorem ext {s t : NameSet} (h : s.names = t.names) : s = t := by
  cases s; cases t; cases h; rfl

end NameSet

end Storefront
