import Mathlib.Data.Set.Card
import Mathlib.Order.SymmDiff
import Storefront.Proofs.Catalog.NetChange
import Storefront.Proofs.Text.ByteOrder
/-!
# Catalog — the algebra of selections

A selection stands for the set of its names, and each edit for an operation
on sets. So a run of edits leaves what the operations make of the set, in
the order of bytes and each name once, whatever the names are
(`edits_algebra`). What is remembered of the catalog stays as it was, so a
`sync` after the edits resets just when it would have before them.
-/

namespace Storefront

namespace Selection

/-- The set of the selected names. -/
def members (s : Selection) : Set String := { name | s.contains name = true }

/-- What an edit makes of a set of names. -/
def Edit.on : Edit → Set String → Set String
  | .insert name, A => A ∪ {name}
  | .erase name, A => A \ {name}
  | .toggle name, A => symmDiff A {name}
  | .restrictTo names, A => A ∩ { name | name ∈ names }
  | .exclude names, A => A \ { name | name ∈ names }
  | .clear, _ => ∅

/-- Whether an edit does no more than take out the names that a list has,
or has not. -/
def Edit.Narrows : Edit → Prop
  | .restrictTo _ => True
  | .exclude _ => True
  | _ => False

/-- **A selection that lists a set**: its names are the members, each once,
and their bytes increase. -/
structure Lists (s : Selection) (A : Set String) : Prop where
  contains_iff : ∀ name, s.contains name = true ↔ name ∈ A
  mem_iff : ∀ name, name ∈ s.toList ↔ name ∈ A
  increasing : s.toList.Pairwise fun a b => Text.bytes a < Text.bytes b
  size_eq : s.size = s.toList.length
  finite : A.Finite
  card_eq : A.ncard = s.size

/-- **Edits that answer**: whether the name is new, whether it was there,
and whether it is there now. -/
structure Answers (s : Selection) : Prop where
  insertNew : ∀ name, ((s.insertNew name).1 = true ↔ name ∉ s.members) ∧
    (s.insertNew name).2 = s.edit (.insert name)
  eraseFound : ∀ name, ((s.eraseFound name).1 = true ↔ name ∈ s.members) ∧
    (s.eraseFound name).2 = s.edit (.erase name)
  flip : ∀ name, ((s.flip name).1 = true ↔ name ∈ (s.flip name).2.members) ∧
    (s.flip name).2 = s.edit (.toggle name)

/-- **The laws of the edits**: a name toggled twice is as it was, lists that
have the same names do the same, names are dropped as if one by one, and
edits that narrow may change places. -/
structure Laws (s : Selection) : Prop where
  toggle_toggle : ∀ name, (s.edit (.toggle name)).edit (.toggle name) = s
  restrictTo_congr : ∀ keep keep', (∀ name, name ∈ keep ↔ name ∈ keep') →
    s.edit (.restrictTo keep) = s.edit (.restrictTo keep')
  exclude_congr : ∀ drop drop', (∀ name, name ∈ drop ↔ name ∈ drop') →
    s.edit (.exclude drop) = s.edit (.exclude drop')
  exclude_eq_foldl : ∀ drop, s.edit (.exclude drop) = drop.foldl erase s
  narrows_comm : ∀ a b : Edit, a.Narrows → b.Narrows → (s.edit a).edit b = (s.edit b).edit a

/-- **Selections that remember the same**: whatever the catalog is, a sync
resets both or neither, and to the same. -/
structure Remembers (s t : Selection) : Prop where
  seen : t.seen = s.seen
  isStale : ∀ c, t.isStale c = s.isStale c
  reset : ∀ c, s.isStale c = true → t.sync c = s.sync c
  kept : ∀ c, s.isStale c = false → t.sync c = t ∧ s.sync c = s

variable {s t : Selection} {name : String} {a b : Edit}

/-! ## Selections as sets -/

/-- A selection is known by its members and by what it remembers. -/
theorem eq_of_members (hmembers : s.members = t.members) (hseen : s.seen = t.seen) : s = t := by
  obtain ⟨names, seen⟩ := s
  obtain ⟨names', seen'⟩ := t
  obtain rfl : seen = seen' := hseen
  have hnames : names = names' := by
    refine NameSet.eq_of_contains fun y => ?_
    rw [Bool.eq_iff_iff]
    exact Set.ext_iff.1 hmembers y
  rw [hnames]

/-- **An edit does to the members what it does to sets.** -/
theorem members_edit (s : Selection) (a : Edit) : (s.edit a).members = a.on s.members := by
  ext y
  cases a with
  | insert name =>
    simp [edit, members, contains_insert, Edit.on]
  | erase name =>
    simp [edit, members, contains_erase, Edit.on]
  | toggle name =>
    -- only the name itself changes sides
    by_cases hy : name = y
    · subst hy
      simp [edit, members, contains_toggle, Edit.on, Set.mem_symmDiff]
    · simp [edit, members, contains_toggle, Edit.on, Set.mem_symmDiff, hy, Ne.symm hy]
  | restrictTo names =>
    simp [edit, members, contains_restrictTo, Edit.on]
  | exclude names =>
    simp [edit, members, contains_exclude, Edit.on]
  | clear =>
    simp [edit, members, clear, contains, NameSet.contains, NameSet.empty, Edit.on]

/-- So edits do the same if they remember the same and act alike on the
members. -/
theorem edit_eq_edit (h : a.on s.members = b.on s.members) : s.edit a = s.edit b := by
  refine eq_of_members ?_ ?_
  · rw [members_edit, members_edit, h]
  · rw [seen_edit, seen_edit]

theorem lists_members (s : Selection) : s.Lists s.members := by
  have hnodup : s.toList.Nodup := s.names.sorted.imp fun hlt => ne_of_lt hlt
  have hset : s.members = ↑s.toList.toFinset := by
    ext y
    simp [members, contains, NameSet.contains, toList]
  refine
    { contains_iff := fun _ => Iff.rfl
      mem_iff := fun y => ?_
      increasing := s.names.sorted.imp Text.lt_iff_bytes_lt.1
      size_eq := rfl
      finite := hset ▸ Finset.finite_toSet _
      card_eq := ?_ }
  · rw [hset]
    simp
  · rw [hset, Set.ncard_coe_finset, List.toFinset_card_of_nodup hnodup]
    rfl

/-! ## Answers and laws -/

/-- A name that is flipped is toggled, and is there now if it was not. -/
theorem flip_eq (s : Selection) (name : String) :
    s.flip name = (!s.contains name, s.toggle name) := by
  rw [flip, eraseFound, insertNew, toggle]
  cases s.contains name <;> rfl

theorem answers (s : Selection) : s.Answers := by
  refine ⟨fun name => ⟨?_, rfl⟩, fun name => ⟨Iff.rfl, rfl⟩, fun name => ?_⟩
  · simp [insertNew, members]
  · rw [flip_eq]
    refine ⟨?_, rfl⟩
    simp [members, contains_toggle]

/-- Dropping names one by one drops them all. -/
theorem foldl_erase_eq_exclude (s : Selection) (drop : List String) :
    drop.foldl erase s = s.exclude drop := by
  induction drop generalizing s with
  | nil =>
    refine eq_of_members ?_ rfl
    ext y
    simp [members, contains_exclude]
  | cons name drop ih =>
    rw [List.foldl_cons, ih]
    refine eq_of_members ?_ rfl
    ext y
    simp [members, contains_exclude, contains_erase, and_assoc]

/-- An edit that narrows keeps the names that pass a test. -/
theorem exists_keeps_of_narrows (h : a.Narrows) : ∃ kept : Set String, ∀ A, a.on A = A ∩ kept := by
  cases a with
  | restrictTo keep => exact ⟨{ name | name ∈ keep }, fun _ => rfl⟩
  | exclude drop => exact ⟨{ name | name ∈ drop }ᶜ, fun A => Set.sdiff_eq A _⟩
  | insert name => exact h.elim
  | erase name => exact h.elim
  | toggle name => exact h.elim
  | clear => exact h.elim

/-- **Edits that narrow may change places.** -/
theorem edit_comm (ha : a.Narrows) (hb : b.Narrows) (s : Selection) :
    (s.edit a).edit b = (s.edit b).edit a := by
  obtain ⟨kept, hkept⟩ := exists_keeps_of_narrows ha
  obtain ⟨kept', hkept'⟩ := exists_keeps_of_narrows hb
  refine eq_of_members ?_ ?_
  · rw [members_edit, members_edit, members_edit, members_edit, hkept, hkept', hkept, hkept',
      Set.inter_right_comm]
  · rw [seen_edit, seen_edit, seen_edit, seen_edit]

theorem laws (s : Selection) : s.Laws := by
  refine
    { toggle_toggle := fun name => eq_of_members ?_ ?_
      restrictTo_congr := fun keep keep' h => edit_eq_edit ?_
      exclude_congr := fun drop drop' h => edit_eq_edit ?_
      exclude_eq_foldl := fun drop => (foldl_erase_eq_exclude s drop).symm
      narrows_comm := fun a b ha hb => edit_comm ha hb s }
  · rw [members_edit, members_edit]
    exact symmDiff_symmDiff_cancel_right {name} s.members
  · rw [seen_edit, seen_edit]
  · simp only [Edit.on, h]
  · simp only [Edit.on, h]

theorem remembers_of_seen (h : t.seen = s.seen) : s.Remembers t := by
  have hstale : ∀ c, t.isStale c = s.isStale c := by
    intro c
    rw [isStale, isStale, h]
  refine ⟨h, hstale, fun c hc => ?_, fun c hc => ?_⟩
  · rw [sync_of_isStale hc, sync_of_isStale ((hstale c).trans hc)]
  · exact ⟨sync_of_not_isStale ((hstale c).trans hc), sync_of_not_isStale hc⟩

/-! ## Runs of edits -/

/-- **A run of edits does to the members what it does to sets**, by
induction on the run. -/
theorem members_foldl (s : Selection) (edits : List Edit) :
    (edits.foldl edit s).members = edits.foldl (fun A a => a.on A) s.members := by
  induction edits generalizing s with
  | nil => rfl
  | cons a edits ih => rw [List.foldl_cons, List.foldl_cons, ih, members_edit]

theorem seen_foldl (s : Selection) (edits : List Edit) : (edits.foldl edit s).seen = s.seen := by
  induction edits generalizing s with
  | nil => rfl
  | cons a edits ih => rw [List.foldl_cons, ih, seen_edit]

/-- **Edits of a selection are operations on a set** and touch nothing else.
After any run of them the selection lists what the operations make of its
members; its edits answer and obey their laws; and it remembers what it did
before the run. -/
theorem edits_algebra (s : Selection) (edits : List Edit) :
    let t := edits.foldl edit s
    t.Lists (edits.foldl (fun A a => a.on A) s.members) ∧ t.Answers ∧ t.Laws ∧ s.Remembers t :=
  ⟨members_foldl s edits ▸ lists_members _, answers _, laws _,
    remembers_of_seen (seen_foldl s edits)⟩

end Selection

end Storefront
