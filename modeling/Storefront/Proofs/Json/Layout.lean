import Mathlib.Data.List.Nodup
import Mathlib.Logic.Relation
import Storefront.Json.Decode
/-!
# JSON — one value written in several ways

A structure is read field by field, so much of how it is written does not
count: the order of its fields, fields that it does not know, and whether
a field that has a default is written out. A layout says what is read
where; a `Step` writes one part of a value another way, at any depth, and a
reader that keeps to its layout (`Reads`) does not see it
(`Reads.rewritten`).
-/

namespace Storefront.Json

variable {α : Type} {name : String} {fs gs front back : List (String × Json)}
variable {v w j k : Json}

/-! ## Fields by name -/

theorem lookup_append (name : String) (fs gs : List (String × Json)) :
    lookup name (fs ++ gs) = (lookup name gs).or (lookup name fs) := by
  rw [lookup, lookup, lookup, List.reverse_append, List.find?_append, Option.map_or]

theorem lookup_singleton (name n : String) (v : Json) :
    lookup name [(n, v)] = if n = name then some v else none := by
  by_cases h : n = name <;> simp [lookup, h]

/-- A field of another name does not matter. -/
theorem lookup_insert_of_ne {n : String} (h : n ≠ name) :
    lookup name (front ++ (n, v) :: back) = lookup name (front ++ back) := by
  rw [List.append_cons, lookup_append, lookup_append, lookup_singleton, if_neg h, Option.none_or,
    ← lookup_append]

/-- The last field of a name counts. -/
theorem lookup_insert_self :
    lookup name (front ++ (name, v) :: back) = (lookup name back).or (some v) := by
  rw [List.append_cons, lookup_append, lookup_append, lookup_singleton, if_pos rfl, Option.some_or]

theorem lookup_cons_self : lookup name ((name, v) :: fs) = (lookup name fs).or (some v) :=
  @lookup_insert_self name [] fs v

theorem lookup_eq_none_iff : lookup name fs = none ↔ name ∉ fs.map (·.1) := by
  rw [lookup, Option.map_eq_none_iff, List.find?_eq_none]
  simp only [List.mem_reverse, beq_iff_eq, List.mem_map, not_exists, not_and]

/-- Where names are distinct, a field is found if it is there. -/
theorem lookup_eq_some_iff (h : (fs.map (·.1)).Nodup) :
    lookup name fs = some v ↔ (name, v) ∈ fs := by
  constructor
  · intro hlookup
    obtain ⟨field, hfind, rfl⟩ := Option.map_eq_some_iff.1 hlookup
    have hname : field.1 = name := by simpa using List.find?_some hfind
    exact hname ▸ List.mem_reverse.1 (List.mem_of_find?_eq_some hfind)
  · intro hmem
    obtain ⟨front, back, rfl⟩ := List.append_of_mem hmem
    have hback : name ∉ back.map (·.1) := by
      rw [List.map_append, List.map_cons, List.nodup_append] at h
      exact (List.nodup_cons.1 h.2.1).1
    rw [lookup_insert_self, lookup_eq_none_iff.2 hback, Option.none_or]

/-- **The order of fields does not matter.** -/
theorem lookup_perm (h : fs.Perm gs) (hnodup : (fs.map (·.1)).Nodup) :
    lookup name fs = lookup name gs := by
  have hnodup' : (gs.map (·.1)).Nodup := (h.map _).nodup_iff.1 hnodup
  refine Option.ext fun v => ?_
  rw [lookup_eq_some_iff hnodup, lookup_eq_some_iff hnodup', h.mem_iff]

/-! ## Layouts -/

/-- **The layout of a value**: one that is read as a whole, a list, or a
structure, whose fields have layouts of their own and perhaps a value that
stands for them where they are missing. -/
inductive Layout where
  | whole
  | items (item : Layout)
  | fields (members : List (String × Layout × Option Json))

/-- The layouts of fields, with the values for missing ones, by name. -/
abbrev Members := List (String × Layout × Option Json)

variable {f : Layout} {d : Option Json} {l : Members} {names : List String}

/-- **One part of a value, written another way.** -/
inductive Step : Layout → Json → Json → Prop
  /-- The fields stand in another order. -/
  | reorder {l : Members} {fs gs : List (String × Json)} : fs.Perm gs →
      (fs.map (·.1)).Nodup → Step (.fields l) (.record fs) (.record gs)
  /-- There is one more field, which the structure does not know. -/
  | extra {l : Members} {front back : List (String × Json)} {name : String} {v : Json} :
      l.lookup name = none →
      Step (.fields l) (.record (front ++ back)) (.record (front ++ (name, v) :: back))
  /-- What stands for a missing field is written out. -/
  | spell {l : Members} {front back : List (String × Json)} {name : String} {f : Layout}
      {v : Json} : l.lookup name = some (f, some v) → name ∉ (front ++ back).map (·.1) →
      Step (.fields l) (.record (front ++ back)) (.record (front ++ (name, v) :: back))
  /-- A field is written another way. -/
  | field {l : Members} {front back : List (String × Json)} {name : String} {f : Layout}
      {d : Option Json} {v w : Json} : l.lookup name = some (f, d) → Step f v w →
      Step (.fields l) (.record (front ++ (name, v) :: back))
        (.record (front ++ (name, w) :: back))
  /-- A field is written another way in a structure that is a list. -/
  | place {l : Members} {front back : List Json} {name : String} {f : Layout}
      {d : Option Json} {v w : Json} : l[front.length]? = some (name, f, d) → Step f v w →
      Step (.fields l) (.list (front ++ v :: back)) (.list (front ++ w :: back))
  /-- An item of a list is written another way. -/
  | item {f : Layout} {front back : List Json} {v w : Json} : Step f v w →
      Step (.items f) (.list (front ++ v :: back)) (.list (front ++ w :: back))

/-- **The same value**, up to how it is written. -/
def Rewritten (f : Layout) : Json → Json → Prop := Relation.EqvGen (Step f)

/-- **A reader of a layout** does not see how a value is written. -/
def Reads (f : Layout) (read : Json → Option α) : Prop := ∀ j k, Step f j k → read k = read j

theorem Reads.rewritten {read : Json → Option α} (h : Reads f read) (hjk : Rewritten f j k) :
    read k = read j := by
  induction hjk with
  | rel j k hstep => exact h j k hstep
  | refl j => rfl
  | symm j k _ ih => exact ih.symm
  | trans j k m _ _ ih ih' => exact ih'.trans ih

/-! ## Readers -/

/-- **A member written another way**: its value is, or what stands for a
missing one is written out. -/
inductive Respelled (f : Layout) (d : Option Json) : Option Json → Option Json → Prop
  | same (m : Option Json) : Respelled f d m m
  | step {v w : Json} : Step f v w → Respelled f d (some v) (some w)
  | spelled {v : Json} : d = some v → Respelled f d none (some v)

/-- **Values that agree** on the members that a structure knows. -/
def Agree (l : Members) (names : List String) (j k : Json) : Prop :=
  ∀ name f d, l.lookup name = some (f, d) →
    Respelled f d (member? names j name) (member? names k name)

/-- A field that the structure does not know may stand in front. -/
theorem Step.cons (h : l.lookup name = none) :
    Step (.fields l) (.record fs) (.record ((name, v) :: fs)) :=
  @Step.extra l [] fs name v h

theorem Step.record (h : Step (.fields l) (.record fs) k) : ∃ gs, k = .record gs := by
  cases h <;> exact ⟨_, rfl⟩

theorem respelled_record (h : Step (.fields l) (.record fs) (.record gs))
    (hname : l.lookup name = some (f, d)) :
    Respelled f d (lookup name fs) (lookup name gs) := by
  cases h with
  | reorder hperm hnodup => exact lookup_perm hperm hnodup ▸ .same _
  | extra hunknown =>
    rw [lookup_insert_of_ne]
    · exact .same _
    · rintro rfl
      exact absurd (hname.symm.trans hunknown) (Option.some_ne_none _)
  | @spell _ front back n f' v hspell hmissing =>
    by_cases hn : n = name
    · subst hn
      obtain ⟨rfl, rfl⟩ : f = f' ∧ d = some v := by simpa using hname.symm.trans hspell
      have hback : n ∉ back.map (·.1) := fun h => hmissing (by simp [List.map_append, h])
      rw [lookup_eq_none_iff.2 hmissing, lookup_insert_self, lookup_eq_none_iff.2 hback]
      exact .spelled rfl
    · rw [lookup_insert_of_ne hn]
      exact .same _
  | @field _ front back n f' d' v w hfield hstep =>
    by_cases hn : n = name
    · subst hn
      obtain ⟨rfl, rfl⟩ : f = f' ∧ d = d' := by simpa using hname.symm.trans hfield
      rw [lookup_insert_self, lookup_insert_self]
      cases lookup n back with
      | none => exact .step hstep
      | some u => exact .same _
    · rw [lookup_insert_of_ne hn, lookup_insert_of_ne hn]
      exact .same _

/-- In a list the place of a member decides, where the first member of a
name is meant. -/
theorem respelled_zip {before after : List Json} {n : String} {f' : Layout} {d' : Option Json}
    (hplace : l[before.length]? = some (n, f', d')) (hname : l.lookup name = some (f, d))
    (hstep : Step f' v w) :
    Respelled f d (((l.map (·.1)).zip (before ++ v :: after)).lookup name)
      (((l.map (·.1)).zip (before ++ w :: after)).lookup name) := by
  induction before generalizing l with
  | nil =>
    obtain ⟨l, rfl⟩ : ∃ rest, l = (n, f', d') :: rest := by
      cases l with
      | nil => simp at hplace
      | cons m rest => exact ⟨rest, by simpa using hplace⟩
    by_cases hn : name = n
    · subst hn
      obtain ⟨rfl, rfl⟩ : f' = f ∧ d' = d := by simpa using hname
      simpa using .step hstep
    · have hother : (name == n) = false := beq_false_of_ne hn
      simpa [List.lookup_cons, hother] using .same _
  | cons u before ih =>
    cases l with
    | nil => simp at hplace
    | cons m l =>
      obtain ⟨n', m⟩ := m
      by_cases hn : name = n'
      · subst hn
        simpa using .same _
      · have hother : (name == n') = false := beq_false_of_ne hn
        have hrest := ih (by simpa using hplace) (by simpa [List.lookup_cons, hother] using hname)
        simpa [List.lookup_cons, hother] using hrest

/-- **A step leaves every member as it was**, or writes it another way. -/
theorem agree_of_step (h : Step (.fields l) j k) : Agree l (l.map (·.1)) j k := by
  intro name f d hname
  cases j with
  | record fs =>
    obtain ⟨gs, rfl⟩ := h.record
    exact respelled_record h hname
  | list items =>
    cases h with
    | @place _ front back _ _ _ v w hplace hstep =>
      have hlength : (front ++ w :: back).length = (front ++ v :: back).length := by simp
      rw [member?, member?, hlength]
      split
      · exact respelled_zip hplace hname hstep
      · exact .same _
  | _ => cases h

variable {read : Json → Option α}

/-- A member without a default reads the same. -/
theorem Respelled.bind_eq {m m' : Option Json} (h : Respelled f none m m')
    (hread : Reads f read) : m'.bind read = m.bind read := by
  cases h with
  | same m => rfl
  | step hstep => exact hread _ _ hstep
  | spelled hv => cases hv

theorem Agree.required (h : Agree l names j k) (name : String) (hread : Reads f read)
    (hname : l.lookup name = some (f, none)) :
    required names k name read = required names j name read :=
  (h name f none hname).bind_eq hread

/-- A member with a default reads the same, if the value that stands for a
missing one is read as the default. -/
theorem Agree.optional {x : α} (h : Agree l names j k) (name : String) (hread : Reads f read)
    (hname : l.lookup name = some (f, some v)) (hdefault : read v = some x) :
    optional names k name read x = optional names j name read x := by
  have hrespelled := h name f (some v) hname
  rw [Json.optional, Json.optional]
  generalize member? names j name = m, member? names k name = m' at hrespelled ⊢
  cases hrespelled with
  | same m => rfl
  | step hstep => exact hread _ _ hstep
  | spelled hv => cases hv; exact hdefault

theorem reads_whole (read : Json → Option α) : Reads .whole read := by
  intro j k hstep
  cases hstep

/-- **A list is read item by item.** -/
theorem Reads.items (h : Reads f read) : Reads (.items f) (list? read) := by
  intro j k hstep
  cases hstep with
  | item hstep => simp [list?, List.mapM_append, h _ _ hstep]

end Storefront.Json
