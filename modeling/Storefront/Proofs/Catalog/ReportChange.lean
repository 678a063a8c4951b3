import Mathlib.Algebra.BigOperators.Group.Multiset.Basic
import Mathlib.Algebra.Order.Group.Multiset
import Mathlib.Data.Multiset.Bind
import Storefront.Proofs.Catalog.Edits
import Storefront.Proofs.Catalog.Flaws
/-!
# Catalog — how an edit changes the integrity report

To append an entry and to take one out are the same change, read in
opposite directions: of two catalogs, one holds one entry more (`Gains`).
An entry more settles the references that point to it and brings its own.
So appending never breaks a reference, and removing breaks those that
point to the entry, unless another of its kind has its key
(`issues_edit`).
-/

namespace Storefront

/-! ## The parts of a report -/

/-- The reference that an issue is about. -/
def Issue.reference? : Issue → Option Reference
  | dangling r => some r
  | _ => none

/-- The key that an issue finds repeated, with its kind and the number of
occurrences. -/
def Issue.repetition? : Issue → Option (Kind × String × Nat)
  | duplicate k key occurrences => some (k, key, occurrences)
  | _ => none

/-- The bundle that an issue finds empty. -/
def Issue.emptyBundle? : Issue → Option String
  | emptyBundle className => some className
  | _ => none

/-- **A reference that points to an entry**: it expects its kind and names
its key. -/
def Reference.PointsTo (r : Reference) (e : Entry) : Prop :=
  r.expected = e.kind ∧ r.target = e.key

instance (r : Reference) (e : Entry) : Decidable (r.PointsTo e) :=
  inferInstanceAs (Decidable (_ ∧ _))

/-- The entry as an empty bundle, if it is one. -/
def Entry.emptyBundle : Entry → Multiset String
  | bundle b => if b.items = [] then {b.className} else 0
  | _ => 0

/-- **No entry points to its own kind.** -/
theorem Entry.expected_ne_kind {e : Entry} {r : Reference} (h : r ∈ e.references) :
    r.expected ≠ e.kind := by
  cases e with
  | info m => cases h
  | entitlement e =>
    obtain rfl := List.mem_singleton.1 h
    exact nofun
  | offer o =>
    rcases List.mem_pair.1 h with rfl | rfl <;> exact nofun
  | bundle b =>
    obtain ⟨i, -, rfl⟩ := List.mem_map.1 h
    exact nofun

namespace Catalog

variable {c d : Catalog} {e : Entry} {k : Kind} {i : Nat} {r : Reference}

/-- The references that a report finds dangling. -/
def danglings (c : Catalog) : Multiset Reference := (c.issues.filterMap Issue.reference? : List _)

/-- The keys that a report finds repeated. -/
def repetitions (c : Catalog) : Multiset (Kind × String × Nat) :=
  (c.issues.filterMap Issue.repetition? : List _)

/-- The bundles that a report finds empty. -/
def emptyBundles (c : Catalog) : Multiset String :=
  (c.issues.filterMap Issue.emptyBundle? : List _)

/-! What a report finds in its three parts. -/

theorem danglings_eq (c : Catalog) :
    c.danglings = (c.references : Multiset Reference).filter fun r => ¬ c.resolves r := by
  have hno : ∀ ks : List Kind, ks.flatMap (fun _ => ([] : List Reference)) = [] := by simp
  have hlist : c.issues.filterMap Issue.reference? =
      c.references.filter fun r => !c.resolves r := by
    simp [issues, danglingIssues, duplicateIssues, emptyBundleIssues, List.filterMap_flatMap,
      List.filterMap_map, Function.comp_def, Issue.reference?, hno]
  rw [danglings, hlist, Multiset.filter_coe]
  simp

theorem repetitions_eq (c : Catalog) : c.repetitions =
    (Kind.all.flatMap fun k => (repeated (c.keys k)).map fun x => (k, x) : List _) := by
  simp [repetitions, issues, danglingIssues, duplicateIssues, emptyBundleIssues,
    List.filterMap_flatMap, List.filterMap_map, Function.comp_def, Issue.repetition?]

theorem emptyBundles_eq (c : Catalog) : c.emptyBundles =
    ((c.bundles.filter fun b => b.items.isEmpty).map Bundle.className : List _) := by
  have hno : ∀ ks : List Kind, ks.flatMap (fun _ => ([] : List String)) = [] := by simp
  simp [emptyBundles, issues, danglingIssues, duplicateIssues, emptyBundleIssues,
    List.filterMap_flatMap, List.filterMap_map, Function.comp_def, Issue.emptyBundle?, hno]

/-! ## One entry more -/

/-- **A catalog gains an entry**, at whatever place in the sequence of its
kind. -/
def Gains (c : Catalog) (e : Entry) (d : Catalog) : Prop :=
  ∀ k, (d.entries k : Multiset Entry) = c.entries k + if e.kind = k then {e} else 0

/-- An append gains the entry. -/
theorem gains_of_put (h : c.put none e = .ok (i, d)) : c.Gains e d := by
  obtain ⟨-, -, -, rfl⟩ := put_eq_ok_iff.1 h
  intro k
  rw [entries_store]
  split
  · exact (Multiset.coe_add _ _).symm
  · exact (add_zero _).symm

/-- **A removal is a gain read backwards.** -/
theorem gains_of_remove (h : c.remove k i = .ok (e, d)) : d.Gains e c := by
  obtain ⟨hentry, rfl⟩ := remove_eq_ok_iff.1 h
  have hkind : e.kind = k := kind_of_mem_entries (List.mem_of_getElem? hentry)
  intro l
  rw [entries_erase, hkind]
  split
  · next heq =>
    subst heq
    obtain ⟨hlt, rfl⟩ := List.getElem?_eq_some_iff.1 hentry
    have hperm := (List.getElem_cons_eraseIdx_perm hlt).symm
    rw [Multiset.add_comm, Multiset.singleton_add, Multiset.cons_coe]
    exact Multiset.coe_eq_coe.2 hperm
  · exact (add_zero _).symm

namespace Gains

variable (h : c.Gains e d)

include h

theorem coe_allEntries : (d.allEntries : Multiset Entry) = c.allEntries + {e} := by
  have hsum : ∀ c : Catalog, (c.allEntries : Multiset Entry) =
      (Kind.all.map fun k => (c.entries k : Multiset Entry)).sum := by
    intro c
    simp [allEntries, Kind.all]
  have hone :
      (Kind.all.map fun k => if e.kind = k then ({e} : Multiset Entry) else 0).sum = {e} := by
    cases e.kind <;> simp [Kind.all]
  simp only [hsum, h _, List.sum_map_add, hone]

theorem coe_keys (k : Kind) :
    (d.keys k : Multiset String) = c.keys k + if e.kind = k then {e.key} else 0 := by
  have hmap := congrArg (Multiset.map Entry.key) (h k)
  split <;> simp_all [keys]

theorem coe_references : (d.references : Multiset Reference) = c.references + e.references := by
  have hbind := congrArg (Multiset.bind · fun e => (e.references : Multiset Reference))
    h.coe_allEntries
  simpa [references] using hbind

theorem count_keys (k : Kind) (name : String) :
    (d.keys k).count name =
      (c.keys k).count name + if e.kind = k ∧ e.key = name then 1 else 0 := by
  have hcount := congrArg (Multiset.count name) (h.coe_keys k)
  rw [Multiset.count_add, Multiset.coe_count, Multiset.coe_count] at hcount
  rw [hcount]
  by_cases hkind : e.kind = k
  · simp [hkind, Multiset.count_singleton, eq_comm]
  · simp [hkind]

/-- **A reference resolves** if it did, or if it points to the entry. -/
theorem resolves_iff : d.resolves r = true ↔ c.resolves r = true ∨ r.PointsTo e := by
  have hmem : r.target ∈ (d.keys r.expected : Multiset String) ↔
      r.target ∈ c.keys r.expected ∨ r.PointsTo e := by
    rw [h.coe_keys, Multiset.mem_add, Multiset.mem_coe, Reference.PointsTo]
    by_cases hkind : e.kind = r.expected
    · simp [hkind]
    · simp [hkind, Ne.symm hkind]
  simpa [resolves] using hmem

/-- The references that dangle beside one entry more: those that did and do
not point to it, and its own. -/
theorem danglings_eq : d.danglings = c.danglings.filter (fun r => ¬ r.PointsTo e) +
    (e.references : Multiset Reference).filter fun r => ¬ d.resolves r := by
  have hold : ∀ r, ¬ d.resolves r = true ↔ ¬ r.PointsTo e ∧ ¬ c.resolves r = true := by
    intro r
    rw [h.resolves_iff, not_or, and_comm]
  rw [Catalog.danglings_eq, Catalog.danglings_eq, h.coe_references, Multiset.filter_add,
    Multiset.filter_filter]
  congr 1
  exact Multiset.filter_congr fun r _ => hold r

/-- **An entry's own references do not resolve because of it**, since they
expect another kind. -/
theorem resolves_iff_of_mem (hr : r ∈ e.references) :
    d.resolves r = true ↔ c.resolves r = true := by
  rw [h.resolves_iff]
  exact or_iff_left fun hpoints => Entry.expected_ne_kind hr hpoints.1

end Gains

/-- Without the entry, a reference that points to it dangles, unless
another entry of its kind has its key. -/
theorem filter_pointsTo_danglings : c.danglings.filter (fun r => r.PointsTo e) =
    if e.key ∈ c.keys e.kind then 0
    else (c.references : Multiset Reference).filter fun r => r.PointsTo e := by
  have hresolves : ∀ r : Reference, r.PointsTo e →
      (c.resolves r = true ↔ e.key ∈ c.keys e.kind) := by
    rintro r ⟨hkind, hkey⟩
    simp [resolves, hkind, hkey]
  rw [Catalog.danglings_eq, Multiset.filter_filter]
  split
  · next hmem =>
    refine Multiset.filter_eq_nil.2 fun r _ hr => hr.2 ((hresolves r hr.1).2 hmem)
  · next hmem =>
    refine Multiset.filter_congr fun r _ => and_iff_left_of_imp fun hpoints => ?_
    rwa [hresolves r hpoints]

/-! ## Repeated keys -/

/-- The repetition of a key that occurs a number of times. -/
def repetitionOf (k : Kind) (key : String) (occurrences : Nat) : Multiset (Kind × String × Nat) :=
  if 2 ≤ occurrences then {(k, key, occurrences)} else 0

/-- **A key is found repeated once, with its number of occurrences.** -/
theorem count_repetitions (c : Catalog) (k : Kind) (key : String) (n : Nat) :
    c.repetitions.count (k, key, n) = if 2 ≤ n ∧ (c.keys k).count key = n then 1 else 0 := by
  have hnodup : c.repetitions.Nodup := by
    rw [repetitions_eq, Multiset.coe_nodup, List.nodup_flatMap]
    refine ⟨fun l _ => ?_, ?_⟩
    · refine List.Nodup.map (fun _ _ => congrArg Prod.snd) (List.Nodup.filter _ ?_)
      exact (nodup_eraseDups _).map fun _ _ => congrArg Prod.fst
    · refine List.Pairwise.imp (R := (· ≠ ·)) ?_ (by decide : Kind.all.Nodup)
      intro l m hne x hl hm
      obtain ⟨y, -, rfl⟩ := List.mem_map.1 hl
      obtain ⟨z, -, hz⟩ := List.mem_map.1 hm
      exact hne (congrArg Prod.fst hz).symm
  have hmem : (k, key, n) ∈ c.repetitions ↔ 2 ≤ n ∧ (c.keys k).count key = n := by
    have hk : k ∈ Kind.all := by cases k <;> simp [Kind.all]
    rw [repetitions_eq, Multiset.mem_coe]
    constructor
    · simp only [List.mem_flatMap, List.mem_map, repeated, List.mem_filter]
      rintro ⟨l, -, -, ⟨⟨key', -, rfl⟩, htwice⟩, hx⟩
      cases hx
      exact ⟨of_decide_eq_true htwice, rfl⟩
    · rintro ⟨htwice, rfl⟩
      have hmem : key ∈ c.keys k := List.count_pos_iff.1 (by omega)
      refine List.mem_flatMap.2 ⟨k, hk, List.mem_map_of_mem (List.mem_filter.2 ⟨?_, ?_⟩)⟩
      · exact List.mem_map_of_mem (List.mem_eraseDups.2 hmem)
      · exact decide_eq_true htwice
  rw [Multiset.count_eq_of_nodup hnodup]
  simp only [hmem]

theorem count_repetitionOf (k l : Kind) (key name : String) (m n : Nat) :
    (repetitionOf k key m).count (l, name, n) =
      if 2 ≤ m ∧ l = k ∧ name = key ∧ n = m then 1 else 0 := by
  rw [repetitionOf]
  split <;> simp_all [Multiset.count_singleton]

/-- The repetitions of all keys but one. -/
def repetitionsBeside (c : Catalog) (k : Kind) (key : String) : Multiset (Kind × String × Nat) :=
  c.repetitions.filter fun x => ¬ (x.1 = k ∧ x.2.1 = key)

theorem repetitions_eq_add (c : Catalog) (k : Kind) (key : String) :
    c.repetitions = c.repetitionsBeside k key + repetitionOf k key ((c.keys k).count key) := by
  ext ⟨l, name, n⟩
  rw [repetitionsBeside, Multiset.count_add, Multiset.count_filter, count_repetitions,
    count_repetitionOf]
  grind

/-- **One entry more leaves the repetitions of other keys as they were.** -/
theorem Gains.repetitionsBeside_eq (h : c.Gains e d) :
    d.repetitionsBeside e.kind e.key = c.repetitionsBeside e.kind e.key := by
  ext ⟨l, name, n⟩
  rw [repetitionsBeside, repetitionsBeside, Multiset.count_filter, Multiset.count_filter,
    count_repetitions, count_repetitions, h.count_keys]
  grind

/-- **One entry more is one occurrence more of its key.** -/
theorem Gains.repetitions_eq (h : c.Gains e d) :
    d.repetitions = c.repetitionsBeside e.kind e.key +
      repetitionOf e.kind e.key ((c.keys e.kind).count e.key + 1) := by
  rw [d.repetitions_eq_add e.kind e.key, h.repetitionsBeside_eq, h.count_keys,
    if_pos ⟨rfl, rfl⟩]

/-! ## Empty bundles -/

/-- **One entry more is one empty bundle more**, if it is one. -/
theorem Gains.emptyBundles_eq (h : c.Gains e d) :
    d.emptyBundles = c.emptyBundles + e.emptyBundle := by
  have hbundles : ∀ c : Catalog, c.emptyBundles =
      (c.entries .bundle : Multiset Entry).bind Entry.emptyBundle := by
    intro c
    rw [Catalog.emptyBundles_eq, map_filter_eq_flatMap, ← Multiset.coe_bind, entries,
      ← Multiset.map_coe, Multiset.bind_map]
    refine Multiset.bind_congr fun b _ => ?_
    by_cases hempty : b.items = [] <;> simp [Entry.emptyBundle, hempty]
  rw [hbundles, hbundles, h .bundle, Multiset.add_bind]
  congr 1
  cases e <;> simp [Entry.kind, Entry.emptyBundle]

/-! ## The report after an edit -/

/-- **The parts make up the report.** -/
theorem coe_issues (c : Catalog) : (c.issues : Multiset Issue) =
    c.danglings.map .dangling + c.repetitions.map (fun x => .duplicate x.1 x.2.1 x.2.2) +
      c.emptyBundles.map .emptyBundle := by
  rw [danglings, repetitions, emptyBundles]
  induction c.issues with
  | nil => rfl
  | cons issue rest ih =>
    rw [← Multiset.cons_coe, ih]
    cases issue <;>
      simp [List.filterMap_cons, Issue.reference?, Issue.repetition?, Issue.emptyBundle?,
        ← Multiset.cons_coe, -Multiset.coe_add]

/-- **The report after an entry is appended.** The references that pointed
to it dangle no more, and its own may, as they would have before. Its key
occurs once more. It is one
more empty bundle, if it is one. No reference is broken. -/
structure ReportGrows (c : Catalog) (e : Entry) (d : Catalog) : Prop where
  danglings : d.danglings = c.danglings.filter (fun r => ¬ r.PointsTo e) +
    (e.references : Multiset Reference).filter fun r => ¬ d.resolves r
  own : ∀ r ∈ e.references, d.resolves r = true ↔ c.resolves r = true
  repetitions : ∃ others, (∀ x ∈ others, ¬ (x.1 = e.kind ∧ x.2.1 = e.key)) ∧
    c.repetitions = others + repetitionOf e.kind e.key ((c.keys e.kind).count e.key) ∧
    d.repetitions = others + repetitionOf e.kind e.key ((c.keys e.kind).count e.key + 1)
  emptyBundles : d.emptyBundles = c.emptyBundles + e.emptyBundle
  keeps : ∀ r ∈ c.references, c.resolves r = true → d.resolves r = true

/-- **The report after an entry is removed.** Its own references dangle no
more. Those that remain and pointed to it, all of which resolved, dangle
now, unless another entry of its kind has its key. Its key occurs once
less. It is one empty bundle less, if it was one. -/
structure ReportShrinks (c : Catalog) (e : Entry) (d : Catalog) : Prop where
  own_le : (e.references : Multiset Reference).filter (fun r => ¬ c.resolves r) ≤ c.danglings
  danglings : d.danglings =
    c.danglings - (e.references : Multiset Reference).filter (fun r => ¬ c.resolves r) +
      if e.key ∈ d.keys e.kind then 0
      else (d.references : Multiset Reference).filter fun r => r.PointsTo e
  resolved : ∀ r ∈ d.references, r.PointsTo e → c.resolves r = true
  repetitions : ∃ others, (∀ x ∈ others, ¬ (x.1 = e.kind ∧ x.2.1 = e.key)) ∧
    c.repetitions = others + repetitionOf e.kind e.key ((c.keys e.kind).count e.key) ∧
    d.repetitions = others + repetitionOf e.kind e.key ((c.keys e.kind).count e.key - 1)
  emptyBundle_le : e.emptyBundle ≤ c.emptyBundles
  emptyBundles : d.emptyBundles = c.emptyBundles - e.emptyBundle
  keeps : e.key ∈ d.keys e.kind →
    ∀ r ∈ d.references, c.resolves r = true → d.resolves r = true

theorem Gains.reportGrows (h : c.Gains e d) : c.ReportGrows e d where
  danglings := h.danglings_eq
  own _ hr := h.resolves_iff_of_mem hr
  repetitions :=
    ⟨c.repetitionsBeside e.kind e.key, fun _ hx => (Multiset.mem_filter.1 hx).2,
      c.repetitions_eq_add e.kind e.key, h.repetitions_eq⟩
  emptyBundles := h.emptyBundles_eq
  keeps _ _ hr := h.resolves_iff.2 (.inl hr)

theorem Gains.reportShrinks (h : d.Gains e c) : c.ReportShrinks e d where
  own_le := by
    rw [h.danglings_eq]
    exact Multiset.le_add_left _ _
  danglings := by
    -- what dangles after the removal did so before, or points to the entry
    rw [← filter_pointsTo_danglings, h.danglings_eq, Multiset.add_sub_cancel_right, add_comm,
      Multiset.filter_add_not]
  resolved _ _ hr := h.resolves_iff.2 (.inr hr)
  repetitions := by
    refine ⟨d.repetitionsBeside e.kind e.key, fun _ hx => (Multiset.mem_filter.1 hx).2, ?_, ?_⟩
    · rw [← h.repetitionsBeside_eq]
      exact c.repetitions_eq_add e.kind e.key
    · rw [h.count_keys, if_pos ⟨rfl, rfl⟩]
      exact d.repetitions_eq_add e.kind e.key
  emptyBundle_le := by
    rw [h.emptyBundles_eq]
    exact Multiset.le_add_left _ _
  emptyBundles := by
    rw [h.emptyBundles_eq, Multiset.add_sub_cancel_right]
  keeps hother r _ hr := by
    rcases h.resolves_iff.1 hr with hr | ⟨hkind, hkey⟩
    · exact hr
    · simpa [resolves, hkind, hkey] using hother

/-- **How one edit changes the integrity report**, as multisets of issues.
The report is made up of its three parts; an append and a removal change
each of them by what the entry brings or takes along. -/
theorem issues_edit (c : Catalog) :
    (c.issues : Multiset Issue) = c.danglings.map .dangling +
      c.repetitions.map (fun x => .duplicate x.1 x.2.1 x.2.2) + c.emptyBundles.map .emptyBundle ∧
    (∀ e i d, c.put none e = .ok (i, d) → c.ReportGrows e d) ∧
    ∀ k i e d, c.remove k i = .ok (e, d) → e.kind = k ∧ c.ReportShrinks e d := by
  refine ⟨c.coe_issues, fun e i d hput => (gains_of_put hput).reportGrows,
    fun k i e d hremove => ⟨?_, (gains_of_remove hremove).reportShrinks⟩⟩
  exact kind_of_mem_entries (List.mem_of_getElem? (remove_eq_ok_iff.1 hremove).1)

/-- An offer for a lamp, listed twice; there is no lamp. -/
def lampOffers : Catalog :=
  let offer : Offer :=
    { className := "lamp_offer", infoModule := "lamp_info", entitlementType := "lamp",
      price := .vbucks 100 }
  { infos := [⟨"lamp_info", .plain "Lamp", .plain "", .plain ""⟩], offers := [offer, offer] }

/-- A lamp that nothing describes. -/
def lamp : Entitlement := { className := "lamp", infoModule := "glow_info" }

/-- The lamp settles the reference of each offer and leaves its own
dangling; without it they dangle again. -/
theorem issues_lampOffers :
    lampOffers.put none (.entitlement lamp) =
      .ok (0, { lampOffers with entitlements := [lamp] }) ∧
    lampOffers.ReportGrows (.entitlement lamp) { lampOffers with entitlements := [lamp] } ∧
    remove { lampOffers with entitlements := [lamp] } .entitlement 0 =
      .ok (.entitlement lamp, lampOffers) ∧
    ReportShrinks { lampOffers with entitlements := [lamp] } (.entitlement lamp) lampOffers ∧
    lampOffers.danglings.card = 2 ∧
    danglings { lampOffers with entitlements := [lamp] } =
      {⟨.entitlement, "lamp", .infoModule, "glow_info", .info⟩} := by
  have hput : lampOffers.put none (.entitlement lamp) =
      .ok (0, { lampOffers with entitlements := [lamp] }) := by decide
  have hremove : remove { lampOffers with entitlements := [lamp] } .entitlement 0 =
      .ok (.entitlement lamp, lampOffers) := by decide
  exact ⟨hput, (issues_edit _).2.1 _ _ _ hput, hremove, ((issues_edit _).2.2 _ _ _ _ hremove).2,
    by decide, by decide⟩

end Catalog

end Storefront
