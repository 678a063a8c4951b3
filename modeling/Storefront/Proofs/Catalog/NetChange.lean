import Storefront.Proofs.Catalog.Selected
import Storefront.Proofs.Results
/-!
# Catalog — what a selection sees of a run of edits

A catalog and a selection can be edited apart from each other, and `sync`
brings them together again. All that it sees of the edits in between is
how many entries were appended and taken out, kind by kind: where these
numbers are equal nothing is reset, and a failed edit, a replacement or an
edit of the selection counts for nothing (`run_syncsIf`).
-/

namespace Storefront

namespace Selection

/-- An edit of the selected names. -/
inductive Edit where
  | insert (name : String)
  | erase (name : String)
  | toggle (name : String)
  | restrictTo (names : List String)
  | exclude (names : List String)
  | clear

/-- The selection after an edit of its names. -/
def edit (s : Selection) : Edit → Selection
  | .insert name => s.insert name
  | .erase name => s.erase name
  | .toggle name => s.toggle name
  | .restrictTo names => s.restrictTo names
  | .exclude names => s.exclude names
  | .clear => s.clear

/-- **What a selection makes of a catalog**: it says whether there was a
change, is reset to everything if there was, and is left as it is if there
was none. Either way it sees no change when it is asked again. -/
structure SyncsIf (s : Selection) (c : Catalog) (changed : Prop) : Prop where
  answers : s.isStale c = true ↔ changed
  reset : changed → s.sync c = .all c
  kept : ¬ changed → s.sync c = s
  settled : (s.sync c).isStale c = false
  still : (s.sync c).sync c = s.sync c

variable {s : Selection} {c : Catalog} {changed : Prop}

/-- No edit of the names touches what is remembered. -/
theorem seen_edit (s : Selection) (a : Edit) : (s.edit a).seen = s.seen := by
  cases a with
  | toggle name =>
    rw [edit, toggle]
    split <;> rfl
  | insert name => rfl
  | erase name => rfl
  | restrictTo names => rfl
  | exclude names => rfl
  | clear => rfl

theorem isStale_iff : s.isStale c = true ↔ c.shape ≠ s.seen := bne_iff_ne

theorem sync_of_isStale (h : s.isStale c = true) : s.sync c = .all c := by
  rw [sync, if_pos h]

theorem sync_of_not_isStale (h : s.isStale c = false) : s.sync c = s := by
  rw [sync, h, if_neg Bool.false_ne_true]

/-- A selection in step with a catalog is left alone. -/
theorem isStale_sync (s : Selection) (c : Catalog) : (s.sync c).isStale c = false := by
  cases h : s.isStale c with
  | true =>
    rw [sync_of_isStale h]
    exact bne_self_eq_false _
  | false => rwa [sync_of_not_isStale h]

theorem syncsIf_of_isStale_iff (h : s.isStale c = true ↔ changed) : s.SyncsIf c changed where
  answers := h
  reset hchanged := sync_of_isStale (h.2 hchanged)
  kept hno := sync_of_not_isStale (Bool.eq_false_iff.2 fun hstale => hno (h.1 hstale))
  settled := isStale_sync s c
  still := sync_of_not_isStale (isStale_sync s c)

end Selection

theorem Catalog.shape_ne_iff {c d : Catalog} :
    c.shape ≠ d.shape ↔ ∃ k, k ≠ .info ∧ c.count k ≠ d.count k := by
  rw [ne_eq, shape_eq_iff]
  simp only [not_forall, exists_prop, ne_eq]

/-- A catalog, and a selection beside it. -/
structure Workbench where
  catalog : Catalog
  selection : Selection
  deriving DecidableEq

namespace Workbench

/-- A call on the catalog or on the selection. -/
inductive Call where
  | put (index : Option Nat) (e : Entry)
  | remove (k : Kind) (i : Nat)
  | select (edit : Selection.Edit)

/-- Whether a call, if it succeeds, appends an entry of a kind. -/
def Call.appendsTo (k : Kind) : Call → Bool
  | put none e => e.kind == k
  | _ => false

/-- Whether a call, if it succeeds, takes out an entry of a kind. -/
def Call.takesFrom (k : Kind) : Call → Bool
  | remove l _ => l == k
  | _ => false

/-- What becomes of a call. -/
def attempt (w : Workbench) : Call → Except CatalogError Workbench
  | .put index e => (w.catalog.put index e).map fun r => { w with catalog := r.2 }
  | .remove k i => (w.catalog.remove k i).map fun r => { w with catalog := r.2 }
  | .select edit => .ok { w with selection := w.selection.edit edit }

/-- The workbench after a call; a call that fails leaves it as it was. -/
def after (w : Workbench) (call : Call) : Workbench :=
  match w.attempt call with
  | .ok v => v
  | .error _ => w

/-- The workbench after calls in turn. -/
def run (w : Workbench) (calls : List Call) : Workbench := calls.foldl after w

/-- The calls that succeed when calls are made in turn. -/
def succeeded (w : Workbench) : List Call → List Call
  | [] => []
  | call :: calls =>
    match w.attempt call with
    | .ok v => call :: v.succeeded calls
    | .error _ => w.succeeded calls

/-- How many entries of a kind are appended when calls are made in turn. -/
def appended (w : Workbench) (calls : List Call) (k : Kind) : Nat :=
  (w.succeeded calls).countP (Call.appendsTo k)

/-- How many entries of a kind are taken out. -/
def takenOut (w : Workbench) (calls : List Call) (k : Kind) : Nat :=
  (w.succeeded calls).countP (Call.takesFrom k)

variable {w v : Workbench} {call : Call}

/-! ## One call -/

/-- A call that succeeds changes the count of a kind by what it appends to
it and takes from it. -/
theorem count_of_attempt (h : w.attempt call = .ok v) (k : Kind) :
    v.catalog.count k + (if call.takesFrom k then 1 else 0) =
      w.catalog.count k + if call.appendsTo k then 1 else 0 := by
  cases call with
  | put index e =>
    obtain ⟨⟨i, c⟩, hput, rfl⟩ := map_eq_ok_iff.1 h
    obtain ⟨-, -, -, rfl⟩ := Catalog.put_eq_ok_iff.1 hput
    cases index with
    | none => simp [Call.takesFrom, Call.appendsTo, Catalog.count_store_none]
    | some i => simp [Call.takesFrom, Call.appendsTo, Catalog.count_store_some]
  | remove l i =>
    obtain ⟨⟨e, c⟩, hremove, rfl⟩ := map_eq_ok_iff.1 h
    obtain ⟨hentry, rfl⟩ := Catalog.remove_eq_ok_iff.1 hremove
    have hlt : i < w.catalog.count l := by
      rw [← Catalog.length_entries]
      exact (List.getElem?_eq_some_iff.1 hentry).1
    simp only [Call.takesFrom, Call.appendsTo, Catalog.count_erase hlt, beq_iff_eq]
    split
    · next heq =>
      subst heq
      simp
      omega
    · simp
  | select edit =>
    obtain rfl := Except.ok.inj h
    rfl

theorem seen_of_attempt (h : w.attempt call = .ok v) : v.selection.seen = w.selection.seen := by
  cases call with
  | put index e =>
    obtain ⟨r, -, rfl⟩ := map_eq_ok_iff.1 h
    rfl
  | remove k i =>
    obtain ⟨r, -, rfl⟩ := map_eq_ok_iff.1 h
    rfl
  | select edit =>
    obtain rfl := Except.ok.inj h
    exact Selection.seen_edit _ _

/-! ## A whole run -/

theorem run_cons_of_ok (h : w.attempt call = .ok v) (calls : List Call) :
    w.run (call :: calls) = v.run calls := by
  rw [run, List.foldl_cons, after, h]
  rfl

theorem run_cons_of_error {reason : CatalogError} (h : w.attempt call = .error reason)
    (calls : List Call) : w.run (call :: calls) = w.run calls := by
  rw [run, List.foldl_cons, after, h]
  rfl

/-- **The count of a kind after a run** is what it was, with what was
appended and without what was taken out; by induction on the calls. -/
theorem count_run (w : Workbench) (calls : List Call) (k : Kind) :
    (w.run calls).catalog.count k + w.takenOut calls k =
      w.catalog.count k + w.appended calls k := by
  induction calls generalizing w with
  | nil => rfl
  | cons call calls ih =>
    cases hattempt : w.attempt call with
    | error reason =>
      rw [run_cons_of_error hattempt]
      simp only [takenOut, appended, succeeded, hattempt]
      exact ih w
    | ok v =>
      have hstep := count_of_attempt hattempt k
      have hrest := ih v
      rw [run_cons_of_ok hattempt]
      simp only [takenOut, appended, succeeded, hattempt, List.countP_cons] at hrest ⊢
      omega

/-- What the selection remembers is kept through a run. -/
theorem seen_run (w : Workbench) (calls : List Call) :
    (w.run calls).selection.seen = w.selection.seen := by
  induction calls generalizing w with
  | nil => rfl
  | cons call calls ih =>
    cases hattempt : w.attempt call with
    | error reason => rw [run_cons_of_error hattempt, ih]
    | ok v => rw [run_cons_of_ok hattempt, ih, seen_of_attempt hattempt]

/-- A run leads to another shape if, for some kind but info modules, it
appends and takes out entries in different numbers. -/
theorem shape_run_ne_iff (w : Workbench) (calls : List Call) :
    (w.run calls).catalog.shape ≠ w.catalog.shape ↔
      ∃ k, k ≠ .info ∧ w.appended calls k ≠ w.takenOut calls k := by
  rw [Catalog.shape_ne_iff]
  refine exists_congr fun k => and_congr_right fun _ => not_congr ?_
  have hcount := count_run w calls k
  omega

/-- **`sync` sees exactly the net change.** Let a selection remember the
shape of the catalog beside it, and let calls be made on both, successful
or not, none of them a `sync`. The next `sync` resets the selection if the
numbers of entries appended and taken out differ for some kind but info
modules, and leaves it alone otherwise. A selection that remembers nothing
is reset by a catalog with an entry of such a kind, and by no other. -/
theorem run_syncsIf :
    (∀ (w : Workbench) (calls : List Call), w.selection.seen = w.catalog.shape →
      (w.run calls).selection.SyncsIf (w.run calls).catalog
        (∃ k, k ≠ .info ∧ w.appended calls k ≠ w.takenOut calls k)) ∧
    ∀ (s : Selection) (c : Catalog), (s = {} ∨ ∃ names, s = .ofList names) →
      s.SyncsIf c (∃ k, k ≠ .info ∧ c.entries k ≠ []) := by
  refine ⟨fun w calls h => ?_, fun s c h => ?_⟩
  · refine Selection.syncsIf_of_isStale_iff ?_
    rw [Selection.isStale_iff, seen_run, h, shape_run_ne_iff]
  · have hseen : s.seen = Catalog.empty.shape := by
      rcases h with rfl | ⟨names, rfl⟩ <;> rfl
    refine Selection.syncsIf_of_isStale_iff ?_
    rw [Selection.isStale_iff, hseen, Catalog.shape_ne_iff]
    refine exists_congr fun k => and_congr_right fun _ => not_congr ?_
    rw [← Catalog.length_entries, ← Catalog.length_entries, Catalog.entries_empty, List.length_nil,
      List.length_eq_zero_iff]

/-- A gem that is on offer, all of it selected. -/
def gemBench : Workbench :=
  let gemShop : Catalog :=
    { entitlements := [{ className := "gem", infoModule := "gem_info" }]
      offers :=
        [{ className := "gem_offer", infoModule := "gem_info", entitlementType := "gem",
           price := .vbucks 100 }] }
  ⟨gemShop, .all gemShop⟩

/-- A second gem of the same name comes and the first one goes, the offer
is not to be had for 120, and the gem is deselected. -/
def exchange : List Call :=
  [.put none (.entitlement { className := "gem", infoModule := "gem_info", icon := "new" }),
    .remove .entitlement 0,
    .put none (.offer { className := "odd_offer", infoModule := "gem_info",
                        entitlementType := "gem", price := .vbucks 120 }),
    .select (.toggle "gem")]

/-- A second gem comes and the offer goes. -/
def swap : List Call :=
  [.put none (.entitlement { className := "gem", infoModule := "gem_info" }), .remove .offer 0]

/-- The exchange is not seen and the gem stays deselected; the swap keeps
the number of entries and is seen. -/
theorem syncsIf_gemBench : gemBench.selection.seen = gemBench.catalog.shape ∧
    ((gemBench.run exchange).selection.sync (gemBench.run exchange).catalog).toList =
      ["gem_offer"] ∧
    (gemBench.run swap).selection.isStale (gemBench.run swap).catalog = true ∧
    (gemBench.run swap).selection.sync (gemBench.run swap).catalog =
      .all (gemBench.run swap).catalog ∧
    (Selection.ofList ["gem"]).isStale .empty = false := by
  obtain ⟨hrun, hfresh⟩ := run_syncsIf
  have hexchange := hrun gemBench exchange rfl
  have hswap := hrun gemBench swap rfl
  have hnothing := hfresh (.ofList ["gem"]) .empty (.inr ⟨_, rfl⟩)
  have hseen : ∃ k, k ≠ Kind.info ∧ gemBench.appended swap k ≠ gemBench.takenOut swap k :=
    ⟨.offer, by decide, by decide⟩
  refine ⟨rfl, ?_, hswap.answers.2 hseen, hswap.reset hseen, ?_⟩
  · have hkept := hexchange.kept (by
      rintro ⟨k, hk, hnet⟩
      revert hnet
      cases k <;> decide)
    rw [hkept]
    decide
  · refine Bool.eq_false_iff.2 fun hstale => ?_
    obtain ⟨k, -, hne⟩ := hnothing.answers.1 hstale
    exact hne (Catalog.entries_empty k)

end Workbench

end Storefront
