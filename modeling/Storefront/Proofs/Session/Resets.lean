import Mathlib.Data.List.Induction
import Storefront.Proofs.Catalog.Selected
import Storefront.Session.Basic
/-!
# Sessions — when the selection is reset

An editor performs operations one after the other, and each of them may
fail. The selection stays in step with the catalog: it remembers the
shape that the catalog has. An operation resets it exactly if it changes
that shape, and every other operation does to each name what the editor
asked for (`run_selection`).
-/

namespace Storefront.Session

/-- An operation of an editor. -/
inductive Op where
  | commit (index : Option Nat) (e : Entry)
  | remove (k : Kind) (i : Nat)
  | toggle (name : String)
  | selectOnly (names : List String)
  | deselect (names : List String)
  | setMode (m : Mode)
  | setQuantity (q : UInt32)
  | render
  | renderMode (m : Mode)

/-- A step of which only the success is told. -/
def Step.outcome {α : Type} (t : Step α) : Step Unit :=
  { result := t.result.map fun _ => (), session := t.session, events := t.events }

/-- Perform an operation. -/
def perform (s : Session) : Op → Step Unit
  | .commit index e => (s.commit index e).outcome
  | .remove k i => (s.remove k i).outcome
  | .toggle name => { result := .ok (), session := s.toggle name }
  | .selectOnly names => { result := .ok (), session := s.selectOnly names }
  | .deselect names => { result := .ok (), session := s.deselect names }
  | .setMode m => { result := .ok (), session := s.setMode m }
  | .setQuantity q => s.setQuantity q
  | .render => { result := .ok (), session := s, events := s.renderEvents s.mode }
  | .renderMode m => { result := .ok (), session := s, events := s.renderEvents m }

/-- The session after operations in turn, whether they succeed or fail. -/
def run (s : Session) (ops : List Op) : Session :=
  ops.foldl (fun s op => (s.perform op).session) s

/-- **The operations that resize a catalog** when they succeed: to append
or to remove anything but an info module. -/
def Op.Resizes : Op → Prop
  | .commit none e => e.kind ≠ .info
  | .remove k _ => k ≠ .info
  | _ => False

/-- **A step that resets the selection**: one that succeeds and resizes
the catalog. -/
def Resets (s : Session) (op : Op) : Prop :=
  (s.perform op).result = .ok () ∧ op.Resizes

/-- Whether a name is selected after an operation that does not reset the
selection, from whether it was selected before. -/
def Op.selects (name : String) (was : Bool) : Op → Bool
  | .toggle n => if n = name then !was else was
  | .selectOnly names => was && names.contains name
  | .deselect names => was && !names.contains name
  | _ => was

/-- What the log says of a reset. -/
def resetMessage : String := "Catalog shape changed, selection reset to all"

/-- The event of a reset, in the session after it. -/
def resetEvent (s : Session) : Event :=
  event .debug resetMessage [("selected", .count s.selection.size)]

/-- **A step that logs a reset.** -/
def Step.LogsReset (t : Step Unit) : Prop := ∃ e ∈ t.events, e.message = resetMessage

/-- **A session in step**: its selection remembers the shape that its
catalog has. -/
def InStep (s : Session) : Prop := s.selection.seen = s.catalog.shape

/-- Operations none of which resets the selection, from a session on. -/
def Quiet (s : Session) : List Op → Prop
  | [] => True
  | op :: ops => ¬ s.Resets op ∧ (s.perform op).session.Quiet ops

/-- Operations the last of which resets the selection. -/
def EndsInReset (s : Session) (ops : List Op) : Prop :=
  ∃ earlier op, ops = earlier ++ [op] ∧ (s.run earlier).Resets op

/-- **What a step does to the selection.** It resets it, and logs that it
did, exactly when it resizes the catalog; otherwise every name is
selected or not as the editor asked. -/
structure ResetPolicy (s : Session) (op : Op) : Prop where
  inStep : (s.perform op).session.InStep
  logsReset_iff : (s.perform op).LogsReset ↔ s.Resets op
  reset : s.Resets op →
    (s.perform op).session.selection = .all (s.perform op).session.catalog ∧
      resetEvent (s.perform op).session ∈ (s.perform op).events
  kept : ¬ s.Resets op → ∀ name, (s.perform op).session.selection.contains name =
    op.selects name (s.selection.contains name)

variable {s : Session} {op : Op} {c d : Catalog}

theorem run_append (s : Session) (ops more : List Op) :
    s.run (ops ++ more) = (s.run ops).run more := by
  rw [run, run, run, List.foldl_append]

theorem quiet_append {ops more : List Op} :
    s.Quiet (ops ++ more) ↔ s.Quiet ops ∧ (s.run ops).Quiet more := by
  induction ops generalizing s with
  | nil => simp [Quiet, run]
  | cons op ops ih =>
    have hrun : s.run (op :: ops) = (s.perform op).session.run ops := rfl
    rw [List.cons_append, Quiet, Quiet, ih, hrun, and_assoc]

/-! ## One step -/

theorem inStep_start (c : Catalog) : (start c).InStep := rfl

/-- A catalog of the same shape leaves the selection alone. -/
theorem sync_of_shape_eq (h : s.InStep) (hd : d.shape = s.catalog.shape) :
    ({ s with catalog := d } : Session).sync = { s with catalog := d } ∧
      ({ s with catalog := d } : Session).syncEvents = [] := by
  have hfresh : s.selection.isStale d = false := by
    rw [Selection.isStale, hd, h, bne_self_eq_false]
  simp [sync, syncEvents, Selection.sync, hfresh]

/-- A catalog of another shape resets the selection, and the log says so. -/
theorem sync_of_shape_ne (h : s.InStep) (hd : d.shape ≠ s.catalog.shape) :
    ({ s with catalog := d } : Session).sync = { s with catalog := d, selection := .all d } ∧
      ({ s with catalog := d } : Session).syncEvents =
        [resetEvent { s with catalog := d, selection := .all d }] := by
  have hstale : s.selection.isStale d = true := by
    rw [Selection.isStale, h, bne_iff_ne]
    exact hd
  simp [sync, syncEvents, Selection.sync, hstale, resetEvent, resetMessage]

/-- A step that leaves the shape and the log of resets alone. -/
theorem resetPolicy_of_not_resets (h : (s.perform op).session.InStep) (hop : ¬ s.Resets op)
    (hlog : ∀ e ∈ (s.perform op).events, e.message ≠ resetMessage)
    (hnames : ∀ name, (s.perform op).session.selection.contains name =
      op.selects name (s.selection.contains name)) : s.ResetPolicy op where
  inStep := h
  logsReset_iff := iff_of_false (fun ⟨e, he, hmessage⟩ => hlog e he hmessage) hop
  reset := fun hreset => absurd hreset hop
  kept := fun _ => hnames

/-- A step that fails obeys the policy by leaving the session as it was. -/
theorem resetPolicy_of_failure (h : s.InStep) {f : Failure} {events : List Event}
    (hlog : ∀ e ∈ events, e.message ≠ resetMessage)
    (hstep : s.perform op = { result := .error f, session := s, events := events })
    (hnames : ∀ name was, op.selects name was = was) : s.ResetPolicy op := by
  refine resetPolicy_of_not_resets ?_ ?_ ?_ fun name => ?_
  · rw [hstep]
    exact h
  · rintro ⟨hresult, -⟩
    rw [hstep] at hresult
    cases hresult
  · rw [hstep]
    exact hlog
  · rw [hstep, hnames]

/-- **A step that stores a catalog** obeys the policy if it resizes the
catalog exactly when the shapes differ. -/
theorem resetPolicy_of_store (h : s.InStep) {e : Event} (he : e.message ≠ resetMessage)
    (hstep : s.perform op =
      { result := .ok ()
        session := ({ s with catalog := d } : Session).sync
        events := e :: ({ s with catalog := d } : Session).syncEvents })
    (hshape : d.shape = s.catalog.shape ↔ ¬ op.Resizes)
    (hnames : ∀ name was, op.selects name was = was) : s.ResetPolicy op := by
  by_cases hd : d.shape = s.catalog.shape
  · obtain ⟨hsync, hevents⟩ := sync_of_shape_eq h hd
    rw [hsync, hevents] at hstep
    refine resetPolicy_of_not_resets ?_ (fun hreset => hshape.1 hd hreset.2) ?_ ?_
    · rw [hstep]
      exact h.trans hd.symm
    · rw [hstep]
      simpa using he
    · intro name
      rw [hstep, hnames]
  · obtain ⟨hsync, hevents⟩ := sync_of_shape_ne h hd
    rw [hsync, hevents] at hstep
    have hreset : s.Resets op := ⟨by rw [hstep], not_not.1 fun hno => hd (hshape.2 hno)⟩
    have hlogged : resetEvent (s.perform op).session ∈ (s.perform op).events := by
      rw [hstep]
      exact List.mem_cons_of_mem _ List.mem_cons_self
    exact
      { inStep := by rw [hstep]; rfl
        logsReset_iff := iff_of_true ⟨_, hlogged, rfl⟩ hreset
        reset := fun _ => ⟨by rw [hstep], hlogged⟩
        kept := fun hno => absurd hreset hno }

/-- A commit obeys the policy. -/
theorem resetPolicy_commit (h : s.InStep) (index : Option Nat) (e : Entry) :
    s.ResetPolicy (.commit index e) := by
  cases hput : s.catalog.put index e with
  | error reason =>
    have hstep : s.perform (.commit index e) =
        { result := .error (.catalog reason)
          session := s
          events := [event .warn "Entry rejected" [("error", .shown reason.message)]] } := by
      rw [perform, commit, hput]
      rfl
    exact resetPolicy_of_failure h (by simp [event, resetMessage]) hstep fun _ _ => rfl
  | ok r =>
    obtain ⟨place, d⟩ := r
    have hstep : s.perform (.commit index e) =
        { result := .ok ()
          session := ({ s with catalog := d } : Session).sync
          events := event .debug "Entry committed" [("at", .count place)] ::
            ({ s with catalog := d } : Session).syncEvents } := by
      rw [perform, commit, hput]
      rfl
    refine resetPolicy_of_store h (by simp [event, resetMessage]) hstep ?_ fun _ _ => rfl
    rw [Catalog.shape_of_put hput]
    cases index <;> simp [Op.Resizes]

/-- A removal obeys the policy. -/
theorem resetPolicy_remove (h : s.InStep) (k : Kind) (i : Nat) :
    s.ResetPolicy (.remove k i) := by
  cases hremove : s.catalog.remove k i with
  | error reason =>
    have hstep : s.perform (.remove k i) =
        { result := .error (.catalog reason), session := s } := by
      rw [perform, remove, hremove]
      rfl
    exact resetPolicy_of_failure h (by simp) hstep fun _ _ => rfl
  | ok r =>
    obtain ⟨e, d⟩ := r
    have hstep : s.perform (.remove k i) =
        { result := .ok ()
          session := ({ s with catalog := d } : Session).sync
          events := event .debug "Entry removed" [("key", .text e.key)] ::
            ({ s with catalog := d } : Session).syncEvents } := by
      rw [perform, remove, hremove]
      rfl
    refine resetPolicy_of_store h (by simp [event, resetMessage]) hstep ?_ fun _ _ => rfl
    rw [Catalog.shape_of_remove hremove]
    simp [Op.Resizes]

/-- What is told of a rendering is not a reset. -/
theorem message_ne_of_mem_renderEvents {m : Mode} {e : Event} (h : e ∈ s.renderEvents m) :
    e.message ≠ resetMessage := by
  obtain ⟨f, hf, rfl⟩ := List.mem_map.1 h
  rw [List.mem_singleton.1 hf]
  simp [event, resetMessage]

/-- **Every operation obeys the policy**, one case for each. -/
theorem resetPolicy (h : s.InStep) (op : Op) : s.ResetPolicy op := by
  cases op with
  | commit index e => exact resetPolicy_commit h index e
  | remove k i => exact resetPolicy_remove h k i
  -- no other operation resizes, so the second half of a reset is absurd
  | toggle name =>
    refine resetPolicy_of_not_resets ?_ And.right (by simp [perform]) fun _ => ?_
    · change (s.selection.toggle name).seen = s.catalog.shape
      rw [Selection.toggle]
      split <;> exact h
    · exact Selection.contains_toggle
  | selectOnly names =>
    exact resetPolicy_of_not_resets h And.right (by simp [perform])
      fun _ => Selection.contains_restrictTo names
  | deselect names =>
    exact resetPolicy_of_not_resets h And.right (by simp [perform])
      fun _ => Selection.contains_exclude names
  | setMode m => exact resetPolicy_of_not_resets h And.right (by simp [perform]) fun _ => rfl
  | setQuantity q =>
    -- the quantity is the only thing that may change
    obtain ⟨hselection, hcatalog, hevents⟩ : (s.setQuantity q).session.selection = s.selection ∧
        (s.setQuantity q).session.catalog = s.catalog ∧ (s.setQuantity q).events = [] := by
      rw [setQuantity]
      split <;> exact ⟨rfl, rfl, rfl⟩
    refine resetPolicy_of_not_resets ?_ And.right ?_ fun name => ?_
    · rw [perform, InStep, hselection, hcatalog]
      exact h
    · rw [perform, hevents]
      simp
    · rw [perform, hselection]
      rfl
  | render =>
    exact resetPolicy_of_not_resets h And.right
      (fun _ he => message_ne_of_mem_renderEvents he) fun _ => rfl
  | renderMode m =>
    exact resetPolicy_of_not_resets h And.right
      (fun _ he => message_ne_of_mem_renderEvents he) fun _ => rfl

/-! ## A whole run -/

/-- **A session stays in step**, by induction on the operations. -/
theorem inStep_run (h : s.InStep) (ops : List Op) : (s.run ops).InStep := by
  induction ops generalizing s with
  | nil => exact h
  | cons op ops ih => exact ih (resetPolicy h op).inStep

/-- **A run of edits is made name by name.** -/
theorem contains_run (h : s.InStep) {ops : List Op} (hquiet : s.Quiet ops) (name : String) :
    (s.run ops).selection.contains name =
      ops.foldl (fun was op => op.selects name was) (s.selection.contains name) := by
  induction ops generalizing s with
  | nil => rfl
  | cons op ops ih =>
    obtain ⟨hop, hrest⟩ := hquiet
    rw [List.foldl_cons, ← (resetPolicy h op).kept hop name]
    exact ih (resetPolicy h op).inStep hrest

/-- Every run is cut after its last reset. -/
theorem exists_cut (s : Session) (ops : List Op) :
    ∃ before after, ops = before ++ after ∧ (before = [] ∨ s.EndsInReset before) ∧
      (s.run before).Quiet after := by
  -- on the last operation, since that is the one that may move the cut
  induction ops using List.reverseRecOn with
  | nil => exact ⟨[], [], rfl, .inl rfl, trivial⟩
  | append_singleton ops op ih =>
    by_cases hop : (s.run ops).Resets op
    · exact ⟨ops ++ [op], [], by simp, .inr ⟨ops, op, rfl, hop⟩, trivial⟩
    · obtain ⟨before, after, rfl, hbefore, hafter⟩ := ih
      refine ⟨before, after ++ [op], by simp, hbefore, quiet_append.2 ⟨hafter, ?_, trivial⟩⟩
      rwa [← run_append]

/-- **The selection over a whole run.** From the start of a session,
whatever operations are performed and whether they succeed or fail, the
selection remembers the shape of the catalog, and every step obeys the
policy. At the end the names of the catalog as it stood after the last
reset are selected, or as it stood at the start if there was none, up to
the edits made since. -/
theorem run_selection (c : Catalog) (ops : List Op) :
    ((start c).run ops).InStep ∧
    (∀ op, ((start c).run ops).ResetPolicy op) ∧
    ∃ before after, ops = before ++ after ∧
      (before = [] ∨ (start c).EndsInReset before) ∧
      ((start c).run before).Quiet after ∧
      ∀ name, ((start c).run ops).selection.contains name =
        after.foldl (fun selected op => op.selects name selected)
          (((start c).run before).catalog.classNames.contains name) := by
  have hinStep := fun ops => inStep_run (inStep_start c) ops
  refine ⟨hinStep ops, resetPolicy (hinStep ops), ?_⟩
  obtain ⟨before, after, rfl, hbefore, hquiet⟩ := exists_cut (start c) ops
  refine ⟨before, after, rfl, hbefore, hquiet, fun name => ?_⟩
  have hall : ((start c).run before).selection = .all ((start c).run before).catalog := by
    rcases hbefore with rfl | ⟨earlier, op, rfl, hreset⟩
    · rfl
    · rw [run_append]
      exact ((resetPolicy (hinStep earlier) op).reset hreset).1
  rw [run_append, contains_run (hinStep before) hquiet, hall, Selection.contains_all]

/-- A deselection survives that the entry is replaced, and is lost when
another one is appended. -/
example :
    let gem : Entitlement := { className := "gem", infoModule := "gem_info" }
    let s := (start .empty).run
      [.commit none (.entitlement gem), .toggle "gem",
        .commit (some 0) (.entitlement { gem with icon := "gem_icon" })]
    s.selection.contains "gem" = false ∧
      (s.run [.commit none (.entitlement gem)]).selection.contains "gem" = true := by
  decide

end Storefront.Session
