import Storefront.Proofs.Session.Resets
import Storefront.Proofs.Storage.MemoryTree
/-!
# Sessions — documents in a tree

Writing the document of a session to a tree in memory has two outcomes: a
path that is taken is refused unless the write is forced, and every other
write succeeds, because the directory that the file needs is made first.
So an editor who never forces a write keeps every file from its first
write on, whatever else happens (`writes_keep`).
-/

namespace Storefront

/-- A session and the tree that its documents are written to. -/
structure Desk where
  session : Session
  tree : MemoryTree

namespace Desk

open Session

/-- What an editor does at a desk. -/
inductive Act where
  | edit (op : Op)
  | write (path : String) (force : Bool)

/-- Write the document to a path. -/
def write (d : Desk) (path : String) (force : Bool) : Written MemoryTree :=
  d.session.writeDocument d.tree path force

/-- The desk after an act, whether it succeeds or fails. -/
def act (d : Desk) : Act → Desk
  | .edit op => { d with session := (d.session.perform op).session }
  | .write path force => { d with tree := (d.write path force).sink }

/-- The desk after acts in turn. -/
def run (d : Desk) (acts : List Act) : Desk := acts.foldl act d

/-- An act that forces nothing. -/
def Act.Unforced : Act → Prop
  | .write _ force => force = false
  | .edit _ => True

/-- **The first write** to a place among some acts: it succeeds, and no
earlier one to the place does. -/
structure FirstWrite (d : Desk) (acts : List Act) (p : String) (before : List Act)
    (path : String) : Prop where
  made : before ++ [.write path false] <+: acts
  same : Path.components path = Path.components p
  succeeds : ((d.run before).write path false).failure = none
  first : ∀ earlier q, earlier ++ [.write q false] <+: before →
    Path.components q = Path.components p → ((d.run earlier).write q false).failure ≠ none

variable {d : Desk} {acts : List Act} {a : Act} {path p text : String} {force : Bool}

/-! ## One write -/

/-- A path that is taken is refused. -/
theorem write_of_taken (h : d.tree.Taken path) :
    (d.write path false).failure = some (.transfer (.outputExists path)) ∧
      (d.write path false).sink = d.tree := by
  have htaken : Sink.isTaken d.tree path = true := MemoryTree.isTaken_iff.2 h
  simp [write, writeDocument, htaken]

/-- **Every other write succeeds.** -/
theorem write_of_free (h : ¬ (d.tree.Taken path ∧ force = false)) :
    (d.write path force).failure = none ∧
      d.tree.Receives (d.write path force).sink path d.session.render := by
  have hgo : (Sink.isTaken d.tree path && !force) = false := by
    rw [Bool.eq_false_iff]
    intro htaken
    obtain ⟨htaken, hforce⟩ := Bool.and_eq_true_iff.1 htaken
    exact h ⟨MemoryTree.isTaken_iff.1 htaken, by simpa using hforce⟩
  obtain ⟨u, hprepare, hfiles, hparent, hdirs⟩ := d.tree.exists_prepared path
  obtain ⟨v, hwrite, hreceives⟩ :=
    MemoryTree.receives_of_prepared hfiles hparent hdirs d.session.render
  have hsink : Sink.writeFile u path d.session.render = { sink := v } := by
    simp only [Sink.writeFile, hwrite]
  have hstep : (d.write path force).failure = none ∧ (d.write path force).sink = v := by
    simp [write, writeDocument, hgo, hprepare, hsink, Written.andThen, Written.told]
  exact ⟨hstep.1, hstep.2 ▸ hreceives⟩

/-! ## One act -/

/-- An unforced write to a place where there is a file is refused. -/
theorem write_of_read? (hread : d.tree.read? p = some text)
    (hsame : Path.components path = Path.components p) :
    (d.write path false).failure ≠ none ∧ (d.write path false).sink = d.tree := by
  obtain ⟨hfailure, hsink⟩ :=
    write_of_taken (.inl ⟨text, (MemoryTree.read?_congr hsame).trans hread⟩)
  exact ⟨by simp [hfailure], hsink⟩

/-- What an unforced write that succeeds leaves. -/
theorem receives_of_succeeds (h : (d.write path false).failure = none) :
    ¬ d.tree.Taken path ∧ d.tree.Receives (d.write path false).sink path d.session.render := by
  by_cases htaken : d.tree.Taken path
  · simp [(write_of_taken htaken).1] at h
  · exact ⟨htaken, (write_of_free fun hboth => htaken hboth.1).2⟩

/-- **An act keeps every file**, if it forces nothing. -/
theorem read?_act (ha : a.Unforced) (hread : d.tree.read? p = some text) :
    (d.act a).tree.read? p = some text := by
  cases a with
  | edit op => exact hread
  | write path force =>
    obtain rfl : force = false := ha
    rw [act]
    by_cases hsame : Path.components path = Path.components p
    · rwa [(write_of_read? hread hsame).2]
    · by_cases htaken : d.tree.Taken path
      · rwa [(write_of_taken htaken).2]
      · have hreceives := (write_of_free fun h : _ ∧ false = false => htaken h.1).2
        rwa [hreceives.others p (Ne.symm hsame)]

/-- **A file that is new was written by the act.** -/
theorem exists_write_of_read?_act (ha : a.Unforced) (hnone : d.tree.read? p = none)
    (hread : (d.act a).tree.read? p = some text) :
    ∃ path, a = .write path false ∧ Path.components path = Path.components p ∧
      (d.write path false).failure = none ∧ text = d.session.render := by
  cases a with
  | edit op => exact absurd (hread.symm.trans hnone) (Option.some_ne_none _)
  | write path force =>
    obtain rfl : force = false := ha
    rw [act] at hread
    by_cases htaken : d.tree.Taken path
    · rw [(write_of_taken htaken).2, hnone] at hread
      cases hread
    · obtain ⟨hsucceeds, hreceives⟩ := write_of_free fun h : _ ∧ false = false => htaken h.1
      by_cases hsame : Path.components path = Path.components p
      · rw [← MemoryTree.read?_congr hsame, hreceives.written] at hread
        exact ⟨path, rfl, hsame, hsucceeds, (Option.some.inj hread).symm⟩
      · rw [hreceives.others p (Ne.symm hsame), hnone] at hread
        cases hread

/-! ## A whole run -/

theorem run_append (d : Desk) (acts more : List Act) :
    d.run (acts ++ more) = (d.run acts).run more := by
  rw [run, run, run, List.foldl_append]

/-- **Every file is kept throughout**, by induction on the acts. -/
theorem read?_run (hacts : ∀ a ∈ acts, a.Unforced) (hread : d.tree.read? p = some text) :
    (d.run acts).tree.read? p = some text := by
  induction acts generalizing d with
  | nil => exact hread
  | cons a acts ih =>
    exact ih (fun b hb => hacts b (List.mem_cons_of_mem _ hb))
      (read?_act (hacts a List.mem_cons_self) hread)

/-- **What a write that succeeds leaves is read at the end.** -/
theorem read?_of_succeeds (hacts : ∀ a ∈ acts, a.Unforced) {before : List Act}
    (hmade : before ++ [.write path false] <+: acts)
    (hsame : Path.components path = Path.components p)
    (hsucceeds : ((d.run before).write path false).failure = none) :
    (d.run acts).tree.read? p = some (d.run before).session.render := by
  obtain ⟨after, rfl⟩ := hmade
  rw [run_append]
  refine read?_run (fun a ha => hacts a (List.mem_append_right _ ha)) ?_
  rw [run_append, ← MemoryTree.read?_congr hsame]
  exact (receives_of_succeeds hsucceeds).2.written

/-- **A file that is new at the end has a first write**, by induction from
the end. -/
theorem exists_firstWrite (hacts : ∀ a ∈ acts, a.Unforced) (hnone : d.tree.read? p = none)
    (hread : (d.run acts).tree.read? p = some text) :
    ∃ before path, d.FirstWrite acts p before path ∧ text = (d.run before).session.render := by
  induction acts using List.reverseRecOn with
  | nil => exact absurd (hread.symm.trans hnone) (Option.some_ne_none _)
  | append_singleton acts a ih =>
    have hearlier : ∀ b ∈ acts, b.Unforced := fun b hb => hacts b (List.mem_append_left _ hb)
    have ha : a.Unforced := hacts a (by simp)
    rw [run_append] at hread
    cases hbefore : (d.run acts).tree.read? p with
    | some text' =>
      obtain rfl : text' = text :=
        Option.some.inj ((read?_act ha hbefore).symm.trans hread)
      obtain ⟨before, path, hfirst, htext⟩ := ih hearlier hbefore
      exact ⟨before, path,
        { hfirst with made := hfirst.made.trans (List.prefix_append _ _) }, htext⟩
    | none =>
      obtain ⟨path, rfl, hsame, hsucceeds, htext⟩ := exists_write_of_read?_act ha hbefore hread
      refine ⟨acts, path, ⟨List.prefix_rfl, hsame, hsucceeds, ?_⟩, htext⟩
      -- an earlier write would have left a file, and it would still be there
      intro earlier q hmade hq hwritten
      have hfile := read?_of_succeeds hearlier hmade hq hwritten
      exact absurd (hfile.symm.trans hbefore) (Option.some_ne_none _)

/-! ## The law of documents -/

/-- **Documents in a tree.** A write to a path that is taken is refused
unless it is forced, and leaves the tree as it was. Every other write
succeeds: the file holds the document of the session as it is, no other
place is touched, and just the places above the path are made. Either way
the session stays as it was. So over any acts that force nothing a file is
never changed; and one that is new at the end holds the document of the
session at the time of the first write that succeeded there. -/
theorem writes_keep :
    (∀ (d : Desk) path force,
      (d.tree.Taken path ∧ force = false →
        (d.write path force).failure = some (.transfer (.outputExists path)) ∧
          (d.write path force).sink = d.tree) ∧
      (¬ (d.tree.Taken path ∧ force = false) →
        (d.write path force).failure = none ∧
          d.tree.Receives (d.write path force).sink path d.session.render) ∧
      (d.act (.write path force)).session = d.session) ∧
    ∀ (d : Desk) acts, (∀ a ∈ acts, a.Unforced) → ∀ p text,
      (d.tree.read? p = some text → (d.run acts).tree.read? p = some text) ∧
      (d.tree.read? p = none → ((d.run acts).tree.read? p = some text ↔
        ∃ before path, d.FirstWrite acts p before path ∧
          text = (d.run before).session.render)) := by
  refine ⟨fun d path force => ⟨?_, write_of_free, rfl⟩, fun d acts hacts p text => ⟨?_, ?_⟩⟩
  · rintro ⟨htaken, rfl⟩
    exact write_of_taken htaken
  · exact read?_run hacts
  · intro hnone
    refine ⟨exists_firstWrite hacts hnone, ?_⟩
    rintro ⟨before, path, hfirst, rfl⟩
    exact read?_of_succeeds hacts hfirst.made hfirst.same hfirst.succeeds

/-- A desk with a gem on it, and nothing written yet. -/
def gemDesk : Desk where
  session := start { entitlements := [{ className := "gem", infoModule := "gem_info" }] }
  tree := {}

/-- An editor who writes twice to one place, spelled in two ways, and
another document the second time. -/
def gemActs : List Act :=
  [.write "out//shop.verse" false, .edit (.setMode .purchase), .write "out/./shop.verse" false]

/-- The place keeps the first document, and the second write is refused. -/
theorem writes_gemDesk :
    (gemDesk.run gemActs).tree.read? "out/shop.verse" = some gemDesk.session.render ∧
      ((gemDesk.run (gemActs.take 2)).write "out/./shop.verse" false).failure =
        some (.transfer (.outputExists "out/./shop.verse")) := by
  obtain ⟨hwrite, hrun⟩ := writes_keep
  have hfirst (acts : List Act) (hmade : [Act.write "out//shop.verse" false] <+: acts) :
      gemDesk.FirstWrite acts "out/shop.verse" [] "out//shop.verse" :=
    { made := hmade
      same := by decide
      succeeds := ((hwrite gemDesk "out//shop.verse" false).2.1 (by decide)).1
      first := by simp }
  have hread (acts : List Act) (hacts : ∀ a ∈ acts, a.Unforced)
      (hmade : [Act.write "out//shop.verse" false] <+: acts) :
      (gemDesk.run acts).tree.read? "out/shop.verse" = some gemDesk.session.render :=
    ((hrun gemDesk acts hacts "out/shop.verse" _).2 (by decide)).2
      ⟨[], _, hfirst acts hmade, rfl⟩
  refine ⟨hread gemActs ?_ ?_, ((hwrite _ _ false).1 ⟨.inl ⟨gemDesk.session.render, ?_⟩, rfl⟩).1⟩
  · simp [gemActs, Act.Unforced]
  · simp [gemActs]
  · exact (MemoryTree.read?_congr (by decide)).trans
      (hread (gemActs.take 2) (by simp [gemActs, Act.Unforced]) (by simp [gemActs]))

end Desk

end Storefront
