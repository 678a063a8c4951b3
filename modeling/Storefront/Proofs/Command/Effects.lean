import Storefront.Command.Run
import Storefront.Proofs.Results
import Storefront.Proofs.Storage.Footprint
/-!
# Commands — what a run does to the disk

Three commands write a document: `generate` with an output, `sample` with
an output, and `init`. Each of them looks whether its path is taken, makes
the directory and writes the file in words of its own, and all three obey
one law (`Guarded`): a path that is taken is refused unless the command is
forced, and otherwise the document is saved to the path. So a run changes
nothing but its one target and what is missing above it, and without force
it changes nothing that was there (`invoke_keeps`).
-/

namespace Storefront

open Disk

variable {d u : Disk} {path text doc : String}

/-! ## Saving, as the commands do it -/

/-- **A write that saves a text to a path.** -/
structure Written.Saves (x : Written Disk) (d : Disk) (path text : String) : Prop where
  sink : x.sink = (d.save path text).1
  failure : x.failure = none ↔ (d.save path text).2 = none

/-- **A command that saves a text to a path.** -/
structure Outcome.Saves (o : Outcome) (d : Disk) (path text : String) : Prop where
  disk : o.disk = (d.save path text).1
  error : o.error = none ↔ (d.save path text).2 = none

/-- The directory for a file, made by a sink. -/
theorem sink_prepare (d : Disk) (path : String) :
    (Sink.prepare d (Path.properParent? path)).sink = (d.prepared path).1 ∧
      ((Sink.prepare d (Path.properParent? path)).failure = none ↔ (d.prepared path).2 = none) := by
  rw [prepared]
  cases Path.properParent? path with
  | none => exact ⟨rfl, iff_of_true rfl rfl⟩
  | some dir => exact ⟨rfl, Option.map_eq_none_iff⟩

/-- **Preparing and then writing saves**, if what follows on the
preparation writes the text. -/
theorem saves_andThen {next : Disk → Written Disk}
    (hok : ∀ u v, u.writeText path text = .ok v → (next u).sink = v ∧ (next u).failure = none)
    (herror : ∀ u e, u.writeText path text = .error e →
      (next u).sink = u ∧ (next u).failure ≠ none) :
    ((Sink.prepare d (Path.properParent? path)).andThen next).Saves d path text := by
  obtain ⟨hsink, hfailure⟩ := sink_prepare d path
  rw [Written.andThen]
  cases hprepared : (d.prepared path).2 with
  | some e =>
    have hfailed : (Sink.prepare d (Path.properParent? path)).failure ≠ none := by
      simp [hfailure, hprepared]
    obtain ⟨f, hf⟩ := Option.ne_none_iff_exists'.1 hfailed
    rw [hf]
    exact ⟨by simp [save, hprepared, hsink], by simp [save, hprepared, hf]⟩
  | none =>
    rw [hfailure.2 hprepared]
    dsimp only
    rw [hsink]
    cases hwrite : (d.prepared path).1.writeText path text with
    | ok v =>
      obtain ⟨hnext, hdone⟩ := hok _ v hwrite
      exact ⟨by simp [save, hprepared, hwrite, hnext], by simp [save, hprepared, hwrite, hdone]⟩
    | error e =>
      obtain ⟨hnext, hfail⟩ := herror _ e hwrite
      exact ⟨by simp [save, hprepared, hwrite, hnext], by simp [save, hprepared, hwrite, hfail]⟩

theorem saves_ofWritten {x : Written Disk} (h : x.Saves d path text) (a : Answer)
    (events : List Event) : (Outcome.ofWritten x a events).Saves d path text := by
  rw [Outcome.ofWritten]
  cases hfailed : x.failure with
  | none => exact ⟨h.sink, by simp [← h.failure, hfailed]⟩
  | some f => exact ⟨h.sink, by simp [← h.failure, hfailed]⟩

/-! ## The law of the three writers -/

/-- **A guarded command**: a path that is taken is refused unless the
command is forced, and otherwise the text is saved. -/
inductive Guarded (d : Disk) (path text : String) (force : Bool) (o : Outcome) : Prop
  | refused {e : CommandError} : d.isTaken path = true → force = false → o.disk = d →
      o.error = some e → e.exitCode = 2 → Guarded d path text force o
  | saved : (d.isTaken path = true → force = true) → o.Saves d path text →
      Guarded d path text force o

namespace Guarded

variable {force : Bool} {o o' : Outcome}

/-- The law speaks of the disk and the error of a command alone. -/
theorem congr (h : Guarded d path text force o) (hdisk : o'.disk = o.disk)
    (herror : o'.error = o.error) : Guarded d path text force o' := by
  cases h with
  | refused htaken hforce hd he hcode =>
    exact .refused htaken hforce (hdisk.trans hd) (herror.trans he) hcode
  | saved hfree hsaves =>
    exact .saved hfree ⟨hdisk.trans hsaves.disk, by rw [herror, hsaves.error]⟩

/-- A guarded command leaves the footprint of its text. -/
theorem footprint (h : Guarded d path text force o) : d.Footprint o.disk path text := by
  cases h with
  | refused _ _ hdisk => exact hdisk ▸ .refl d path text
  | saved _ hsaves => exact hsaves.disk ▸ footprint_save d path text

/-- Without force a path that is taken is refused. -/
theorem refuses (h : Guarded d path text force o) (hforce : force = false)
    (htaken : d.isTaken path = true) :
    o.disk = d ∧ ∃ e, o.error = some e ∧ e.exitCode = 2 := by
  cases h with
  | @refused e _ _ hdisk herror hcode => exact ⟨hdisk, e, herror, hcode⟩
  | saved hfree _ => exact absurd (hforce.symm.trans (hfree htaken)) Bool.false_ne_true

/-- **Without force everything is kept.** -/
theorem keeps (h : Guarded d path text force o) (hforce : force = false) (hroot : d.Rooted)
    (hground : d.Grounded path) {p : Place} {n : DiskNode} (hp : d.node? p = some n) :
    o.disk.node? p = some n := by
  cases h with
  | refused _ _ hdisk => rwa [hdisk]
  | saved hfree hsaves =>
    have hfree : d.isTaken path = false :=
      Bool.eq_false_iff.2 fun htaken =>
        absurd (hforce.symm.trans (hfree htaken)) Bool.false_ne_true
    rw [hsaves.disk]
    exact node?_save hroot hground hfree hp

/-- A text that was saved is read back. -/
theorem readText (h : Guarded d path text force o) (herror : o.error = none) :
    o.disk.readText path = .ok text := by
  cases h with
  | refused _ _ _ hrefused => exact absurd (hrefused.symm.trans herror) (Option.some_ne_none _)
  | saved _ hsaves =>
    rw [hsaves.disk]
    exact readText_save (hsaves.error.1 herror)

theorem rooted (h : Guarded d path text force o) (hroot : d.Rooted) : o.disk.Rooted := by
  cases h with
  | refused _ _ hdisk => rwa [hdisk]
  | saved _ hsaves => exact hsaves.disk ▸ hroot.save path text

end Guarded

/-- A command is guarded if it looks at its path before it saves. -/
theorem guarded_ite {force : Bool} {refusal o : Outcome} {e : CommandError}
    (hdisk : refusal.disk = d) (herror : refusal.error = some e) (hcode : e.exitCode = 2)
    (hsaves : o.Saves d path text) :
    Guarded d path text force (if d.isTaken path && !force then refusal else o) := by
  by_cases h : (d.isTaken path && !force) = true
  · rw [if_pos h]
    obtain ⟨htaken, hforce⟩ : d.isTaken path = true ∧ force = false := by simpa using h
    exact .refused htaken hforce hdisk herror hcode
  · rw [if_neg h]
    exact .saved (by simpa using h) hsaves

theorem guarded_sample (path : String) (force : Bool) (w : World) :
    Guarded w.disk path Manifest.sample force (SampleCommand.run (some path) force w) := by
  refine guarded_ite rfl rfl rfl (saves_ofWritten (saves_andThen ?_ ?_) _ _)
  · intro u v hwrite
    simp [Sink.writeFile, hwrite]
  · intro u e hwrite
    simp [Sink.writeFile, hwrite]

theorem saves_initWrite (d : Disk) (path : String) :
    (InitCommand.write d path).Saves d path (Settings.text {}) := by
  have hprepare : (InitCommand.prepare d path).1 = (d.prepared path).1 ∧
      ((InitCommand.prepare d path).2 = none ↔ (d.prepared path).2 = none) := by
    rw [InitCommand.prepare, prepared]
    cases Path.properParent? path with
    | none => exact ⟨rfl, iff_of_true rfl rfl⟩
    | some dir => exact ⟨rfl, Option.map_eq_none_iff⟩
  obtain ⟨hdisk, herror⟩ := hprepare
  rw [InitCommand.write]
  split
  · next u e hp =>
    rw [hp] at hdisk herror
    have hne : (d.prepared path).2 ≠ none := by simp [← herror]
    obtain ⟨e', he'⟩ := Option.ne_none_iff_exists'.1 hne
    exact ⟨by simp [save, he', ← hdisk, Outcome.failing], by simp [save, he', Outcome.failing]⟩
  · next u hp =>
    rw [hp] at hdisk herror
    have hnone := herror.1 rfl
    cases hwrite : u.writeText path (Settings.text {}) with
    | error e =>
      exact ⟨by simp [save, hnone, ← hdisk, hwrite, Outcome.failing],
        by simp [save, hnone, ← hdisk, hwrite, Outcome.failing]⟩
    | ok v =>
      exact ⟨by simp [save, hnone, ← hdisk, hwrite], by simp [save, hnone, ← hdisk, hwrite]⟩

theorem guarded_init (named : Option String) (force : Bool) (w : World) :
    Guarded w.disk (Settings.activePath w.environment named) (Settings.text {}) force
      (InitCommand.run named force w) := by
  refine guarded_ite rfl rfl rfl (saves_initWrite w.disk _)

theorem guarded_deliver {o : GenerateOptions} (h : o.output = some path) (d : Disk)
    (s : Session) : Guarded d path s.render o.force (Generate.deliver o d s) := by
  rw [Generate.deliver, h]
  by_cases hrefused : (d.isTaken path && !o.force) = true
  · obtain ⟨htaken, hforce⟩ : d.isTaken path = true ∧ o.force = false := by simpa using hrefused
    refine .refused htaken hforce ?_ (e := .failed (.transfer (.outputExists path))) ?_ rfl
    · simp [Session.writeDocument, Sink.isTaken, hrefused, Outcome.ofWritten]
    · simp [Session.writeDocument, Sink.isTaken, hrefused, Outcome.ofWritten]
  · refine .saved (by simpa using hrefused) (saves_ofWritten ?_ _ _)
    have hsaves : ((Sink.prepare d (Path.properParent? path)).andThen fun d =>
        (Written.told d (s.renderEvents s.mode)).andThen fun d =>
          (Sink.writeFile d path s.render).andThen fun d =>
            .told d [Session.event .info "Document written" []]).Saves d path s.render := by
      refine saves_andThen ?_ ?_
      · intro u v hwrite
        simp [Sink.writeFile, hwrite, Written.andThen, Written.told]
      · intro u e hwrite
        simp [Sink.writeFile, hwrite, Written.andThen, Written.told]
    have hfree : ¬ (Sink.isTaken d path && !o.force) = true := hrefused
    rw [Session.writeDocument, if_neg hfree]
    exact ⟨hsaves.sink, hsaves.failure⟩

/-! ## What a run is about to write -/

/-- Whether a command is told to replace what is there. -/
def Request.forced : Request → Bool
  | .generate o => o.force
  | .sample _ force => force
  | .init force => force
  | _ => false

namespace Invocation

/-- **The document that a command is to write, and its path**, provided
that it gets as far as that. -/
inductive Aims (i : Invocation) (settings : Settings) (w : World) : String → String → Prop
  | generated {o : GenerateOptions} {path : String} {s : Session} : i.request = .generate o →
      o.output = some path → (Generate.prepare o settings w).result = .ok s →
      Aims i settings w path s.render
  | sample {path : String} {force : Bool} : i.request = .sample (some path) force →
      Aims i settings w path Manifest.sample
  | settings {force : Bool} : i.request = .init force →
      Aims i settings w (Settings.activePath w.environment i.options.config) (Settings.text {})

/-- **What a run is about to write**: its settings are loaded, and nothing
fails before the write. -/
def Writes (i : Invocation) (w : World) (path doc : String) : Prop :=
  ∃ settings, Settings.load w.environment w.disk
      (Settings.activePath w.environment i.options.config) = .ok settings ∧
    i.Aims settings w path doc

end Invocation

/-! ## Runs -/

/-- The disk and the error of a command that goes on with a result. -/
theorem Outcome.after_of_ok {α : Type} {t : Told CommandError α} {x : α} (d : Disk)
    (next : α → Outcome) (h : t.result = .ok x) :
    (Outcome.after d t next).disk = (next x).disk ∧
      (Outcome.after d t next).error = (next x).error := by
  rw [Outcome.after, h]
  exact ⟨rfl, rfl⟩

/-- A command keeps the disk if what follows on the result does. -/
theorem Outcome.disk_after {α : Type} {t : Told CommandError α} {next : α → Outcome}
    (h : ∀ x, t.result = .ok x → (next x).disk = d) : (Outcome.after d t next).disk = d := by
  rw [Outcome.after]
  split
  · next x hx => exact h x hx
  · rfl

namespace Run

variable {i : Invocation} {settings : Settings} {w : World} {words : List String} {r : Run}

/-- **A command that is about to write is guarded.** -/
theorem guarded_perform (h : i.Aims settings w path doc) :
    Guarded w.disk path doc i.request.forced (perform i settings w) := by
  cases h with
  | @generated o path s hrequest houtput hprepare =>
    rw [perform, hrequest]
    obtain ⟨hdisk, herror⟩ := Outcome.after_of_ok w.disk (Generate.deliver o w.disk) hprepare
    exact (guarded_deliver houtput w.disk s).congr hdisk herror
  | sample hrequest =>
    rw [perform, hrequest]
    exact guarded_sample path _ w
  | settings hrequest =>
    rw [perform, hrequest]
    exact guarded_init _ _ w

/-- **A command that is not about to write** leaves the disk as it is. -/
theorem disk_perform (h : ∀ path doc, ¬ i.Aims settings w path doc) :
    (perform i settings w).disk = w.disk := by
  rw [perform]
  split
  · next o hrequest =>
    refine Outcome.disk_after (d := w.disk) fun s hprepare => ?_
    rw [Generate.deliver]
    split
    · next path houtput => exact absurd (.generated hrequest houtput hprepare) (h _ _)
    · rfl
  · exact Outcome.disk_after fun x _ => rfl
  · rfl
  · exact Outcome.disk_after fun x _ => rfl
  · next output force hrequest =>
    cases output with
    | none => rfl
    | some path => exact absurd (.sample hrequest) (h _ _)
  · next force hrequest => exact absurd (.settings hrequest) (h _ _)
  · next query _ =>
    cases query with
    | get key =>
      rw [answerQuery]
      split <;> rfl
    | list => rfl
    | path => rfl
  · rfl

/-- With loaded settings the command is performed. -/
theorem outcome_of_load (h : Settings.load w.environment w.disk
      (Settings.activePath w.environment i.options.config) = .ok settings) :
    (outcome i w).1 = Outcome.inside ⟨target, "run", []⟩ (perform i settings w) := by
  delta outcome
  simp only [h]

/-- Without settings nothing is done. -/
theorem outcome_of_load_error {e : Settings.LoadError} (h : Settings.load w.environment w.disk
      (Settings.activePath w.environment i.options.config) = .error e) :
    (outcome i w).1 = .failing w.disk e.toCommandError := by
  delta outcome
  simp only [h]

theorem disk_ofInvocation (i : Invocation) (w : World) :
    (ofInvocation i w).disk = (outcome i w).1.disk := by
  rw [ofInvocation]

theorem exitCode_ofInvocation (i : Invocation) (w : World) :
    (ofInvocation i w).exitCode = ((outcome i w).1.error.map (·.exitCode)).getD 0 := by
  rw [ofInvocation]

/-- **A run that is not about to write** leaves the disk as it is. -/
theorem disk_ofInvocation_of_not_writes (h : ∀ path doc, ¬ i.Writes w path doc) :
    (ofInvocation i w).disk = w.disk := by
  rw [disk_ofInvocation]
  cases hload : Settings.load w.environment w.disk
      (Settings.activePath w.environment i.options.config) with
  | error e =>
    rw [outcome_of_load_error hload]
    rfl
  | ok settings =>
    rw [outcome_of_load hload]
    exact disk_perform fun path doc haims => h path doc ⟨settings, hload, haims⟩

/-- **A run that is about to write is guarded.** -/
theorem guarded_outcome (h : i.Writes w path doc) :
    Guarded w.disk path doc i.request.forced (outcome i w).1 := by
  obtain ⟨settings, hload, haims⟩ := h
  rw [outcome_of_load hload]
  exact (guarded_perform haims).congr rfl rfl

/-- A command line is run as the invocation that it amounts to. -/
theorem invoke_eq_ok (h : invoke w words = .ok r) :
    ∃ i, CommandLine.parse (settle w).environment words = .ok i ∧
      r = ofInvocation i (settle w) := by
  obtain ⟨i, hparse, hrun⟩ := map_eq_ok_iff.1 h
  exact ⟨i, hparse, hrun.symm⟩

theorem invoke_of_parse (h : CommandLine.parse (settle w).environment words = .ok i) :
    invoke w words = .ok (ofInvocation i (settle w)) :=
  map_eq_ok_iff.2 ⟨i, h, rfl⟩

/-- And as no other. -/
theorem eq_ofInvocation (hparse : CommandLine.parse (settle w).environment words = .ok i)
    (hrun : invoke w words = .ok r) : r = ofInvocation i (settle w) :=
  Except.ok.inj (hrun.symm.trans (invoke_of_parse hparse))

/-! ## What a run does to the disk -/

/-- **A run changes its one target and what is missing above it, and
without force nothing that was there.** A run that is not about to write
changes nothing. One that is leaves the footprint of its document and
nothing else; without force it is refused if its path is taken, and keeps
everything that was there on any rooted disk, if the path climbs only out
of what is there. -/
theorem invoke_keeps (h : invoke w words = .ok r) :
    ∃ i, CommandLine.parse (settle w).environment words = .ok i ∧
      ((∀ path doc, ¬ i.Writes (settle w) path doc) → r.disk = w.disk) ∧
      ∀ path doc, i.Writes (settle w) path doc →
        w.disk.Footprint r.disk path doc ∧
        (i.request.forced = false → w.disk.isTaken path = true →
          r.exitCode = 2 ∧ r.disk = w.disk) ∧
        (i.request.forced = false → w.disk.Rooted → w.disk.Grounded path →
          ∀ p n, w.disk.node? p = some n → r.disk.node? p = some n) := by
  obtain ⟨i, hparse, rfl⟩ := invoke_eq_ok h
  refine ⟨i, hparse, disk_ofInvocation_of_not_writes, fun path doc hwrites => ?_⟩
  have hguarded := guarded_outcome hwrites
  rw [disk_ofInvocation, exitCode_ofInvocation]
  refine ⟨hguarded.footprint, fun hforce htaken => ?_, fun hforce hroot hground p n hp => ?_⟩
  · obtain ⟨hsame, e, herror, hexit⟩ := hguarded.refuses hforce htaken
    exact ⟨by simp [herror, hexit], hsame⟩
  · exact hguarded.keeps hforce hroot hground hp

/-- A disk with one file. -/
def shelf : Disk := { current := [], nodes := [(["shop.toml"], .file (.text "mine\n"))] }

theorem rooted_shelf : shelf.Rooted := rooted_of_nodes (by decide) (by decide)

/-- Without force, a sample is not written over a file, and it is written
beside it. -/
theorem keeps_shelf :
    (∃ r, invoke { disk := shelf } ["sample", "-o", "shop.toml"] = .ok r ∧
      r.exitCode = 2 ∧ r.disk = shelf) ∧
    ∃ r, invoke { disk := shelf } ["sample", "-o", "new/shop.toml"] = .ok r ∧
      shelf.Footprint r.disk "new/shop.toml" Manifest.sample ∧
      ∀ p n, shelf.node? p = some n → r.disk.node? p = some n := by
  have hload : Settings.load [] shelf (Settings.activePath [] none) = .ok {} := by decide +kernel
  constructor
  · let i : Invocation := ⟨{}, .sample (some "shop.toml") false⟩
    have hparse : CommandLine.parse [] ["sample", "-o", "shop.toml"] = .ok i := by decide +kernel
    have hrun : invoke { disk := shelf } ["sample", "-o", "shop.toml"] =
        .ok (ofInvocation i { disk := shelf }) := rfl
    obtain ⟨i', hi, -, hwrites⟩ := invoke_keeps hrun
    obtain rfl : i = i' := Except.ok.inj (hparse.symm.trans hi)
    exact ⟨_, hrun, (hwrites _ _ ⟨{}, hload, .sample rfl⟩).2.1 rfl (by decide)⟩
  · let i : Invocation := ⟨{}, .sample (some "new/shop.toml") false⟩
    have hparse : CommandLine.parse [] ["sample", "-o", "new/shop.toml"] = .ok i := by
      decide +kernel
    have hrun : invoke { disk := shelf } ["sample", "-o", "new/shop.toml"] =
        .ok (ofInvocation i { disk := shelf }) := rfl
    obtain ⟨i', hi, -, hwrites⟩ := invoke_keeps hrun
    obtain rfl : i = i' := Except.ok.inj (hparse.symm.trans hi)
    obtain ⟨hfootprint, -, hkeeps⟩ := hwrites _ _ ⟨{}, hload, .sample rfl⟩
    exact ⟨_, hrun, hfootprint,
      hkeeps rfl rooted_shelf (grounded_of_up_not_mem (by decide))⟩

/-- **A path that climbs out of a directory that is to be made** leads to
a file that was there, and the file is replaced without force. -/
theorem clobbers_shelf :
    shelf.Rooted ∧ shelf.node? ["shop.toml"] = some (.file (.text "mine\n")) ∧
    ∃ r, invoke { disk := shelf } ["sample", "-o", "new/../shop.toml"] = .ok r ∧
      r.exitCode = 0 ∧ r.disk.node? ["shop.toml"] ≠ some (.file (.text "mine\n")) := by
  refine ⟨rooted_shelf, by decide, _, rfl, ?_, ?_⟩
  · decide +kernel
  · decide +kernel

end Run

/-! ## Runs in turn -/

namespace World

variable {w : World} {words : List String} {lines : List (List String)} {p : Place}
variable {n : DiskNode}

/-- The world after a command line, which is the same if it is refused. -/
def after (w : World) (words : List String) : World :=
  match Run.invoke w words with
  | .ok r => { w with disk := r.disk }
  | .error _ => w

/-- The world after command lines in turn. -/
def afterAll (w : World) (lines : List (List String)) : World := lines.foldl after w

/-- **A command line that is careful**: it forces nothing, and if it is
about to write, its path climbs only out of what is there. -/
def Careful (w : World) (words : List String) : Prop :=
  ∀ i, CommandLine.parse (Run.settle w).environment words = .ok i →
    i.request.forced = false ∧ ∀ path doc, i.Writes (Run.settle w) path doc → w.disk.Grounded path

/-- **A careful command line keeps everything**, and the disk rooted. -/
theorem keeps_after (h : w.Careful words) (hroot : w.disk.Rooted) :
    (w.after words).disk.Rooted ∧
      ∀ p n, w.disk.node? p = some n → (w.after words).disk.node? p = some n := by
  rw [after]
  split
  · next r hrun =>
    obtain ⟨i, hparse, rfl⟩ := Run.invoke_eq_ok hrun
    obtain ⟨hforce, hground⟩ := h i hparse
    by_cases hwrites : ∃ path doc, i.Writes (Run.settle w) path doc
    · obtain ⟨path, doc, hwrites⟩ := hwrites
      have hguarded := Run.guarded_outcome hwrites
      dsimp only
      rw [Run.disk_ofInvocation]
      exact ⟨hguarded.rooted hroot,
        fun p n hp => hguarded.keeps hforce hroot (hground path doc hwrites) hp⟩
    · simp only [not_exists] at hwrites
      dsimp only
      rw [Run.disk_ofInvocation_of_not_writes hwrites]
      exact ⟨hroot, fun p n hp => hp⟩
  · exact ⟨hroot, fun p n hp => hp⟩

/-- **Careful command lines keep everything**, however many there are; by
induction on the lines, with the disk rooted throughout. -/
theorem keeps_afterAll (hroot : w.disk.Rooted)
    (h : ∀ before words, before ++ [words] <+: lines → (w.afterAll before).Careful words) :
    (w.afterAll lines).disk.Rooted ∧
      ∀ p n, w.disk.node? p = some n → (w.afterAll lines).disk.node? p = some n := by
  induction lines using List.reverseRecOn with
  | nil => exact ⟨hroot, fun p n hp => hp⟩
  | append_singleton lines words ih =>
    obtain ⟨hbefore, hkept⟩ := ih fun before words hfront =>
      h before words (hfront.trans (List.prefix_append _ _))
    have hlast : w.afterAll (lines ++ [words]) = (w.afterAll lines).after words := by
      simp [afterAll]
    obtain ⟨hrooted, hstep⟩ := keeps_after (h lines words List.prefix_rfl) hbefore
    rw [hlast]
    exact ⟨hrooted, fun p n hp => hstep p n (hkept p n hp)⟩

end World

end Storefront
