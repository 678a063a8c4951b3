import Storefront.Proofs.Command.Effects
import Storefront.Proofs.CommandLine.Reworded
/-!
# Commands — presentation decides nothing

A command is carried out before it is shown: what it leads to depends on
the request and the file of settings alone (`outcome_congr`). So command
lines that differ in words for the presentation end with the same exit code
and leave the same disk. They also print the same where the product of the
command is a document of its own, which is shown as it is; a generated
document is one unless reports are to be JSON (`invoke_reworded`).
-/

namespace Storefront

variable {p p' : Presentation} {a : Answer} {o : GenerateOptions} {settings : Settings}

/-! ## Answers that are shown as they are -/

/-- **An answer that is shown as it is**, whatever the presentation. -/
inductive Answer.Verbatim : Answer → Prop
  | document (content : String) : Verbatim (.document content)
  | listing {source : String} {format : ListFormat} {rows : List Row} : format ≠ .table →
      Verbatim (.listing source format rows)

theorem Answer.Verbatim.text_eq (h : a.Verbatim) (p p' : Presentation) :
    a.text p = a.text p' := by
  cases h with
  | document content => rfl
  | @listing source format rows hformat =>
    cases format with
    | table => exact absurd rfl hformat
    | list => rfl
    | json => rfl
    | csv => rfl

/-- A generated document is shown as it is, or in a report that is JSON. -/
theorem Answer.text_generated (h : p.isJson = p'.isJson) (s : Session) :
    (generated s).text p = (generated s).text p' := by
  rw [text, text, h]

/-- **When reports are JSON**: the command line says so, or it leaves the
choice to the settings and these do. -/
theorem Presentation.isJson_choose_iff (options : GlobalOptions) (settings : Settings) :
    (choose options settings).isJson = true ↔
      options.format = .json ∨ options.format = .auto ∧ namedFormat settings.format = .json := by
  rw [isJson, choose, beq_iff_eq]
  dsimp only [chosenFormat]
  cases options.format <;> cases namedFormat settings.format <;> simp

/-! ## Requests for documents -/

/-- **A request for a document of its own format.** -/
inductive Request.Document : Request → Prop
  | list {source : CatalogOptions} {kind : Option Kind} {format : ListFormat} : format ≠ .table →
      Document (.list source kind format)
  | sample (force : Bool) : Document (.sample none force)
  | config (query : ConfigQuery) : Document (.config query)
  | completions (shell : String) : Document (.completions shell)

/-- What a command answers that goes on with a result. -/
theorem Outcome.answer_after {α : Type} {t : Told CommandError α} {next : α → Outcome}
    {d : Disk} (h : (Outcome.after d t next).answer = some a) : ∃ x, (next x).answer = some a := by
  rw [Outcome.after] at h
  split at h
  · next x _ => exact ⟨x, h⟩
  · cases h

namespace Run

variable {i i' : Invocation} {w : World} {words words' : List String} {r r' : Run}

theorem verbatim_perform (h : i.request.Document) (ha : (perform i settings w).answer = some a) :
    a.Verbatim := by
  rw [perform] at ha
  generalize i.request = request at h ha
  cases h with
  | list hformat =>
    obtain ⟨x, hx⟩ := Outcome.answer_after ha
    exact Option.some.inj hx ▸ .listing hformat
  | sample force => exact Option.some.inj ha ▸ .document _
  | config query =>
    cases query with
    | get key =>
      dsimp only [answerQuery] at ha
      split at ha
      · exact Option.some.inj ha ▸ .document _
      · cases ha
    | list => exact Option.some.inj ha ▸ .document _
    | path => exact Option.some.inj ha ▸ .document _
  | completions shell => exact Option.some.inj ha ▸ .document _

theorem generated_perform (h : i.request = .generate o) (houtput : o.output = none)
    (ha : (perform i settings w).answer = some a) : ∃ s, a = .generated s := by
  rw [perform, h] at ha
  obtain ⟨s, hs⟩ := Outcome.answer_after ha
  rw [Generate.deliver, houtput] at hs
  exact ⟨s, (Option.some.inj hs).symm⟩

/-! ## Runs that differ in presentation -/

theorem perform_congr (hrequest : i.request = i'.request)
    (hconfig : i.options.config = i'.options.config) (settings : Settings) (w : World) :
    perform i settings w = perform i' settings w := by
  rw [perform, perform, hrequest, hconfig]

/-- **What a command leads to depends on the request and the file of
settings alone.** -/
theorem outcome_congr (hrequest : i.request = i'.request)
    (hconfig : i.options.config = i'.options.config) (w : World) :
    (outcome i w).1 = (outcome i' w).1 := by
  cases hload : Settings.load w.environment w.disk
      (Settings.activePath w.environment i.options.config) with
  | error e => rw [outcome_of_load_error hload, outcome_of_load_error (hconfig ▸ hload)]
  | ok settings =>
    rw [outcome_of_load hload, outcome_of_load (hconfig ▸ hload),
      perform_congr hrequest hconfig]

/-- What a run prints with loaded settings. -/
theorem output_of_load (h : Settings.load w.environment w.disk
      (Settings.activePath w.environment i.options.config) = .ok settings) :
    (ofInvocation i w).output =
      ((perform i settings w).answer.map (·.text (.choose i.options settings))).getD "" := by
  have houtcome : outcome i w =
      (Outcome.inside ⟨target, "run", []⟩ (perform i settings w), .choose i.options settings) := by
    delta outcome
    simp only [h]
  rw [ofInvocation, houtcome]
  rfl

/-- Without settings nothing is printed. -/
theorem output_of_load_error {e : Settings.LoadError} (h : Settings.load w.environment w.disk
      (Settings.activePath w.environment i.options.config) = .error e) :
    (ofInvocation i w).output = "" := by
  have houtcome : outcome i w = (.failing w.disk e.toCommandError, .choose i.options {}) := by
    delta outcome
    simp only [h]
  rw [ofInvocation, houtcome]
  rfl

/-- **Runs print the same** if their answers are shown alike. -/
theorem output_congr (hrequest : i.request = i'.request)
    (hconfig : i.options.config = i'.options.config)
    (h : ∀ settings a, Settings.load w.environment w.disk
        (Settings.activePath w.environment i.options.config) = .ok settings →
      (perform i settings w).answer = some a →
      a.text (.choose i.options settings) = a.text (.choose i'.options settings)) :
    (ofInvocation i w).output = (ofInvocation i' w).output := by
  cases hload : Settings.load w.environment w.disk
      (Settings.activePath w.environment i.options.config) with
  | error e => rw [output_of_load_error hload, output_of_load_error (hconfig ▸ hload)]
  | ok settings =>
    rw [output_of_load hload, output_of_load (hconfig ▸ hload), ← perform_congr hrequest hconfig]
    cases hanswer : (perform i settings w).answer with
    | none => rfl
    | some a => simp [h settings a hload hanswer]

end Run

/-- **An invocation whose reports are JSON**, by the command line or by the
settings that are loaded. -/
def Invocation.ReportsJson (i : Invocation) (w : World) : Prop :=
  ∃ settings, Settings.load w.environment w.disk
      (Settings.activePath w.environment i.options.config) = .ok settings ∧
    (i.options.format = .json ∨
      i.options.format = .auto ∧ Presentation.namedFormat settings.format = .json)

namespace Run

variable {i i' : Invocation} {w : World} {words words' : List String} {r r' : Run}

theorem isJson_choose_eq (hconfig : i.options.config = i'.options.config)
    (hjson : i.ReportsJson w ↔ i'.ReportsJson w)
    (hload : Settings.load w.environment w.disk
      (Settings.activePath w.environment i.options.config) = .ok settings) :
    (Presentation.choose i.options settings).isJson =
      (Presentation.choose i'.options settings).isJson := by
  have hreports : ∀ j : Invocation, Settings.load w.environment w.disk
      (Settings.activePath w.environment j.options.config) = .ok settings →
      (j.ReportsJson w ↔ (Presentation.choose j.options settings).isJson = true) := by
    intro j hj
    rw [Presentation.isJson_choose_iff, Invocation.ReportsJson, hj]
    simp
  rw [Bool.eq_iff_iff, ← hreports i hload, ← hreports i' (hconfig ▸ hload), hjson]

/-- **Presentation decides nothing.** Command lines that differ in words for
the presentation, wherever these stand, end with the same exit code and
leave the same disk. They print the same if the product is a document of
its own format; a generated document that is not written to a file is one,
if neither run reports in JSON or both do. -/
theorem invoke_reworded (hwords : CommandLine.Reworded words words')
    (h : invoke w words = .ok r) (h' : invoke w words' = .ok r') :
    r.exitCode = r'.exitCode ∧ r.disk = r'.disk ∧
      ∃ i i', CommandLine.parse (settle w).environment words = .ok i ∧
        CommandLine.parse (settle w).environment words' = .ok i' ∧
        (i.request.Document → r.output = r'.output) ∧
        ∀ o, i.request = .generate o → o.output = none →
          (i.ReportsJson (settle w) ↔ i'.ReportsJson (settle w)) → r.output = r'.output := by
  obtain ⟨i, hparse, rfl⟩ := invoke_eq_ok h
  obtain ⟨i', hparse', rfl⟩ := invoke_eq_ok h'
  obtain ⟨hrequest, hconfig⟩ := CommandLine.parse_reworded hwords hparse hparse'
  have houtcome := outcome_congr hrequest hconfig (settle w)
  refine ⟨?_, ?_, i, i', hparse, hparse', fun hdocument => ?_, fun o ho houtput hjson => ?_⟩
  · rw [exitCode_ofInvocation, exitCode_ofInvocation, houtcome]
  · rw [disk_ofInvocation, disk_ofInvocation, houtcome]
  · exact output_congr hrequest hconfig fun settings a _ ha =>
      (verbatim_perform hdocument ha).text_eq _ _
  · refine output_congr hrequest hconfig fun settings a hload ha => ?_
    obtain ⟨s, rfl⟩ := generated_perform ho houtput ha
    exact Answer.text_generated (isJson_choose_eq hconfig hjson hload) s

/-- A quiet run in colours generates the same document as a plain one. -/
theorem invoke_quietly :
    ∃ r r', invoke { disk := shelf } ["generate", "--sample"] = .ok r ∧
      invoke { disk := shelf } ["-q", "generate", "--output-format", "human", "--sample"] = .ok r' ∧
      r.exitCode = r'.exitCode ∧ r.disk = r'.disk ∧ r.output = r'.output := by
  let o : GenerateOptions := { source := { sample := true } }
  let i : Invocation := ⟨{}, .generate o⟩
  let i' : Invocation := ⟨{ quiet := true, format := .human }, .generate o⟩
  have hload : Settings.load [] shelf (Settings.activePath [] none) = .ok {} := by decide +kernel
  have hparse : CommandLine.parse [] ["generate", "--sample"] = .ok i := by decide +kernel
  have hparse' : CommandLine.parse []
      ["-q", "generate", "--output-format", "human", "--sample"] = .ok i' := by decide +kernel
  have hquiet : CommandLine.Presents ["-q"] :=
    @CommandLine.Presents.shorts ['q'] (by decide) (by simp)
  have hwords : CommandLine.Reworded ["generate", "--sample"]
      ["-q", "generate", "--output-format", "human", "--sample"] :=
    .right hquiet (.word (by decide) (.right (.format .human) (.same ["--sample"])))
  obtain ⟨hexit, hdisk, j, j', hj, hj', -, houtput⟩ :=
    @invoke_reworded { disk := shelf } _ _ _ _ hwords rfl rfl
  obtain rfl : i = j := Except.ok.inj (hparse.symm.trans hj)
  obtain rfl : i' = j' := Except.ok.inj (hparse'.symm.trans hj')
  have hoptions : ∀ k ∈ [i, i'], k.options.config = none ∧ k.options.format ≠ .json := by decide
  have hnamed : Presentation.namedFormat ({} : Settings).format ≠ .json := by decide +kernel
  have hplain : ∀ k ∈ [i, i'], ¬ k.ReportsJson { disk := shelf } := by
    rintro k hk ⟨settings, hsettings, hjson | ⟨-, hjson⟩⟩
    · exact (hoptions k hk).2 hjson
    · rw [(hoptions k hk).1] at hsettings
      obtain rfl := Except.ok.inj (hload.symm.trans hsettings)
      exact hnamed hjson
  exact ⟨_, _, rfl, rfl, hexit, hdisk, houtput o rfl rfl
    (iff_of_false (hplain i (by simp)) (hplain i' (by simp)))⟩

end Run

end Storefront
