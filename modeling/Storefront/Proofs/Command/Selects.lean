import Storefront.Proofs.Catalog.Selected
import Storefront.Proofs.Command.Effects
import Storefront.Proofs.Command.Warned
import Storefront.Proofs.CommandLine.Checked
import Storefront.Proofs.Session.Lawful
/-!
# Commands — what `generate` selects

A list of names to select counts by its members that are class names of
the catalog; if it has other members only, the command is refused. An
empty list selects everything. So the document of a command that is not
refused depends on which class names stand in the lists and on nothing
else about them (`chosen_unique`), and each member that is no class name
is warned about once, in order (`names_events_run`).
-/

namespace Storefront

open CommandLine

theorem Told.bind_of_ok {ε α β : Type} {t : Told ε α} {x : α} {next : α → Told ε β}
    (h : t.result = .ok x) :
    t >>= next = { next x with events := t.events ++ (next x).events } := by
  change t.andThen next = _
  rw [Told.andThen, h]

theorem Told.mapError_eq_ok_iff {ε δ α : Type} {f : ε → δ} {t : Told ε α} {x : α} :
    (t.mapError f).result = .ok x ↔ t.result = .ok x := by
  rw [Told.mapError]
  cases t.result <;> simp [Except.mapError]

/-! ## Settings -/

/-- **Settings that are loaded have a quantity.** -/
theorem Settings.quantity_of_load {env : Environment} {disk : Disk} {path : String}
    {settings : Settings} (h : Settings.load env disk path = .ok settings) :
    settings.quantity ≠ 0 := by
  rw [Settings.load] at h
  obtain ⟨file, -, h⟩ := bind_eq_ok_iff.1 h
  rw [Settings.ofEntries] at h
  obtain ⟨defaults, -, h⟩ := bind_eq_ok_iff.1 h
  obtain ⟨catalog, -, h⟩ := bind_eq_ok_iff.1 h
  obtain ⟨output, -, h⟩ := bind_eq_ok_iff.1 h
  obtain ⟨mode, -, h⟩ := bind_eq_ok_iff.1 h
  obtain ⟨quantity, -, h⟩ := bind_eq_ok_iff.1 h
  obtain ⟨catalogPath, -, h⟩ := bind_eq_ok_iff.1 h
  obtain ⟨noColor, -, h⟩ := bind_eq_ok_iff.1 h
  obtain ⟨format, -, h⟩ := bind_eq_ok_iff.1 h
  split at h
  · cases h
  · next hzero =>
    obtain rfl := Except.ok.inj h
    simpa using hzero

namespace Generate

variable {c : Catalog} {o : GenerateOptions} {settings : Settings} {w : World}
variable {source : Source} {s d : Session} {names : List String}

/-! ## The session that is chosen -/

/-- Names to select of which none is a class name, although there are some. -/
def Unmatched (c : Catalog) (names : List String) : Prop :=
  names ≠ [] ∧ ∀ n ∈ names, n ∉ c.classNames

theorem selectsNothing_iff : selectsNothing c names = true ↔ Unmatched c names := by
  simp [selectsNothing, Unmatched]

/-- **The session that options choose** for a catalog: with the mode and
the quantity of the options or else of the settings, and with the class
names selected that the lists leave. -/
structure Chosen (o : GenerateOptions) (settings : Settings) (c : Catalog) (d : Session) :
    Prop where
  catalog : d.catalog = c
  mode : d.mode = o.mode.getD settings.mode
  quantity : d.quantity = o.quantity.getD settings.quantity
  seen : d.selection.seen = c.shape
  selected : ∀ n, d.selection.contains n = true ↔
    n ∈ c.classNames ∧ (o.select = [] ∨ n ∈ o.select) ∧ n ∉ o.exclude

/-- The session that options choose, as the command makes it. -/
def choose (o : GenerateOptions) (settings : Settings) (s : Session) : Session :=
  narrow { s with mode := o.mode.getD settings.mode, quantity := o.quantity.getD settings.quantity }
    o.select o.exclude

/-- A session that is opened has everything selected. -/
theorem exists_start_of_openSession {co : CatalogOptions}
    (h : (w.openSession co settings).result = .ok (source, s)) :
    (source.load w.disk).result = .ok s.catalog ∧ s = Session.start s.catalog := by
  obtain ⟨src, -, h⟩ := Told.bind_eq_ok_iff.1 h
  obtain ⟨s', hsession, h⟩ := Told.bind_eq_ok_iff.1 h
  obtain ⟨rfl, rfl⟩ := Prod.mk.inj (Except.ok.inj h)
  have hstart := Told.mapError_eq_ok_iff.1 hsession
  rw [Session.ofSource, Told.inside] at hstart
  obtain ⟨c, hload, hstart⟩ := Told.bind_eq_ok_iff.1 hstart
  obtain ⟨⟨⟩, -, hstart⟩ := Told.bind_eq_ok_iff.1 hstart
  obtain rfl : Session.start c = s' := Except.ok.inj hstart
  exact ⟨hload, rfl⟩

/-- **What is chosen is what the lists leave.** -/
theorem chosen_choose (o : GenerateOptions) (settings : Settings) (c : Catalog) :
    Chosen o settings c (choose o settings (.start c)) := by
  rw [choose, narrow]
  by_cases hselect : o.select = []
  · rw [hselect, List.isEmpty_nil, if_pos rfl]
    refine ⟨rfl, rfl, rfl, rfl, fun n => ?_⟩
    rw [Session.deselect, Session.start]
    simp [hselect, Selection.contains_exclude, Selection.contains_all]
  · rw [if_neg (by simpa using hselect)]
    refine ⟨rfl, rfl, rfl, rfl, fun n => ?_⟩
    rw [Session.deselect, Session.selectOnly, Session.start]
    simp [hselect, Selection.contains_exclude, Selection.contains_restrictTo,
      Selection.contains_all, and_assoc]

/-- **Lists with the same class names choose the same**, provided that
neither is refused. -/
theorem chosen_unique {o' : GenerateOptions} {d' : Session} (h : Chosen o settings c d)
    (h' : Chosen o' settings c d') (hmode : o'.mode = o.mode) (hquantity : o'.quantity = o.quantity)
    (hmatched : ¬ Unmatched c o.select) (hmatched' : ¬ Unmatched c o'.select)
    (hselect : ∀ n ∈ c.classNames, n ∈ o'.select ↔ n ∈ o.select)
    (hexclude : ∀ n ∈ c.classNames, n ∈ o'.exclude ↔ n ∈ o.exclude) : d' = d := by
  have hempty : o'.select = [] ↔ o.select = [] := by
    -- a list that is not refused is empty or has a class name, which the other has too
    constructor
    · intro hnil
      by_contra hne
      refine hmatched ⟨hne, fun n hn hname => ?_⟩
      simp [hnil] at hselect
      exact hselect n hname hn
    · intro hnil
      by_contra hne
      refine hmatched' ⟨hne, fun n hn hname => ?_⟩
      simp [hnil] at hselect
      exact hselect n hname hn
  have hcontains : ∀ n, d'.selection.contains n = d.selection.contains n := by
    intro n
    rw [Bool.eq_iff_iff, h.selected, h'.selected, hempty]
    refine and_congr_right fun hn => ?_
    rw [hselect n hn, hexclude n hn]
  obtain ⟨cat, ⟨names, seen⟩, mode, quantity⟩ := d
  obtain ⟨cat', ⟨names', seen'⟩, mode', quantity'⟩ := d'
  obtain rfl : cat' = cat := h'.catalog.trans h.catalog.symm
  obtain rfl : names' = names := NameSet.eq_of_contains hcontains
  obtain rfl : seen' = seen := h'.seen.trans h.seen.symm
  obtain rfl : mode' = mode := h'.mode.trans (hmode ▸ h.mode.symm)
  obtain rfl : quantity' = quantity := h'.quantity.trans (hquantity ▸ h.quantity.symm)
  rfl

/-- How the names are looked at. -/
theorem checkNames_eq (c : Catalog) (select leaveOut : List String) :
    checkNames c select leaveOut =
      { result := if selectsNothing c select then .error (nothingSelected select) else .ok ()
        events := (unknownNames c (select ++ leaveOut)).map unknownEvent } := by
  rw [checkNames, Told.bind_of_ok (x := ()) rfl]
  by_cases hnothing : selectsNothing c select = true
  · rw [if_pos hnothing, if_pos hnothing]
    simp [Told.tellAll, Told.fail]
  · rw [if_neg hnothing, if_neg hnothing]
    simp [Told.tellAll, pure, Told.ok]

/-- **How a command prepares**: it tells of the flaws of the catalog and of
the names that mean nothing, and then it has the session that is chosen,
unless there are names to select and none means anything. -/
theorem prepare_eq (hopen : (w.openSession o.source settings).result = .ok (source, s))
    (hquantity : o.quantity.getD settings.quantity ≠ 0) :
    prepare o settings w =
      { result := if selectsNothing s.catalog o.select then .error (nothingSelected o.select)
          else .ok (choose o settings s)
        events := (w.openSession o.source settings).events ++ s.catalog.issues.map issueEvent ++
          (unknownNames s.catalog (o.select ++ o.exclude)).map unknownEvent } := by
  have hset : ((s.setMode (o.mode.getD settings.mode)).setQuantity
      (o.quantity.getD settings.quantity)) =
      { result := .ok ()
        session := { s with mode := o.mode.getD settings.mode
                            quantity := o.quantity.getD settings.quantity } } := by
    rw [Session.setQuantity, if_neg (by simpa using hquantity)]
    rfl
  rw [prepare, Told.bind_of_ok hopen]
  simp only [hset]
  rw [Told.bind_of_ok (x := ()) rfl, Told.bind_of_ok (x := ()) rfl, checkNames_eq]
  by_cases hnothing : selectsNothing s.catalog o.select = true
  · rw [if_pos hnothing, if_pos hnothing]
    simp [bind, Told.andThen, Told.tellAll, Told.ofExcept]
  · rw [if_neg hnothing, if_neg hnothing]
    simp [bind, Told.andThen, Told.tellAll, Told.ofExcept, pure, Told.ok, choose]

/-! ## Warnings -/

/-- **What a command warns of**: the names that mean nothing, in order. -/
theorem warned_run (hopen : (w.openSession o.source settings).result = .ok (source, s))
    (hquantity : o.quantity.getD settings.quantity ≠ 0) :
    warned (run o settings w).events = unknownNames s.catalog (o.select ++ o.exclude) := by
  have hprepare : warned (prepare o settings w).events =
      unknownNames s.catalog (o.select ++ o.exclude) := by
    rw [prepare_eq hopen hquantity]
    dsimp only
    rw [warned_append, warned_append, silent_openSession w o.source settings,
      silent_issueEvents s.catalog.issues, warned_unknownEvents]
    rfl
  rw [run, Outcome.inside]
  dsimp only
  rw [warned_around, Outcome.after]
  split
  · dsimp only
    rw [warned_append, silent_deliver, hprepare, List.append_nil]
  · exact hprepare

/-! ## The outcome of the command -/

/-- **A command without a matching name is refused**, and does nothing. -/
theorem run_of_unmatched (hopen : (w.openSession o.source settings).result = .ok (source, s))
    (hquantity : o.quantity.getD settings.quantity ≠ 0) (h : Unmatched s.catalog o.select) :
    (run o settings w).disk = w.disk ∧ (run o settings w).answer = none ∧
      (run o settings w).error = some (nothingSelected o.select) := by
  have hresult : (prepare o settings w).result = .error (nothingSelected o.select) := by
    rw [prepare_eq hopen hquantity]
    exact if_pos (selectsNothing_iff.2 h)
  rw [run, Outcome.inside, Outcome.after, hresult]
  exact ⟨rfl, rfl, rfl⟩

/-- **Any other command delivers** the session that is chosen. -/
theorem run_of_matched (hopen : (w.openSession o.source settings).result = .ok (source, s))
    (hquantity : o.quantity.getD settings.quantity ≠ 0) (h : ¬ Unmatched s.catalog o.select) :
    (run o settings w).disk = (deliver o w.disk (choose o settings s)).disk ∧
      (run o settings w).answer = (deliver o w.disk (choose o settings s)).answer ∧
      (run o settings w).error = (deliver o w.disk (choose o settings s)).error := by
  have hresult : (prepare o settings w).result = .ok (choose o settings s) := by
    rw [prepare_eq hopen hquantity]
    exact if_neg fun hnothing => h (selectsNothing_iff.1 hnothing)
  rw [run, Outcome.inside, Outcome.after, hresult]
  exact ⟨rfl, rfl, rfl⟩

/-- **Lists with the same class names lead to the same**, unless one of
them is refused. -/
theorem run_congr (hopen : (w.openSession o.source settings).result = .ok (source, s))
    (hquantity : o.quantity.getD settings.quantity ≠ 0) {select exclude : List String}
    (h : ¬ Unmatched s.catalog o.select) (h' : ¬ Unmatched s.catalog select)
    (hselect : ∀ n ∈ s.catalog.classNames, n ∈ select ↔ n ∈ o.select)
    (hexclude : ∀ n ∈ s.catalog.classNames, n ∈ exclude ↔ n ∈ o.exclude) :
    (run { o with select, exclude } settings w).disk = (run o settings w).disk ∧
      (run { o with select, exclude } settings w).answer = (run o settings w).answer ∧
      (run { o with select, exclude } settings w).error = (run o settings w).error := by
  have hchoose : choose { o with select, exclude } settings s = choose o settings s := by
    rw [(exists_start_of_openSession hopen).2]
    exact chosen_unique (chosen_choose o settings s.catalog) (chosen_choose _ settings s.catalog)
      rfl rfl h h' hselect hexclude
  obtain ⟨hdisk, hanswer, herror⟩ := run_of_matched hopen hquantity h
  obtain ⟨hdisk', hanswer', herror'⟩ := run_of_matched (o := { o with select, exclude }) hopen
    hquantity h'
  rw [hdisk, hanswer, herror, hdisk', hanswer', herror', hchoose]
  exact ⟨rfl, rfl, rfl⟩

/-- A write that fails, if it does, in carrying the document. -/
def Carries (x : Written Disk) : Prop := ∀ f, x.failure = some f → ∃ e, f = .transfer e

theorem Carries.andThen {x : Written Disk} {next : Disk → Written Disk} (h : Carries x)
    (hnext : ∀ d, Carries (next d)) : Carries (x.andThen next) := by
  rw [Written.andThen]
  split
  · exact h
  · exact hnext _

theorem carries_prepare (disk : Disk) (path : Option String) :
    Carries (Sink.prepare disk path) := by
  cases path with
  | none => exact nofun
  | some dir =>
    intro f hf
    obtain ⟨e, -, rfl⟩ := Option.map_eq_some_iff.1 hf
    exact ⟨_, rfl⟩

theorem carries_writeFile (disk : Disk) (path content : String) :
    Carries (Sink.writeFile disk path content) := by
  intro f hf
  cases hwrite : disk.writeText path content with
  | ok u => simp [Sink.writeFile, hwrite] at hf
  | error e =>
    obtain rfl : Disk.outputFailed path "write file" e = f := by
      simpa [Sink.writeFile, hwrite] using hf
    exact ⟨_, rfl⟩

theorem carries_writeDocument (s : Session) (disk : Disk) (path : String) (force : Bool) :
    Carries (s.writeDocument disk path force) := by
  have htold : ∀ (d : Disk) (events : List Event), Carries (.told d events) := fun _ _ => nofun
  intro f hf
  rw [Session.writeDocument] at hf
  dsimp only at hf
  split at hf
  · exact ⟨_, (Option.some.inj hf).symm⟩
  · refine (carries_prepare disk _).andThen (fun d => ?_) f hf
    refine (htold d _).andThen fun d => ?_
    exact (carries_writeFile d path _).andThen fun d => htold d _

/-- **Delivering fails, if it does, in carrying the document.** -/
theorem error_deliver {disk : Disk} {e : CommandError} (h : (deliver o disk s).error = some e) :
    ∃ t, e = .failed (.transfer t) := by
  rw [deliver] at h
  split at h
  · next path _ =>
    rw [Outcome.ofWritten] at h
    split at h
    · next f hf =>
      obtain ⟨t, rfl⟩ := carries_writeDocument s disk path o.force f hf
      exact ⟨t, (Option.some.inj h).symm⟩
    · cases h
  · cases h

end Generate

namespace Run

open Generate

variable {i : Invocation} {o : GenerateOptions} {settings : Settings} {w : World}
variable {words : List String} {source : Source} {s : Session} {c : Catalog} {r : Run}

/-! ## The run of the command -/

theorem output_ofInvocation (i : Invocation) (w : World) :
    (ofInvocation i w).output = ((outcome i w).1.answer.map (·.text (outcome i w).2)).getD "" := by
  rw [ofInvocation]

theorem report_ofInvocation (i : Invocation) (w : World) :
    (ofInvocation i w).report = reportOf i.options (outcome i w).1.error := by
  rw [ofInvocation]

theorem events_ofInvocation (i : Invocation) (w : World) :
    (ofInvocation i w).events =
      startedEvent i.options ::
        Settings.loadEvents (Settings.activePath w.environment i.options.config) ++
        (outcome i w).1.events ++ endEvents (outcome i w).1.error := by
  rw [ofInvocation]

/-- Output is shown as the options and the settings want it. -/
theorem presentation_of_load (h : Settings.load w.environment w.disk
      (Settings.activePath w.environment i.options.config) = .ok settings) :
    (outcome i w).2 = .choose i.options settings := by
  delta outcome
  simp only [h]

/-- A run succeeds if its command has no error. -/
theorem exitCode_eq_zero_iff {e : Option CommandError} :
    (e.map (·.exitCode)).getD 0 = 0 ↔ e = none := by
  cases e with
  | none => simp
  | some e =>
    have hcode : e.exitCode ≠ 0 := by
      rw [CommandError.exitCode]
      cases e.category <;> decide
    simp [hcode]

/-- A run is what its command leads to. -/
theorem ofInvocation_congr {j : Invocation} (hoptions : j.options = i.options)
    (hshown : (outcome j w).2 = (outcome i w).2) (hdisk : (outcome j w).1.disk = (outcome i w).1.disk)
    (hanswer : (outcome j w).1.answer = (outcome i w).1.answer)
    (herror : (outcome j w).1.error = (outcome i w).1.error) :
    (ofInvocation j w).disk = (ofInvocation i w).disk ∧
      (ofInvocation j w).output = (ofInvocation i w).output ∧
      (ofInvocation j w).exitCode = (ofInvocation i w).exitCode ∧
      (ofInvocation j w).report = (ofInvocation i w).report := by
  simp only [disk_ofInvocation, output_ofInvocation, exitCode_ofInvocation, report_ofInvocation,
    hoptions, hshown, hdisk, hanswer, herror, and_self]

/-- With loaded settings a run of `generate` is its command. -/
theorem outcome_generate (hrequest : i.request = .generate o)
    (hload : Settings.load w.environment w.disk
      (Settings.activePath w.environment i.options.config) = .ok settings) :
    (outcome i w).1 = Outcome.inside ⟨target, "run", []⟩ (Generate.run o settings w) := by
  rw [outcome_of_load hload, perform, hrequest]

/-- **What is refused**: names to select of which none is a class name, and
never the quantity. -/
theorem error_generate (hopen : (w.openSession o.source settings).result = .ok (source, s))
    (hquantity : o.quantity.getD settings.quantity ≠ 0) :
    (∀ q, (Generate.run o settings w).error ≠ some (.failed (.catalog (.quantityRejected q)))) ∧
      ((∃ m, (Generate.run o settings w).error = some (.invalidInput m)) ↔
        Unmatched s.catalog o.select) := by
  by_cases hunmatched : Unmatched s.catalog o.select
  · obtain ⟨-, -, herror⟩ := run_of_unmatched hopen hquantity hunmatched
    rw [herror]
    exact ⟨fun q => nofun, iff_of_true ⟨_, rfl⟩ hunmatched⟩
  · obtain ⟨-, -, herror⟩ := run_of_matched hopen hquantity hunmatched
    rw [herror]
    refine ⟨fun q hq => ?_, iff_of_false ?_ hunmatched⟩
    · obtain ⟨t, ht⟩ := error_deliver hq
      cases ht
    · rintro ⟨m, hm⟩
      obtain ⟨t, ht⟩ := error_deliver hm
      cases ht

/-- **The document of a run that is not refused** is shown or written. -/
theorem document_generate (hrequest : i.request = .generate o)
    (hload : Settings.load w.environment w.disk
      (Settings.activePath w.environment i.options.config) = .ok settings)
    (hopen : (w.openSession o.source settings).result = .ok (source, s))
    (hquantity : o.quantity.getD settings.quantity ≠ 0) (h : ¬ Unmatched s.catalog o.select) :
    (o.output = none → (ofInvocation i w).exitCode = 0 ∧ (ofInvocation i w).disk = w.disk ∧
      (ofInvocation i w).output =
        if (Presentation.choose i.options settings).isJson
        then Answer.generatedReport (choose o settings s) else (choose o settings s).render) ∧
    ∀ path, o.output = some path →
      w.disk.Footprint (ofInvocation i w).disk path (choose o settings s).render ∧
      ((ofInvocation i w).exitCode = 0 →
        (ofInvocation i w).disk.readText path = .ok (choose o settings s).render) := by
  obtain ⟨hdisk, hanswer, herror⟩ := run_of_matched hopen hquantity h
  rw [disk_ofInvocation, exitCode_ofInvocation, output_ofInvocation, presentation_of_load hload,
    outcome_generate hrequest hload]
  simp only [Outcome.inside]
  rw [hdisk, hanswer, herror]
  constructor
  · intro houtput
    simp [deliver, houtput, Answer.text]
  · intro path houtput
    have hguarded := guarded_deliver houtput w.disk (choose o settings s)
    rw [exitCode_eq_zero_iff]
    exact ⟨hguarded.footprint, hguarded.readText⟩

/-- **What a run of `generate` selects**, for a catalog that loads: what is
refused, what is shown or written otherwise, that nothing counts of the
lists but their class names, and what is warned about. -/
structure Selects (i : Invocation) (o : GenerateOptions) (settings : Settings) (c : Catalog)
    (w : World) (r : Run) : Prop where
  /-- The quantity is not refused. -/
  quantity : ∀ q, (outcome i w).1.error ≠ some (.failed (.catalog (.quantityRejected q)))
  /-- The names are refused if there are some to select and none is a class
  name. -/
  refused_iff : (∃ m, (outcome i w).1.error = some (.invalidInput m)) ↔ Unmatched c o.select
  /-- Names that are refused lead to nothing. -/
  refusal : Unmatched c o.select → r.exitCode = 2 ∧ r.output = "" ∧ r.disk = w.disk
  /-- Otherwise the document of what is chosen is shown or written. -/
  document : ¬ Unmatched c o.select → ∃ d, Chosen o settings c d ∧
    d.render = Verse.document (o.mode.getD settings.mode) c d.selection
      (o.quantity.getD settings.quantity) ∧
    (o.output = none → r.exitCode = 0 ∧ r.disk = w.disk ∧
      r.output = if (Presentation.choose i.options settings).isJson then Answer.generatedReport d
        else d.render) ∧
    ∀ path, o.output = some path → w.disk.Footprint r.disk path d.render ∧
      (r.exitCode = 0 → r.disk.readText path = .ok d.render)
  /-- Of lists that are not refused only the class names count. -/
  congr : ∀ select exclude, ¬ Unmatched c o.select → ¬ Unmatched c select →
    (∀ n ∈ c.classNames, n ∈ select ↔ n ∈ o.select) →
    (∀ n ∈ c.classNames, n ∈ exclude ↔ n ∈ o.exclude) →
    ∀ r', r' = ofInvocation { i with request := .generate { o with select, exclude } } w →
      r'.disk = r.disk ∧ r'.output = r.output ∧ r'.exitCode = r.exitCode ∧ r'.report = r.report
  /-- There is a warning for each name that is no class name, in order. -/
  warned : warned r.events =
    (o.select ++ o.exclude).filter fun n => !c.classNames.contains n

theorem selects_ofInvocation (hrequest : i.request = .generate o)
    (hload : Settings.load w.environment w.disk
      (Settings.activePath w.environment i.options.config) = .ok settings)
    (hopen : (w.openSession o.source settings).result = .ok (source, s))
    (hquantity : o.quantity.getD settings.quantity ≠ 0) :
    Selects i o settings s.catalog w (ofInvocation i w) := by
  have houtcome := outcome_generate hrequest hload
  obtain ⟨hrejected, hrefused⟩ := error_generate hopen hquantity
  refine { quantity := ?_, refused_iff := ?_, refusal := ?_, document := ?_, congr := ?_, warned := ?_ }
  · rw [houtcome]
    exact hrejected
  · rw [houtcome]
    exact hrefused
  · intro hunmatched
    obtain ⟨hdisk, hanswer, herror⟩ := run_of_unmatched hopen hquantity hunmatched
    rw [disk_ofInvocation, exitCode_ofInvocation, output_ofInvocation, houtcome]
    simp only [Outcome.inside]
    rw [hdisk, hanswer, herror]
    exact ⟨rfl, rfl, rfl⟩
  · intro hmatched
    obtain ⟨hshown, hwritten⟩ := document_generate hrequest hload hopen hquantity hmatched
    have hchosen := chosen_choose o settings s.catalog
    rw [← (exists_start_of_openSession hopen).2] at hchosen
    refine ⟨choose o settings s, hchosen, ?_, hshown, hwritten⟩
    rw [Session.render, Session.renderMode, hchosen.mode, hchosen.catalog, hchosen.quantity]
  · rintro select exclude hmatched hmatched' hselect hexclude r' rfl
    obtain ⟨hdisk, hanswer, herror⟩ := run_congr hopen hquantity hmatched hmatched' hselect hexclude
    let j : Invocation := { i with request := .generate { o with select, exclude } }
    have houtcome' : (outcome j w).1 = _ := outcome_generate rfl hload
    have hshown : (outcome j w).2 = (outcome i w).2 :=
      (presentation_of_load (i := j) hload).trans (presentation_of_load hload).symm
    refine ofInvocation_congr (j := j) rfl hshown ?_ ?_ ?_ <;> rw [houtcome, houtcome']
    · exact hdisk
    · exact hanswer
    · exact herror
  · have hloading : Silent (startedEvent i.options ::
        Settings.loadEvents (Settings.activePath w.environment i.options.config)) :=
      (silent_elsewhere Run.target rfl (by decide) : Silent [startedEvent i.options]).append
        (silent_elsewhere "shopgen::config" rfl (by decide))
    rw [events_ofInvocation, warned_append, warned_append, silent_endEvents, hloading, houtcome,
      Outcome.inside, List.append_nil, List.nil_append]
    dsimp only
    rw [warned_around, warned_run hopen hquantity]
    rfl

/-- **What `generate` selects.** -/
theorem generate_selects
    (hparse : CommandLine.parse (settle w).environment words = .ok i)
    (hrequest : i.request = .generate o)
    (hload : Settings.load (settle w).environment (settle w).disk
      (Settings.activePath (settle w).environment i.options.config) = .ok settings)
    (hopen : ((settle w).openSession o.source settings).result = .ok (source, s)) :
    ∃ r, invoke w words = .ok r ∧ Selects i o settings s.catalog (settle w) r := by
  have hquantity : o.quantity.getD settings.quantity ≠ 0 := by
    cases hgiven : o.quantity with
    | none => exact Settings.quantity_of_load hload
    | some q => exact fun hzero => quantity_of_parse hparse hrequest (hgiven.trans (congrArg some hzero))
  refine ⟨ofInvocation i (settle w), invoke_of_parse hparse, ?_⟩
  exact selects_ofInvocation hrequest hload hopen hquantity

/-- A disk with a small catalog. -/
def stall : Disk :=
  { current := []
    nodes :=
      [(["shop.toml"], .file (.text ("[[entitlements]]\nclass_name = \"gem\"\n" ++
        "info_module = \"gem_info\"\nparent_class = \"island_entitlement\"\n")))] }

/-- The catalog on the disk. -/
def stallCatalog : Catalog :=
  { Catalog.empty with entitlements := [{ className := "gem", infoModule := "gem_info" }] }

/-- A command line with one name that means something and one that does
not. -/
def stallLine : List String :=
  ["generate", "consume", "--catalog", "shop.toml", "--select", "gem,zap"]

/-- What the command line amounts to. -/
def stallOptions : GenerateOptions :=
  { mode := some .consume, source := { catalog := some "shop.toml" }, select := ["gem", "zap"] }

theorem selects_stall :
    ∃ r, invoke { disk := stall } stallLine = .ok r ∧ warned r.events = ["zap"] ∧
      r.exitCode = 0 ∧ ∃ d, r.output = Verse.document .consume stallCatalog d 1 ∧
        ∀ n, d.contains n = true ↔ n = "gem" := by
  have hparse : CommandLine.parse (settle { disk := stall }).environment stallLine =
      .ok ⟨{}, .generate stallOptions⟩ := by decide +kernel
  have hload : Settings.load (settle { disk := stall }).environment (settle { disk := stall }).disk
      (Settings.activePath (settle { disk := stall }).environment none) = .ok {} := by
    decide +kernel
  have hopen : ((settle { disk := stall }).openSession stallOptions.source {}).result =
      .ok (.file "shop.toml", .start stallCatalog) := by decide +kernel
  obtain ⟨r, hrun, hselects⟩ := generate_selects hparse rfl hload hopen
  have hmatched : ¬ Unmatched stallCatalog stallOptions.select :=
    fun h => h.2 "gem" (by decide) (by decide)
  obtain ⟨d, hchosen, hdocument, hshown, -⟩ := hselects.document hmatched
  obtain ⟨hcode, -, houtput⟩ := hshown rfl
  rw [if_neg (by decide +kernel)] at houtput
  refine ⟨r, hrun, hselects.warned.trans (by decide), hcode, d.selection,
    houtput.trans hdocument, fun n => ?_⟩
  have hnames : (Session.start stallCatalog).catalog.classNames = ["gem"] := by decide
  rw [hchosen.selected, hnames, List.mem_singleton]
  refine ⟨And.left, ?_⟩
  rintro rfl
  decide

end Run

end Storefront
