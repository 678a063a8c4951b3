import Storefront.Command.Run
/-!
# Commands — what a run warns of

While a run goes on, many things are told. Which names it warns of is read
off its events (`warned`), and of all that is told only the command
`generate` itself warns of names, in words that nothing else uses: loading,
writing and reporting are silent about them (`silent_openSession`,
`silent_deliver`, `silent_endEvents`).
-/

namespace Storefront

namespace Generate

variable {o : GenerateOptions} {settings : Settings} {w : World} {s : Session}

/-! ## Reading warnings -/

/-- The name that an event warns of, if it says that the name means
nothing. -/
def unknownName? (e : Event) : Option String :=
  match e.fields with
  | [(_, .shown name)] =>
    if e = { unknownEvent name with spans := e.spans } then some name else none
  | _ => none

/-- The names that events warn of, in order. -/
def warned (events : List Event) : List String := events.filterMap unknownName?

@[simp] theorem warned_append (es fs : List Event) : warned (es ++ fs) = warned es ++ warned fs :=
  List.filterMap_append

theorem unknownName?_unknownEvent (name : String) :
    unknownName? (unknownEvent name) = some name := by
  simp [unknownName?, unknownEvent, event]

theorem warned_unknownEvents (names : List String) : warned (names.map unknownEvent) = names := by
  have hread : unknownName? ∘ unknownEvent = some := funext unknownName?_unknownEvent
  rw [warned, List.filterMap_map, hread, List.filterMap_some]

/-- It does not matter inside what something happened. -/
theorem unknownName?_spans (e : Event) (spans : List Span) :
    unknownName? { e with spans } = unknownName? e := by
  obtain ⟨level, target, message, fields, old⟩ := e
  simp [unknownName?]

@[simp] theorem warned_around (span : Span) (events : List Event) :
    warned (span.around events) = warned events := by
  rw [warned, warned, Span.around, List.filterMap_map]
  congr 1
  funext e
  exact unknownName?_spans e (span :: e.spans)

/-- Only the command itself warns of names, and only in these words. -/
theorem unknownName?_eq_none {e : Event}
    (h : e.target ≠ target ∨ e.message ≠ (unknownEvent "").message) : unknownName? e = none := by
  rw [unknownName?]
  split
  · next name _ =>
    rw [if_neg]
    intro heq
    rw [heq] at h
    rcases h with htarget | hmessage
    · exact htarget rfl
    · exact hmessage rfl
  · rfl

/-- Events that warn of no name. -/
def Silent (events : List Event) : Prop := warned events = []

theorem silent_nil : Silent [] := rfl

/-- What happens elsewhere is no warning of a name. -/
theorem silent_of_forall {events : List Event} (place : String)
    (h : ∀ e ∈ events, e.target = place) (hplace : place ≠ target) : Silent events :=
  List.filterMap_eq_nil_iff.2 fun e he => unknownName?_eq_none (.inl (h e he ▸ hplace))

theorem silent_elsewhere {e : Event} (place : String) (h : e.target = place)
    (hplace : place ≠ target) : Silent [e] :=
  silent_of_forall place (fun _ he => List.mem_singleton.1 he ▸ h) hplace

/-- What is said in other words is no warning of a name. -/
theorem silent_otherwise {e : Event} (words : String) (h : e.message = words)
    (hwords : words ≠ (unknownEvent "").message) : Silent [e] := by
  rw [Silent, warned, List.filterMap_cons_none (unknownName?_eq_none (.inr (h ▸ hwords)))]
  rfl

/-! ## What is silent -/

theorem Silent.append {es fs : List Event} (hes : Silent es) (hfs : Silent fs) :
    Silent (es ++ fs) := by
  rw [Silent, warned_append, hes, hfs, List.append_nil]

theorem Silent.around {events : List Event} (h : Silent events) (span : Span) :
    Silent (span.around events) := by
  rw [Silent, warned_around, h]

theorem Silent.bind {ε α β : Type} {t : Told ε α} {next : α → Told ε β} (h : Silent t.events)
    (hnext : ∀ x, Silent (next x).events) : Silent (t >>= next).events := by
  change Silent (t.andThen next).events
  rw [Told.andThen]
  split
  · exact h.append (hnext _)
  · exact h

theorem Silent.andThen {x : Written Disk} {next : Disk → Written Disk} (h : Silent x.events)
    (hnext : ∀ d, Silent (next d).events) : Silent (x.andThen next).events := by
  rw [Written.andThen]
  split
  · exact h
  · exact h.append (hnext _)

theorem silent_firstFile (disk : Disk) (paths : List String) :
    Silent (World.firstFile disk paths).events := by
  induction paths with
  | nil => rfl
  | cons path rest ih =>
    rw [World.firstFile]
    refine Silent.bind (silent_elsewhere World.searchTarget rfl (by decide)) fun _ => ?_
    split
    · exact Silent.bind (silent_elsewhere World.searchTarget rfl (by decide)) fun _ => rfl
    · exact ih

theorem silent_chooseSource (w : World) (co : CatalogOptions) (settings : Settings) :
    Silent (w.chooseSource co settings).events := by
  refine Silent.bind ?_ fun source =>
    Silent.bind (silent_elsewhere "shopgen::commands" rfl (by decide)) fun _ => rfl
  rw [World.pickSource]
  split
  · rfl
  · split
    · rfl
    · exact Silent.bind ((silent_firstFile _ _).around _) fun _ => rfl

theorem silent_loadText (origin : String) (text : Except Failure String) :
    Silent (Source.loadText origin text).events := by
  refine Silent.around ?_ _
  refine Silent.bind (silent_nil) fun text => ?_
  refine Silent.bind (silent_nil) fun m => ?_
  refine Silent.bind (silent_elsewhere Source.target rfl (by decide)) fun _ => ?_
  rw [Source.accept]
  split
  · rfl
  · exact silent_elsewhere Source.target rfl (by decide)

theorem silent_load (source : Source) (disk : Disk) : Silent (source.load disk).events := by
  cases source with
  | file path => exact silent_loadText path _
  | inline label text => exact silent_loadText label _
  | held label c => rfl

/-- **Opening a catalog warns of no name.** -/
theorem silent_openSession (w : World) (co : CatalogOptions) (settings : Settings) :
    Silent (w.openSession co settings).events := by
  refine Silent.bind (silent_chooseSource w co settings) fun source => ?_
  refine Silent.bind (Silent.around ?_ _) fun s => silent_nil
  refine Silent.bind (silent_load source w.disk) fun c => ?_
  exact Silent.bind (silent_elsewhere Session.target rfl (by decide)) fun _ => silent_nil

theorem silent_createDirectories (disk : Disk) (path : Option String) :
    Silent (Sink.prepare disk path).events := by
  cases path <;> rfl

theorem silent_writeFile (disk : Disk) (path content : String) :
    Silent (Sink.writeFile disk path content).events := by
  simp only [Sink.writeFile]
  split
  · exact silent_elsewhere Disk.target rfl (by decide)
  · rfl

theorem silent_renderEvents (s : Session) (m : Mode) : Silent (s.renderEvents m) :=
  Silent.around (silent_elsewhere Session.target rfl (by decide)) _

/-- **Delivering a document warns of no name.** -/
theorem silent_deliver (o : GenerateOptions) (disk : Disk) (s : Session) :
    Silent (deliver o disk s).events := by
  rw [deliver]
  split
  · next path _ =>
    have hwrite : Silent (s.writeDocument disk path o.force).events := by
      rw [Session.writeDocument]
      refine Silent.around ?_ _
      split
      · rfl
      · refine (silent_createDirectories _ _).andThen fun d => ?_
        refine (silent_renderEvents s s.mode).andThen fun d => ?_
        refine (silent_writeFile d path s.render).andThen fun d => ?_
        exact silent_elsewhere Session.target rfl (by decide)
    rw [Outcome.ofWritten]
    split
    · exact hwrite
    · exact hwrite.append (silent_otherwise "document written" rfl (by decide))
  · exact silent_renderEvents s s.mode

theorem silent_issueEvents (issues : List Issue) : Silent (issues.map issueEvent) := by
  induction issues with
  | nil => rfl
  | cons issue issues ih =>
    exact (silent_otherwise "catalog integrity" rfl (by decide) : Silent [issueEvent issue]).append ih

/-- The end of a run warns of no name. -/
theorem silent_endEvents (e : Option CommandError) : Silent (Run.endEvents e) := by
  cases e with
  | none => exact silent_elsewhere Run.target rfl (by decide)
  | some e =>
    refine silent_of_forall CommandError.target (fun e' he' => ?_) (by decide)
    rcases List.mem_cons.1 he' with rfl | hcause
    · rfl
    · obtain ⟨cause, -, rfl⟩ := List.mem_map.1 hcause
      rfl

end Generate

end Storefront
