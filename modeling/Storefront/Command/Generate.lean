import Storefront.Command.CatalogChoice
/-!
# Commands — generate

Generating loads a catalog, chooses mode, quantity and selection, and
shows the document or writes it to a file. Names that mean nothing are
warned about; if all the names to select mean nothing, that is an error.
-/

namespace Storefront.Generate

/-- Where the events of the command come from. -/
def target : String := "shopgen::commands::generate"

/-- An event of the command. -/
def event (level : Level) (message field value : String) : Event :=
  { level, target, message, fields := [(field, .shown value)] }

/-- What is told about a flaw of the catalog. -/
def issueEvent (i : Issue) : Event :=
  event .warn "catalog integrity" "issue" i.message

/-- What is told about a name that means nothing. -/
def unknownEvent (name : String) : Event :=
  event .warn "no entitlement, offer or bundle with this class name" "name" name

/-- The names among some that are no class names of a catalog. -/
def unknownNames (c : Catalog) (names : List String) : List String :=
  names.filter fun n => !c.classNames.contains n

/-- Whether names are to be selected and none of them means anything. -/
def selectsNothing (c : Catalog) (select : List String) : Bool :=
  !select.isEmpty && !select.any fun n => c.classNames.contains n

/-- The error of names of which none means anything. -/
def nothingSelected (select : List String) : CommandError :=
  .invalidInput ("--select matched no class name (" ++ ", ".intercalate select ++ ")")

/-- Look at the names to select and to leave out. -/
def checkNames (c : Catalog) (select leaveOut : List String) : Told CommandError Unit := do
  Told.tellAll ((unknownNames c (select ++ leaveOut)).map unknownEvent)
  if selectsNothing c select then Told.fail (nothingSelected select)

/-- A session with only some names selected, if there are any, and
others left out. -/
def narrow (s : Session) (select leaveOut : List String) : Session :=
  let s := if select.isEmpty then s else s.selectOnly select
  s.deselect leaveOut

/-- The session whose document is to be generated. -/
def prepare (o : GenerateOptions) (settings : Settings) (w : World) :
    Told CommandError Session := do
  let (_, session) ← w.openSession o.source settings
  Told.tellAll (session.catalog.issues.map issueEvent)
  let moded := session.setMode (o.mode.getD settings.mode)
  let step := moded.setQuantity (o.quantity.getD settings.quantity)
  Told.ofExcept (step.result.mapError .failed)
  checkNames step.session.catalog o.select o.exclude
  return narrow step.session o.select o.exclude

/-- Show the document of a session or write it. -/
def deliver (o : GenerateOptions) (disk : Disk) (s : Session) : Outcome :=
  match o.output with
  | some path =>
    .ofWritten (s.writeDocument disk path o.force) (.written s path)
      [event .info "document written" "path" path]
  | none => { disk, answer := some (.generated s), events := s.renderEvents s.mode }

/-- The mode of the command line as a trace shows it. -/
def modeText : Option Mode → String
  | some m => "Some(" ++ m.title ++ ")"
  | none => "None"

/-- Generate a document. -/
def run (o : GenerateOptions) (settings : Settings) (w : World) : Outcome :=
  Outcome.inside ⟨target, "execute", [("mode", .shown (modeText o.mode))]⟩
    (.after w.disk (prepare o settings w) fun s => deliver o w.disk s)

end Storefront.Generate
