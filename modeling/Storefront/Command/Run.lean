import Storefront.Command.Completion
import Storefront.Command.ErrorReport
import Storefront.Command.Generate
import Storefront.Command.Inspect
import Storefront.Command.Starting
import Storefront.Log.Filter
import Storefront.Log.Line
import Storefront.Settings.Dotenv
import Storefront.Settings.Load
/-!
# Commands — a run

A run reads the command line, loads the settings, performs the command
and reports its error, if there is one. `invoke` does all of it in a
world whose environment may be extended by a file.
-/

namespace Storefront

/-- What a run leads to. -/
structure Run where
  exitCode : Nat
  output : String
  report : String
  events : List Event
  disk : Disk
  deriving DecidableEq, Repr

namespace Run

/-- Where the events of a run come from. -/
def target : String := "shopgen"

/-- What is told at the start. -/
def startedEvent (o : GlobalOptions) : Event :=
  { level := .debug, target, message := "CLI started"
    fields :=
      [("verbose", .count o.verbosity), ("quiet", .bool o.quiet),
        ("no_color", .bool o.noColor)] }

/-- What is told at the end, if all went well. -/
def completedEvent : Event :=
  { level := .info, target, message := "shopgen completed successfully" }

/-- Answer a question about the settings. -/
def answerQuery (q : ConfigQuery) (named : Option String) (settings : Settings)
    (w : World) : Outcome :=
  match q with
  | .get key =>
    match settings.value? key with
    | some value => .answering w.disk (.document (value ++ "\n"))
    | none =>
      .failing w.disk (.configuration ("Unknown config key: '" ++ key ++ "'") [])
  | .list => .answering w.disk (.document settings.text)
  | .path =>
    .answering w.disk (.document (Settings.activePath w.environment named ++ "\n"))

/-- Perform a request. -/
def perform (i : Invocation) (settings : Settings) (w : World) : Outcome :=
  match i.request with
  | .generate o => Generate.run o settings w
  | .validate source strict => Validate.run source strict settings w
  | .price amount => PriceCheck.run amount w
  | .list source kind format => Listing.run source kind format settings w
  | .sample output force => SampleCommand.run output force w
  | .init force => InitCommand.run i.options.config force w
  | .config query => answerQuery query i.options.config settings w
  | .completions shell => .answering w.disk (.document (Completion.script shell))

/-- The report of an error, if there is one. -/
def reportOf (o : GlobalOptions) : Option CommandError → String
  | some e => e.plainReport (0 < o.verbosity)
  | none => ""

/-- What is told when a command has ended. -/
def endEvents : Option CommandError → List Event
  | some e => e.events
  | none => [completedEvent]

/-- Load the settings and perform a request. -/
def outcome (i : Invocation) (w : World) : Outcome × Presentation :=
  match Settings.load w.environment w.disk (Settings.activePath w.environment i.options.config) with
  | .error e => (.failing w.disk e.toCommandError, .choose i.options {})
  | .ok settings =>
    (Outcome.inside ⟨target, "run", []⟩ (perform i settings w), .choose i.options settings)

/-- The run of an invocation. -/
def ofInvocation (i : Invocation) (w : World) : Run :=
  let path := Settings.activePath w.environment i.options.config
  let (o, p) := outcome i w
  { exitCode := (o.error.map (·.exitCode)).getD 0
    output := (o.answer.map (·.text p)).getD ""
    report := reportOf i.options o.error
    events :=
      startedEvent i.options :: Settings.loadEvents path ++ o.events ++ endEvents o.error
    disk := o.disk }

/-- The world with the variables of a file. -/
def settle (w : World) : World :=
  { w with environment := Dotenv.extend w.environment w.disk }

/-- The run of a command line. -/
def invoke (w : World) (words : List String) : Except CommandLine.Refusal Run :=
  let w := settle w
  (CommandLine.parse w.environment words).map fun i => ofInvocation i w

/-- The filter of an invocation. -/
def filterOf (env : Environment) (o : GlobalOptions) : LogFilter :=
  .choose (env.get? "RUST_LOG") o.quiet o.verbosity

/-- An event as a line of the log. -/
def logLine (time : String) (o : GlobalOptions) (e : Event) : String :=
  if o.format == .json then (e.json time).compact else e.line time

/-- The lines of the log. -/
def logLines (time : String) (env : Environment) (o : GlobalOptions)
    (events : List Event) : List String :=
  ((filterOf env o).see events).map (logLine time o)

end Run

end Storefront
