import Storefront.Command.Error
import Storefront.Text.Style
/-!
# Commands — error reports

An error is reported on the error stream: its message, the rules it is
about, its causes if the report is verbose, the advice under a heading,
and otherwise a hint how to learn more. A report is written plainly or
in colours; both forms show the same items in the same order.
-/

namespace Storefront

/-- What a report of an error shows. -/
structure ErrorReport where
  headline : String
  violations : List String
  causes : List String
  suggestions : List String
  hint : Option String
  deriving DecidableEq, Repr

namespace ErrorReport

/-- How to learn more about an error. -/
def moreHint : String := "Use -v / --verbose for more details."

/-- The report of an error. -/
def ofError (e : CommandError) (verbose : Bool) : ErrorReport :=
  { headline := e.message
    violations := e.violations
    causes := if verbose then e.causes else []
    suggestions := e.suggestions
    hint := if verbose then none else some moreHint }

/-- Lines under a heading, and nothing at all without lines. -/
def underHeading (heading : String) : List String → List String
  | [] => []
  | lines => ("\n" ++ heading ++ "\n") :: lines.map fun l => "  " ++ l ++ "\n"

/-- The report without colours. -/
def plain (r : ErrorReport) : String :=
  String.join
    (["\nError: " ++ r.headline ++ "\n"] ++
      r.violations.map (fun v => "    - " ++ v ++ "\n") ++
      r.causes.map (fun c => "  Caused by: " ++ c ++ "\n") ++
      underHeading "Suggestions:" r.suggestions ++
      (r.hint.map fun h => "\n" ++ h ++ "\n").toList)

/-- The report in colours. -/
def colored (r : ErrorReport) : String :=
  String.join
    (["\n" ++ Text.bold (Text.colored .red "✗") ++ " " ++
          Text.bold (Text.colored .red "Error:") ++ "\n\n",
        "  " ++ Text.colored .red r.headline ++ "\n"] ++
      r.violations.map (fun v => "    " ++ Text.colored .red "-" ++ " " ++ v ++ "\n") ++
      r.causes.map (fun c => "\n  " ++ Text.dimmed "→" ++ " " ++ Text.dimmed c ++ "\n") ++
      underHeading (Text.bold (Text.colored .yellow "Suggestions:")) r.suggestions ++
      (r.hint.map fun h =>
        "\n" ++ Text.colored .blue "ℹ" ++ " " ++ Text.dimmed h ++ "\n").toList)

end ErrorReport

namespace CommandError

/-- The report of an error without colours. -/
def plainReport (e : CommandError) (verbose : Bool) : String :=
  (ErrorReport.ofError e verbose).plain

/-- The report of an error in colours. -/
def coloredReport (e : CommandError) (verbose : Bool) : String :=
  (ErrorReport.ofError e verbose).colored

end CommandError

end Storefront
