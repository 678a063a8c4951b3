import Storefront.Log.Event
import Storefront.Number.Decimal
import Storefront.Text.Alphanumeric
import Storefront.Text.Blank
/-!
# Log — filters

A filter says down to which level the events of a target are shown. It
is a list of directives; for a target the directive counts whose own
target is the longest beginning of it, and of equal ones the last. A
filter comes from a text such as `info,shopgen_core=off`, or from how
much a user wants to be told.
-/

namespace Storefront

/-- The slightest level that is shown; none shows nothing. -/
abbrev LevelLimit := Option Level

namespace LevelLimit

/-- Whether a limit lets a level through. -/
def allows (limit : LevelLimit) (l : Level) : Bool :=
  limit.any fun least => l.rank ≤ least.rank

/-- The limits by their place. -/
def all : List LevelLimit :=
  [none, some .error, some .warn, some .info, some .debug, some .trace]

/-- The word for a limit, in upper case. -/
def name : LevelLimit → String
  | none => "OFF"
  | some l => l.name

/-- The limit that a word or a number stands for. -/
def ofText? (s : String) : Option LevelLimit :=
  match (Decimal.nat? s).bind fun n => all[n]? with
  | some limit => some limit
  | none => all.find? fun limit => limit.name == s.map Char.toUpper

end LevelLimit

/-- What is shown of the targets that start with a text. -/
structure Directive where
  target : String
  limit : LevelLimit
  deriving DecidableEq, Repr

/-- Directives, of which the most specific counts. -/
abbrev LogFilter := List Directive

namespace Directive

/-- A character that a directive may start with. -/
def isStart (c : Char) : Bool :=
  c == '-' || c == ':' || c == '_' || Text.isAlphanumeric c

/-- A word without an equals sign: a level for every target, or a target
for every level. -/
def ofWord (word : String) : Directive :=
  match LevelLimit.ofText? word with
  | some limit => ⟨"", limit⟩
  | none => ⟨word, some .trace⟩

/-- A directive of a text without commas. Its first character after the
blanks decides whether it makes sense at all, but the blanks belong to
it; none may stand in front of a target with a level. -/
def parse? (piece : String) : Option Directive :=
  let text := piece.toList
  match (Text.trim piece).toList with
  | [] => some ⟨"", some .trace⟩
  | c :: cs =>
    if !isStart c || cs.contains '[' || (text.head? != some c && cs.contains '=') then none
    else
      let target := text.takeWhile (· != '=')
      match text.drop target.length with
      | [] => some (ofWord piece)
      | [_] => some ⟨String.ofList target, some .trace⟩
      | _ :: level =>
        (LevelLimit.ofText? (String.ofList level)).map fun limit =>
          ⟨String.ofList target, limit⟩

/-- Whether a directive is about a target. -/
def covers (d : Directive) (target : String) : Bool := target.startsWith d.target

end Directive

namespace LogFilter

/-- The filter that a text writes. An empty one shows nothing. -/
def parse? (s : String) : Option LogFilter :=
  let pieces := (s.toList.splitOn ',').filter fun p => !p.isEmpty
  pieces.mapM fun p => Directive.parse? (String.ofList p)

/-- The more specific of two directives, and the second of two equal
ones. -/
def prefer (best : Option Directive) (d : Directive) : Option Directive :=
  match best with
  | none => some d
  | some b => if b.target.length ≤ d.target.length then some d else some b

/-- The limit for a target. -/
def limit (f : LogFilter) (target : String) : LevelLimit :=
  ((f.filter fun d => d.covers target).foldl prefer none).bind (·.limit)

/-- Whether events of a target and a level are shown. -/
def shows (f : LogFilter) (target : String) (l : Level) : Bool :=
  (f.limit target).allows l

/-- The event as the filter shows it, with those of its spans that are
shown themselves. -/
def see? (f : LogFilter) (e : Event) : Option Event :=
  if f.shows e.target e.level then
    some { e with spans := e.spans.filter fun s => f.shows s.target .info }
  else none

/-- The events that the filter shows. -/
def see (f : LogFilter) (events : List Event) : List Event :=
  events.filterMap f.see?

/-- The targets of the program's own events. -/
def ownTargets : List String := ["shopgen", "shopgen_core", "shopgen_adapters"]

/-- The level that a user wants to see. -/
def wantedLevel (quiet : Bool) (verbosity : Nat) : Level :=
  if quiet then .error
  else
    match verbosity with
    | 0 => .warn
    | 1 => .info
    | 2 => .debug
    | _ => .trace

/-- The filter for what a user wants to see. -/
def ofWish (quiet : Bool) (verbosity : Nat) : LogFilter :=
  ownTargets.map fun t => ⟨t, some (wantedLevel quiet verbosity)⟩

/-- The filter that a variable sets, if it makes sense, and else the one
for what a user wants to see. -/
def choose (variableValue : Option String) (quiet : Bool) (verbosity : Nat) : LogFilter :=
  (variableValue.bind parse?).getD (ofWish quiet verbosity)

end LogFilter

end Storefront
