/-!
# Log — events

An event is something that happened: a level, the place it comes from, a
message and some fields. It happens inside spans, which name what was
going on, the outermost first. Operations return their events in order;
whoever runs them decides what is shown.
-/

namespace Storefront

/-- The levels, from the gravest to the slightest. -/
inductive Level where
  | error
  | warn
  | info
  | debug
  | trace
  deriving DecidableEq, Repr

namespace Level

/-- The word for a level. -/
def name : Level → String
  | error => "ERROR"
  | warn => "WARN"
  | info => "INFO"
  | debug => "DEBUG"
  | trace => "TRACE"

/-- The place of a level, the gravest first. -/
def rank : Level → Nat
  | error => 1
  | warn => 2
  | info => 3
  | debug => 4
  | trace => 5

end Level

/-- The value of a field. -/
inductive Fact where
  /-- A text, which is quoted where it is shown. -/
  | text (value : String)
  /-- A text that is shown as it is. -/
  | shown (value : String)
  | int (value : Int)
  | bool (value : Bool)
  deriving DecidableEq, Repr

/-- A count as the value of a field. -/
def Fact.count (n : Nat) : Fact := .int n

/-- Something that was going on. -/
structure Span where
  target : String
  name : String
  fields : List (String × Fact) := []
  deriving DecidableEq, Repr

/-- Something that happened. -/
structure Event where
  level : Level
  target : String
  message : String
  fields : List (String × Fact) := []
  spans : List Span := []
  deriving DecidableEq, Repr

/-- Events that happened inside one more span. -/
def Span.around (s : Span) (events : List Event) : List Event :=
  events.map fun e => { e with spans := s :: e.spans }

end Storefront
