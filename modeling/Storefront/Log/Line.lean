import Storefront.Json.Printer
import Storefront.Log.Event
/-!
# Log — lines

Three written forms of an event. `brief` has its level, message and
fields. `line` adds a time and the open spans, and makes control
characters of the message visible. `json` is one JSON record with the
same and the target.
-/

namespace Storefront

/-- A value as a line shows it. -/
def Fact.display : Fact → String
  | text s => Text.quoted s
  | shown s => s
  | int n => toString n
  | bool b => if b then "true" else "false"

/-- A value as a JSON record shows it. -/
def Fact.toJson : Fact → Json
  | text s => .text s
  | shown s => .text s
  | int n => .int n
  | bool b => .bool b

/-- A field as a line shows it. -/
def assignment (field : String × Fact) : String :=
  field.1 ++ "=" ++ field.2.display

/-- A span as a line shows it. -/
def Span.display (s : Span) : String :=
  match s.fields with
  | [] => s.name ++ ":"
  | fields =>
    s.name ++ "\x7b" ++ " ".intercalate (fields.map assignment) ++ "\x7d:"

/-- A span as a JSON record: its fields in the order of their names,
then its name. -/
def Span.toJson (s : Span) : Json :=
  let sorted := s.fields.mergeSort fun a b => !(b.1 < a.1)
  .record (sorted.map (fun f => (f.1, f.2.toJson)) ++ [("name", .text s.name)])

namespace Event

/-- A character of a message as a terminal may show it. -/
def visibleChar (c : Char) : List Char :=
  let n := c.toNat
  if n == 0x1b || n == 0x07 || n == 0x08 || n == 0x0c || n == 0x7f then
    ['\\', 'x'] ++ Text.hexPadded 2 n
  else if 0x80 ≤ n && n ≤ 0x9f then Text.numbered c
  else [c]

/-- A message whose control characters are visible. -/
def visible (s : String) : String :=
  String.ofList (s.toList.flatMap visibleChar)

/-- The message and the fields, with a blank between them. -/
def body (message : String) (e : Event) : String :=
  " ".intercalate (message :: e.fields.map assignment)

/-- The event without time and spans. -/
def brief (e : Event) : String :=
  e.level.name ++ " " ++ e.body e.message

/-- A word with blanks in front up to a width. -/
def alignRight (width : Nat) (s : String) : String :=
  String.ofList (List.replicate (width - s.length) ' ') ++ s

/-- The event as one line of a log. -/
def line (time : String) (e : Event) : String :=
  let spans := match e.spans with
    | [] => ""
    | spans => String.join (spans.map Span.display) ++ " "
  time ++ " " ++ alignRight 5 e.level.name ++ " " ++ spans ++ e.body (visible e.message)

/-- The event as one JSON record. -/
def json (time : String) (e : Event) : Json :=
  let fields := e.fields.map fun f => (f.1, f.2.toJson)
  .record
    ([("timestamp", .text time),
      ("level", .text e.level.name),
      ("fields", .record (("message", .text e.message) :: fields)),
      ("target", .text e.target)] ++
      match e.spans with
      | [] => []
      | spans => [("spans", .list (spans.map Span.toJson))])

end Event

end Storefront
