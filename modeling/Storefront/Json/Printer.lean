import Storefront.Json.Value
import Storefront.Text.Quoted
/-!
# JSON — written forms

`compact` writes a value without any space, for one log line. `pretty`
gives every item of a list and every field of a record a line of its
own, indented by two spaces a level, for a report; an empty list or
record stays on one line.
-/

namespace Storefront.Json

/-- What stands for one character inside a JSON text. -/
def escapeChar (c : Char) : List Char :=
  match c with
  | '"' => ['\\', '"']
  | '\\' => ['\\', '\\']
  | '\x08' => ['\\', 'b']
  | '\t' => ['\\', 't']
  | '\n' => ['\\', 'n']
  | '\x0c' => ['\\', 'f']
  | '\r' => ['\\', 'r']
  | c => if c.toNat < 0x20 then ['\\', 'u'] ++ Text.hexPadded 4 c.toNat else [c]

/-- A text in its JSON form. -/
def quote (s : String) : String :=
  String.ofList (['"'] ++ s.toList.flatMap escapeChar ++ ['"'])

mutual

/-- The value on one line, without spaces. -/
def compact : Json → String
  | null => "null"
  | bool b => if b then "true" else "false"
  | int n => toString n
  | real s => s
  | text s => quote s
  | list items => "[" ++ ",".intercalate (compactItems items) ++ "]"
  | record fields => "\x7b" ++ ",".intercalate (compactFields fields) ++ "\x7d"

/-- The items of a list, each on its own. -/
def compactItems : List Json → List String
  | [] => []
  | x :: xs => compact x :: compactItems xs

/-- The fields of a record, each with its name. -/
def compactFields : List (String × Json) → List String
  | [] => []
  | (k, v) :: rest => (quote k ++ ":" ++ compact v) :: compactFields rest

end

/-- The blanks in front of a line at a depth. -/
def indentation (depth : Nat) : String :=
  String.ofList (List.replicate (2 * depth) ' ')

/-- Parts on lines of their own between two brackets, one level deeper
than the brackets. -/
def bracketed (opening closing : String) (depth : Nat) (parts : List String) : String :=
  if parts.isEmpty then opening ++ closing
  else
    let inner := "\n" ++ indentation (depth + 1)
    opening ++ inner ++ ("," ++ inner).intercalate parts ++ "\n" ++ indentation depth ++ closing

mutual

/-- The value over several lines, seen from a depth. -/
def prettyAt (depth : Nat) : Json → String
  | null => "null"
  | bool b => if b then "true" else "false"
  | int n => toString n
  | real s => s
  | text s => quote s
  | list items => bracketed "[" "]" depth (prettyItems (depth + 1) items)
  | record fields => bracketed "\x7b" "\x7d" depth (prettyFields (depth + 1) fields)

/-- The items of a list, seen from their depth. -/
def prettyItems (depth : Nat) : List Json → List String
  | [] => []
  | x :: xs => prettyAt depth x :: prettyItems depth xs

/-- The fields of a record, seen from their depth. -/
def prettyFields (depth : Nat) : List (String × Json) → List String
  | [] => []
  | (k, v) :: rest => (quote k ++ ": " ++ prettyAt depth v) :: prettyFields depth rest

end

/-- The value over several lines. -/
def pretty (j : Json) : String := prettyAt 0 j

end Storefront.Json
