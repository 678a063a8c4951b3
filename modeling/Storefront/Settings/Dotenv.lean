import Storefront.Settings.Environment
import Storefront.Storage.Disk
import Storefront.Text.Alphanumeric
import Storefront.Text.Blank
import Storefront.Text.Utf8
/-!
# Settings — variables from a file

A file named `.env`, in the current directory or the nearest one above
it, adds variables to the environment. A line gives a name, perhaps
behind the word `export`, an equals sign and a value. Quotes may span
lines, a backslash takes the meaning from the next character, a dollar
sign brings in the value of another variable, and a hash sign behind a
blank starts a comment. Reading stops at the first line that makes no
sense; the variables before it stay.
-/

namespace Storefront.Dotenv

/-- Where a line stands at its end. -/
inductive LineState where
  | complete
  | escape
  | strong
  | strongEscape
  | weak
  | weakEscape
  | blank
  deriving DecidableEq, Repr

/-- What follows a character outside quotes. -/
def outside (c : Char) : LineState :=
  if c == '\\' then .escape
  else if c == '"' then .weak
  else if c == '\'' then .strong
  else .complete

/-- The state after one more character. -/
def LineState.next (s : LineState) (c : Char) : LineState :=
  match s with
  | complete =>
    if Text.isBlank c && c != '\n' && c != '\r' then blank else outside c
  | blank => outside c
  | escape => complete
  | weak => if c == '\\' then weakEscape else if c == '"' then complete else weak
  | weakEscape => weak
  | strong => if c == '\\' then strongEscape else if c == '\'' then complete else strong
  | strongEscape => strong

/-- The state at the end of a line, or what stands in front of a
comment. -/
def endState (s : LineState) (seen : List Char) : List Char → LineState ⊕ List Char
  | [] => .inl s
  | c :: cs =>
    if s == .blank && c == '#' then .inr seen.reverse
    else endState (s.next c) (c :: seen) cs

/-- A text cut behind each line break. -/
def physicalLines (line : List Char) : List Char → List (List Char)
  | [] => if line.isEmpty then [] else [line.reverse]
  | '\n' :: cs => ('\n' :: line).reverse :: physicalLines [] cs
  | c :: cs => physicalLines (c :: line) cs

/-- A line without its line break. -/
def dropBreak (cs : List Char) : List Char :=
  match cs.reverse with
  | '\n' :: '\r' :: rest => rest.reverse
  | '\n' :: rest => rest.reverse
  | _ => cs

/-- Lines joined where a quote or an escape spans them. None stands for
a line that does not end. -/
def logicalLines (s : LineState) (before : List Char) :
    List (List Char) → List (Option (List Char))
  | [] => if s == .complete then [] else [none]
  | line :: rest =>
    let whole := before ++ line
    if (whole.dropWhile Text.isBlank).head? == some '#' then
      some [] :: logicalLines .complete [] rest
    else
      match endState s [] line with
      | .inr kept => some (before ++ kept) :: logicalLines .complete [] rest
      | .inl .complete => some (dropBreak whole) :: logicalLines .complete [] rest
      | .inl s => logicalLines s whole rest

/-- A first character of a name. -/
def isKeyStart (c : Char) : Bool := c.isAlpha || c == '_'

/-- A further character of a name. -/
def isKeyPart (c : Char) : Bool := c.isAlphanum || c == '_' || c == '.'

/-- A name in front. -/
def key? (cs : List Char) : Option (String × List Char) :=
  match cs with
  | c :: _ =>
    if isKeyStart c then
      let name := cs.takeWhile isKeyPart
      some (String.ofList name, cs.drop name.length)
    else none
  | [] => none

/-- How the next character of a value is read. The flag says whether it
stands between double quotes. -/
inductive ValueState where
  | open (quoted : Bool)
  | strong
  | escaped (quoted : Bool)
  | named (quoted : Bool) (name : List Char)
  | braced (quoted : Bool) (name : List Char)
  /-- Only blanks and a comment may follow. -/
  | closed
  deriving DecidableEq, Repr

/-- A character that an escape may stand for. -/
def escapedChar? (c : Char) : Option Char :=
  if c == '\\' || c == '\'' || c == '"' || c == '$' || c == ' ' then some c
  else if c == 'n' then some '\n'
  else none

/-- Read a character of a value: what it adds and how to go on. -/
def ValueState.next (value : List Char → List Char) (s : ValueState) (c : Char) :
    Option (List Char × ValueState) :=
  match s with
  | closed => if c == ' ' || c == '\t' then some ([], closed) else none
  | escaped quoted => (escapedChar? c).map fun x => ([x], .open quoted)
  | strong => if c == '\'' then some ([], .open false) else some ([c], strong)
  | named quoted name =>
    if Text.isAlphanumeric c then some ([], named quoted (name ++ [c]))
    else if c == '\x7b' && name.isEmpty then some ([], braced quoted [])
    else if c == '$' then some (value name, named quoted [])
    else some (value name ++ [c], .open quoted)
  | braced quoted name =>
    if c == '\x7d' then some (value name, .open quoted)
    else some ([], braced quoted (name ++ [c]))
  | .open quoted =>
    if c == '$' then some ([], named quoted [])
    else if c == '\\' then some ([], escaped quoted)
    else if c == '"' then some ([], .open (!quoted))
    else if quoted then some ([c], s)
    else if c == '\'' then some ([], strong)
    else if c == ' ' || c == '\t' then some ([], closed)
    else some ([c], s)

/-- What a value that ends here adds; none if it cannot end here. -/
def ValueState.finish (value : List Char → List Char) : ValueState → Option (List Char)
  | closed => some []
  | strong => none
  | braced _ _ => none
  | escaped quoted => if quoted then none else some []
  | named quoted name => if quoted then none else some (value name)
  | .open quoted => if quoted then none else some []

/-- The value that characters write. -/
def value? (value : List Char → List Char) (s : ValueState) :
    List Char → Option (List Char)
  | [] => s.finish value
  | c :: cs =>
    if s == .closed && c == '#' then some []
    else do
      let (added, s) ← s.next value c
      let rest ← value? value s cs
      return added ++ rest

/-- The variables that lines have defined, and the environment with
them. -/
structure Reading where
  environment : Environment
  defined : List (String × String) := []

/-- The value that a name in a value stands for. -/
def Reading.substitute (r : Reading) (name : List Char) : List Char :=
  let name := String.ofList name
  match r.environment.get? name with
  | some v => v.toList
  | none => ((r.defined.lookup name).getD "").toList

/-- Drop the blanks in front. -/
def skip (cs : List Char) : List Char := cs.dropWhile Text.isBlank

/-- The name of a line, and what follows its equals sign. -/
def assignment? (cs : List Char) : Option (String × List Char) := do
  let (key, rest) ← key? cs
  match key, skip rest with
  | _, '=' :: rest => return (key, rest)
  | "export", rest => do
    let (key, rest) ← key? rest
    match skip rest with
    | '=' :: rest => return (key, rest)
    | _ => none
  | _, _ => none

/-- The environment after one line; none if the line makes no sense. -/
def Reading.line? (r : Reading) (cs : List Char) : Option Reading :=
  let cs := skip (cs.reverse.dropWhile Text.isBlank).reverse
  if cs.isEmpty || cs.head? == some '#' then some r
  else do
    let (key, rest) ← assignment? cs
    let rest := skip rest
    let value ←
      if rest.head? == some '#' then some []
      else value? r.substitute (.open false) rest
    let value := String.ofList value
    return { environment := r.environment.define key value
             defined := (key, value) :: r.defined }

/-- The environment after some lines, as far as they make sense. -/
def Reading.lines (r : Reading) : List (Option (List Char)) → Reading
  | [] => r
  | none :: _ => r
  | some cs :: rest =>
    match r.line? cs with
    | some r => r.lines rest
    | none => r

/-- A text without a byte order mark at its start. -/
def skipMark : List Char → List Char
  | '\ufeff' :: cs => cs
  | cs => cs

/-- The environment with the variables of a text. -/
def load (env : Environment) (text : String) : Environment :=
  let lines := logicalLines .complete [] (physicalLines [] (skipMark text.toList))
  (Reading.lines { environment := env } lines).environment

/-- Bytes cut behind each line break. -/
def byteLines (line : List UInt8) : List UInt8 → List (List UInt8)
  | [] => if line.isEmpty then [] else [line.reverse]
  | b :: bs =>
    if b == 10 then (b :: line).reverse :: byteLines [] bs else byteLines (b :: line) bs

/-- The lines of a file up to the first that is no text. -/
def readable : Content → String
  | .text s => s
  | .binary bytes =>
    String.join (((byteLines [] bytes).map Text.strictText?).takeWhile Option.isSome |>.map
      fun t => t.getD "")

/-- The name of the file. -/
def fileName : String := ".env"

/-- The file in a directory, or in the nearest one above it. -/
def find? (d : Disk) : Nat → Place → Option Content
  | 0, _ => none
  | fuel + 1, place =>
    match d.node? (place ++ [fileName]) with
    | some (.file c) => some c
    | _ => if place.isEmpty then none else find? d fuel place.dropLast

/-- The environment with the variables of the file, if there is one. -/
def extend (env : Environment) (d : Disk) : Environment :=
  match find? d (d.current.length + 1) d.current with
  | some c => load env (readable c)
  | none => env

end Storefront.Dotenv
