/-!
# TOML — texts

A text is written in one of four ways: between double quotes with
escapes, or between single quotes without, and either on one line or
over several with three quotes at each end. A text over several lines
drops a line break right after its opening quotes; with double quotes, a
backslash at the end of a line drops the line break and all blanks that
follow. Control characters other than a tab are refused.
-/

namespace Storefront.Toml

/-- A character that a text may hold as it is, line breaks apart. -/
def isTextChar (c : Char) : Bool :=
  c == '\t' || (0x20 ≤ c.toNat && c.toNat != 0x7f)

/-- A blank within a line. -/
def isSpace (c : Char) : Bool := c == ' ' || c == '\t'

/-- Drop the blanks in front. -/
def skipSpace (cs : List Char) : List Char := cs.dropWhile isSpace

/-- Drop a line break in front. -/
def newline? : List Char → Option (List Char)
  | '\n' :: cs => some cs
  | '\r' :: '\n' :: cs => some cs
  | _ => none

/-- The value of a digit in base sixteen. -/
def hexDigit? (c : Char) : Option Nat :=
  if c.isDigit then some (c.toNat - 48)
  else if 'a' ≤ c && c ≤ 'f' then some (c.toNat - 87)
  else if 'A' ≤ c && c ≤ 'F' then some (c.toNat - 55)
  else none

/-- The character that so many digits in base sixteen number. -/
def numbered? (count : Nat) (cs : List Char) : Option (Char × List Char) := do
  let ds ← (cs.take count).mapM hexDigit?
  if ds.length != count then none
  let n := ds.foldl (fun n d => 16 * n + d) 0
  if n < 0xd800 || (0xdfff < n && n < 0x110000) then
    return (Char.ofNat n, cs.drop count)
  else none

/-- The character that an escape stands for, after its backslash. -/
def escape? : List Char → Option (Char × List Char)
  | 'b' :: cs => some ('\x08', cs)
  | 't' :: cs => some ('\t', cs)
  | 'n' :: cs => some ('\n', cs)
  | 'f' :: cs => some ('\x0c', cs)
  | 'r' :: cs => some ('\r', cs)
  | 'e' :: cs => some ('\x1b', cs)
  | '"' :: cs => some ('"', cs)
  | '\\' :: cs => some ('\\', cs)
  | 'x' :: cs => numbered? 2 cs
  | 'u' :: cs => numbered? 4 cs
  | 'U' :: cs => numbered? 8 cs
  | _ => none

/-- The rest of a one-line text after its opening double quote. -/
def basicLine? (fuel : Nat) (cs : List Char) : Option (List Char × List Char) :=
  match fuel with
  | 0 => none
  | fuel + 1 =>
    match cs with
    | '"' :: rest => some ([], rest)
    | '\\' :: rest => do
      let (c, rest) ← escape? rest
      let (text, rest) ← basicLine? fuel rest
      return (c :: text, rest)
    | c :: rest =>
      if isTextChar c then (basicLine? fuel rest).map fun r => (c :: r.1, r.2) else none
    | [] => none

/-- The rest of a one-line text after its opening single quote. -/
def literalLine? : List Char → Option (List Char × List Char)
  | '\'' :: rest => some ([], rest)
  | c :: rest => if isTextChar c then (literalLine? rest).map fun r => (c :: r.1, r.2) else none
  | [] => none

/-- Drop the blanks and line breaks in front. -/
def skipBreaks (cs : List Char) : List Char :=
  cs.dropWhile fun c => isSpace c || c == '\n' || c == '\r'

/-- Whether every carriage return of a run of blanks is part of a line
break. -/
def breaksAreWhole : List Char → Bool
  | '\r' :: '\n' :: cs => breaksAreWhole cs
  | '\r' :: _ => false
  | _ :: cs => breaksAreWhole cs
  | [] => true

/-- The text that follows a backslash at the end of a line: the rest
behind the blanks and line breaks. -/
def joinedLine? (cs : List Char) : Option (List Char) :=
  match newline? (skipSpace cs) with
  | none => none
  | some rest =>
    let kept := skipBreaks rest
    if breaksAreWhole (rest.take (rest.length - kept.length)) then some kept else none

/-- A run of quotes inside or at the end of a text over several lines:
whether the text ends here, and how many quotes belong to it. -/
def quoteRun? (count : Nat) : Option (Bool × Nat) :=
  if count < 3 then some (false, count)
  else if count ≤ 5 then some (true, count - 3)
  else none

/-- The rest of a text over several lines after its opening quotes; with
double quotes it has escapes. -/
def blockBody? (quote : Char) (fuel : Nat) (cs : List Char) :
    Option (List Char × List Char) :=
  match fuel with
  | 0 => none
  | fuel + 1 =>
    match cs with
    | [] => none
    | c :: rest =>
      if c == quote then do
        let run := cs.takeWhile (· == quote)
        let (ends, own) ← quoteRun? run.length
        let quotes := List.replicate own quote
        let rest := cs.drop run.length
        if ends then return (quotes, rest)
        else
          let (text, rest) ← blockBody? quote fuel rest
          return (quotes ++ text, rest)
      else if c == '\\' && quote == '"' then
        match joinedLine? rest with
        | some rest => blockBody? quote fuel rest
        | none => do
          let (c, rest) ← escape? rest
          let (text, rest) ← blockBody? quote fuel rest
          return (c :: text, rest)
      else if c == '\r' then
        match rest with
        | '\n' :: rest =>
          (blockBody? quote fuel rest).map fun r => ('\r' :: '\n' :: r.1, r.2)
        | _ => none
      else if c == '\n' || isTextChar c then
        (blockBody? quote fuel rest).map fun r => (c :: r.1, r.2)
      else none

/-- A text over several lines after its opening quotes. -/
def block? (quote : Char) (cs : List Char) : Option (List Char × List Char) :=
  let cs := (newline? cs).getD cs
  blockBody? quote (cs.length + 1) cs

/-- A text on one line. -/
def lineText? : List Char → Option (String × List Char)
  | '"' :: cs => (basicLine? (cs.length + 1) cs).map fun r => (String.ofList r.1, r.2)
  | '\'' :: cs => (literalLine? cs).map fun r => (String.ofList r.1, r.2)
  | _ => none

/-- A text in any of the four ways. -/
def anyText? : List Char → Option (String × List Char)
  | '"' :: '"' :: '"' :: cs => (block? '"' cs).map fun r => (String.ofList r.1, r.2)
  | '\'' :: '\'' :: '\'' :: cs => (block? '\'' cs).map fun r => (String.ofList r.1, r.2)
  | cs => lineText? cs

end Storefront.Toml
