import Storefront.Text.Quoted
/-!
# TOML — written texts

A text may be written in four styles: on one line or over several, and
with escapes or without. It is written in the first style that shows all
of it as it is, and with escapes if no style does.
-/

namespace Storefront.Toml

/-- The styles of a written text. -/
inductive TextStyle where
  | basic
  | literal
  | basicLines
  | literalLines
  deriving DecidableEq, Repr

/-- The length of the longest run of a character. -/
def longestRun (c : Char) (cs : List Char) : Nat :=
  let step := fun (best, run) x =>
    let run := if x == c then run + 1 else 0
    (max best run, run)
  (cs.foldl step (0, 0)).1

/-- A control character that only an escape can write. -/
def isControl (c : Char) : Bool :=
  (c.toNat < 0x20 && c != '\t' && c != '\n') || c.toNat == 0x7f

namespace TextStyle

/-- The quotation mark of a style, once or three times. -/
def delimiter : TextStyle → List Char
  | basic => ['"']
  | literal => ['\'']
  | basicLines => ['"', '"', '"']
  | literalLines => ['\'', '\'', '\'']

/-- Whether a style has escapes. -/
def hasEscapes : TextStyle → Bool
  | basic => true
  | basicLines => true
  | _ => false

/-- Whether a style may go over several lines. -/
def hasLines : TextStyle → Bool
  | basicLines => true
  | literalLines => true
  | _ => false

/-- The quotation marks that may follow each other inside a style. -/
def freeMarks (s : TextStyle) : Nat := if s.hasLines then 2 else 0

/-- Whether a style shows a text as it is. -/
def suits (s : TextStyle) (cs : List Char) : Bool :=
  let mark := if s.hasEscapes then '"' else '\''
  !cs.any isControl && longestRun mark cs ≤ s.freeMarks &&
    (s.hasLines || !cs.contains '\n') && !(s.hasEscapes && cs.contains '\\')

/-- The style of a text. -/
def choose (cs : List Char) : TextStyle :=
  let fitting := [basic, literal, basicLines, literalLines].find? fun s => s.suits cs
  fitting.getD (if cs.contains '\n' then basicLines else basic)

end TextStyle

/-- A number in base sixteen with four digits and upper case letters. -/
def hexDigits4 (n : Nat) : List Char :=
  (Text.hexPadded 4 n).map Char.toUpper

/-- An escaped character; quotation marks are left alone. -/
def escapedChar (lines : Bool) (c : Char) : List Char :=
  match c with
  | '\x08' => ['\\', 'b']
  | '\t' => ['\\', 't']
  | '\n' => if lines then ['\n'] else ['\\', 'n']
  | '\x0c' => ['\\', 'f']
  | '\r' => ['\\', 'r']
  | '\\' => ['\\', '\\']
  | c => if isControl c then ['\\', 'u'] ++ hexDigits4 c.toNat else [c]

/-- An escaped text, after so many quotation marks in a row. -/
def escaped (s : TextStyle) (run : Nat) : List Char → List Char
  | [] => []
  | c :: cs =>
    if c == '"' then
      if run < s.freeMarks then c :: escaped s (run + 1) cs
      else ['\\', '"'] ++ escaped s 0 cs
    else escapedChar s.hasLines c ++ escaped s 0 cs

/-- A text in its written form. -/
def writeText (text : String) : String :=
  let cs := text.toList
  let s := TextStyle.choose cs
  let start := if s.hasLines && cs.contains '\n' then ['\n'] else []
  let inner := if s.hasEscapes then escaped s 0 cs else cs
  String.ofList (s.delimiter ++ start ++ inner ++ s.delimiter)

end Storefront.Toml
