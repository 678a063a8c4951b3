import Storefront.Json.Value
/-!
# JSON — reading

`Json.parse?` reads one value that fills the whole text. A number is an
integer only if it was written without a fraction and an exponent.
-/

namespace Storefront.Json

/-- A reader takes characters and leaves the rest. -/
abbrev Reader (α : Type) := List Char → Option (α × List Char)

/-- The four blanks of JSON. -/
def isSpace (c : Char) : Bool :=
  c == ' ' || c == '\t' || c == '\n' || c == '\r'

/-- Drop the blanks in front. -/
def skip (cs : List Char) : List Char := cs.dropWhile isSpace

/-- The value of a digit in base sixteen. -/
def hexValue? (c : Char) : Option Nat :=
  if c.isDigit then some (c.toNat - 48)
  else if 'a' ≤ c && c ≤ 'f' then some (c.toNat - 87)
  else if 'A' ≤ c && c ≤ 'F' then some (c.toNat - 55)
  else none

/-- Four digits in base sixteen. -/
def readUnit : Reader Nat
  | a :: b :: c :: d :: rest => do
    let a ← hexValue? a
    let b ← hexValue? b
    let c ← hexValue? c
    let d ← hexValue? d
    return (a * 4096 + b * 256 + c * 16 + d, rest)
  | _ => none

/-- A code point after `\u`; two halves of a pair make one. -/
def readCodePoint (cs : List Char) : Option (Char × List Char) := do
  let (u, rest) ← readUnit cs
  if 0xd800 ≤ u && u < 0xdc00 then
    match rest with
    | '\\' :: 'u' :: rest =>
      let (v, rest) ← readUnit rest
      if 0xdc00 ≤ v && v < 0xe000 then
        return (Char.ofNat (0x10000 + (u - 0xd800) * 1024 + (v - 0xdc00)), rest)
      else none
    | _ => none
  else if 0xdc00 ≤ u && u < 0xe000 then none
  else return (Char.ofNat u, rest)

/-- The rest of a text after its opening quote. -/
def readText (fuel : Nat) (acc : List Char) (cs : List Char) : Option (String × List Char) :=
  match fuel with
  | 0 => none
  | fuel + 1 =>
    match cs with
    | '"' :: rest => some (String.ofList acc.reverse, rest)
    | '\\' :: 'u' :: rest => do
      let (c, rest) ← readCodePoint rest
      readText fuel (c :: acc) rest
    | '\\' :: c :: rest =>
      match c with
      | '"' => readText fuel ('"' :: acc) rest
      | '\\' => readText fuel ('\\' :: acc) rest
      | '/' => readText fuel ('/' :: acc) rest
      | 'b' => readText fuel ('\x08' :: acc) rest
      | 'f' => readText fuel ('\x0c' :: acc) rest
      | 'n' => readText fuel ('\n' :: acc) rest
      | 'r' => readText fuel ('\r' :: acc) rest
      | 't' => readText fuel ('\t' :: acc) rest
      | _ => none
    | c :: rest => if c.toNat < 0x20 then none else readText fuel (c :: acc) rest
    | [] => none

/-- A run of digits as a number, which may not be empty. -/
def readDigits (cs : List Char) : Option (List Char × List Char) :=
  let digits := cs.takeWhile Char.isDigit
  if digits.isEmpty then none else some (digits, cs.drop digits.length)

/-- The number a run of digits stands for. -/
def digitsValue (cs : List Char) : Nat :=
  cs.foldl (fun n c => 10 * n + (c.toNat - 48)) 0

/-- A number. -/
def readNumber (cs : List Char) : Option (Json × List Char) := do
  let (sign, body) := match cs with
    | '-' :: rest => (['-'], rest)
    | _ => ([], cs)
  let (whole, rest) ← readDigits body
  if whole.length > 1 && whole.head? == some '0' then none
  let (fraction, rest) ← match rest with
    | '.' :: rest => (readDigits rest).map fun (d, r) => ('.' :: d, r)
    | _ => some ([], rest)
  let (exponent, rest) ← match rest with
    | e :: rest' =>
      if e == 'e' || e == 'E' then
        let (mark, rest'') := match rest' with
          | '+' :: r => ([e, '+'], r)
          | '-' :: r => ([e, '-'], r)
          | r => ([e], r)
        (readDigits rest'').map fun (d, r) => (mark ++ d, r)
      else some ([], rest)
    | [] => some ([], rest)
  if fraction.isEmpty && exponent.isEmpty then
    let n : Int := digitsValue whole
    if sign.isEmpty then return (.int n, rest)
    else if n == 0 then return (.real "-0", rest)
    else return (.int (-n), rest)
  else return (.real (String.ofList (sign ++ whole ++ fraction ++ exponent)), rest)

mutual

/-- A value with the blanks in front of it. -/
def readValue (fuel : Nat) (cs : List Char) : Option (Json × List Char) :=
  match fuel with
  | 0 => none
  | fuel + 1 =>
    match skip cs with
    | 'n' :: 'u' :: 'l' :: 'l' :: rest => some (.null, rest)
    | 't' :: 'r' :: 'u' :: 'e' :: rest => some (.bool true, rest)
    | 'f' :: 'a' :: 'l' :: 's' :: 'e' :: rest => some (.bool false, rest)
    | '"' :: rest => (readText (rest.length + 1) [] rest).map fun (s, r) => (.text s, r)
    | '[' :: rest =>
      match skip rest with
      | ']' :: rest => some (.list [], rest)
      | rest => (readItems fuel rest).map fun (xs, r) => (.list xs, r)
    | '\x7b' :: rest =>
      match skip rest with
      | '\x7d' :: rest => some (.record [], rest)
      | rest => (readFields fuel rest).map fun (fs, r) => (.record fs, r)
    | rest => readNumber rest

/-- The items of a list up to its closing bracket. -/
def readItems (fuel : Nat) (cs : List Char) : Option (List Json × List Char) :=
  match fuel with
  | 0 => none
  | fuel + 1 => do
    let (x, rest) ← readValue fuel cs
    match skip rest with
    | ',' :: rest => do
      let (xs, rest) ← readItems fuel rest
      return (x :: xs, rest)
    | ']' :: rest => return ([x], rest)
    | _ => none

/-- The fields of a record up to its closing brace. -/
def readFields (fuel : Nat) (cs : List Char) :
    Option (List (String × Json) × List Char) :=
  match fuel with
  | 0 => none
  | fuel + 1 =>
    match skip cs with
    | '"' :: rest => do
      let (k, rest) ← readText (rest.length + 1) [] rest
      match skip rest with
      | ':' :: rest => do
        let (v, rest) ← readValue fuel rest
        match skip rest with
        | ',' :: rest => do
          let (fs, rest) ← readFields fuel rest
          return ((k, v) :: fs, rest)
        | '\x7d' :: rest => return ([(k, v)], rest)
        | _ => none
      | _ => none
    | _ => none

end

/-- The value that a whole text writes. -/
def parse? (s : String) : Option Json :=
  match readValue (2 * s.length + 2) s.toList with
  | some (j, rest) => if (skip rest).isEmpty then some j else none
  | none => none

end Storefront.Json
