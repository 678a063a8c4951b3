import Storefront.Toml.Value
/-!
# TOML — scalars without quotes

A scalar that is not a text is one unbroken token: a flag, an integer in
base ten, sixteen, eight or two, a floating point number, or a datetime.
Underscores may stand between digits. An integer has to fit 64 bits, and
a finite number has to stay finite.
-/

namespace Storefront.Toml

/-- Digits with single underscores between them, without the
underscores. -/
def digitGroups? (isDigit : Char → Bool) : List Char → Option (List Char)
  | [] => none
  | [c] => if isDigit c then some [c] else none
  | c :: '_' :: rest => if isDigit c then (digitGroups? isDigit rest).map (c :: ·) else none
  | c :: rest => if isDigit c then (digitGroups? isDigit rest).map (c :: ·) else none

/-- Whether a digit belongs to a base. -/
def isBaseDigit (base : Nat) (c : Char) : Bool :=
  (c.isDigit && c.toNat - 48 < base) ||
    (base == 16 && (('a' ≤ c && c ≤ 'f') || ('A' ≤ c && c ≤ 'F')))

/-- The value of a digit. -/
def digitValue (c : Char) : Nat :=
  if c.isDigit then c.toNat - 48
  else if 'a' ≤ c then c.toNat - 87
  else c.toNat - 55

/-- The number that digits stand for in a base. -/
def numberOf (base : Nat) (cs : List Char) : Nat :=
  cs.foldl (fun n c => base * n + digitValue c) 0

/-- Base-ten digits without needless zeros in front. -/
def plainDigits? (cs : List Char) : Option (List Char) :=
  match digitGroups? Char.isDigit cs with
  | some ('0' :: _ :: _) => none
  | ds => ds

/-- A sign in front; true for a minus. -/
def sign? : List Char → Option Bool × List Char
  | '+' :: cs => (some false, cs)
  | '-' :: cs => (some true, cs)
  | cs => (none, cs)

/-- An integer in a word of 64 bits. -/
def wordOf? (n : Int) : Option Toml :=
  if Int64.minValue.toInt ≤ n && n ≤ Int64.maxValue.toInt then some (int (Int64.ofInt n))
  else none

/-- An integer in a base that is named by its first two characters. -/
def basedInteger? (base : Nat) (cs : List Char) : Option Toml :=
  (digitGroups? (isBaseDigit base) cs).bind fun ds => wordOf? (numberOf base ds)

/-- An integer. -/
def integer? : List Char → Option Toml
  | '0' :: 'x' :: cs => basedInteger? 16 cs
  | '0' :: 'o' :: cs => basedInteger? 8 cs
  | '0' :: 'b' :: cs => basedInteger? 2 cs
  | cs =>
    let (sign, cs) := sign? cs
    (plainDigits? cs).bind fun ds =>
      let n : Int := numberOf 10 ds
      wordOf? (if sign == some true then -n else n)

/-- The exponent part of a number, without its letter. -/
def exponent? (cs : List Char) : Option Int :=
  let (sign, cs) := sign? cs
  (digitGroups? Char.isDigit cs).map fun ds =>
    let n : Int := numberOf 10 ds
    if sign == some true then -n else n

/-- A finite number, from its parts. -/
def finite? (negative : Bool) (whole fraction : List Char) (exponent : Int) : Option Toml :=
  let x := Binary64.ofDecimal negative (numberOf 10 (whole ++ fraction))
    (exponent - fraction.length)
  if x.isFinite then some (float x) else none

/-- A number with a fraction, an exponent, or both. -/
def decimal? (negative : Bool) (cs : List Char) : Option Toml := do
  let isMark := fun c => c == 'e' || c == 'E'
  let mantissa := cs.takeWhile fun c => !isMark c
  let tail := cs.drop mantissa.length
  let exponent ← match tail with
    | [] => some 0
    | _ :: e => exponent? e
  let wholePart := mantissa.takeWhile (· != '.')
  let whole ← plainDigits? wholePart
  match mantissa.drop wholePart.length with
  | [] => if tail.isEmpty then none else finite? negative whole [] exponent
  | _ :: f => do
    let fraction ← digitGroups? Char.isDigit f
    finite? negative whole fraction exponent

/-- A floating point number. -/
def number? (cs : List Char) : Option Toml :=
  let (sign, cs) := sign? cs
  let negative := sign == some true
  match cs with
  | ['i', 'n', 'f'] => some (float (.infinity negative))
  | ['n', 'a', 'n'] => some (float .nan)
  | cs => decimal? negative cs

/-- A scalar that fills a whole token. -/
def scalar? (cs : List Char) : Option Toml :=
  match cs with
  | ['t', 'r', 'u', 'e'] => some (bool true)
  | ['f', 'a', 'l', 's', 'e'] => some (bool false)
  | cs =>
    match integer? cs with
    | some v => some v
    | none =>
      match number? cs with
      | some v => some v
      | none => (Datetime.parse? cs).map datetime

/-- A character that ends a token. -/
def isTokenEnd (c : Char) : Bool :=
  c == ' ' || c == '\t' || c == '\n' || c == '\r' || c == ',' || c == ']' || c == '\x7d' ||
    c == '#' || c == '[' || c == '\x7b' || c == '=' || c == '"' || c == '\''

/-- The characters of a token and the rest. A date may be followed by a
blank and a time. -/
def token (cs : List Char) : List Char × List Char :=
  let first := cs.takeWhile fun c => !isTokenEnd c
  let rest := cs.drop first.length
  match rest with
  | ' ' :: d :: rest' =>
    if d.isDigit && (Datetime.date? first).any (·.2.isEmpty) then
      let second := (d :: rest').takeWhile fun c => !isTokenEnd c
      (first ++ ' ' :: second, (d :: rest').drop second.length)
    else (first, rest)
  | _ => (first, rest)

end Storefront.Toml
