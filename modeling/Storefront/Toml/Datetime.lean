/-!
# TOML — dates and times

A datetime has a date, a time, or both, and with both perhaps an offset.
The separator is a `T` or a blank; seconds may be left out. Reading
checks that the day exists in its month; a fraction of a second keeps
nine digits. The written form has a `T` and no zeros at the end of the
fraction.
-/

namespace Storefront.Toml

/-- A day of a calendar. -/
structure Date where
  year : Nat
  month : Nat
  day : Nat
  deriving DecidableEq, Repr

/-- A time of day. -/
structure Time where
  hour : Nat
  minute : Nat
  second : Option Nat
  nanosecond : Option Nat
  deriving DecidableEq, Repr

/-- A distance from universal time. -/
inductive Offset where
  | utc
  | minutes (negative : Bool) (hours minutes : Nat)
  deriving DecidableEq, Repr

/-- A date, a time, or both. -/
structure Datetime where
  date : Option Date
  time : Option Time
  offset : Option Offset
  deriving DecidableEq, Repr

namespace Datetime

/-- Exactly so many digits in front. -/
def digits? (count : Nat) (cs : List Char) : Option (Nat × List Char) :=
  let ds := cs.take count
  if ds.length == count && ds.all Char.isDigit then
    some (ds.foldl (fun n c => 10 * n + (c.toNat - 48)) 0, cs.drop count)
  else none

/-- One character in front. -/
def char? (c : Char) : List Char → Option (List Char)
  | x :: rest => if x == c then some rest else none
  | [] => none

/-- The number of days of a month. -/
def daysIn (year month : Nat) : Nat :=
  let leap := year % 4 == 0 && (year % 100 != 0 || year % 400 == 0)
  if month == 2 then (if leap then 29 else 28)
  else if month == 4 || month == 6 || month == 9 || month == 11 then 30
  else 31

/-- A date in front. -/
def date? (cs : List Char) : Option (Date × List Char) := do
  let (year, cs) ← digits? 4 cs
  let cs ← char? '-' cs
  let (month, cs) ← digits? 2 cs
  let cs ← char? '-' cs
  let (day, cs) ← digits? 2 cs
  if 1 ≤ month && month ≤ 12 && 1 ≤ day && day ≤ daysIn year month then
    return (⟨year, month, day⟩, cs)
  else none

/-- The first nine digits of a fraction as nanoseconds. -/
def nanoseconds (ds : List Char) : Nat :=
  let kept := (ds ++ List.replicate 9 '0').take 9
  kept.foldl (fun n c => 10 * n + (c.toNat - 48)) 0

/-- A time in front. -/
def time? (cs : List Char) : Option (Time × List Char) := do
  let (hour, cs) ← digits? 2 cs
  let cs ← char? ':' cs
  let (minute, cs) ← digits? 2 cs
  if 23 < hour || 59 < minute then none
  match char? ':' cs with
  | none => return (⟨hour, minute, none, none⟩, cs)
  | some cs => do
    let (second, cs) ← digits? 2 cs
    if 60 < second then none
    match char? '.' cs with
    | none => return (⟨hour, minute, some second, none⟩, cs)
    | some cs =>
      let ds := cs.takeWhile Char.isDigit
      if ds.isEmpty then none
      else return (⟨hour, minute, some second, some (nanoseconds ds)⟩, cs.drop ds.length)

/-- An offset that fills the rest. -/
def offset? : List Char → Option (Option Offset)
  | [] => some none
  | ['Z'] => some (some .utc)
  | ['z'] => some (some .utc)
  | sign :: cs =>
    if sign == '+' || sign == '-' then do
      let (hours, cs) ← digits? 2 cs
      let cs ← char? ':' cs
      let (minutes, cs) ← digits? 2 cs
      if cs.isEmpty && hours ≤ 23 && minutes ≤ 59 then
        return some (.minutes (sign == '-') hours minutes)
      else none
    else none

/-- A datetime that fills the whole token. -/
def parse? (cs : List Char) : Option Datetime :=
  match date? cs with
  | some (d, []) => some ⟨some d, none, none⟩
  | some (d, sep :: cs) =>
    if sep == 'T' || sep == 't' || sep == ' ' then do
      let (t, cs) ← time? cs
      let o ← offset? cs
      return ⟨some d, some t, o⟩
    else none
  | none =>
    match time? cs with
    | some (t, []) => some ⟨none, some t, none⟩
    | _ => none

/-- A number with zeros in front up to a width. -/
def padded (width n : Nat) : String :=
  let ds := Nat.toDigits 10 n
  String.ofList (List.replicate (width - ds.length) '0' ++ ds)

/-- A date as it is written. -/
def dateText (d : Date) : String :=
  padded 4 d.year ++ "-" ++ padded 2 d.month ++ "-" ++ padded 2 d.day

/-- A fraction of a second without zeros at its end. -/
def fractionText (n : Nat) : String :=
  "." ++ String.ofList ((padded 9 n).toList.reverse.dropWhile (· == '0')).reverse

/-- A time as it is written. -/
def timeText (t : Time) : String :=
  padded 2 t.hour ++ ":" ++ padded 2 t.minute ++
    (t.second.map fun s => ":" ++ padded 2 s).getD "" ++
    (t.nanosecond.map fractionText).getD ""

/-- An offset as it is written. -/
def offsetText : Offset → String
  | .utc => "Z"
  | .minutes negative hours minutes =>
    (if negative then "-" else "+") ++ padded 2 hours ++ ":" ++ padded 2 minutes

/-- A datetime as it is written. -/
def text (d : Datetime) : String :=
  (d.date.map dateText).getD "" ++
    (if d.date.isSome && d.time.isSome then "T" else "") ++
    (d.time.map timeText).getD "" ++
    (d.offset.map offsetText).getD ""

end Datetime

end Storefront.Toml
