import Storefront.Number.Binary64
/-!
# Numbers — the shortest decimal

The text of a floating point number has the fewest digits that read back
as the same number, and of those with the fewest the ones closest to it.
It is positional at every size, and an integer has no point.
-/

namespace Storefront.Binary64

/-- The integers that the number and the ends of its rounding interval
are, over a common denominator. -/
structure Interval where
  low : Nat
  value : Nat
  high : Nat
  denominator : Nat
  closed : Bool

/-- The reals that round to `mantissa · 2^exponent`. The interval is
shorter below a power of two, and has its ends if the mantissa is
even. -/
def interval (mantissa : Nat) (exponent : Int) : Interval :=
  let unit : Nat := if 0 ≤ exponent then Nat.pow 2 exponent.toNat else 1
  let denominator : Nat := if 0 ≤ exponent then 4 else 4 * Nat.pow 2 (-exponent).toNat
  let value := 4 * mantissa * unit
  let below := if mantissa == Nat.pow 2 52 && minExponent < exponent then unit else 2 * unit
  ⟨value - below, value, value + 2 * unit, denominator, mantissa % 2 == 0⟩

/-- The neighbour of the value among the multiples of `10^place` that
lies in the interval, and the nearer one if both do. -/
def neighbour? (i : Interval) (place : Int) : Option Nat :=
  let scale : Nat := if place < 0 then Nat.pow 10 (-place).toNat else 1
  let den : Nat := if place < 0 then i.denominator else i.denominator * Nat.pow 10 place.toNat
  let value := i.value * scale
  let a := value / den
  let lowIn := if i.closed then i.low * scale ≤ a * den else i.low * scale < a * den
  let highIn :=
    if i.closed then (a + 1) * den ≤ i.high * scale else (a + 1) * den < i.high * scale
  let nearerUp := den ≤ 2 * (value - a * den)
  if lowIn then
    if highIn && nearerUp then some (a + 1) else some a
  else if highIn then some (a + 1)
  else none

/-- The first grid, from coarse to fine, with a neighbour in the
interval. -/
def search (i : Interval) : Nat → Int → Nat × Int
  | 0, place => (0, place)
  | fuel + 1, place =>
    match neighbour? i place with
    | some digits => (digits, place)
    | none => search i fuel (place - 1)

/-- The digits of the shortest decimal of a positive number and the
place of the last one. -/
def shortest (mantissa : Nat) (exponent : Int) : Nat × Int :=
  let magnitude : Int := exponent + Nat.log2 mantissa + 1
  search (interval mantissa exponent) 40 (magnitude * 30103 / 100000 + 1)

/-- The positional text of `digits · 10^place`. -/
def positional (digits : Nat) (place : Int) : String :=
  let cs := Nat.toDigits 10 digits
  if 0 ≤ place then String.ofList (cs ++ List.replicate place.toNat '0')
  else
    let places := (-place).toNat
    let padded := List.replicate (places + 1 - cs.length) '0' ++ cs
    let whole := padded.length - places
    String.ofList (padded.take whole ++ ['.'] ++ padded.drop whole)

/-- The text of a number. -/
def text : Binary64 → String
  | nan => "NaN"
  | infinity negative => if negative then "-inf" else "inf"
  | finite negative m e =>
    let sign := if negative then "-" else ""
    if m == 0 then sign ++ "0"
    else
      let (digits, place) := shortest m e
      sign ++ positional digits place

/-- The text of a number with a point, even if it is an integer. -/
def pointedText (x : Binary64) : String :=
  if x.isFinite && !x.text.contains '.' then x.text ++ ".0" else x.text

end Storefront.Binary64
