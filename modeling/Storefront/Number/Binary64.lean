/-!
# Numbers — binary floating point

A number of the 64-bit binary format: not a number, an infinity, or a
mantissa times a power of two with a sign. `ofDecimal` rounds a decimal
exactly, to the nearest number and to the even mantissa on a tie. All
arithmetic is on natural numbers.
-/

namespace Storefront

/-- A number of the 64-bit binary format. A finite number is its
mantissa, which is below 2^53, times two to its exponent. -/
inductive Binary64 where
  | nan
  | infinity (negative : Bool)
  | finite (negative : Bool) (mantissa : Nat) (exponent : Int)
  deriving DecidableEq, Repr

namespace Binary64

/-- The least exponent. -/
def minExponent : Int := -1074

/-- The greatest exponent. -/
def maxExponent : Int := 971

/-- A quotient rounded to the nearest integer, and to the even one on a
tie. -/
def roundDiv (num den : Nat) : Nat :=
  let q := num / den
  let r := num % den
  if 2 * r < den then q
  else if den < 2 * r then q + 1
  else if q % 2 == 0 then q else q + 1

/-- The quotient of two numbers with its denominator scaled by two to an
exponent, rounded. -/
def scaledQuotient (num den : Nat) (e : Int) : Nat :=
  if 0 ≤ e then roundDiv num (den * Nat.pow 2 e.toNat) else roundDiv (num * Nat.pow 2 (-e).toNat) den

/-- The exponent at which a positive quotient has a mantissa of at most
53 bits. -/
def fittingExponent (num den : Nat) : Int :=
  let estimate : Int := (Nat.log2 num : Int) - (Nat.log2 den : Int) - 52
  -- the estimate is right or one too large
  let below : Bool :=
    if 0 ≤ estimate then num < den * Nat.pow 2 (estimate.toNat + 52)
    else num * Nat.pow 2 (-estimate).toNat < den * Nat.pow 2 52
  let e := if below then estimate - 1 else estimate
  if e < minExponent then minExponent else e

/-- A positive quotient of natural numbers, rounded. -/
def ofQuotient (negative : Bool) (num den : Nat) : Binary64 :=
  let e := fittingExponent num den
  let m := scaledQuotient num den e
  let (m, e) := if m == Nat.pow 2 53 then (Nat.pow 2 52, e + 1) else (m, e)
  if maxExponent < e then infinity negative else finite negative m e

/-- The number `digits · 10^exponent`, rounded. -/
def ofDecimal (negative : Bool) (digits : Nat) (exponent : Int) : Binary64 :=
  if digits == 0 then finite negative 0 minExponent
  else
    let width : Int := (Nat.toDigits 10 digits).length
    -- far outside the range no power needs to be computed
    if 310 < width + exponent then infinity negative
    else if width + exponent < -330 then finite negative 0 minExponent
    else if 0 ≤ exponent then ofQuotient negative (digits * Nat.pow 10 exponent.toNat) 1
    else ofQuotient negative digits (Nat.pow 10 (-exponent).toNat)

/-- Whether a number is neither infinite nor undefined. -/
def isFinite : Binary64 → Bool
  | finite .. => true
  | _ => false

/-- The nearest integer, halves going away from zero. -/
def roundToInt? : Binary64 → Option Int
  | finite negative m e =>
    let magnitude : Nat :=
      if 0 ≤ e then m * Nat.pow 2 e.toNat
      else (2 * m + Nat.pow 2 (-e).toNat) / Nat.pow 2 ((-e).toNat + 1)
    some (if negative then -magnitude else magnitude)
  | _ => none

/-- Whether a number is zero, of either sign. -/
def isZero : Binary64 → Bool
  | finite _ m _ => m == 0
  | _ => false

end Binary64

end Storefront
