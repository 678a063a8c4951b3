import Storefront.Proofs.Catalog.Rules
/-!
# Catalog — the closest valid price

`Price.nearest` brings an amount into the range of prices, adds half a
step and cuts what is over a whole step. The result is the best valid
price there is: none is closer, and of two that are equally close it is
the larger (`best_nearest`). It follows the amount (`nearest_mono`), and
no word overflows on the way, however large or small the amount is
(`checkedNearest_eq`).
-/

namespace Storefront

/-- The word for an integer, if it is not out of range. -/
def word? (n : Int) : Option Int64 :=
  if Int64.minValue.toInt ≤ n ∧ n ≤ Int64.maxValue.toInt then some (.ofInt n) else none

namespace Price

/-- **The best price for an amount**: it is valid, no valid price is
closer, and no other that is as close is larger. -/
structure Best (amount best : Int64) : Prop where
  valid : violations best = []
  closest : ∀ p, violations p = [] →
    (best.toInt - amount.toInt).natAbs ≤ (p.toInt - amount.toInt).natAbs
  largest : ∀ p, violations p = [] →
    (p.toInt - amount.toInt).natAbs = (best.toInt - amount.toInt).natAbs → p ≤ best

/-- The closest valid amount, with each quotient, sum and product made as
an integer that has to be a word. -/
def checkedNearest (amount : Int64) : Option Int64 := do
  let half ← word? (step.toInt.tdiv 2)
  let raised ← word? ((clamp amount).toInt + half.toInt)
  let count ← word? (raised.toInt.tdiv step.toInt)
  let rounded ← word? (count.toInt * step.toInt)
  return clamp rounded

variable {amount amount' : Int64}

/-! ## The words as integers -/

theorem toInt_clamp (amount : Int64) :
    (clamp amount).toInt = max 50 (min amount.toInt 5000) := by
  have hleast : least.toInt = 50 := rfl
  have hgreatest : greatest.toInt = 5000 := rfl
  rw [clamp]
  split
  · next hlow =>
    rw [Int64.lt_iff_toInt_lt] at hlow
    omega
  · next hlow =>
    rw [Int64.lt_iff_toInt_lt] at hlow
    split
    · next hhigh =>
      rw [Int64.lt_iff_toInt_lt] at hhigh
      omega
    · next hhigh =>
      rw [Int64.lt_iff_toInt_lt] at hhigh
      omega

/-- How many steps the closest valid price holds. -/
def steps (amount : Int64) : Int := ((clamp amount).toInt + 25) / 50

/-- It holds at least one and at most a hundred. -/
theorem steps_mem (amount : Int64) : 1 ≤ steps amount ∧ steps amount ≤ 100 := by
  have hclamp := toInt_clamp amount
  rw [steps]
  omega

theorem toInt_step : step.toInt = 50 := rfl

theorem toInt_half : (step / 2).toInt = 25 := rfl

theorem toInt_raised (amount : Int64) :
    (clamp amount + step / 2).toInt = (clamp amount).toInt + 25 := by
  have hclamp := toInt_clamp amount
  rw [Int64.toInt_add, toInt_half]
  exact Int.bmod_eq_of_le (by omega) (by omega)

/-- What is divided is positive, so the quotient is the floor. -/
theorem tdiv_raised (amount : Int64) :
    (clamp amount + step / 2).toInt.tdiv step.toInt = steps amount := by
  have hclamp := toInt_clamp amount
  rw [toInt_raised, toInt_step]
  exact Int.tdiv_eq_ediv_of_nonneg (by omega)

theorem toInt_count (amount : Int64) :
    ((clamp amount + step / 2) / step).toInt = steps amount := by
  have hsteps := steps_mem amount
  rw [Int64.toInt_div, tdiv_raised]
  exact Int.bmod_eq_of_le (by omega) (by omega)

theorem toInt_rounded (amount : Int64) :
    ((clamp amount + step / 2) / step * step).toInt = steps amount * 50 := by
  have hsteps := steps_mem amount
  rw [Int64.toInt_mul, toInt_count, toInt_step]
  exact Int.bmod_eq_of_le (by omega) (by omega)

/-- **The closest valid price** is a number of whole steps. -/
theorem toInt_nearest (amount : Int64) : (nearest amount).toInt = steps amount * 50 := by
  have hsteps := steps_mem amount
  rw [nearest, toInt_clamp, toInt_rounded]
  omega

/-! ## No word overflows -/

/-- An integer that is a word has that word. -/
theorem word?_toInt (n : Int64) : word? n.toInt = some n := by
  have hleast := n.le_toInt
  have hgreatest := n.toInt_lt
  have hmin : Int64.minValue.toInt = -2 ^ 63 := rfl
  have hmax : Int64.maxValue.toInt = 2 ^ 63 - 1 := rfl
  rw [word?, if_pos ⟨by omega, by omega⟩, Int64.ofInt_toInt]

/-- **No quotient, sum or product overflows.** -/
theorem checkedNearest_eq (amount : Int64) : checkedNearest amount = some (nearest amount) := by
  have hhalf : word? (step.toInt.tdiv 2) = some (step / 2) := rfl
  have hraised : word? ((clamp amount).toInt + (step / 2).toInt) =
      some (clamp amount + step / 2) := by
    rw [toInt_half, ← toInt_raised, word?_toInt]
  have hcount : word? ((clamp amount + step / 2).toInt.tdiv step.toInt) =
      some ((clamp amount + step / 2) / step) := by
    rw [tdiv_raised, ← toInt_count, word?_toInt]
  have hrounded : word? (((clamp amount + step / 2) / step).toInt * step.toInt) =
      some ((clamp amount + step / 2) / step * step) := by
    rw [toInt_count, toInt_step, ← toInt_rounded, word?_toInt]
  simp only [checkedNearest, hhalf, hraised, hcount, hrounded, Option.bind_eq_bind,
    Option.bind_some]
  rfl

/-! ## The best price -/

theorem best_nearest (amount : Int64) : Best amount (nearest amount) := by
  have hclamp := toInt_clamp amount
  have hnearest := toInt_nearest amount
  have hsteps := steps_mem amount
  have hcount : steps amount = ((clamp amount).toInt + 25) / 50 := rfl
  refine ⟨?_, fun p hp => ?_, fun p hp heq => ?_⟩
  · exact violations_eq_nil_iff_valid.2 ⟨⟨steps amount, by omega⟩, by omega, by omega⟩
  · obtain ⟨⟨k, hk⟩, hleast, hgreatest⟩ := violations_eq_nil_iff_valid.1 hp
    omega
  · obtain ⟨⟨k, hk⟩, hleast, hgreatest⟩ := violations_eq_nil_iff_valid.1 hp
    rw [Int64.le_iff_toInt_le]
    omega

/-- There is one best price. -/
theorem Best.eq {best best' : Int64} (h : Best amount best) (h' : Best amount best') :
    best = best' := by
  have hclose := h.closest best' h'.valid
  have hclose' := h'.closest best h.valid
  have hle := h.largest best' h'.valid (by omega)
  have hle' := h'.largest best h.valid (by omega)
  rw [Int64.le_iff_toInt_le] at hle hle'
  exact Int64.toInt_inj.1 (by omega)

/-- **An amount is its own closest price when it is valid.** -/
theorem nearest_eq_self_iff : nearest amount = amount ↔ violations amount = [] := by
  constructor
  · intro h
    rw [← h]
    exact (best_nearest amount).valid
  · intro h
    have hclose := (best_nearest amount).closest amount h
    exact Int64.toInt_inj.1 (by omega)

/-- **The closest price follows the amount.** -/
theorem nearest_mono (h : amount ≤ amount') : nearest amount ≤ nearest amount' := by
  have hclamp := toInt_clamp amount
  have hclamp' := toInt_clamp amount'
  rw [Int64.le_iff_toInt_le] at h ⊢
  rw [toInt_nearest, toInt_nearest, steps, steps]
  omega

end Price

end Storefront
