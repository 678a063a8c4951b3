import Storefront.Catalog.Rule
import Storefront.Proofs.Text.Cutting
/-!
# Catalog — what the rules ask for

The rules are tests on characters and machine words. Here is what they
mean: a class name is a word of lower-case letters, digits and
underscores that does not start with a digit, a price is a multiple of
50 between 50 and 5000, and an entitlement that is not consumable is
held once (`entitlement_check_iff`, `price_check_iff`).
-/

namespace Storefront

open Text

/-- A lower-case letter or an underscore. -/
def NameStart (c : Char) : Prop := ('a' ≤ c ∧ c ≤ 'z') ∨ c = '_'

/-- One of these, or a digit. -/
def NamePart (c : Char) : Prop := NameStart c ∨ ('0' ≤ c ∧ c ≤ '9')

/-- **A lower-case name**: a text that matches `[a-z_][a-z0-9_]*`. -/
def IsName (s : String) : Prop :=
  ∃ c cs, s.toList = c :: cs ∧ NameStart c ∧ ∀ d ∈ cs, NamePart d

/-- **A valid price**: a multiple of 50 between 50 and 5000. -/
structure Price.Valid (amount : Int64) : Prop where
  onStep : (50 : Int) ∣ amount.toInt
  least : 50 ≤ amount.toInt
  greatest : amount.toInt ≤ 5000

variable {name : String} {amount : Int64} {e : Entitlement}

/-! ## Names -/

theorem isNameStart_iff {c : Char} : isNameStart c = true ↔ NameStart c := by
  simp [isNameStart, NameStart]

theorem isNamePart_iff {c : Char} : isNamePart c = true ↔ NamePart c := by
  simp [isNamePart, NamePart, isNameStart_iff]

/-- **The rule for names is that they match the pattern.** -/
theorem isSnakeCase_iff : isSnakeCase name = true ↔ IsName name := by
  cases hname : name.toList with
  | nil => simp [isSnakeCase, IsName, hname]
  | cons c cs =>
    simp [isSnakeCase, IsName, hname, isNameStart_iff, isNamePart_iff]

/-- The characters of a name are letters, digits and underscores. -/
theorem IsName.part (h : IsName name) {c : Char} (hc : c ∈ name.toList) : NamePart c := by
  obtain ⟨d, ds, hname, hstart, hparts⟩ := h
  rw [hname] at hc
  rcases List.mem_cons.1 hc with rfl | hc
  · exact .inl hstart
  · exact hparts c hc

/-- A name is of one line, and nothing in it ends a name. -/
theorem IsName.singleLine (h : IsName name) : SingleLine name := by
  intro hc
  exact absurd (isNamePart_iff.2 (h.part hc)) (by decide)

theorem IsName.angle_not_mem (h : IsName name) : '<' ∉ name.toList := by
  intro hc
  exact absurd (isNamePart_iff.2 (h.part hc)) (by decide)

/-! ## Entries -/

theorem violations_eq_nil_iff :
    Price.violations amount = [] ↔
      (Price.least ≤ amount ∧ amount ≤ Price.greatest) ∧ amount % Price.step = 0 := by
  rw [Price.violations, List.map_eq_nil_iff]
  by_cases hrange : Price.least ≤ amount ∧ amount ≤ Price.greatest <;>
    by_cases hstep : amount % Price.step = 0 <;>
    simp [Price.brokenRules, Rule.broken, hrange, hstep]

/-- The remainder has the sign of the amount, and is zero just when the
step divides it. -/
theorem mod_step_eq_zero_iff : amount % Price.step = 0 ↔ (50 : Int) ∣ amount.toInt := by
  rw [← Int64.toInt_inj, Int64.toInt_mod, Int.dvd_iff_tmod_eq_zero]
  rfl

/-- **An amount breaks no rule for prices when it is valid.** -/
theorem violations_eq_nil_iff_valid : Price.violations amount = [] ↔ Price.Valid amount := by
  rw [violations_eq_nil_iff, mod_step_eq_zero_iff, Int64.le_iff_toInt_le,
    Int64.le_iff_toInt_le]
  exact ⟨fun ⟨⟨hleast, hgreatest⟩, hdvd⟩ => ⟨hdvd, hleast, hgreatest⟩,
    fun ⟨hdvd, hleast, hgreatest⟩ => ⟨⟨hleast, hgreatest⟩, hdvd⟩⟩

theorem brokenRules_eq_nil_iff : e.brokenRules = [] ↔
    isSnakeCase e.className = true ∧ 1 ≤ e.maxCount ∧ (e.consumable = true ∨ e.maxCount ≤ 1) := by
  by_cases hname : isSnakeCase e.className = true <;> by_cases hcount : 1 ≤ e.maxCount <;>
    by_cases hused : e.consumable = true <;>
    simp [Entitlement.brokenRules, Rule.broken, hname, hcount, hused]

/-- **An entitlement passes its rules** when it has a name, is held at
least once, and is held once unless it is consumable. -/
theorem entitlement_check_iff : e.check = .ok () ↔
    IsName e.className ∧ 1 ≤ e.maxCount.toInt ∧ (e.consumable = true ∨ e.maxCount = 1) := by
  have hcheck : e.check = .ok () ↔ e.brokenRules = [] := by
    rw [Entitlement.check]
    cases e.brokenRules <;> simp
  have hone : (1 : Int64).toInt = 1 := rfl
  rw [hcheck, brokenRules_eq_nil_iff, isSnakeCase_iff, Int64.le_iff_toInt_le, hone]
  refine and_congr_right fun _ => and_congr_right fun hleast => or_congr_right ?_
  -- a count of at least one is at most one only if it is one
  rw [Int64.le_iff_toInt_le, ← Int64.toInt_inj, hone]
  omega

end Storefront
