import Mathlib
import Storefront.Proofs.Text.Cutting
/-!
# Text — numerals

Integers are written in decimal, with a minus sign in front of a negative
one. A numeral is read back as the number it was written for, and it
holds nothing but digits and the sign, so that a bracket, a comma or the
end of a line behind it ends it.
-/

namespace Storefront.Text

/-- The signed word that a numeral writes. -/
def int64? (cs : List Char) : Option Int64 :=
  (String.ofList cs).toInt?.map Int64.ofInt

/-- The unsigned word that a numeral writes. -/
def uint32? (cs : List Char) : Option UInt32 :=
  (String.ofList cs).toNat?.map UInt32.ofNat

@[simp] theorem int64?_toString (n : Int64) : int64? (toString n).toList = some n := by
  have h : (toString n).toInt? = some n.toInt := Int.toInt?_repr n.toInt
  simp [int64?, h]

@[simp] theorem uint32?_toString (n : UInt32) : uint32? (toString n).toList = some n := by
  have h : (toString n).toNat? = some n.toNat := Nat.toNat?_repr n.toNat
  simp [uint32?, h]

/-- The numeral of a natural number holds digits only. -/
theorem isDigit_of_mem_repr {n : Nat} {c : Char} (h : c ∈ n.repr.toList) :
    c.isDigit = true := by
  rw [Nat.toList_repr] at h
  exact Nat.isDigit_of_mem_toDigits (by omega) (by omega) h

/-- The numeral of an integer holds digits and at most a sign. -/
theorem isDigit_or_eq_of_mem_repr {n : Int} {c : Char} (h : c ∈ n.repr.toList) :
    c.isDigit = true ∨ c = '-' := by
  cases n with
  | ofNat m => exact .inl (isDigit_of_mem_repr h)
  | negSucc m =>
    have h : c ∈ ("-" ++ Nat.repr m.succ).toList := h
    rw [String.toList_append, List.mem_append] at h
    rcases h with h | h
    · exact .inr (by simpa using h)
    · exact .inl (isDigit_of_mem_repr h)

theorem not_mem_int64 {n : Int64} {c : Char} (hc : c.isDigit = false) (hminus : c ≠ '-') :
    c ∉ (toString n).toList := by
  intro h
  rcases isDigit_or_eq_of_mem_repr h with h | h
  · rw [hc] at h
    cases h
  · exact hminus h

theorem singleLine_int64 (n : Int64) : SingleLine (toString n) :=
  not_mem_int64 (by decide) (by decide)

theorem not_mem_nat {n : Nat} {c : Char} (hc : c.isDigit = false) : c ∉ (toString n).toList := by
  intro h
  have hd : c.isDigit = true := isDigit_of_mem_repr (n := n) h
  simp [hc] at hd

theorem not_mem_uint32 {n : UInt32} {c : Char} (hc : c.isDigit = false) :
    c ∉ (toString n).toList :=
  not_mem_nat (n := n.toNat) hc

end Storefront.Text
