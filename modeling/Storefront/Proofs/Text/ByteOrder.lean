import Mathlib.Data.String.Basic
import Mathlib.Tactic.SplitIfs
/-!
# Text — the order of bytes

Names are compared character by character. UTF-8 keeps that order: of two
characters the one with the smaller number has the smaller bytes, whatever
follows them (`utf8EncodeChar_append_lt`). So a text comes before another
just when its bytes do (`lt_iff_bytes_lt`).
-/

namespace Storefront.Text

/-- The bytes of a text. -/
def bytes (s : String) : List UInt8 := s.toByteArray.data.toList

variable {c d : Char} {cs ds : List Char} {s t : String}

theorem bytes_eq_flatMap (s : String) : bytes s = s.toList.flatMap String.utf8EncodeChar := by
  rw [bytes, ← String.utf8Encode_toList, List.utf8Encode]
  simp

/-- The number of a character fits into four bytes. -/
theorem val_lt (c : Char) : c.val.toNat < 0x110000 := by
  rcases c.valid with h | h
  · exact Nat.lt_trans h (by decide)
  · exact h.2

/-- The first byte decides, unless it is the same. -/
theorem ofNat_cons_lt {m n : Nat} {as bs : List UInt8} (hn : n < 256) (hle : m ≤ n)
    (h : m = n → as < bs) : UInt8.ofNat m :: as < UInt8.ofNat n :: bs := by
  rw [List.cons_lt_cons_iff]
  rcases Nat.lt_or_eq_of_le hle with hlt | rfl
  · left
    rwa [UInt8.lt_iff_toNat_lt, UInt8.toNat_ofNat_of_lt' (Nat.lt_trans hlt hn),
      UInt8.toNat_ofNat_of_lt' hn]
  · exact .inr ⟨rfl, h rfl⟩

/-- **A smaller character has smaller bytes**, whatever follows them. -/
theorem utf8EncodeChar_append_lt (h : c < d) (as bs : List UInt8) :
    String.utf8EncodeChar c ++ as < String.utf8EncodeChar d ++ bs := by
  have hval : c.val.toNat < d.val.toNat := h
  have hd := val_lt d
  rw [String.utf8EncodeChar, String.utf8EncodeChar]
  generalize c.val.toNat = m at hval
  generalize d.val.toNat = n at hval hd
  -- encodings of unlike lengths differ in the first byte, others where the first digit differs
  split_ifs <;> simp only [List.cons_append, List.nil_append] <;>
    repeat refine ofNat_cons_lt (by omega) (by omega) fun heq => ?_
  all_goals omega

/-- Characters in order have their bytes in order. -/
theorem flatMap_utf8EncodeChar_lt (h : cs < ds) :
    cs.flatMap String.utf8EncodeChar < ds.flatMap String.utf8EncodeChar := by
  induction cs generalizing ds with
  | nil =>
    cases ds with
    | nil => exact absurd h (List.lt_irrefl [])
    | cons d ds =>
      obtain ⟨b, bs, hbytes⟩ := List.exists_cons_of_ne_nil (@String.utf8EncodeChar_ne_nil d)
      rw [List.flatMap_nil, List.flatMap_cons, hbytes, List.cons_append]
      exact List.nil_lt_cons b _
  | cons c cs ih =>
    cases ds with
    | nil => exact absurd h (List.not_lt_nil _)
    | cons d ds =>
      rw [List.flatMap_cons, List.flatMap_cons]
      rcases List.cons_lt_cons_iff.1 h with hlt | ⟨rfl, hlt⟩
      · exact utf8EncodeChar_append_lt hlt _ _
      · exact List.append_left_lt (ih hlt)

/-- **A text comes before another just when its bytes do.** -/
theorem lt_iff_bytes_lt : s < t ↔ bytes s < bytes t := by
  have hmono : ∀ {s t : String}, s < t → bytes s < bytes t := by
    intro s t h
    rw [bytes_eq_flatMap, bytes_eq_flatMap]
    exact flatMap_utf8EncodeChar_lt (String.lt_iff.1 h)
  refine ⟨hmono, fun h => ?_⟩
  rcases lt_trichotomy s t with hlt | rfl | hgt
  · exact hlt
  · exact absurd h (List.lt_irrefl _)
  · exact absurd (hmono hgt) (List.lt_asymm h)

end Storefront.Text
