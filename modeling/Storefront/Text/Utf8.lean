/-!
# Text — bytes as text

Bytes are read as UTF-8. `lossyText` reads any bytes: a sequence that is
cut short or wrong becomes one replacement character, as far as it could
have been the beginning of a character.
-/

namespace Storefront.Text

/-- What stands for bytes that are no character. -/
def replacement : Char := '\ufffd'

/-- A byte that continues a character. -/
def isContinuation (b : UInt8) : Bool := 0x80 ≤ b && b ≤ 0xbf

/-- The bounds of the byte after the first, by the first. -/
def secondBounds (first : UInt8) : UInt8 × UInt8 :=
  if first == 0xe0 then (0xa0, 0xbf)
  else if first == 0xed then (0x80, 0x9f)
  else if first == 0xf0 then (0x90, 0xbf)
  else if first == 0xf4 then (0x80, 0x8f)
  else (0x80, 0xbf)

/-- The number of bytes of a character, by its first byte. -/
def sequenceLength? (first : UInt8) : Option Nat :=
  if first < 0x80 then some 1
  else if 0xc2 ≤ first && first ≤ 0xdf then some 2
  else if 0xe0 ≤ first && first ≤ 0xef then some 3
  else if 0xf0 ≤ first && first ≤ 0xf4 then some 4
  else none

/-- The bytes behind the first that belong to its character, so far as
they are right. -/
def continuation (first : UInt8) (count : Nat) (rest : List UInt8) : List UInt8 :=
  match count, rest with
  | 0, _ => []
  | _, [] => []
  | count + 1, b :: rest =>
    let (low, high) := secondBounds first
    if low ≤ b && b ≤ high then b :: (rest.take count).takeWhile isContinuation else []

/-- The character that complete bytes make. -/
def charOfBytes (first : UInt8) (more : List UInt8) : Char :=
  let lead : Nat :=
    match more.length with
    | 0 => first.toNat
    | 1 => first.toNat % 32
    | 2 => first.toNat % 16
    | _ => first.toNat % 8
  Char.ofNat (more.foldl (fun n b => 64 * n + b.toNat % 64) lead)

/-- Bytes as characters, with replacements. -/
def lossyChars (fuel : Nat) (bytes : List UInt8) : List Char :=
  match fuel, bytes with
  | 0, _ => []
  | _, [] => []
  | fuel + 1, first :: rest =>
    match sequenceLength? first with
    | none => replacement :: lossyChars fuel rest
    | some n =>
      let more := continuation first (n - 1) rest
      let c := if more.length + 1 == n then charOfBytes first more else replacement
      c :: lossyChars fuel (rest.drop more.length)

/-- Bytes as a text, with replacements. -/
def lossyText (bytes : List UInt8) : String :=
  String.ofList (lossyChars (bytes.length + 1) bytes)

/-- The text that bytes are, if they are one. -/
def strictText? (bytes : List UInt8) : Option String :=
  String.fromUTF8? (ByteArray.mk bytes.toArray)

end Storefront.Text
