import Sluice.Proofs.Text.Utf8
import Sluice.Text.Percent

/-!
# Reading back percent escapes

`Spells` describes bytes that are all written as escapes, with digits in either letter case, apart
from any reader. What is written so is read back (`decode_of_spells`), and it is written with few
characters: percent signs and digits to base sixteen.
-/

namespace Sluice.Text.Percent

/-- Some bytes are written as escapes, one for each. -/
inductive Spells : List UInt8 → List UInt8 → Prop where
  | nil : Spells [] []
  | cons {high low byte : UInt8} {written bytes : List UInt8}
      (digits : Hex.byte? high low = some byte) (later : Spells written bytes) :
      Spells (0x25 :: high :: low :: written) (byte :: bytes)

/-- Escapes are decoded one after another onto what has been read. -/
theorem Spells.decodeOnto_eq {written bytes : List UInt8} (spells : Spells written bytes)
    (read : List UInt8) : decodeOnto read written = read.reverse ++ bytes := by
  induction spells generalizing read with
  | nil => exact (List.append_nil _).symm
  | cons digits _ ih => simp only [decodeOnto, if_true, digits, ih, List.reverse_cons,
      List.append_assoc, List.singleton_append]

/-- What is written as escapes is read back. -/
theorem decode_of_spells {written bytes : List UInt8} (spells : Spells written bytes) :
    decode written = bytes :=
  spells.decodeOnto_eq []

/-- The two digits of a byte spell it. -/
theorem byte?_digits (byte : UInt8) :
    Hex.byte? (Hex.digit (byte.toNat / 16)) (Hex.digit (byte.toNat % 16)) = some byte := by
  have all : ∀ code < 256,
      Hex.byte? (Hex.digit (code / 16)) (Hex.digit (code % 16)) = some code.toUInt8 := by
    decide +kernel
  rw [all byte.toNat byte.toNat_lt, Nat.toUInt8_eq, UInt8.ofNat_toNat]

/-- The escapes of some bytes spell them. -/
theorem spells_encode (bytes : List UInt8) : Spells (encode bytes) bytes := by
  induction bytes with
  | nil => exact .nil
  | cons byte rest ih => exact .cons (byte?_digits byte) ih

/-- The bytes of which escapes consist. -/
def IsMark (byte : UInt8) : Prop :=
  byte = 0x25 ∨ (Hex.value? byte).isSome = true

/-- Two bytes that spell a byte are digits. -/
theorem isMark_of_byte? {high low byte : UInt8} (digits : Hex.byte? high low = some byte) :
    IsMark high ∧ IsMark low := by
  unfold Hex.byte? at digits
  split at digits
  · next isHigh isLow =>
    exact ⟨.inr (Option.isSome_of_eq_some isHigh), .inr (Option.isSome_of_eq_some isLow)⟩
  · cases digits

/-- Nothing else stands in escapes. -/
theorem Spells.isMark {written bytes : List UInt8} (spells : Spells written bytes) :
    ∀ byte ∈ written, IsMark byte := by
  induction spells with
  | nil => simp
  | cons digits _ ih =>
    obtain ⟨isHigh, isLow⟩ := isMark_of_byte? digits
    intro byte member
    simp only [List.mem_cons] at member
    rcases member with rfl | rfl | rfl | later
    · exact .inl rfl
    · exact isHigh
    · exact isLow
    · exact ih byte later

end Sluice.Text.Percent
