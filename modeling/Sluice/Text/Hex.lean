/-!
# Digits to base sixteen

Single digits as bytes, in either letter case when read, and numbers written in small letters.
-/

namespace Sluice.Text.Hex

/-- The value of a digit in either letter case. -/
def value? (byte : UInt8) : Option Nat :=
  let b := byte.toNat
  if 0x30 ≤ b ∧ b ≤ 0x39 then some (b - 0x30)
  else if 0x41 ≤ b ∧ b ≤ 0x46 then some (b - 0x37)
  else if 0x61 ≤ b ∧ b ≤ 0x66 then some (b - 0x57)
  else none

/-- The digit of a number below sixteen, as a capital. -/
def digit (n : Nat) : UInt8 :=
  if n < 10 then (0x30 + n).toUInt8 else (0x37 + n).toUInt8

/-- The byte that two digits spell. -/
def byte? (high low : UInt8) : Option UInt8 :=
  match value? high, value? low with
  | some h, some l => some (h * 16 + l).toUInt8
  | _, _ => none

/-- The bytes that digits spell, two digits each. -/
def bytes? : List UInt8 → Option (List UInt8)
  | [] => some []
  | [_] => none
  | high :: low :: rest => do
    let byte ← byte? high low
    return byte :: (← bytes? rest)

/-- The number that four digits spell. -/
def quad? (a b c d : UInt8) : Option Nat :=
  match value? a, value? b, value? c, value? d with
  | some a, some b, some c, some d => some (((a * 16 + b) * 16 + c) * 16 + d)
  | _, _, _, _ => none

/-- The digits of a number in small letters, with at least `width` of them. -/
def padded (width n : Nat) : List Char :=
  let digits := Nat.toDigits 16 n
  List.replicate (width - digits.length) '0' ++ digits

end Sluice.Text.Hex
