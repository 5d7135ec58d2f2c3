import Sluice.Json.Reader
import Sluice.Number.Reading

/-!
# Reading JSON numbers

Whole numbers of up to 64 bits stay whole. All other numerals become doubles in two steps, each of
which rounds: the digits that fit into 64 bits are taken as a whole number, and that is multiplied or
divided by a power of ten.
-/

namespace Sluice.Json.Reader

open Sluice.Number (Binary64 max64)

/-- The value of a digit. -/
def digit? (byte : UInt8) : Option Nat :=
  if 0x30 ≤ byte.toNat ∧ byte.toNat ≤ 0x39 then some (byte.toNat - 0x30) else none

/-- Whether a byte is a digit. -/
def isDigit (byte : UInt8) : Bool := (digit? byte).isSome

/-- Whether a byte begins a power of ten. -/
def isPowerMark (byte : UInt8) : Bool := byte == 0x65 || byte == 0x45

/-- Digits read after the number so far, up to the first byte that is no digit or the first digit that
would take the number beyond 64 bits; with their count, the number of bytes before the cursor and the
bytes behind it. -/
def digitsFrom (value count offset : Nat) : List UInt8 → Nat × Nat × Nat × List UInt8
  | [] => (value, count, offset, [])
  | byte :: rest =>
    match digit? byte with
    | none => (value, count, offset, byte :: rest)
    | some d =>
      if max64 < value * 10 + d then (value, count, offset, byte :: rest)
      else digitsFrom (value * 10 + d) (count + 1) (offset + 1) rest

/-- Reads digits after the number so far and yields the number and how many digits were read. -/
def digits (value : Nat) : Reader (Nat × Nat) := fun cursor =>
  let (value, count, offset, rest) := digitsFrom value 0 cursor.offset cursor.rest
  (.ok (value, count), { cursor with offset, rest })

/-- The number of digits at the start of a list, and what follows them. -/
def dropDigits (count : Nat) : List UInt8 → Nat × List UInt8
  | [] => (count, [])
  | byte :: rest => if isDigit byte then dropDigits (count + 1) rest else (count, byte :: rest)

/-- Passes digits without regard to their value and yields how many there were. -/
def passDigits : Reader Nat := fun cursor =>
  let (count, rest) := dropDigits 0 cursor.rest
  (.ok count, { cursor with offset := cursor.offset + count, rest })

/-- The powers of ten that are doubles without overflow. -/
def greatestPower : Nat := 308

/-- A power of ten as a double. -/
def powerOfTen (power : Nat) : Binary64 := Binary64.ofNat (Number.tenTo power)

/-- Multiplies or divides a double by a power of ten, in steps of the greatest power if need be.
Nothing if the number is too large. -/
def scaleByTen : Nat → Binary64 → Int → Option Binary64
  | 0, _, _ => none
  | steps + 1, value, exponent =>
    if exponent.natAbs ≤ greatestPower then
      if 0 ≤ exponent then
        let product := value.mul (powerOfTen exponent.natAbs)
        if product.isInfinite then none else some product
      else some (value.div (powerOfTen exponent.natAbs))
    else if value.isZero then some value
    else if 0 ≤ exponent then none
    else scaleByTen steps (value.div (powerOfTen greatestPower)) (exponent + greatestPower)

/-- The double for digits and a power of ten. Two divisions take any double to zero, so a few steps
suffice. -/
def real (negative : Bool) (significand : Nat) (exponent : Int) : Reader Json.Number :=
  match scaleByTen 8 (Binary64.ofNat significand) exponent with
  | some value => pure (.real (if negative then value.neg else value))
  | none => refuse .numberOutOfRange

/-- The greatest exponent that is counted. -/
def maxExponent : Nat := Number.maxSigned32

/-- The digits of an exponent, read as far as they are within bounds. `none` if they are not; the
cursor is then behind the first digit too many. -/
def exponentFrom (value offset : Nat) : List UInt8 → Option Nat × Nat × List UInt8
  | [] => (some value, offset, [])
  | byte :: rest =>
    match digit? byte with
    | none => (some value, offset, byte :: rest)
    | some d =>
      if maxExponent < value * 10 + d then (none, offset + 1, rest)
      else exponentFrom (value * 10 + d) (offset + 1) rest

/-- Reads the digits of an exponent after the first one. -/
def exponentDigits (first : Nat) : Reader (Option Nat) := fun cursor =>
  let (value, offset, rest) := exponentFrom first cursor.offset cursor.rest
  (.ok value, { cursor with offset, rest })

/-- Passes the sign of an exponent; true for a minus sign. -/
def exponentSign : Reader Bool := do
  match ← peek with
  | some byte =>
    if byte = 0x2b then pass; pure false
    else if byte = 0x2d then pass; pure true
    else pure false
  | none => pure false

/-- Reads the power of ten in front of the cursor, which holds its mark. An exponent out of bounds is
refused if it would make the number too large and counts as an endless division otherwise. -/
def power (negative : Bool) (significand : Nat) (exponent : Int) : Reader Json.Number := do
  pass
  let below ← exponentSign
  match ← next with
  | none => refuse .endInValue
  | some byte =>
    match digit? byte with
    | none => refuse .badNumber
    | some first =>
      match ← exponentDigits first with
      | some magnitude =>
        real negative significand (if below then exponent - magnitude else exponent + magnitude)
      | none =>
        if significand ≠ 0 ∧ !below then refuse .numberOutOfRange
        else
          let _ ← passDigits
          pure (.real (Binary64.zero negative))

/-- Reads what may follow the digits of a double: a power of ten. -/
def powerOrEnd (negative : Bool) (significand : Nat) (exponent : Int) : Reader Json.Number := do
  match ← peek with
  | some byte =>
    if isPowerMark byte then power negative significand exponent
    else real negative significand exponent
  | none => real negative significand exponent

/-- Reads a fraction, whose point is in front of the cursor. Digits beyond 64 bits are passed. -/
def fraction (negative : Bool) (significand : Nat) (exponent : Int) : Reader Json.Number := do
  pass
  let (significand, count) ← digits significand
  match ← peek with
  | some byte =>
    if isDigit byte then
      let _ ← passDigits
      powerOrEnd negative significand (exponent - count)
    else if count = 0 then refuseNext .badNumber
    else powerOrEnd negative significand (exponent - count)
  | none =>
    if count = 0 then refuseNext .endInValue
    else powerOrEnd negative significand (exponent - count)

/-- A whole number; the negative zero and numbers below 64 bits with a sign are doubles. -/
def wholeNumber (negative : Bool) (significand : Nat) : Json.Number :=
  if negative then
    if significand = 0 ∨ Number.maxSigned64 + 1 < significand then .real (Binary64.ofNat significand).neg
    else .integer (-significand)
  else .integer significand

/-- Reads what may follow the digits of a whole number. -/
def afterWhole (negative : Bool) (significand : Nat) : Reader Json.Number := do
  match ← peek with
  | some byte =>
    if byte = 0x2e then fraction negative significand 0
    else if isPowerMark byte then power negative significand 0
    else pure (wholeNumber negative significand)
  | none => pure (wholeNumber negative significand)

/-- Reads what follows the digits of a whole number beyond 64 bits: more digits, then a fraction or a
power of ten. -/
def afterLong (negative : Bool) (significand : Nat) : Reader Json.Number := do
  let count ← passDigits
  match ← peek with
  | some byte =>
    if byte = 0x2e then fraction negative significand count
    else if isPowerMark byte then power negative significand count
    else real negative significand count
  | none => real negative significand count

/-- Reads a number whose sign has been passed. -/
def numeral (negative : Bool) : Reader Json.Number := do
  match ← next with
  | none => refuse .endInValue
  | some byte =>
    match digit? byte with
    | none => refuse .badNumber
    | some 0 =>
      match ← peek with
      | some following =>
        if isDigit following then refuseNext .badNumber else afterWhole negative 0
      | none => afterWhole negative 0
    | some first =>
      let (significand, _) ← digits first
      match ← peek with
      | some following =>
        if isDigit following then afterLong negative significand
        else afterWhole negative significand
      | none => afterWhole negative significand

/-- Passes a power of ten, whose mark is in front of the cursor, without regard to its value. -/
def skipPower : Reader Unit := do
  pass
  let _ ← exponentSign
  match ← next with
  | none => refuse .badNumber
  | some byte => if isDigit byte then discard passDigits else refuse .badNumber

/-- Passes a power of ten if one follows. -/
def skipPowerOrEnd : Reader Unit := do
  match ← peek with
  | some byte => if isPowerMark byte then skipPower else pure ()
  | none => pure ()

/-- Passes a fraction, whose point is in front of the cursor. -/
def skipFraction : Reader Unit := do
  pass
  let count ← passDigits
  if count = 0 then refuseNext .badNumber else skipPowerOrEnd

/-- Passes what may follow the digits of a number. -/
def skipAfterWhole : Reader Unit := do
  match ← peek with
  | some byte =>
    if byte = 0x2e then skipFraction else if isPowerMark byte then skipPower else pure ()
  | none => pure ()

/-- Passes a number whose sign has been passed, without regard to its value. -/
def skipNumeral : Reader Unit := do
  match ← next with
  | none => refuse .badNumber
  | some byte =>
    match digit? byte with
    | none => refuse .badNumber
    | some 0 =>
      match ← peek with
      | some following => if isDigit following then refuseNext .badNumber else skipAfterWhole
      | none => skipAfterWhole
    | some _ =>
      let _ ← passDigits
      skipAfterWhole

end Sluice.Json.Reader
