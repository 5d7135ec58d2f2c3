/-!
# Reading whole numbers

Texts of whole numbers within bounds: an optional sign and decimal digits. Digits are read from the
left and the first fault counts, so a text that is too large before its first wrong character is too
large, and one with an earlier wrong character is not a number.
-/

namespace Sluice.Number

/-- Why a text is not a whole number within bounds. -/
inductive ReadFault where
  | empty
  | invalidDigit
  | tooLarge
  | tooSmall
  deriving Repr, DecidableEq

/-- The wording of a fault. -/
def ReadFault.message : ReadFault → String
  | .empty => "cannot parse integer from empty string"
  | .invalidDigit => "invalid digit found in string"
  | .tooLarge => "number too large to fit in target type"
  | .tooSmall => "number too small to fit in target type"

/-- The value of a decimal digit. -/
def digit? (c : Char) : Option Nat :=
  if '0' ≤ c ∧ c ≤ '9' then some (c.toNat - '0'.toNat) else none

/-- Reads digits from the left after the number read so far; past `bound` the text is refused with
`excess`. -/
def readDigits (bound : Nat) (excess : ReadFault) (value : Nat) : List Char → Except ReadFault Nat
  | [] => .ok value
  | c :: rest =>
    match digit? c with
    | none => .error .invalidDigit
    | some d =>
      let next := value * 10 + d
      if bound < next then .error excess else readDigits bound excess next rest

/-- Reads a number from zero to `bound`. A plus sign may precede the digits; a minus sign counts as a
wrong digit. -/
def readNatural (bound : Nat) (text : String) : Except ReadFault Nat :=
  match text.toList with
  | [] => .error .empty
  | ['+'] => .error .invalidDigit
  | '+' :: digits => readDigits bound .tooLarge 0 digits
  | digits => readDigits bound .tooLarge 0 digits

/-- Reads a number from `-(bound + 1)` to `bound`, with either sign before the digits. -/
def readInteger (bound : Nat) (text : String) : Except ReadFault Int :=
  match text.toList with
  | [] => .error .empty
  | ['+'] | ['-'] => .error .invalidDigit
  | '+' :: digits => (readDigits bound .tooLarge 0 digits).map Int.ofNat
  | '-' :: digits => (readDigits (bound + 1) .tooSmall 0 digits).map fun n => -Int.ofNat n
  | digits => (readDigits bound .tooLarge 0 digits).map Int.ofNat

/-- The greatest number of eight bits. -/
def max8 : Nat := 0xff

/-- The greatest number of sixteen bits. -/
def max16 : Nat := 0xffff

/-- The greatest number of 32 bits. -/
def max32 : Nat := 0xffffffff

/-- The greatest number of 64 bits. -/
def max64 : Nat := 0xffffffffffffffff

/-- The greatest number of 32 bits, one of which is the sign. -/
def maxSigned32 : Nat := 0x7fffffff

/-- The greatest number of 64 bits, one of which is the sign. -/
def maxSigned64 : Nat := 0x7fffffffffffffff

end Sluice.Number
