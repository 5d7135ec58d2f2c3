import Sluice.Number.Power

/-!
# Date and time with an offset

The text form `2024-01-18T09:30:00.25+01:00`. Reading goes from left to right and reports the first
thing that is wrong, except that the length is checked first: a text too short for a date and a time
of day ends prematurely whatever it holds. Writing shows a fraction of a second in groups of three
digits, as many as are needed.
-/

namespace Sluice.Time

/-- Why a text is no date and time. -/
inductive Fault where
  | premature
  | invalid
  | outOfRange
  | trailing
  deriving Repr, DecidableEq

/-- The wording of a fault. -/
def Fault.message : Fault → String
  | .premature => "premature end of input"
  | .invalid => "input contains invalid characters"
  | .outOfRange => "input is out of range"
  | .trailing => "trailing input"

/-- A date and a time of day at an offset from universal time. A leap second is second 60. -/
structure Moment where
  year : Nat
  month : Nat
  day : Nat
  hour : Nat
  minute : Nat
  second : Nat
  nanosecond : Nat
  /-- Whether the offset is west of universal time. -/
  west : Bool
  offsetHours : Nat
  offsetMinutes : Nat
  deriving Repr, DecidableEq

/-- Whether a year has a leap day. -/
def isLeapYear (year : Nat) : Bool :=
  year % 4 == 0 && (year % 100 != 0 || year % 400 == 0)

/-- The number of days of a month; none for a number that names no month. -/
def daysInMonth (year month : Nat) : Nat :=
  if month = 2 then (if isLeapYear year then 29 else 28)
  else if month = 4 ∨ month = 6 ∨ month = 9 ∨ month = 11 then 30
  else if 1 ≤ month ∧ month ≤ 12 then 31
  else 0

/-- Whether a date is on the calendar. -/
def isDate (year month day : Nat) : Bool :=
  1 ≤ day && day ≤ daysInMonth year month

/-- The value of a decimal digit. -/
def digit (byte : UInt8) : Except Fault Nat :=
  if 0x30 ≤ byte.toNat ∧ byte.toNat ≤ 0x39 then .ok (byte.toNat - 0x30) else .error .invalid

/-- The value of two decimal digits. -/
def twoDigits (a b : UInt8) : Except Fault Nat := do
  let tens ← digit a
  let ones ← digit b
  return tens * 10 + ones

/-- Accepts one of some separators. -/
def separator (byte : UInt8) (allowed : List UInt8) : Except Fault Unit :=
  if allowed.contains byte then .ok () else .error .invalid

/-- Refuses a value out of range. -/
def inRange (holds : Bool) : Except Fault Unit :=
  if holds then .ok () else .error .outOfRange

/-- The digits of a fraction after the first `count`, as nanoseconds so far; digits beyond the ninth
are passed. -/
def fractionDigits (value count : Nat) : List UInt8 → Nat × List UInt8
  | [] => (value * Number.tenTo (9 - count), [])
  | byte :: rest =>
    if 0x30 ≤ byte.toNat ∧ byte.toNat ≤ 0x39 then
      if count < 9 then fractionDigits (value * 10 + (byte.toNat - 0x30)) (count + 1) rest
      else fractionDigits value count rest
    else (value * Number.tenTo (9 - count), byte :: rest)

/-- The fraction of a second in nanoseconds, if there is a point; a point needs a digit behind it. -/
def fraction (bytes : List UInt8) : Except Fault (Nat × List UInt8) :=
  match bytes with
  | 0x2e :: [] => .error .premature
  | 0x2e :: byte :: rest => do
    let first ← digit byte
    return fractionDigits first 1 rest
  | _ => return (0, bytes)

/-- The two digits of the hours of an offset. -/
def offsetHour (bytes : List UInt8) : Except Fault (Nat × List UInt8) :=
  match bytes with
  | a :: b :: rest => return (← twoDigits a b, rest)
  | _ => .error .premature

/-- The two digits of the minutes of an offset, of which the first may be a digit up to five. -/
def offsetMinute (bytes : List UInt8) : Except Fault (Nat × List UInt8) :=
  match bytes with
  | a :: b :: rest => do
    let tens ← digit a
    let ones ← digit b
    inRange (tens ≤ 5)
    return (tens * 10 + ones, rest)
  | _ => .error .premature

/-- The offset at the end of a text: the letter Z, or a sign, hours, a colon and minutes. The sign may
be the minus sign of typography. -/
def offset (bytes : List UInt8) : Except Fault (Bool × Nat × Nat × List UInt8) := do
  let signed (west : Bool) (rest : List UInt8) : Except Fault (Bool × Nat × Nat × List UInt8) := do
    let (hours, rest) ← offsetHour rest
    match rest with
    | [] => .error .premature
    | 0x3a :: rest =>
      let (minutes, rest) ← offsetMinute rest
      return (west, hours, minutes, rest)
    | _ => .error .invalid
  match bytes with
  | [] => .error .premature
  | 0x5a :: rest | 0x7a :: rest => return (false, 0, 0, rest)
  | 0x2b :: rest => signed false rest
  | 0x2d :: rest => signed true rest
  | 0xe2 :: 0x88 :: 0x92 :: rest => signed true rest
  | _ => .error .invalid

/-- Reads a date and time from the bytes of its text. -/
def parse (bytes : List UInt8) : Except Fault Moment :=
  match bytes with
  | y1 :: y2 :: y3 :: y4 :: d1 :: mo1 :: mo2 :: d2 :: da1 :: da2 :: t :: h1 :: h2 :: c1 ::
      mi1 :: mi2 :: c2 :: s1 :: s2 :: rest => do
    let century ← twoDigits y1 y2
    let yearOfCentury ← twoDigits y3 y4
    let year := century * 100 + yearOfCentury
    separator d1 [0x2d]
    let month ← twoDigits mo1 mo2
    separator d2 [0x2d]
    let day ← twoDigits da1 da2
    inRange (isDate year month day)
    separator t [0x54, 0x74, 0x20]
    let hour ← twoDigits h1 h2
    separator c1 [0x3a]
    let minute ← twoDigits mi1 mi2
    separator c2 [0x3a]
    let second ← twoDigits s1 s2
    let (nanosecond, rest) ← fraction rest
    inRange (hour < 24 && minute < 60 && second ≤ 60)
    let (west, offsetHours, offsetMinutes, rest) ← offset rest
    if !rest.isEmpty then .error .trailing
    inRange (offsetHours < 24)
    return { year, month, day, hour, minute, second, nanosecond, west, offsetHours, offsetMinutes }
  | _ => .error .premature

/-- A number with at least as many digits as asked for. -/
def padded (width n : Nat) : String :=
  let digits := Nat.toDigits 10 n
  String.ofList (List.replicate (width - digits.length) '0' ++ digits)

/-- The fraction of a second with three, six or nine digits, or nothing. -/
def fractionText (nanosecond : Nat) : String :=
  if nanosecond = 0 then ""
  else if nanosecond % 1000000 = 0 then "." ++ padded 3 (nanosecond / 1000000)
  else if nanosecond % 1000 = 0 then "." ++ padded 6 (nanosecond / 1000)
  else "." ++ padded 9 nanosecond

/-- The text of a date and time. -/
def Moment.text (moment : Moment) : String :=
  padded 4 moment.year ++ "-" ++ padded 2 moment.month ++ "-" ++ padded 2 moment.day ++ "T" ++
    padded 2 moment.hour ++ ":" ++ padded 2 moment.minute ++ ":" ++ padded 2 moment.second ++
    fractionText moment.nanosecond ++
    (if moment.west && (moment.offsetHours != 0 || moment.offsetMinutes != 0) then "-" else "+") ++
    padded 2 moment.offsetHours ++ ":" ++ padded 2 moment.offsetMinutes

end Sluice.Time
