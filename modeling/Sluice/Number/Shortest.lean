import Sluice.Number.Binary64

/-!
# Shortest decimal digits

The fewest decimal digits that read back as a given double, and of all such digit strings the one
nearest to the number. Candidates are the two neighbours of the number on each decimal grid, from
the coarsest grid to the finest; the first grid with a candidate that reads back wins.
-/

namespace Sluice.Number

/-- Which of two equally near digit strings is taken. -/
inductive Tie where
  | up
  | even
  deriving Repr, DecidableEq

/-- A positive decimal number `digits * 10 ^ exponent`. -/
structure Decimal where
  digits : Nat
  exponent : Int
  deriving Repr, DecidableEq

namespace Shortest

/-- Whether the double nearest to a decimal number is the given one. -/
def readsBack (mantissa : Nat) (exponent : Int) (candidate : Decimal) : Bool :=
  Binary64.ofDecimal false candidate.digits candidate.exponent == .finite false mantissa exponent

/-- The neighbours of `numerator / denominator` on the grid of a power of ten, with what the lower one
leaves over and the size of a step. -/
def neighbours (numerator denominator : Nat) (power : Int) : Nat × Nat × Nat :=
  let (n, d) :=
    if 0 ≤ power then (numerator, denominator * tenTo power.toNat)
    else (numerator * tenTo (-power).toNat, denominator)
  (n / d, n % d, d)

/-- The candidate on one grid that reads back and is nearest to the number. -/
def onGrid (tie : Tie) (mantissa : Nat) (exponent power : Int) : Option Decimal :=
  let (n, d) := Binary64.quotientOf mantissa exponent
  let (lower, left, step) := neighbours n d power
  let low : Decimal := ⟨lower, power⟩
  let high : Decimal := ⟨lower + 1, power⟩
  let lowFits := lower != 0 && readsBack mantissa exponent low
  let highFits := readsBack mantissa exponent high
  let preferLow :=
    if 2 * left < step then true
    else if step < 2 * left then false
    else match tie with
      | .up => false
      | .even => lower % 2 == 0
  if lowFits && (preferLow || !highFits) then some low
  else if highFits then some high
  else none

/-- An exponent of ten at or above the magnitude of a positive double. -/
def topPower (mantissa : Nat) (exponent : Int) : Int :=
  let bits : Int := (Nat.log2 mantissa : Int) + 1 + exponent
  if 0 ≤ bits then bits * 30103 / 100000 + 1 else -((-bits) * 30102 / 100000) + 1

/-- Searches grids from the coarsest; the finest grid tried lies far below the last digit any double
needs. -/
def search (tie : Tie) (mantissa : Nat) (exponent : Int) : Nat → Int → Option Decimal
  | 0, _ => none
  | grids + 1, power =>
    match onGrid tie mantissa exponent power with
    | some found => some found
    | none => search tie mantissa exponent grids (power - 1)

end Shortest

/-- The shortest decimal number that reads back as the positive double with the given mantissa and
exponent. -/
def shortest (tie : Tie) (mantissa : Nat) (exponent : Int) : Decimal :=
  match Shortest.search tie mantissa exponent 22 (Shortest.topPower mantissa exponent) with
  | some found => found
  | none => ⟨mantissa, 0⟩

/-- The decimal digits of a number. -/
def digitsOf (n : Nat) : List Char :=
  Nat.toDigits 10 n

/-- The text of a positive decimal number in positional notation. -/
def Decimal.positional (decimal : Decimal) : List Char :=
  let digits := digitsOf decimal.digits
  if 0 ≤ decimal.exponent then digits ++ List.replicate decimal.exponent.toNat '0'
  else
    let places := (-decimal.exponent).toNat
    if places < digits.length then
      digits.take (digits.length - places) ++ '.' :: digits.drop (digits.length - places)
    else
      '0' :: '.' :: List.replicate (places - digits.length) '0' ++ digits

end Sluice.Number
