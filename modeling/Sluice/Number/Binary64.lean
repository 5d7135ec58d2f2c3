import Sluice.Number.Power

/-!
# Double-precision numbers

Binary floating point with 53 significant bits, in exact arithmetic on natural numbers. A finite
number is a sign, a mantissa and an exponent of two. Quotients of natural numbers are rounded to the
nearest representable number, of two equally near ones to the one with an even mantissa, so every
operation is its exact result followed by `ofQuotient`.
-/

namespace Sluice.Number

/-- A double-precision number; the zeros of both signs and the infinities are told apart. -/
inductive Binary64 where
  /-- The number `mantissa * 2 ^ exponent` with the given sign. -/
  | finite (negative : Bool) (mantissa : Nat) (exponent : Int)
  | infinite (negative : Bool)
  | nan
  deriving Repr, DecidableEq

namespace Binary64

/-- The least exponent of two. -/
def minExponent : Int := -1074

/-- The greatest exponent of two. -/
def maxExponent : Int := 971

/-- The number of significant bits. -/
def precision : Nat := 53

/-- The zero of a sign. -/
def zero (negative : Bool) : Binary64 := .finite negative 0 minExponent

/-- Rounds a quotient to the nearest whole number, of two equally near ones to the even one. -/
def roundQuotient (numerator denominator : Nat) : Nat :=
  let quotient := numerator / denominator
  let twice := 2 * (numerator % denominator)
  if twice < denominator then quotient
  else if denominator < twice then quotient + 1
  else if quotient % 2 = 0 then quotient else quotient + 1

/-- The factors by which numerator and denominator grow when a quotient is divided by a power of
two. -/
def scaled (numerator denominator : Nat) (exponent : Int) : Nat × Nat :=
  if 0 ≤ exponent then (numerator, denominator * twoTo exponent.toNat)
  else (numerator * twoTo (-exponent).toNat, denominator)

/-- The exponent at which a positive quotient has a mantissa of full length, or the least one. -/
def exponentOf (numerator denominator : Nat) : Int :=
  let guess : Int := (Nat.log2 numerator : Int) - (Nat.log2 denominator : Int)
  let (n, d) := scaled numerator denominator guess
  let full := if d ≤ n then guess - 52 else guess - 53
  max full minExponent

/-- The double nearest to a quotient of natural numbers. -/
def ofQuotient (negative : Bool) (numerator denominator : Nat) : Binary64 :=
  if numerator = 0 then zero negative
  else
    let exponent := exponentOf numerator denominator
    let (n, d) := scaled numerator denominator exponent
    let mantissa := roundQuotient n d
    let (mantissa, exponent) :=
      if mantissa = twoTo precision then (twoTo (precision - 1), exponent + 1) else (mantissa, exponent)
    if maxExponent < exponent then .infinite negative else .finite negative mantissa exponent

/-- The double nearest to a natural number. -/
def ofNat (n : Nat) : Binary64 := ofQuotient false n 1

/-- The double nearest to `significand * 10 ^ exponent`. Where the magnitude is far beyond the doubles
on either side, the power of ten is not computed: three bits and a third are less than a digit. -/
def ofDecimal (negative : Bool) (significand : Nat) (exponent : Int) : Binary64 :=
  if significand = 0 then zero negative
  else if 400 < exponent then .infinite negative
  else if 1000 * ((Nat.log2 significand : Int) + 1) + 3321 * exponent < -1080000 then zero negative
  else if 0 ≤ exponent then ofQuotient negative (significand * tenTo exponent.toNat) 1
  else ofQuotient negative significand (tenTo (-exponent).toNat)

/-- A finite magnitude as a quotient of natural numbers. -/
def quotientOf (mantissa : Nat) (exponent : Int) : Nat × Nat :=
  if 0 ≤ exponent then (mantissa * twoTo exponent.toNat, 1) else (mantissa, twoTo (-exponent).toNat)

/-- The product of two doubles. -/
def mul : Binary64 → Binary64 → Binary64
  | .finite s m e, .finite t n f =>
    let (a, b) := quotientOf m e
    let (c, d) := quotientOf n f
    ofQuotient (s != t) (a * c) (b * d)
  | .nan, _ | _, .nan => .nan
  | .finite s m _, .infinite t | .infinite t, .finite s m _ =>
    if m = 0 then .nan else .infinite (s != t)
  | .infinite s, .infinite t => .infinite (s != t)

/-- The quotient of two doubles. -/
def div : Binary64 → Binary64 → Binary64
  | .finite s m e, .finite t n f =>
    let (a, b) := quotientOf m e
    let (c, d) := quotientOf n f
    if n = 0 then (if m = 0 then .nan else .infinite (s != t))
    else ofQuotient (s != t) (a * d) (b * c)
  | .nan, _ | _, .nan => .nan
  | .finite s _ _, .infinite t => zero (s != t)
  | .infinite s, .finite t _ _ => .infinite (s != t)
  | .infinite _, .infinite _ => .nan

/-- The number of opposite sign. -/
def neg : Binary64 → Binary64
  | .finite s m e => .finite (!s) m e
  | .infinite s => .infinite (!s)
  | .nan => .nan

/-- Whether the number is a zero of either sign. -/
def isZero : Binary64 → Bool
  | .finite _ m _ => m == 0
  | _ => false

/-- Whether the number is neither infinite nor undefined. -/
def isFinite : Binary64 → Bool
  | .finite _ _ _ => true
  | _ => false

/-- Whether the number is an infinity. -/
def isInfinite : Binary64 → Bool
  | .infinite _ => true
  | _ => false

end Binary64

end Sluice.Number
