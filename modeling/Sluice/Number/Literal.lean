import Sluice.Number.Reading
import Sluice.Number.Shortest

/-!
# Numerals with a fraction

The grammar of numerals that may have a fraction and a power of ten, and the words for infinity and
for an undefined number. A numeral denotes an exact decimal number; which floating-point number it
stands for is decided afterwards.
-/

namespace Sluice.Number

/-- What a numeral denotes. -/
inductive Literal where
  | nan
  | infinite (negative : Bool)
  /-- The number `significand * 10 ^ exponent` with the given sign. -/
  | decimal (negative : Bool) (significand : Nat) (exponent : Int)
  deriving Repr, DecidableEq

namespace Literal

/-- The digits at the start of a list, read after the number so far; with their count and what
follows. -/
def digits (value count : Nat) : List Char → Nat × Nat × List Char
  | [] => (value, count, [])
  | c :: rest =>
    match digit? c with
    | some d => digits (value * 10 + d) (count + 1) rest
    | none => (value, count, c :: rest)

/-- What stands behind a sign, which may be missing, and whether the sign is negative. -/
def signed : List Char → Bool × List Char
  | '-' :: rest => (true, rest)
  | '+' :: rest => (false, rest)
  | cs => (false, cs)

/-- The power of ten at the end of a numeral: nothing, or the letter `e` and a signed number. -/
def power? : List Char → Option Int
  | [] => some 0
  | c :: rest =>
    if c = 'e' ∨ c = 'E' then
      let (negative, text) := signed rest
      let (value, count, left) := digits 0 0 text
      if count = 0 ∨ left ≠ [] then none else some (if negative then -(value : Int) else value)
    else none

/-- A numeral without its sign: digits with an optional point, at least one digit in all, and an
optional power of ten. -/
def unsigned? (negative : Bool) (cs : List Char) : Option Literal :=
  let (whole, wholeCount, rest) := digits 0 0 cs
  let (value, places, rest) :=
    match rest with
    | '.' :: more => digits whole 0 more
    | _ => (whole, 0, rest)
  if wholeCount + places = 0 then none
  else (power? rest).map fun power => .decimal negative value (power - places)

/-- Whether the letters of a text are those of a word in small letters, in either case. -/
def spells (cs : List Char) (word : String) : Bool :=
  cs.map Char.toLower == word.toList

/-- Reads a numeral. -/
def read? (text : String) : Option Literal :=
  let (negative, body) := signed text.toList
  if spells body "nan" then some .nan
  else if spells body "inf" || spells body "infinity" then some (.infinite negative)
  else unsigned? negative body

/-- The nearest double-precision number. -/
def toBinary64 : Literal → Binary64
  | .nan => .nan
  | .infinite negative => .infinite negative
  | .decimal negative significand exponent => .ofDecimal negative significand exponent

/-- Whether the nearest single-precision number is zero or less. Half the least positive one, which is
`2 ^ -150`, and all below it round to zero. -/
def atMostZeroInSingle : Literal → Bool
  | .nan => false
  | .infinite negative => negative
  | .decimal negative significand exponent =>
    negative || significand == 0 ||
      (if 0 ≤ exponent then false
       else if 1000 * ((Nat.log2 significand : Int) + 1) + 3321 * exponent < -151000 then true
       else decide (significand * twoTo 150 ≤ tenTo (-exponent).toNat))

end Literal

/-- The wording for a text that is not a numeral. -/
def Literal.faultMessage (text : String) : String :=
  if text.isEmpty then "cannot parse float from empty string" else "invalid float literal"

/-- The text of a double in positional notation with the fewest digits that read back. -/
def Binary64.positionalText : Binary64 → String
  | .nan => "NaN"
  | .infinite negative => if negative then "-inf" else "inf"
  | .finite negative mantissa exponent =>
    let digits := if mantissa = 0 then ['0'] else (shortest .up mantissa exponent).positional
    String.ofList (if negative then '-' :: digits else digits)

end Sluice.Number
