import Sluice.Number.Reading
import Sluice.Text.Hex

/-!
# Addresses

The host and the port on which a server listens: four numbers below 256, or eight groups of four
digits to base sixteen between brackets. One run of zero groups may be left out, the last two groups
may be written as four numbers, and a zone may follow the groups.
-/

namespace Sluice.Server

/-- The address of a host. -/
inductive HostAddress where
  /-- Four numbers below 256. -/
  | four (numbers : List Nat)
  /-- Eight groups of sixteen bits, and a zone, which is zero if none is given. -/
  | six (groups : List Nat) (zone : Nat)
  deriving Repr, DecidableEq

namespace HostAddress

/-- Reads a number from the left: at least one digit, at most `width` if that is given, and a value
up to `bound`. -/
def number? (base : Nat) (width : Option Nat) (bound : Nat) (cs : List Char) :
    Option (Nat × List Char) :=
  let digit? (c : Char) : Option Nat :=
    if c.toNat < 128 then (Text.Hex.value? c.toNat.toUInt8).filter (· < base) else none
  let digits := cs.takeWhile fun c => (digit? c).isSome
  let value := (digits.filterMap digit?).foldl (fun value digit => value * base + digit) 0
  if digits.isEmpty || (width.any (· < digits.length)) || bound < value then none
  else some (value, cs.drop digits.length)

/-- Reads a number of an address of four: no zero leads it. -/
def octet? (cs : List Char) : Option (Nat × List Char) :=
  match number? 10 (some 3) 255 cs with
  | some (value, rest) =>
    if cs.head? = some '0' ∧ cs.length - rest.length ≠ 1 then none else some (value, rest)
  | none => none

/-- Reads a character. -/
def mark? (c : Char) (cs : List Char) : Option (List Char) :=
  match cs with
  | d :: rest => if c = d then some rest else none
  | [] => none

/-- Reads an address of four numbers. -/
def four? (cs : List Char) : Option (List Nat × List Char) := do
  let (a, cs) ← octet? cs
  let (b, cs) ← octet? (← mark? '.' cs)
  let (c, cs) ← octet? (← mark? '.' cs)
  let (d, cs) ← octet? (← mark? '.' cs)
  return ([a, b, c, d], cs)

/-- Reads up to `limit` groups, of which `read` precede these; the last two may be an address of four
numbers. Yields whether they are. -/
def groups (limit : Nat) (read : Nat) (cs : List Char) : List Nat × Bool × List Char :=
  match limit with
  | 0 => ([], false, cs)
  | limit + 1 =>
    let separated : Option (List Char) := if read = 0 then some cs else mark? ':' cs
    match separated with
    | none => ([], false, cs)
    | some inner =>
      match (if limit = 0 then none else four? inner) with
      | some ([a, b, c, d], rest) => ([a * 256 + b, c * 256 + d], true, rest)
      | _ =>
        match number? 16 (some 4) Number.max16 inner with
        | none => ([], false, cs)
        | some (group, rest) =>
          let (more, embedded, rest) := groups limit (read + 1) rest
          (group :: more, embedded, rest)

/-- Reads eight groups, of which one run of zeros may be left out. -/
def six? (cs : List Char) : Option (List Nat × List Char) :=
  let (head, embedded, rest) := groups 8 0 cs
  if head.length = 8 then some (head, rest)
  else if embedded then none
  else do
    let rest ← mark? ':' (← mark? ':' rest)
    let (tail, _, rest) := groups (7 - head.length) 0 rest
    return (head ++ List.replicate (8 - head.length - tail.length) 0 ++ tail, rest)

/-- Reads the address of a host. -/
def parse? (text : String) : Option HostAddress :=
  match text.toList with
  | '[' :: cs =>
    match six? cs with
    | some (groups, [']']) => some (.six groups 0)
    | some (groups, '%' :: rest) =>
      match number? 10 none Number.max32 rest with
      | some (zone, [']']) => some (.six groups zone)
      | _ => none
    | _ => none
  | cs =>
    match four? cs with
    | some (numbers, []) => some (.four numbers)
    | _ => none

/-- A group without leading zeros. -/
def groupText (group : Nat) : String := String.ofList (Text.Hex.padded 1 group)

/-- The numbers of two groups. -/
def numbersOf (high low : Nat) : List Nat := [high / 256, high % 256, low / 256, low % 256]

/-- Numbers as text. -/
def numbersText (numbers : List Nat) : String :=
  ".".intercalate (numbers.map toString)

/-- The start and the length of the first longest run of zero groups. -/
def zeroRun (groups : List Nat) : Nat × Nat :=
  (List.range groups.length).foldl
    (fun best start =>
      let length := ((groups.drop start).takeWhile (· = 0)).length
      if best.2 < length then (start, length) else best)
    (0, 0)

/-- Eight groups as text, with the first longest run of at least two zero groups left out. -/
def groupsText (groups : List Nat) : String :=
  match groups with
  | [0, 0, 0, 0, 0, 0xffff, high, low] => "::ffff:" ++ numbersText (numbersOf high low)
  | _ =>
    let (start, length) := zeroRun groups
    let texts (groups : List Nat) : String := ":".intercalate (groups.map groupText)
    if 1 < length then texts (groups.take start) ++ "::" ++ texts (groups.drop (start + length))
    else texts groups

/-- The text of a host as part of an address with a port. -/
def text : HostAddress → String
  | .four numbers => numbersText numbers
  | .six groups zone =>
    "[" ++ groupsText groups ++ (if zone = 0 then "" else "%" ++ toString zone) ++ "]"

end HostAddress

end Sluice.Server
