import Sluice.Number.Literal
import Sluice.Regex.Pattern

/-!
# Values of fields in directives

A directive may ask for the value of a field. Its text is read as a truth value, a whole number or a
number with a fraction, whichever fits first; any other text is a pattern. Two texts ask for the same
value if they read alike: `2` and `02` do, `2` and `2.0` do not.
-/

namespace Sluice.Log

/-- A value that a directive asks for. -/
inductive FieldValue where
  | truth (value : Bool)
  | natural (value : Nat)
  /-- A number with a minus sign. -/
  | signed (value : Int)
  /-- A number with a fraction; there is one zero and one number that is undefined. -/
  | real (value : Number.Binary64)
  | pattern (text : String)
  deriving Repr, DecidableEq

namespace FieldValue

/-- A number with a fraction, the zero without a sign. -/
def ofReal (value : Number.Binary64) : FieldValue :=
  match value with
  | .finite _ 0 _ => .real (.zero false)
  | value => .real value

/-- The value of a text, if it is no pattern. -/
def plain? (text : String) : Option FieldValue :=
  if text = "true" then some (.truth true)
  else if text = "false" then some (.truth false)
  else
    match Number.readNatural Number.max64 text, Number.readInteger Number.maxSigned64 text with
    | .ok value, _ => some (.natural value)
    | .error _, .ok value => some (.signed value)
    | .error _, .error _ => (Number.Literal.read? text).map fun literal => ofReal literal.toBinary64

/-- The value of a text; a pattern must be one that can be matched. -/
def read (text : String) : Except Regex.PatternFault FieldValue :=
  match plain? text with
  | some value => .ok value
  | none =>
    match Regex.fault? text with
    | some fault => .error fault
    | none => .ok (.pattern text)

/-- Whether a value is a whole number. Patterns are about texts and match no number. -/
def isNumber (wanted : FieldValue) (value : Int) : Bool :=
  match wanted with
  | .natural number => (number : Int) == value
  | .signed number => number == value
  | .truth _ | .real _ | .pattern _ => false

end FieldValue

end Sluice.Log
