import Sluice.Json.Printer
import Sluice.Text.Quoted

/-!
# Why a JSON text is refused

Causes of refusal, apart from their wording, and the place of each. A cause that concerns a whole
value (a missing field, a value of the wrong kind) has no place of its own until the value that
encloses it has been left.
-/

namespace Sluice.Json

/-- A value that was found where another kind of value was expected. -/
inductive Found where
  | null
  | bool (value : Bool)
  | number (value : Json.Number)
  | text (value : String)
  | list
  | object
  deriving Repr, DecidableEq

/-- The wording of a value that was found. -/
def Found.message : Found → String
  | .null => "null"
  | .bool value => "boolean `" ++ (if value then "true" else "false") ++ "`"
  | .number (.integer value) => "integer `" ++ String.ofList (integerText value) ++ "`"
  | .number (.real value) => "floating point `" ++ String.ofList (realText value) ++ "`"
  | .text value => "string " ++ Text.Quoted.quote value
  | .list => "sequence"
  | .object => "map"

/-- Why a text is refused. -/
inductive Cause where
  | endInList
  | endInObject
  | endInText
  | endInValue
  | colonExpected
  | listSeparatorExpected
  | objectSeparatorExpected
  | wordExpected
  | valueExpected
  | badEscape
  | badNumber
  | numberOutOfRange
  | badCharacter
  | controlCharacter
  | keyNotText
  | loneSurrogate
  | unfinishedSurrogate
  | trailingComma
  | trailingCharacters
  | tooDeep
  | wrongKind (found : Found) (expected : String)
  | wrongValue (found : Found) (expected : String)
  | wrongLength (length : Nat) (expected : String)
  | unknownField (name : String) (known : List String)
  | unknownWord (word : String) (known : List String)
  | missingField (name : String)
  | duplicateField (name : String)
  deriving Repr, DecidableEq

/-- The names among which a choice was expected. -/
def choiceMessage (names : List String) : String :=
  match names with
  | [] => "there are no fields"
  | [name] => "expected `" ++ name ++ "`"
  | [one, other] => "expected `" ++ one ++ "` or `" ++ other ++ "`"
  | _ => "expected one of " ++ ", ".intercalate (names.map fun name => "`" ++ name ++ "`")

/-- The wording of a cause. -/
def Cause.message : Cause → String
  | .endInList => "EOF while parsing a list"
  | .endInObject => "EOF while parsing an object"
  | .endInText => "EOF while parsing a string"
  | .endInValue => "EOF while parsing a value"
  | .colonExpected => "expected `:`"
  | .listSeparatorExpected => "expected `,` or `]`"
  | .objectSeparatorExpected => "expected `,` or `\x7d`"
  | .wordExpected => "expected ident"
  | .valueExpected => "expected value"
  | .badEscape => "invalid escape"
  | .badNumber => "invalid number"
  | .numberOutOfRange => "number out of range"
  | .badCharacter => "invalid unicode code point"
  | .controlCharacter => "control character (\\u0000-\\u001F) found while parsing a string"
  | .keyNotText => "key must be a string"
  | .loneSurrogate => "lone leading surrogate in hex escape"
  | .unfinishedSurrogate => "unexpected end of hex escape"
  | .trailingComma => "trailing comma"
  | .trailingCharacters => "trailing characters"
  | .tooDeep => "recursion limit exceeded"
  | .wrongKind found expected => "invalid type: " ++ found.message ++ ", expected " ++ expected
  | .wrongValue found expected => "invalid value: " ++ found.message ++ ", expected " ++ expected
  | .wrongLength length expected =>
    "invalid length " ++ toString length ++ ", expected " ++ expected
  | .unknownField name known => "unknown field `" ++ name ++ "`, " ++ choiceMessage known
  | .unknownWord word known => "unknown variant `" ++ word ++ "`, " ++ choiceMessage known
  | .missingField name => "missing field `" ++ name ++ "`"
  | .duplicateField name => "duplicate field `" ++ name ++ "`"

/-- A cause and, once known, the number of bytes before its place. -/
structure Fault where
  cause : Cause
  offset : Option Nat
  deriving Repr, DecidableEq

/-- A line, counted from one, and the number of bytes before a place in that line. -/
structure Place where
  line : Nat
  column : Nat
  deriving Repr, DecidableEq

/-- The place that one more byte leads to. -/
def Place.advance (place : Place) (byte : UInt8) : Place :=
  if byte = 0x0a then ⟨place.line + 1, 0⟩ else ⟨place.line, place.column + 1⟩

/-- The place after some number of bytes. -/
def Place.of (bytes : List UInt8) (offset : Nat) : Place :=
  (bytes.take offset).foldl Place.advance ⟨1, 0⟩

/-- A refusal as it is reported. -/
structure Refusal where
  cause : Cause
  place : Place
  deriving Repr, DecidableEq

/-- The report of a fault in a text. -/
def Fault.refusal (bytes : List UInt8) (fault : Fault) : Refusal :=
  ⟨fault.cause, Place.of bytes (fault.offset.getD bytes.length)⟩

/-- The wording of a refusal. -/
def Refusal.message (refusal : Refusal) : String :=
  refusal.cause.message ++ " at line " ++ toString refusal.place.line ++
    " column " ++ toString refusal.place.column

end Sluice.Json
