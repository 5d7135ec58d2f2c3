import Sluice.Json.Parser

/-!
# Reading JSON into records

Readers for values of a fixed shape. A value of another kind is refused with what was found and what
was expected. A record may come as an object, or as a list of its fields in order.
-/

namespace Sluice.Json.Reader

/-- Refuses the value in front of the cursor for its kind. A value that is not nested is read first,
so a text that is no JSON at all is refused as such. -/
def refuseKind {α : Type} (expected : String) : Reader α := settled do
  let found ← foundKind
  refuseValue (.wrongKind found expected)
where
  /-- The value in front of the cursor, as far as a refusal shows it. -/
  foundKind : Reader Found := do
    match ← peek with
    | none => refuseNext .valueExpected
    | some byte =>
      if byte = 0x6e then do pass; word (letters "ull"); pure .null
      else if byte = 0x74 then do pass; word (letters "rue"); pure (.bool true)
      else if byte = 0x66 then do pass; word (letters "alse"); pure (.bool false)
      else if byte = 0x2d then do pass; return .number (← numeral true)
      else if isDigit byte then return .number (← numeral false)
      else if byte = 0x22 then do pass; return .text (← text)
      else if byte = 0x5b then pure .list
      else if byte = 0x7b then pure .object
      else refuseNext .valueExpected

/-- Reads a text. -/
def textValue (expected : String) : Reader String := do
  match ← look with
  | none => refuseNext .endInValue
  | some byte => if byte = 0x22 then do pass; text else refuseKind expected

/-- Reads `null` as nothing and any other value with the given reader. -/
def optional {α : Type} (reader : Reader α) : Reader (Option α) := do
  match ← look with
  | some byte =>
    if byte = 0x6e then do pass; word (letters "ull"); pure none else return some (← reader)
  | none => return some (← reader)

/-- Reads a truth value. -/
def boolValue : Reader Bool := do
  match ← look with
  | none => refuseNext .endInValue
  | some byte =>
    if byte = 0x74 then do pass; word (letters "rue"); pure true
    else if byte = 0x66 then do pass; word (letters "alse"); pure false
    else refuseKind "a boolean"

/-- Reads a whole number from zero to a bound; `expected` names that range. -/
def naturalValue (bound : Nat) (expected : String) : Reader Nat := settled do
  match ← look with
  | none => refuseNext .endInValue
  | some byte =>
    if byte = 0x2d then do
      pass
      accept (← numeral true)
    else if isDigit byte then do accept (← numeral false)
    else refuseKind expected
where
  /-- The number, if it lies in the range. -/
  accept : Json.Number → Reader Nat
    | .integer value =>
      if 0 ≤ value ∧ value ≤ bound then pure value.toNat
      else refuseValue (.wrongValue (.number (.integer value)) expected)
    | .real value => refuseValue (.wrongKind (.number (.real value)) expected)

/-- Reads a list of values. -/
def listValue {α : Type} (item : Reader α) : Reader (List α) := settled do
  match ← look with
  | none => refuseNext .endInValue
  | some byte =>
    if byte = 0x5b then do
      pass
      enclosed (items item) leaveList
    else refuseKind "a sequence"

/-- Reads an object whose values are all of one shape; of a repeated key the last value counts. -/
def mapValue {α : Type} (value : Reader α) : Reader (List (String × α)) := settled do
  match ← look with
  | none => refuseNext .endInValue
  | some byte =>
    if byte = 0x7b then do
      pass
      let member (held : List (String × α)) (key : String) : Reader (List (String × α)) := do
        colon
        let value ← value
        return (key, value) :: held.filter (·.1 ≠ key)
      return (← enclosed (members member []) leaveObject).reverse
    else refuseKind "a map"

/-- Reads one of some words: as a text, or as the only key of an object whose value is `null`. -/
def choice {α : Type} (options : List (String × α)) : Reader α := do
  match ← look with
  | none => refuseNext .endInValue
  | some byte =>
    if byte = 0x22 then named
    else if byte = 0x7b then do
      pass
      let chosen ← key
      colon
      absent
      match ← look with
      | none => refuse .endInObject
      | some byte =>
        if byte = 0x7d then do
          pass
          pure chosen
        else refuse .valueExpected
    else refuseNext .valueExpected
where
  /-- Reads a word and looks it up. -/
  named : Reader α := settled do
    let word ← textValue "variant identifier"
    match options.lookup word with
    | some value => pure value
    | none => refuseValue (.unknownWord word (options.map (·.1)))
  /-- Reads a word as a key. -/
  key : Reader α := do
    match ← look with
    | none => refuseNext .endInObject
    | some byte => if byte = 0x22 then named else refuseNext .keyNotText
  /-- Reads `null`. -/
  absent : Reader Unit := do
    match ← look with
    | none => refuseNext .endInValue
    | some byte =>
      if byte = 0x6e then do pass; word (letters "ull") else refuseKind "unit"

/-- A field of a record that is read into a state. -/
structure Field (σ : Type) where
  /-- The key of the field. -/
  name : String
  /-- Whether a list that ends before the field leaves it out. -/
  omittable : Bool
  /-- Whether the field has been read. -/
  isRead : σ → Bool
  /-- Reads the value of the field. -/
  read : σ → Reader σ

/-- The shape of a record that is read by way of a state. -/
structure Shape (σ α : Type) where
  /-- The name that refusals use. -/
  name : String
  fields : List (Field σ)
  /-- Whether keys that name no field are refused; otherwise they are passed over. -/
  strict : Bool
  /-- The state before any field. -/
  start : σ
  /-- The record, if no field is missing. -/
  finish : σ → Except Cause α

variable {σ α : Type}

/-- Reads one member of a record. -/
def Shape.member (shape : Shape σ α) (state : σ) (key : String) : Reader σ :=
  match shape.fields.find? (·.name == key) with
  | some field =>
    if field.isRead state then refuseValue (.duplicateField key)
    else do
      colon
      field.read state
  | none =>
    if shape.strict then refuseValue (.unknownField key (shape.fields.map (·.name)))
    else do
      colon
      skip
      pure state

/-- The record, if the state holds every field that it needs. -/
def Shape.close (shape : Shape σ α) (state : σ) : Reader α :=
  match shape.finish state with
  | .ok value => pure value
  | .error cause => refuseValue cause

/-- Reads the fields of a record in order from a list whose opening bracket has been passed; `place`
fields come before these and `read` of them have been read. -/
def Shape.inOrder (shape : Shape σ α) (place read : Nat) (state : σ) : List (Field σ) → Reader σ
  | [] => pure state
  | field :: rest => do
    if ← another (read == 0) then
      let state ← field.read state
      shape.inOrder (place + 1) (read + 1) state rest
    else if field.omittable then shape.inOrder (place + 1) read state rest
    else
      refuseValue (.wrongLength place
        ("struct " ++ shape.name ++ " with " ++ toString shape.fields.length ++ " elements"))

/-- Reads a record. -/
def Shape.reader (shape : Shape σ α) : Reader α := settled do
  match ← look with
  | none => refuseNext .endInValue
  | some byte =>
    if byte = 0x7b then do
      pass
      let body : Reader α := do
        let state ← members shape.member shape.start
        shape.close state
      enclosed body leaveObject
    else if byte = 0x5b then do
      pass
      let body : Reader α := do
        let state ← shape.inOrder 0 0 shape.start shape.fields
        shape.close state
      enclosed body leaveList
    else refuseKind ("struct " ++ shape.name)

end Sluice.Json.Reader
