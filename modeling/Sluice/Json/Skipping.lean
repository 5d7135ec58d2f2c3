import Sluice.Json.Numeral

/-!
# Passing over JSON values

A value that nobody asks for is passed without being built, and without a limit to its nesting: the
brackets that are open are kept on a stack.
-/

namespace Sluice.Json.Reader

/-- Passes the digits of an escaped code unit. -/
def skipUnit : Reader Unit := fun cursor =>
  match cursor.rest with
  | a :: b :: c :: d :: rest =>
    let after := { cursor with offset := cursor.offset + 4, rest }
    match Text.Hex.quad? a b c d with
    | some _ => (.ok (), after)
    | none => (.error ⟨.badEscape, some after.offset⟩, after)
  | short =>
    let after := { cursor with offset := cursor.offset + short.length, rest := [] }
    (.error ⟨.endInText, some after.offset⟩, after)

/-- The bytes from the first quote, backslash or control character on, and how many come before. -/
def dropPlain (offset : Nat) : List UInt8 → Nat × List UInt8
  | [] => (offset, [])
  | byte :: rest =>
    if byte = 0x22 ∨ byte = 0x5c ∨ byte.toNat < 0x20 then (offset, byte :: rest)
    else dropPlain (offset + 1) rest

/-- Passes quoted text whose opening quote has been passed. -/
def skipTextSteps : Nat → Reader Unit
  | 0 => pure ()
  | steps + 1 => do
    modify fun cursor =>
      let (offset, rest) := dropPlain cursor.offset cursor.rest
      { cursor with offset, rest }
    match ← peek with
    | none => refuse .endInText
    | some byte =>
      if byte = 0x22 then pass
      else if byte = 0x5c then
        pass
        match ← next with
        | none => refuse .endInText
        | some letter =>
          if letter = 0x75 then
            skipUnit
            skipTextSteps steps
          else if (simpleEscape? letter).isSome then skipTextSteps steps
          else refuse .badEscape
      else refuse .controlCharacter

/-- Passes quoted text whose opening quote has been passed. -/
def skipText : Reader Unit := fun cursor => skipTextSteps (cursor.size + 1) cursor

/-- An open bracket. -/
inductive Frame where
  | list
  | object
  deriving Repr, DecidableEq

/-- Passes what stands between the items of a frame and the next value: in an object, a key and a
colon. -/
def skipToValue : Frame → Reader Unit
  | .list => pure ()
  | .object => do
    match ← look with
    | none => refuseNext .endInObject
    | some byte =>
      if byte = 0x22 then
        pass
        skipText
        colon
      else refuseNext .keyNotText

/-- What comes next while values are passed over. -/
inductive Skipping where
  /-- A value. -/
  | value
  /-- A separator or a closing bracket; directly behind an opening bracket there is no separator. -/
  | separator (behindOpening : Bool)
  deriving Repr, DecidableEq

/-- Passes a value that is not nested, if one is in front of the cursor; yields the frame that an
opening bracket begins. -/
def skipScalar : Reader (Option Frame) := do
  match ← look with
  | none => refuseNext .endInValue
  | some byte =>
    if byte = 0x6e then do pass; word (letters "ull"); pure none
    else if byte = 0x74 then do pass; word (letters "rue"); pure none
    else if byte = 0x66 then do pass; word (letters "alse"); pure none
    else if byte = 0x2d then do pass; skipNumeral; pure none
    else if isDigit byte then do skipNumeral; pure none
    else if byte = 0x22 then do pass; skipText; pure none
    else if byte = 0x5b then do pass; pure (some .list)
    else if byte = 0x7b then do pass; pure (some .object)
    else refuseNext .valueExpected

/-- The byte that closes a frame. -/
def Frame.closing : Frame → UInt8
  | .list => 0x5d
  | .object => 0x7d

/-- The cause of refusal where a frame lacks a separator. -/
def Frame.separatorExpected : Frame → Cause
  | .list => .listSeparatorExpected
  | .object => .objectSeparatorExpected

/-- The cause of refusal where the text ends within a frame. -/
def Frame.ended : Frame → Cause
  | .list => .endInList
  | .object => .endInObject

/-- Passes values and separators until every frame is closed. -/
def skipSteps : Nat → Skipping → List Frame → Reader Unit
  | 0, _, _ => pure ()
  | steps + 1, .value, frames => do
    match ← skipScalar with
    | some frame => skipSteps steps (.separator true) (frame :: frames)
    | none =>
      match frames with
      | [] => pure ()
      | _ :: _ => skipSteps steps (.separator false) frames
  | _ + 1, .separator _, [] => pure ()
  | steps + 1, .separator behindOpening, frame :: frames => do
    match ← look with
    | none => refuseNext frame.ended
    | some byte =>
      if byte = 0x2c ∧ !behindOpening then
        pass
        skipToValue frame
        skipSteps steps .value (frame :: frames)
      else if byte = frame.closing then
        pass
        match frames with
        | [] => pure ()
        | _ :: _ => skipSteps steps (.separator false) frames
      else if behindOpening then
        skipToValue frame
        skipSteps steps .value (frame :: frames)
      else refuseNext frame.separatorExpected

/-- Passes a value. Every byte is passed in at most two steps. -/
def skip : Reader Unit := fun cursor => skipSteps (2 * cursor.size + 2) .value [] cursor

end Sluice.Json.Reader
