import Sluice.Json.Fault
import Sluice.Text.Utf8

/-!
# Reading JSON text

A reader takes bytes from a cursor and yields a value or a fault; the cursor stays where the reader
left it in either case, since what encloses a refused value is still left in an orderly way. The
readers here are the parts that every value is made of: blanks, words, numbers, quoted texts and the
separators of lists and objects.
-/

namespace Sluice.Json

/-- What is left of a text, the number of bytes before that, and the size of the whole text, which
bounds every loop over it. -/
structure Cursor where
  rest : List UInt8
  offset : Nat
  size : Nat
  deriving Repr

/-- The cursor at the start of a text. -/
def Cursor.start (bytes : List UInt8) : Cursor := ⟨bytes, 0, bytes.length⟩

/-- A reader of values of a type. -/
abbrev Reader (α : Type) := ExceptT Fault (StateM Cursor) α

namespace Reader

/-- Refuses the text at the cursor. -/
def refuse {α : Type} (cause : Cause) : Reader α := fun cursor =>
  (.error ⟨cause, some cursor.offset⟩, cursor)

/-- Refuses the text at the byte in front of the cursor. -/
def refuseNext {α : Type} (cause : Cause) : Reader α := fun cursor =>
  (.error ⟨cause, some (min cursor.size (cursor.offset + 1))⟩, cursor)

/-- Refuses a value as a whole; the place is settled when the value has been left. -/
def refuseValue {α : Type} (cause : Cause) : Reader α := fun cursor =>
  (.error ⟨cause, none⟩, cursor)

/-- Settles the place of a fault that has none at the cursor. -/
def settled {α : Type} (reader : Reader α) : Reader α := fun cursor =>
  match reader cursor with
  | (.error ⟨cause, none⟩, after) => (.error ⟨cause, some after.offset⟩, after)
  | outcome => outcome

/-- Reads a value and leaves what encloses it. The enclosure is left also if the value is refused,
but the first fault counts. -/
def enclosed {α : Type} (body : Reader α) (leave : Reader Unit) : Reader α := fun cursor =>
  match body cursor with
  | (.error fault, inside) => (.error fault, (leave inside).2)
  | (.ok value, inside) =>
    match leave inside with
    | (.error fault, outside) => (.error fault, outside)
    | (.ok _, outside) => (.ok value, outside)

/-- The bytes after the blanks at the start of a list, and how many come before them. -/
def dropBlanks (offset : Nat) : List UInt8 → Nat × List UInt8
  | [] => (offset, [])
  | byte :: rest =>
    if byte = 0x20 ∨ byte = 0x0a ∨ byte = 0x09 ∨ byte = 0x0d then dropBlanks (offset + 1) rest
    else (offset, byte :: rest)

/-- The byte in front of the cursor. -/
def peek : Reader (Option UInt8) := fun cursor => (.ok cursor.rest.head?, cursor)

/-- Skips blanks and shows the byte in front of the cursor. -/
def look : Reader (Option UInt8) := fun cursor =>
  let (offset, rest) := dropBlanks cursor.offset cursor.rest
  (.ok rest.head?, { cursor with offset, rest })

/-- Passes the byte in front of the cursor. -/
def pass : Reader Unit := fun cursor =>
  match cursor.rest with
  | [] => (.ok (), cursor)
  | _ :: rest => (.ok (), { cursor with offset := cursor.offset + 1, rest })

/-- Passes the byte in front of the cursor and yields it. -/
def next : Reader (Option UInt8) := fun cursor =>
  match cursor.rest with
  | [] => (.ok none, cursor)
  | byte :: rest => (.ok (some byte), { cursor with offset := cursor.offset + 1, rest })

/-- Passes the letters of a word. -/
def word : List UInt8 → Reader Unit
  | [] => pure ()
  | letter :: letters => do
    match ← next with
    | none => refuse .endInValue
    | some byte => if byte = letter then word letters else refuse .wordExpected

/-- The letters of a word as bytes. -/
def letters (text : String) : List UInt8 :=
  Text.Utf8.encode text

/-- What can be said of quoted text so far: the bytes that it denotes, or why it is refused, with the
number of bytes before the cursor and the bytes behind it. -/
abbrev TextScan := Except Cause (List UInt8) × Nat × List UInt8

/-- The byte that a one-letter escape stands for. -/
def simpleEscape? (letter : UInt8) : Option UInt8 :=
  if letter = 0x22 ∨ letter = 0x5c ∨ letter = 0x2f then some letter
  else if letter = 0x62 then some 0x08
  else if letter = 0x66 then some 0x0c
  else if letter = 0x6e then some 0x0a
  else if letter = 0x72 then some 0x0d
  else if letter = 0x74 then some 0x09
  else none

/-- Whether a code unit is the first half of a pair. -/
def isHighSurrogate (unit : Nat) : Bool := 0xd800 ≤ unit && unit ≤ 0xdbff

/-- Whether a code unit is the second half of a pair. -/
def isLowSurrogate (unit : Nat) : Bool := 0xdc00 ≤ unit && unit ≤ 0xdfff

/-- Puts the bytes of a character in front of a reversed list of bytes. -/
def pushChar (code : Nat) (read : List UInt8) : List UInt8 :=
  (Text.Utf8.encodeChar (Char.ofNat code)).reverseAux read

/-- Reads quoted text up to its closing quote onto a reversed list of bytes. -/
def scanText (read : List UInt8) (offset : Nat) : List UInt8 → TextScan
  | [] => (.error .endInText, offset, [])
  | byte :: rest =>
    if byte = 0x22 then (.ok read.reverse, offset + 1, rest)
    else if byte.toNat < 0x20 then (.error .controlCharacter, offset + 1, rest)
    else if byte ≠ 0x5c then scanText (byte :: read) (offset + 1) rest
    else
      match rest with
      | [] => (.error .endInText, offset + 1, [])
      | letter :: rest =>
        if letter ≠ 0x75 then
          match simpleEscape? letter with
          | some denoted => scanText (denoted :: read) (offset + 2) rest
          | none => (.error .badEscape, offset + 2, rest)
        else
          match rest with
          | a :: b :: c :: d :: rest =>
            match Text.Hex.quad? a b c d with
            | none => (.error .badEscape, offset + 6, rest)
            | some unit =>
              if isLowSurrogate unit then (.error .loneSurrogate, offset + 6, rest)
              else if !isHighSurrogate unit then scanText (pushChar unit read) (offset + 6) rest
              else
                match rest with
                | [] => (.error .endInText, offset + 6, [])
                | slash :: rest =>
                  if slash ≠ 0x5c then (.error .unfinishedSurrogate, offset + 7, rest)
                  else
                    match rest with
                    | [] => (.error .endInText, offset + 7, [])
                    | letter :: rest =>
                      if letter ≠ 0x75 then (.error .unfinishedSurrogate, offset + 8, rest)
                      else
                        match rest with
                        | a :: b :: c :: d :: rest =>
                          match Text.Hex.quad? a b c d with
                          | none => (.error .badEscape, offset + 12, rest)
                          | some second =>
                            if isLowSurrogate second then
                              let code := 0x10000 + (unit - 0xd800) * 0x400 + (second - 0xdc00)
                              scanText (pushChar code read) (offset + 12) rest
                            else (.error .loneSurrogate, offset + 12, rest)
                        | short => (.error .endInText, offset + 8 + short.length, [])
          | short => (.error .endInText, offset + 2 + short.length, [])

/-- Reads quoted text whose opening quote has been passed. Bytes that spell no character are refused
once the closing quote has been found, at the first of them: its place is counted back from that
quote in the bytes that the text denotes. -/
def text : Reader String := fun cursor =>
  match scanText [] cursor.offset cursor.rest with
  | (.error cause, offset, rest) =>
    (.error ⟨cause, some offset⟩, { cursor with offset, rest })
  | (.ok bytes, offset, rest) =>
    let after := { cursor with offset, rest }
    match Text.Utf8.decode? bytes with
    | some value => (.ok value, after)
    | none =>
      let place := offset - bytes.length + (Text.Utf8.fault? bytes).getD 0
      (.error ⟨.badCharacter, some place⟩, after)

/-- Whether another item of a list follows; `isFirst` as long as none has been read. -/
def another (isFirst : Bool) : Reader Bool := do
  match ← look with
  | none => refuseNext .endInList
  | some byte =>
    if byte = 0x5d then pure false
    else if isFirst then pure true
    else if byte = 0x2c then
      pass
      match ← look with
      | none => refuseNext .endInValue
      | some following => if following = 0x5d then refuseNext .trailingComma else pure true
    else refuseNext .listSeparatorExpected

/-- Leaves a list. -/
def leaveList : Reader Unit := do
  match ← look with
  | none => refuseNext .endInList
  | some byte =>
    if byte = 0x5d then pass
    else if byte = 0x2c then
      pass
      match ← look with
      | some following =>
        if following = 0x5d then refuseNext .trailingComma else refuseNext .trailingCharacters
      | none => refuseNext .trailingCharacters
    else refuseNext .trailingCharacters

/-- Whether another member of an object follows; if so, its key is in front of the cursor. -/
def anotherMember (isFirst : Bool) : Reader Bool := do
  match ← look with
  | none => refuseNext .endInObject
  | some byte =>
    if byte = 0x7d then pure false
    else if isFirst then
      if byte = 0x22 then pure true else refuseNext .keyNotText
    else if byte = 0x2c then
      pass
      match ← look with
      | none => refuseNext .endInValue
      | some following =>
        if following = 0x22 then pure true
        else if following = 0x7d then refuseNext .trailingComma
        else refuseNext .keyNotText
    else refuseNext .objectSeparatorExpected

/-- Leaves an object. -/
def leaveObject : Reader Unit := do
  match ← look with
  | none => refuseNext .endInObject
  | some byte =>
    if byte = 0x7d then pass
    else if byte = 0x2c then refuseNext .trailingComma
    else refuseNext .trailingCharacters

/-- Passes the colon between a key and its value. -/
def colon : Reader Unit := do
  match ← look with
  | none => refuseNext .endInObject
  | some byte => if byte = 0x3a then pass else refuseNext .colonExpected

/-- Reads items onto a reversed list as long as another follows. -/
def itemsOnto {α : Type} (item : Reader α) : Nat → Bool → List α → Reader (List α)
  | 0, _, read => pure read.reverse
  | steps + 1, isFirst, read => do
    if ← another isFirst then
      let value ← item
      itemsOnto item steps false (value :: read)
    else pure read.reverse

/-- Reads the items of a list whose opening bracket has been passed. -/
def items {α : Type} (item : Reader α) : Reader (List α) := fun cursor =>
  itemsOnto item (cursor.size + 1) true [] cursor

/-- Folds the members of an object as long as another follows; `member` is given the key and reads
from the colon on. -/
def membersOnto {σ : Type} (member : σ → String → Reader σ) : Nat → Bool → σ → Reader σ
  | 0, _, state => pure state
  | steps + 1, isFirst, state => do
    if ← anotherMember isFirst then
      pass
      let key ← text
      let state ← member state key
      membersOnto member steps false state
    else pure state

/-- Folds the members of an object whose opening brace has been passed. -/
def members {σ : Type} (member : σ → String → Reader σ) (start : σ) : Reader σ := fun cursor =>
  membersOnto member (cursor.size + 1) true start cursor

/-- Reads a whole text; nothing but blanks may follow the value. -/
def whole {α : Type} (reader : Reader α) (bytes : List UInt8) : Except Refusal α :=
  let trailing : Reader Unit := do
    match ← look with
    | none => pure ()
    | some _ => refuseNext .trailingCharacters
  let all : Reader α := do
    let value ← reader
    trailing
    pure value
  match all (Cursor.start bytes) with
  | (.ok value, _) => .ok value
  | (.error fault, _) => .error (fault.refusal bytes)

end Reader

end Sluice.Json
