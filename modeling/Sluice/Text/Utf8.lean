/-!
# UTF-8

Characters as one to four bytes. Reading is a machine that takes one byte at a time: between two
characters it is at rest, within a character it knows how many bytes are missing and between which
bounds the next one must lie. The bounds exclude overlong forms, surrogates and codes beyond the
last character, so each character has exactly one form.
-/

namespace Sluice.Text.Utf8

/-- The bytes of one character. -/
def encodeChar (c : Char) : List UInt8 :=
  let code := c.toNat
  if code < 0x80 then [code.toUInt8]
  else if code < 0x800 then [(0xc0 + code / 64).toUInt8, (0x80 + code % 64).toUInt8]
  else if code < 0x10000 then
    [(0xe0 + code / 4096).toUInt8, (0x80 + code / 64 % 64).toUInt8, (0x80 + code % 64).toUInt8]
  else
    [(0xf0 + code / 262144).toUInt8, (0x80 + code / 4096 % 64).toUInt8,
      (0x80 + code / 64 % 64).toUInt8, (0x80 + code % 64).toUInt8]

/-- The bytes of a list of characters. -/
def encodeChars (cs : List Char) : List UInt8 :=
  cs.flatMap encodeChar

/-- The bytes of a text. -/
def encode (text : String) : List UInt8 :=
  encodeChars text.toList

/-- A character of which some bytes are still to come. -/
structure Pending where
  /-- The bits read so far. -/
  value : Nat
  /-- How many bytes are missing. -/
  missing : Nat
  /-- The least byte that may come next. -/
  low : Nat
  /-- The greatest byte that may come next. -/
  high : Nat
  deriving Repr, DecidableEq

/-- What one more byte does. -/
inductive Step where
  /-- The byte completes a character. -/
  | complete (c : Char)
  /-- The byte belongs to a character that is not complete. -/
  | more (pending : Pending)
  /-- The byte cannot stand here. -/
  | refuse
  deriving Repr

/-- The step of a byte between two characters. -/
def first (byte : UInt8) : Step :=
  let b := byte.toNat
  if b < 0x80 then .complete (Char.ofNat b)
  else if b < 0xc2 then .refuse
  else if b < 0xe0 then .more ⟨b - 0xc0, 1, 0x80, 0xbf⟩
  else if b = 0xe0 then .more ⟨0, 2, 0xa0, 0xbf⟩
  else if b = 0xed then .more ⟨13, 2, 0x80, 0x9f⟩
  else if b < 0xf0 then .more ⟨b - 0xe0, 2, 0x80, 0xbf⟩
  else if b = 0xf0 then .more ⟨0, 3, 0x90, 0xbf⟩
  else if b < 0xf4 then .more ⟨b - 0xf0, 3, 0x80, 0xbf⟩
  else if b = 0xf4 then .more ⟨4, 3, 0x80, 0x8f⟩
  else .refuse

/-- The step of a byte within a character. -/
def Pending.next (pending : Pending) (byte : UInt8) : Step :=
  let b := byte.toNat
  if pending.low ≤ b ∧ b ≤ pending.high then
    let value := pending.value * 64 + (b - 0x80)
    if pending.missing ≤ 1 then .complete (Char.ofNat value)
    else .more ⟨value, pending.missing - 1, 0x80, 0xbf⟩
  else .refuse

/-- The step of a byte after what was read before it. -/
def step : Option Pending → UInt8 → Step
  | none, byte => first byte
  | some pending, byte => pending.next byte

/-- Reads characters onto a reversed list; nothing if some byte cannot stand where it does or the
last character is not complete. -/
def decodeOnto (read : List Char) : Option Pending → List UInt8 → Option (List Char)
  | none, [] => some read.reverse
  | some _, [] => none
  | state, byte :: rest =>
    match step state byte with
    | .complete c => decodeOnto (c :: read) none rest
    | .more pending => decodeOnto read (some pending) rest
    | .refuse => none

/-- The characters that the bytes spell, if they spell any. -/
def decodeChars? (bytes : List UInt8) : Option (List Char) :=
  decodeOnto [] none bytes

/-- The text that the bytes spell, if they spell one. -/
def decode? (bytes : List UInt8) : Option String :=
  (decodeChars? bytes).map String.ofList

/-- The replacement character. -/
def replacement : Char := Char.ofNat 0xfffd

/-- Reads characters onto a reversed list, with a replacement character for each longest run of bytes
that begins a character and cannot go on, and for each byte that cannot begin one. -/
def repairOnto (read : List Char) : Option Pending → List UInt8 → List Char
  | none, [] => read.reverse
  | some _, [] => (replacement :: read).reverse
  | none, byte :: rest =>
    match first byte with
    | .complete c => repairOnto (c :: read) none rest
    | .more pending => repairOnto read (some pending) rest
    | .refuse => repairOnto (replacement :: read) none rest
  | some pending, byte :: rest =>
    match pending.next byte with
    | .complete c => repairOnto (c :: read) none rest
    | .more further => repairOnto read (some further) rest
    | .refuse =>
      match first byte with
      | .complete c => repairOnto (c :: replacement :: read) none rest
      | .more further => repairOnto (replacement :: read) (some further) rest
      | .refuse => repairOnto (replacement :: replacement :: read) none rest

/-- The text that the bytes spell once what spells nothing has been replaced. -/
def repair (bytes : List UInt8) : String :=
  String.ofList (repairOnto [] none bytes)

/-- How many bytes precede the first one that belongs to no character; `start` bytes came before the
character at hand and `offset` before the next byte. -/
def faultFrom (start offset : Nat) : Option Pending → List UInt8 → Option Nat
  | none, [] => none
  | some _, [] => some start
  | state, byte :: rest =>
    match step state byte with
    | .complete _ => faultFrom (offset + 1) (offset + 1) none rest
    | .more pending => faultFrom start (offset + 1) (some pending) rest
    | .refuse => some start

/-- How many bytes precede the first one that belongs to no character. -/
def fault? (bytes : List UInt8) : Option Nat :=
  faultFrom 0 0 none bytes

@[simp] theorem encodeChars_append (left right : List Char) :
    encodeChars (left ++ right) = encodeChars left ++ encodeChars right :=
  List.flatMap_append

end Sluice.Text.Utf8
