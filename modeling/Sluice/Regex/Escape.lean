import Sluice.Regex.Cursor
import Sluice.Text.Hex
import Sluice.Text.Utf8

/-!
# Escapes

A backslash lends a special meaning to some letters and takes it from all marks: `\d` is a class, `\b`
an assertion, `\x41` a character given by its code and `\.` a dot.
-/

namespace Sluice.Regex

/-- The characters that mean something by themselves. -/
def metaChars : List Char := "\\.+*?()|[]\x7b\x7d^$#&-~".toList

/-- Whether a character stands for itself after a backslash. -/
def standsForItself (c : Char) : Bool :=
  metaChars.contains c || (c.toNat < 128 && !c.isAlphanum && c != '<' && c != '>')

/-- The character that a letter denotes after a backslash. -/
def control? (letter : Char) : Option Char :=
  [('a', '\x07'), ('f', '\x0c'), ('t', '\t'), ('n', '\n'), ('r', '\r'), ('v', '\x0b')].lookup letter

/-- Whether a letter denotes an assertion after a backslash, and if so, whether it is about words. -/
def assertion? (letter : Char) : Option Bool :=
  [('A', false), ('z', false), ('b', true), ('B', true), ('<', true), ('>', true)].lookup letter

/-- How many digits a code has after one of the letters for codes. -/
def codeWidth? (letter : Char) : Option Nat :=
  [('x', 2), ('u', 4), ('U', 8)].lookup letter

/-- The value of a digit to base sixteen. -/
def hexDigit? (c : Char) : Option Nat :=
  if c.toNat < 128 then Text.Hex.value? c.toNat.toUInt8 else none

namespace Reader

/-- Reads digits to base sixteen after the number so far. -/
def codeDigits (value : Nat) : Nat → Reader Nat
  | 0 => pure value
  | count + 1 => do
    match ← peek with
    | none => refuse .escapeUnfinished (.empty (← place))
    | some glyph =>
      match hexDigit? glyph.char with
      | none => refuse .digitInvalid glyph.span
      | some digit =>
        advance
        codeDigits (value * 16 + digit) count

/-- Refuses a code in braces: for its first wrong digit, or for the brace that is missing. -/
def bracedCode : Reader Literal := do
  let brace ← place
  advance
  match (← significant).find? fun glyph => (hexDigit? glyph.char).isNone with
  | some glyph => refuse .digitInvalid glyph.span
  | none => refuse .escapeUnfinished ⟨brace, (← get).stop⟩

/-- Reads the code of a character behind its letter; `start` is where the escape began. -/
def code (start : Place) (width : Nat) : Reader Literal := do
  advance
  match ← peek with
  | none => refuse .escapeUnfinished (.empty (← place))
  | some glyph =>
    if glyph.char = '\x7b' then bracedCode
    else
      let value ← codeDigits 0 width
      let stop ← place
      if h : value.isValidChar then
        return ⟨⟨start, stop⟩, Char.ofNatAux value h, width == 2⟩
      else refuse .codeInvalid ⟨glyph.place, stop⟩

/-- Reads the letter of a property. A name in braces is never closed. -/
def property (start : Place) : Reader Primitive := do
  advance
  match ← peek with
  | none => refuse .escapeUnfinished (.empty (← place))
  | some glyph =>
    if glyph.char = '\x7b' then refuse .escapeUnfinished (.empty (← get).stop)
    else if glyph.char = '\\' then refuse .propertyInvalid glyph.span
    else
      advance
      return .property ⟨start, ← place⟩

/-- Whether a character may stand in the name of a boundary of words. -/
def isBoundaryChar (c : Char) : Bool := c.isAlpha || c == '-'

/-- Looks at a brace behind an assertion about words. If a name begins there it is refused, since it is
never closed; else the brace is left where it is. -/
def boundaryBrace (start : Place) : Reader Unit := do
  let before ← get
  advance
  match ← peek with
  | none => refuse .boundaryOrCountUnfinished ⟨start, ← place⟩
  | some glyph =>
    if isBoundaryChar glyph.char then
      let left := (← significant).dropWhile fun glyph => isBoundaryChar glyph.char
      refuse .boundaryBraceUnclosed ⟨before.place, ← placeOf left⟩
    else set before

/-- Reads an escape of one letter or mark, whose end is given. -/
def shortEscape (span : Span) (c : Char) : Reader Primitive := do
  if standsForItself c then return .literal ⟨span, c, false⟩
  match control? c, assertion? c with
  | some denoted, _ => return .literal ⟨span, denoted, false⟩
  | none, some aboutWords =>
    if c = 'b' ∧ (← peek).any (·.char == '\x7b') then boundaryBrace span.start
    return .assertion span aboutWords
  | none, none => refuse .escapeUnknown span

/-- Reads an escape at its backslash. -/
def escape : Reader Primitive := do
  let start ← place
  pass
  match ← peek with
  | none => refuse .escapeUnfinished ⟨start, ← place⟩
  | some glyph =>
    let c := glyph.char
    let span : Span := ⟨start, glyph.span.stop⟩
    if c.isDigit then refuse .backreference span
    else if let some width := codeWidth? c then return .literal (← code start width)
    else if c = 'p' ∨ c = 'P' then property start
    else
      pass
      if "dsw".toList.contains c.toLower then return .letterClass span c.isUpper
      else shortEscape span c

end Reader

end Sluice.Regex
