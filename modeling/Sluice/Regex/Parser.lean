import Sluice.Regex.Bracket
import Sluice.Regex.Group
import Sluice.Number.Reading

/-!
# Reading a whole pattern

A pattern is read part by part. What surrounds an open group is put aside until the group is closed; the
alternatives of a group are gathered as the bars between them are met.
-/

namespace Sluice.Regex

/-- What has been read of a group, or of the pattern outside of all groups. -/
structure Level where
  /-- Where the first alternative begins. -/
  first : Place
  /-- The alternatives before the present one, the last one first. -/
  earlier : List Tree
  /-- Where the present alternative begins. -/
  start : Place
  /-- The parts of the present alternative, the last one first. -/
  reversed : List Tree

namespace Level

/-- A level that begins at a place. -/
def startingAt (place : Place) : Level := ⟨place, [], place, []⟩

/-- One more part. -/
def add (level : Level) (part : Tree) : Level :=
  { level with reversed := part :: level.reversed }

/-- The present alternative, which ends at a place. -/
def branch (level : Level) (stop : Place) : Tree :=
  match level.reversed with
  | [] => .empty ⟨level.start, stop⟩
  | [part] => part
  | reversed => .sequence ⟨level.start, stop⟩ reversed.reverse

/-- The level with another alternative, `bar` being the place of the bar and `start` the place behind
it. -/
def nextBranch (level : Level) (bar start : Place) : Level :=
  ⟨level.first, level.branch bar :: level.earlier, start, []⟩

/-- Everything on a level that ends at a place. -/
def tree (level : Level) (stop : Place) : Tree :=
  match level.earlier with
  | [] => level.branch stop
  | earlier => .alternation ⟨level.first, stop⟩ (level.branch stop :: earlier).reverse

/-- The last part, which is to be repeated, and the level without it. Flags cannot be repeated. -/
def lastPart? (level : Level) : Option (Tree × Level) :=
  match level.reversed with
  | [] | .flags _ _ :: _ => none
  | part :: reversed => some (part, { level with reversed })

end Level

/-- A group that is open. -/
structure OpenGroup where
  /-- The parenthesis. -/
  parenthesis : Span
  changes : FlagChanges
  /-- Whether white space counted for nothing outside. -/
  wasSpaced : Bool
  outside : Level

namespace Reader

/-- Sets whether white space counts for nothing. -/
def setSpaced (isSpaced : Bool) : Reader Unit := modify fun cursor => { cursor with isSpaced }

/-- Reads the mark of a repetition and, behind it, the mark that reverses its greed. -/
def repetition (level : Level) : Reader Level := do
  match level.lastPart? with
  | none => refuse .repetitionMissing (.empty (← place))
  | some (part, level) =>
    pass
    if (← peek).any (·.char == '?') then pass
    return level.add (.repetition ⟨part.span.start, ← place⟩ part)

/-- Refuses a counted repetition: for its count, or for the brace that is missing. -/
def countedRepetition (level : Level) : Reader Level := do
  let brace ← place
  if level.lastPart?.isNone then refuse .repetitionMissing (.empty brace)
  advance
  if (← peek).isNone then refuse .countUnclosed ⟨brace, ← place⟩
  let isBlank (glyph : Glyph) : Bool := Text.isBlank glyph.char
  goTo ((← get).rest.dropWhile isBlank)
  let start ← place
  let glyphs ← significant
  let digits := glyphs.takeWhile (·.char.isDigit)
  let stop ← placeOf (glyphs.drop digits.length)
  let left := (glyphs.drop digits.length).dropWhile isBlank
  if left.isEmpty then refuse .countUnclosed ⟨brace, (← get).stop⟩
  else if digits.isEmpty then refuse .countEmpty ⟨start, stop⟩
  else
    match Number.readNatural Number.max32 (String.ofList (digits.map (·.char))) with
    | .error _ => refuse .countTooLarge ⟨start, stop⟩
    | .ok _ => refuse .countUnclosed ⟨brace, ← placeOf left⟩

/-- Reads a part that has no parts of its own, its first glyph being given. -/
def primitive (glyph : Glyph) : Reader Primitive := do
  if glyph.char = '\\' then escape
  else
    pass
    if glyph.char = '.' then return .any glyph.span
    else if glyph.char = '^' ∨ glyph.char = '$' then return .assertion glyph.span false
    else return .literal ⟨glyph.span, glyph.char, false⟩

/-- Reads an opening parenthesis and what belongs to it. -/
def openGroup (level : Level) (outer : List OpenGroup) (parenthesis : Span) :
    Reader (Level × List OpenGroup) := do
  pass
  let wasSpaced := (← get).isSpaced
  match ← opening parenthesis with
  | .flags span changes =>
    setSpaced (changes.apply .ignoreBlanks wasSpaced)
    return (level.add (.flags span changes), outer)
  | .group changes =>
    setSpaced (changes.apply .ignoreBlanks wasSpaced)
    return (.startingAt (← place), ⟨parenthesis, changes, wasSpaced, level⟩ :: outer)

/-- Reads a closing parenthesis. -/
def closeGroup (level : Level) (outer : List OpenGroup) (parenthesis : Span) :
    Reader (Level × List OpenGroup) := do
  match outer with
  | [] => refuse .groupUnopened parenthesis
  | group :: outer =>
    pass
    setSpaced group.wasSpaced
    let span : Span := ⟨group.parenthesis.start, parenthesis.stop⟩
    let body := level.tree parenthesis.start
    return (group.outside.add (.group span group.changes body), outer)

/-- Reads one part, or one mark between parts. -/
def part (level : Level) (outer : List OpenGroup) (glyph : Glyph) :
    Reader (Level × List OpenGroup) := do
  let c := glyph.char
  if c = '(' then openGroup level outer glyph.span
  else if c = ')' then closeGroup level outer glyph.span
  else if c = '|' then
    pass
    return (level.nextBranch glyph.place (← place), outer)
  else if c = '[' then return (level.add (.set (← bracketed)), outer)
  else if c = '?' ∨ c = '*' ∨ c = '+' then return (← repetition level, outer)
  else if c = '\x7b' then return (← countedRepetition level, outer)
  else return (level.add (.primitive (← primitive glyph)), outer)

/-- Reads what is left of a pattern, which has at most `steps` parts. -/
def parts (level : Level) (outer : List OpenGroup) : Nat → Reader Tree
  | 0 => return level.tree (← place)
  | steps + 1 => do
    blanks
    match ← peek with
    | some glyph =>
      let (level, outer) ← part level outer glyph
      parts level outer steps
    | none =>
      match outer with
      | group :: _ => refuse .groupUnclosed group.parenthesis
      | [] => return level.tree (← place)

end Reader

/-- Reads a pattern. -/
def Tree.parse (pattern : List Char) : Except Fault Tree :=
  (Reader.parts (.startingAt .first) [] (pattern.length + 1)).run' (.start pattern)

end Sluice.Regex
