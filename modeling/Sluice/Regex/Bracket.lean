import Sluice.Regex.Escape

/-!
# Sets in brackets

A set such as `[a-z_]` holds characters, ranges, classes and further sets; `&&`, `--` and `~~` combine
what stands on their left with what stands on their right. A closing bracket that comes first and
hyphens at the start stand for themselves.
-/

namespace Sluice.Regex

/-- The words that name classes within a set. -/
def classWords : List String :=
  ["alnum", "alpha", "ascii", "blank", "cntrl", "digit", "graph", "lower", "print", "punct", "space",
    "upper", "word", "xdigit"]

/-- The members that have been read since a bracket or an operation. -/
structure Gathered where
  /-- What stands on the left of an operation that awaits its right side. -/
  left : Option Members
  /-- The members so far, the last one first. -/
  reversed : List Members
  /-- Where they stand. -/
  span : Span

namespace Gathered

/-- Nothing, at a place. -/
def none (place : Place) (left : Option Members) : Gathered := ⟨left, [], .empty place⟩

/-- One more member. -/
def add (gathered : Gathered) (member : Members) : Gathered :=
  let start := if gathered.reversed.isEmpty then member.span.start else gathered.span.start
  ⟨gathered.left, member :: gathered.reversed, ⟨start, member.span.stop⟩⟩

/-- The members as one set. -/
def members (gathered : Gathered) : Members :=
  let right : Members :=
    match gathered.reversed with
    | [] => .nothing gathered.span
    | [member] => member
    | reversed => .union gathered.span reversed.reverse
  match gathered.left with
  | .none => right
  | some left => .operation ⟨left.span.start, right.span.stop⟩ left right

end Gathered

/-- A bracket that is open. -/
structure OpenBracket where
  /-- From the bracket to the place behind its mark of negation and what must stand for itself. -/
  opening : Span
  negated : Bool
  /-- What was gathered outside of the bracket. -/
  outside : Option Gathered

namespace Reader

/-- Reads hyphens at the start of a set, of which there are at most `steps`. -/
def hyphens (start : Place) (gathered : Gathered) : Nat → Reader Gathered
  | 0 => pure gathered
  | steps + 1 => do
    match ← peek with
    | some glyph =>
      if glyph.char = '-' then
        advance
        if (← peek).isNone then refuse .setUnclosed (.empty start)
        hyphens start (gathered.add (.char ⟨glyph.span, '-', false⟩)) steps
      else return gathered
    | none => return gathered

/-- Reads the start of a set at its bracket. -/
def openBracket (outside : Option Gathered) : Reader (OpenBracket × Gathered) := do
  let start ← place
  let more : Reader Unit := do
    advance
    if (← peek).isNone then refuse .setUnclosed ⟨start, ← place⟩
  more
  let negated := (← peek).any (·.char == '^')
  if negated then more
  let gathered ← hyphens start (.none (← place) none) (← get).rest.length
  let gathered ←
    match ← peek with
    | some glyph =>
      if gathered.reversed.isEmpty ∧ glyph.char = ']' then do
        more
        pure (gathered.add (.char ⟨glyph.span, ']', false⟩))
      else pure gathered
    | none => pure gathered
  return (⟨⟨start, ← place⟩, negated, outside⟩, gathered)

/-- A class named by a word, such as `[:alpha:]`, at the start of a list: whether it is negated, and
what follows. -/
def wordClass? : List Glyph → Option (Bool × List Glyph)
  | _ :: colon :: rest =>
    if colon.char ≠ ':' then none
    else
      let negated := rest.head?.any (·.char == '^')
      let rest := if negated then rest.drop 1 else rest
      let word := (rest.takeWhile (·.char ≠ ':')).map (·.char)
      match rest.drop word.length with
      | _ :: bracket :: rest =>
        if bracket.char = ']' ∧ classWords.contains (String.ofList word) then some (negated, rest)
        else none
      | _ => none
  | _ => none

/-- Reads a character or an escape, its first glyph being given. -/
def setItem (glyph : Glyph) : Reader Primitive := do
  if glyph.char = '\\' then escape
  else
    pass
    return .literal ⟨glyph.span, glyph.char, false⟩

/-- A part as a member of a set. -/
def asMember : Primitive → Reader Members
  | .literal literal => return .char literal
  | .letterClass span negated => return .letterClass span negated
  | .property span => return .property span
  | .any span | .assertion span _ => refuse .escapeWithinSet span

/-- A part as a bound of a range. -/
def asBound : Primitive → Reader Literal
  | .literal literal => return literal
  | part => refuse .boundNotCharacter part.span

/-- The character behind the one in front of the cursor. Where blanks count for nothing they are passed
over, and so is a mark for comments. -/
def following : Reader (Option Char) := do
  let cursor ← get
  let rest := cursor.rest.drop 1
  if cursor.isSpaced then
    let rest := rest.dropWhile fun glyph => Text.isBlank glyph.char
    match rest with
    | [] => return none
    | glyph :: more =>
      if glyph.char = '#' then
        return (more.dropWhile fun glyph => Text.isBlank glyph.char).head?.map (·.char)
      else return some glyph.char
  else return rest.head?.map (·.char)

/-- Reads a member of a set or a range of members, its first glyph being given. -/
def member (opening : Span) (glyph : Glyph) : Reader Members := do
  let first ← setItem glyph
  blanks
  match ← peek with
  | none => refuse .setUnclosed opening
  | some next =>
    let after ← following
    if next.char ≠ '-' ∨ after = some ']' ∨ after = some '-' then asMember first
    else
      advance
      match ← peek with
      | none => refuse .setUnclosed opening
      | some glyph =>
        let second ← setItem glyph
        let span : Span := ⟨first.span.start, second.span.stop⟩
        let low ← asBound first
        let high ← asBound second
        if high.char < low.char then refuse .boundInvalid span
        return .range span low high

/-- Whether a character is the mark of an operation when it is doubled. -/
def isOperation (c : Char) : Bool := c == '&' || c == '-' || c == '~'

/-- Reads what is left of a set within open brackets; at most `steps` parts are read. -/
def setParts (bracket : OpenBracket) (outer : List OpenBracket) (gathered : Gathered) :
    Nat → Reader Members
  | 0 => refuse .setUnclosed bracket.opening
  | steps + 1 => do
    blanks
    match ← peek with
    | none => refuse .setUnclosed bracket.opening
    | some glyph =>
      if glyph.char = '[' then
        match wordClass? (← get).rest with
        | some (negated, rest) =>
          goTo rest
          let named := Members.wordClass ⟨glyph.place, ← place⟩ negated
          setParts bracket outer (gathered.add named) steps
        | none =>
          let (inner, start) ← openBracket (some gathered)
          setParts inner (bracket :: outer) start steps
      else if glyph.char = ']' then
        pass
        let span : Span := ⟨bracket.opening.start, ← place⟩
        let closed := Members.bracketed span bracket.negated gathered.members
        match bracket.outside, outer with
        | some outside, next :: outer => setParts next outer (outside.add closed) steps
        | _, _ => return closed
      else if isOperation glyph.char && ((← get).rest[1]?.any (·.char == glyph.char)) then
        pass
        pass
        setParts bracket outer (.none (← place) (some gathered.members)) steps
      else
        let part ← member bracket.opening glyph
        setParts bracket outer (gathered.add part) steps

/-- Reads a set at its bracket. -/
def bracketed : Reader Members := do
  let (bracket, gathered) ← openBracket none
  setParts bracket [] gathered ((← get).rest.length + 1)

end Reader

end Sluice.Regex
