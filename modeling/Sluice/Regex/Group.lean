import Sluice.Regex.Cursor

/-!
# The start of a group

What stands behind an opening parenthesis: a name, changes of flags for the group or from there on, or
nothing of that kind.
-/

namespace Sluice.Regex

/-- What an opening parenthesis begins. -/
inductive Opening where
  /-- Changes of flags from here on, closed already. -/
  | flags (span : Span) (changes : FlagChanges)
  /-- A group, with changes of flags within it. -/
  | group (changes : FlagChanges)

/-- Whether a character may stand in the name of a group. -/
def isNameChar (isFirst : Bool) (c : Char) : Bool :=
  c == '_' ||
    if isFirst then Text.isAlphabetic c
    else c == '.' || c == '[' || c == ']' || Text.isAlphanumeric c

/-- The first glyph that may not stand in a name. -/
def wrongNameGlyph? : List Glyph → Option Glyph
  | [] => none
  | first :: rest =>
    if isNameChar true first.char then rest.find? (!isNameChar false ·.char) else some first

namespace Reader

/-- Reads the name of a group up to its closing mark. No two groups have one name. -/
def groupName : Reader Unit := do
  let cursor ← get
  let start := cursor.place
  let name := cursor.rest.takeWhile (·.char ≠ '>')
  let rest := cursor.rest.drop name.length
  if let some glyph := wrongNameGlyph? name then refuse .groupNameInvalid glyph.span
  else if rest.isEmpty then refuse .groupNameUnclosed (.empty cursor.stop)
  else if name.isEmpty then refuse .groupNameEmpty (.empty start)
  else
    let span : Span := ⟨start, ← placeOf rest⟩
    let text := name.map (·.char)
    match cursor.names.lookup text with
    | some earlier => refuseAfter .groupNameDuplicate span earlier
    | none => set { cursor with rest := rest.drop 1, names := (text, span) :: cursor.names }

/-- Reads changes of flags up to the mark that ends them. `seen` holds the flags so far with their
places, `negation` the place of the mark of negation, and `isDangling` tells whether that came last. -/
def flagChanges (stop : Place) (seen : List (Flag × Bool × Span)) (negation : Option Span)
    (isDangling : Bool) : List Glyph → Reader (FlagChanges × List Glyph)
  | [] => refuse .flagMissing (.empty stop)
  | glyph :: rest =>
    let span := glyph.span
    if glyph.char = ':' ∨ glyph.char = ')' then
      match isDangling, negation with
      | true, some span => refuse .negationDangling span
      | _, _ => return (seen.reverse.map fun (flag, isOn, _) => (flag, isOn), glyph :: rest)
    else if glyph.char = '-' then
      match negation with
      | some earlier => refuseAfter .negationDuplicate span earlier
      | none => flagChanges stop seen (some span) true rest
    else
      match Flag.ofLetter? glyph.char with
      | none => refuse .flagUnknown span
      | some flag =>
        match seen.lookup flag with
        | some (_, earlier) => refuseAfter .flagDuplicate span earlier
        | none => flagChanges stop ((flag, negation.isNone, span) :: seen) negation false rest

/-- Whether the next glyphs are those of a text; if so, they are passed. -/
def passText (text : String) : Reader Bool := do
  let cs := text.toList
  let rest := (← get).rest
  if (rest.take cs.length).map (·.char) = cs then
    goTo (rest.drop cs.length)
    return true
  else return false

/-- Whether a mark for looking ahead or behind is in front of the cursor; if so, it is passed. -/
def passLookAround : Reader Bool := do
  if ← passText "?!" then return true else passText "?<!"

/-- Reads changes of flags behind the mark for them. `opening` is the parenthesis, and `mark` the place
of the mark. -/
def flagsOpening (opening : Span) (mark : Place) : Reader Opening := do
  let cursor ← get
  if cursor.rest.isEmpty then refuse .groupUnclosed opening
  let (changes, rest) ← flagChanges cursor.stop [] none false cursor.rest
  goTo rest
  let isClosed := (← peek).any (·.char == ')')
  pass
  if !isClosed then return .group changes
  else if changes.isEmpty then refuse .repetitionMissing (.empty mark)
  else return .flags ⟨opening.start, ← place⟩ changes

/-- Reads the start of a group behind its parenthesis, which is given. -/
def opening (parenthesis : Span) : Reader Opening := do
  blanks
  if ← passLookAround then refuse .lookAround ⟨parenthesis.start, ← place⟩
  let mark ← place
  if ← passText "?P<" then
    groupName
    return .group []
  else if ← passText "?<" then
    groupName
    return .group []
  else if ← passText "?" then flagsOpening parenthesis mark
  else return .group []

end Reader

end Sluice.Regex
