import Sluice.Regex.Fault
import Sluice.Regex.Tree
import Sluice.Text.Alphanumeric
import Sluice.Text.Blank

/-!
# Reading a pattern

A reader takes glyphs from a cursor and yields a part of the pattern or refuses it. A flag of the
pattern lets white space and comments stand between its parts, so most readers pass these over behind
each glyph.

A pattern is cut from a longer text at commas, equals signs and closing braces, so none of these occurs
in it. Hence what an opening brace begins is never closed, and the readers say so.
-/

namespace Sluice.Regex

/-- What is left of a pattern, and what the part before it has settled. -/
structure Cursor where
  rest : List Glyph
  /-- The place behind the pattern. -/
  stop : Place
  /-- Whether white space and comments count for nothing. -/
  isSpaced : Bool
  /-- The names of groups so far and where they stand. -/
  names : List (List Char × Span)
  deriving Repr

/-- The cursor at the start of a pattern. -/
def Cursor.start (pattern : List Char) : Cursor :=
  ⟨glyphsFrom .first pattern, stopFrom .first pattern, false, []⟩

/-- The place of the cursor. -/
def Cursor.place (cursor : Cursor) : Place :=
  match cursor.rest with
  | [] => cursor.stop
  | glyph :: _ => glyph.place

/-- A reader of parts of a kind. -/
abbrev Reader (α : Type) := StateT Cursor (Except Fault) α

namespace Reader

/-- Refuses a part of the pattern. -/
def refuse {α : Type} (cause : Cause) (span : Span) : Reader α := fun _ =>
  .error ⟨cause, span, none⟩

/-- Refuses a part of the pattern for an earlier one. -/
def refuseAfter {α : Type} (cause : Cause) (span earlier : Span) : Reader α := fun _ =>
  .error ⟨cause, span, some earlier⟩

/-- The place of the cursor. -/
def place : Reader Place := return (← get).place

/-- The glyph in front of the cursor. -/
def peek : Reader (Option Glyph) := return (← get).rest.head?

/-- Moves the cursor to a later part of the pattern. -/
def goTo (rest : List Glyph) : Reader Unit := modify fun cursor => { cursor with rest }

/-- Passes the glyph in front of the cursor. -/
def pass : Reader Unit := modify fun cursor => { cursor with rest := cursor.rest.drop 1 }

/-- The glyphs after the white space and comments at the start of a list. -/
def dropBlanks (isComment : Bool) : List Glyph → List Glyph
  | [] => []
  | glyph :: rest =>
    if isComment then dropBlanks (glyph.char ≠ '\n') rest
    else if Text.isBlank glyph.char then dropBlanks false rest
    else if glyph.char = '#' then dropBlanks true rest
    else glyph :: rest

/-- The glyphs of a list that are neither white space nor in a comment. -/
def withoutBlanks (isComment : Bool) : List Glyph → List Glyph
  | [] => []
  | glyph :: rest =>
    if isComment then withoutBlanks (glyph.char ≠ '\n') rest
    else if Text.isBlank glyph.char then withoutBlanks false rest
    else if glyph.char = '#' then withoutBlanks true rest
    else glyph :: withoutBlanks false rest

/-- Passes white space and comments, where these count for nothing. -/
def blanks : Reader Unit := modify fun cursor =>
  if cursor.isSpaced then { cursor with rest := dropBlanks false cursor.rest } else cursor

/-- Passes the glyph in front of the cursor and what counts for nothing behind it. -/
def advance : Reader Unit := do
  pass
  blanks

/-- The glyphs in front of the cursor that count. -/
def significant : Reader (List Glyph) := do
  let cursor ← get
  return if cursor.isSpaced then withoutBlanks false cursor.rest else cursor.rest

/-- The place at which a rest of the pattern begins. -/
def placeOf (rest : List Glyph) : Reader Place :=
  return { ← get with rest }.place

end Reader

end Sluice.Regex
