/-!
# Places in a pattern

A place is a line and a column, both counted from one. A pattern is read as a list of glyphs, which
are its characters with their places, so whatever is read of it knows where it stands.
-/

namespace Sluice.Regex

/-- A place in a pattern. -/
structure Place where
  line : Nat
  column : Nat
  deriving Repr, DecidableEq

namespace Place

/-- The place at the start of a pattern. -/
def first : Place := ⟨1, 1⟩

/-- The place behind a character. -/
def past (place : Place) (c : Char) : Place :=
  if c = '\n' then ⟨place.line + 1, 1⟩ else ⟨place.line, place.column + 1⟩

/-- Whether a place lies in front of another. -/
def isBefore (place other : Place) : Bool :=
  place.line < other.line || (place.line == other.line && place.column < other.column)

end Place

/-- A part of a pattern, from its first place to the place behind it. -/
structure Span where
  start : Place
  stop : Place
  deriving Repr, DecidableEq

namespace Span

/-- The empty part at a place. -/
def empty (place : Place) : Span := ⟨place, place⟩

/-- Whether a part ends on the line on which it begins. -/
def isOnOneLine (span : Span) : Bool := span.start.line == span.stop.line

/-- Whether a part comes first: it begins earlier, or at the same place and ends earlier. -/
def isBefore (span other : Span) : Bool :=
  span.start.isBefore other.start ||
    (span.start == other.start && span.stop.isBefore other.stop)

end Span

/-- A character of a pattern and its place. -/
structure Glyph where
  char : Char
  place : Place
  deriving Repr, DecidableEq

/-- The part of the pattern that a glyph takes up. -/
def Glyph.span (glyph : Glyph) : Span := ⟨glyph.place, glyph.place.past glyph.char⟩

/-- The glyphs of a list of characters that begins at a place. -/
def glyphsFrom (place : Place) : List Char → List Glyph
  | [] => []
  | c :: rest => ⟨c, place⟩ :: glyphsFrom (place.past c) rest

/-- The place behind a list of characters that begins at a place. -/
def stopFrom (place : Place) (cs : List Char) : Place :=
  cs.foldl Place.past place

end Sluice.Regex
