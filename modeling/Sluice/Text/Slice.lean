/-!
# Parts of a text between places

A place in a text is the number of bytes before it. A part can be cut out only where characters begin
and end; a place within a character cuts nothing.
-/

namespace Sluice.Text

/-- What follows the first bytes of a text, unless these end within a character or the text does not
have as many. -/
def dropBytes? : Nat → List Char → Option (List Char)
  | 0, cs => some cs
  | _ + 1, [] => none
  | bytes + 1, c :: rest =>
    if c.utf8Size ≤ bytes + 1 then dropBytes? (bytes + 1 - c.utf8Size) rest else none

/-- The first bytes of a text, unless these end within a character or the text does not have as
many. -/
def takeBytes? : Nat → List Char → Option (List Char)
  | 0, _ => some []
  | _ + 1, [] => none
  | bytes + 1, c :: rest =>
    if c.utf8Size ≤ bytes + 1 then (takeBytes? (bytes + 1 - c.utf8Size) rest).map (c :: ·) else none

/-- The part of a text from one place to another. -/
def slice? (start stop : Nat) (cs : List Char) : Option (List Char) :=
  (takeBytes? stop cs).bind (dropBytes? start)

end Sluice.Text
