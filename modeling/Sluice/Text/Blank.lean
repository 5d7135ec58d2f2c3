/-!
# Blank characters

White space as Unicode defines it, and texts without white space around them. Settings, roles,
filters and identifiers are compared after trimming, so this is the notion of "blank" everywhere
outside the grammars that fix their own.
-/

namespace Sluice.Text

/-- Whether a character is white space. -/
def isBlank (c : Char) : Bool :=
  let code := c.toNat
  (9 ≤ code && code ≤ 13) || code == 0x20 || code == 0x85 || code == 0xa0 || code == 0x1680 ||
    (0x2000 ≤ code && code ≤ 0x200a) || code == 0x2028 || code == 0x2029 || code == 0x202f ||
    code == 0x205f || code == 0x3000

/-- A list of characters without white space at its start. -/
def trimStartChars (cs : List Char) : List Char :=
  cs.dropWhile isBlank

/-- A list of characters without white space at its end. -/
def trimEndChars (cs : List Char) : List Char :=
  (cs.reverse.dropWhile isBlank).reverse

/-- A list of characters without white space around it. -/
def trimChars (cs : List Char) : List Char :=
  trimEndChars (trimStartChars cs)

/-- A text without white space around it. -/
def trim (text : String) : String :=
  String.ofList (trimChars text.toList)

/-- Whether a text holds nothing but white space. -/
def isBlankText (text : String) : Bool :=
  text.toList.all isBlank

/-- A trimmed text, unless nothing is left of it. -/
def trimmed? (text : String) : Option String :=
  let inner := trim text
  if inner.isEmpty then none else some inner

end Sluice.Text
