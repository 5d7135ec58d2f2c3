import Sluice.Json.Basic
import Sluice.Number.Shortest
import Sluice.Text.Hex

/-!
# JSON text

The one text of each value: no blanks, control characters, quotes and backslashes escaped and every
other character as it is, and doubles with the fewest digits that read back.
-/

namespace Sluice.Json

/-- The form of a character within a text. -/
def escapeChar (c : Char) : List Char :=
  if c = '"' then ['\\', '"']
  else if c = '\\' then ['\\', '\\']
  else if c.toNat < 0x20 then
    if c.toNat = 8 then ['\\', 'b']
    else if c.toNat = 9 then ['\\', 't']
    else if c.toNat = 10 then ['\\', 'n']
    else if c.toNat = 12 then ['\\', 'f']
    else if c.toNat = 13 then ['\\', 'r']
    else ['\\', 'u'] ++ Text.Hex.padded 4 c.toNat
  else [c]

/-- A quoted text. -/
def quote (value : String) : List Char :=
  '"' :: value.toList.flatMap escapeChar ++ ['"']

/-- The digits of an integer, with its sign. -/
def integerText (value : Int) : List Char :=
  if value < 0 then '-' :: Number.digitsOf value.natAbs else Number.digitsOf value.natAbs

/-- A power of ten, always with a sign. -/
def powerText (power : Int) : List Char :=
  if power < 0 then integerText power else '+' :: integerText power

/-- How the text of a double is laid out: numbers below `10 ^ 16` and from `10 ^ -5` on are positional
and show a fraction, all others have one digit before the point and a power of ten. -/
def decimalText (decimal : Number.Decimal) : List Char :=
  let digits := Number.digitsOf decimal.digits
  let top : Int := digits.length + decimal.exponent
  if 0 ≤ decimal.exponent ∧ top ≤ 16 then decimal.positional ++ ['.', '0']
  else if -5 < top ∧ top ≤ 16 then decimal.positional
  else
    let mantissa :=
      match digits with
      | [] => []
      | [digit] => [digit]
      | digit :: rest => digit :: '.' :: rest
    mantissa ++ 'e' :: powerText (top - 1)

/-- The text of a double; one that is not finite has none and is written as `null`. -/
def realText : Number.Binary64 → List Char
  | .finite negative mantissa exponent =>
    let magnitude :=
      if mantissa = 0 then ['0', '.', '0']
      else decimalText (Number.shortest .even mantissa exponent)
    if negative then '-' :: magnitude else magnitude
  | _ => "null".toList

/-- The text of a number. -/
def Number.text : Json.Number → List Char
  | .integer value => integerText value
  | .real value => realText value

mutual

/-- The characters of a value's text. -/
def chars : Json → List Char
  | .null => "null".toList
  | .bool value => if value then "true".toList else "false".toList
  | .number value => value.text
  | .text value => quote value
  | .list items => '[' :: itemChars items
  | .object members => '\x7b' :: memberChars members

/-- The characters of the items of a list and of its closing bracket. -/
def itemChars : List Json → List Char
  | [] => [']']
  | [item] => chars item ++ [']']
  | item :: rest => chars item ++ ',' :: itemChars rest

/-- The characters of the members of an object and of its closing brace. -/
def memberChars : List (String × Json) → List Char
  | [] => ['\x7d']
  | [(key, value)] => quote key ++ ':' :: chars value ++ ['\x7d']
  | (key, value) :: rest => quote key ++ ':' :: chars value ++ ',' :: memberChars rest

end

mutual

/-- Writes a value's text in front of a reversed list; long lists take no more room than short ones. -/
def charsOnto (written : List Char) : Json → List Char
  | .list items => itemsOnto ('[' :: written) items
  | .object members => membersOnto ('\x7b' :: written) members
  | .null => (chars .null).reverseAux written
  | .bool value => (chars (.bool value)).reverseAux written
  | .number value => (chars (.number value)).reverseAux written
  | .text value => (chars (.text value)).reverseAux written

/-- Writes the items of a list and its closing bracket in front of a reversed list. -/
def itemsOnto (written : List Char) : List Json → List Char
  | [] => ']' :: written
  | [item] => ']' :: charsOnto written item
  | item :: rest => itemsOnto (',' :: charsOnto written item) rest

/-- Writes the members of an object and its closing brace in front of a reversed list. -/
def membersOnto (written : List Char) : List (String × Json) → List Char
  | [] => '\x7d' :: written
  | [(key, value)] => '\x7d' :: charsOnto (':' :: (quote key).reverseAux written) value
  | (key, value) :: rest =>
    membersOnto (',' :: charsOnto (':' :: (quote key).reverseAux written) value) rest

end

/-- The text of a value. -/
def render (json : Json) : String :=
  String.ofList (charsOnto [] json).reverse

/-- Objects whose members keep the order in which they are given, as text. -/
def renderInOrder (members : List (String × Json)) : String :=
  String.ofList (membersOnto ['\x7b'] members).reverse

mutual

theorem charsOnto_eq (written : List Char) :
    (json : Json) → charsOnto written json = (chars json).reverse ++ written
  | .null => by simp [charsOnto, List.reverseAux_eq]
  | .bool value => by simp [charsOnto, List.reverseAux_eq]
  | .number value => by simp [charsOnto, List.reverseAux_eq]
  | .text value => by simp [charsOnto, List.reverseAux_eq]
  | .list items => by simp [charsOnto, chars, itemsOnto_eq _ items]
  | .object members => by simp [charsOnto, chars, membersOnto_eq _ members]

theorem itemsOnto_eq (written : List Char) :
    (items : List Json) → itemsOnto written items = (itemChars items).reverse ++ written
  | [] => by simp [itemsOnto, itemChars]
  | [item] => by simp [itemsOnto, itemChars, charsOnto_eq _ item]
  | item :: next :: rest => by
    simp [itemsOnto, itemChars, charsOnto_eq _ item, itemsOnto_eq _ (next :: rest)]

theorem membersOnto_eq (written : List Char) :
    (members : List (String × Json)) →
      membersOnto written members = (memberChars members).reverse ++ written
  | [] => by simp [membersOnto, memberChars]
  | [(key, value)] => by
    simp [membersOnto, memberChars, List.reverseAux_eq, charsOnto_eq _ value]
  | (key, value) :: next :: rest => by
    simp [membersOnto, memberChars, List.reverseAux_eq, charsOnto_eq _ value,
      membersOnto_eq _ (next :: rest)]

end

/-- The text of a value has the value's characters. -/
@[simp] theorem toList_render (json : Json) : (render json).toList = chars json := by
  simp [render, charsOnto_eq]

end Sluice.Json
