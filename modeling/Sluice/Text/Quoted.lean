import Sluice.Text.Hex
import Sluice.Text.Printable

/-!
# Quoted texts

The quoted form of a text in diagnostics: between double quotes, with escapes for quotes,
backslashes, control characters, characters without a visible form and characters that would attach
themselves to the quote before them.
-/

namespace Sluice.Text.Quoted

/-- The form of one character between the quotes. -/
def escapeChar (c : Char) : List Char :=
  match c with
  | '\x00' => ['\\', '0']
  | '\t' => ['\\', 't']
  | '\n' => ['\\', 'n']
  | '\r' => ['\\', 'r']
  | '"' => ['\\', '"']
  | '\\' => ['\\', '\\']
  | _ =>
    if isExtending c || !isPrintable c then
      ['\\', 'u', '\x7b'] ++ Hex.padded 1 c.toNat ++ ['\x7d']
    else [c]

/-- The quoted form of a text. -/
def quote (text : String) : String :=
  String.ofList ('"' :: text.toList.flatMap escapeChar ++ ['"'])

end Sluice.Text.Quoted
