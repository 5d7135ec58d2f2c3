import Sluice.Text.Hex

/-!
# Percent escapes

A byte may be written as a percent sign and two digits to base sixteen. A percent sign without two
such digits behind it stands for itself, so reading never fails.
-/

namespace Sluice.Text.Percent

/-- Decodes onto a reversed list of bytes. -/
def decodeOnto (read : List UInt8) : List UInt8 → List UInt8
  | [] => read.reverse
  | [a] => (a :: read).reverse
  | [a, b] => (b :: a :: read).reverse
  | a :: b :: c :: rest =>
    if a = 0x25 then
      match Hex.byte? b c with
      | some byte => decodeOnto (byte :: read) rest
      | none => decodeOnto (a :: read) (b :: c :: rest)
    else decodeOnto (a :: read) (b :: c :: rest)

/-- The bytes with every escape replaced by the byte it stands for. -/
def decode (bytes : List UInt8) : List UInt8 :=
  decodeOnto [] bytes

/-- The escape of one byte. -/
def encodeByte (byte : UInt8) : List UInt8 :=
  [0x25, Hex.digit (byte.toNat / 16), Hex.digit (byte.toNat % 16)]

/-- The escapes of all bytes. -/
def encode (bytes : List UInt8) : List UInt8 :=
  bytes.flatMap encodeByte

end Sluice.Text.Percent
