import ProverInput.Text.Hex
import ProverInput.Text.Utf8

set_option autoImplicit false

/-! # Percent codes

A percent sign and two hexadecimal digits stand for a byte of UTF-8 text. A percent sign without
digits stands for itself.
-/

namespace ProverInput.PercentCode

/-- The code of a byte. -/
def code (b : UInt8) : List Char :=
  ['%', (b.toNat / 16).digitChar.toUpper, (b.toNat % 16).digitChar.toUpper]

/-- A text with codes in place of certain characters. -/
def encode (isCoded : Char → Bool) (text : List Char) : List Char :=
  text.flatMap fun c => if isCoded c then (Utf8.encodeChar c).flatMap code else [c]

/-- The bytes of a text with codes. -/
def bytes : List Char → List UInt8
  | '%' :: a :: b :: rest =>
    match Hex.digit? a, Hex.digit? b with
    | some h, some l => (h * 16 + l).toUInt8 :: bytes rest
    | _, _ => 0x25 :: bytes (a :: b :: rest)
  | c :: rest => Utf8.encodeChar c ++ bytes rest
  | [] => []
termination_by text => text.length

/-- The text of a text with codes. -/
def decode (text : List Char) : List Char := Utf8.decode (bytes text)

example : decode "a%c3%A9%zz".toList = "aé%zz".toList := by decide +kernel

end ProverInput.PercentCode
