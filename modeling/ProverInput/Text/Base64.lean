import ProverInput.Text.Units

set_option autoImplicit false

/-! # Base64 text

Four digits of six bits each are three bytes. Digits of the common and of the URL alphabet are
taken, other characters are passed over, and the first `=` ends the text. Bits that make no whole
byte at the end are dropped. A character counts as what the low bytes of its units say.
-/

namespace ProverInput.Base64

/-- The value of a digit. -/
def digit? (c : Char) : Option Nat :=
  if 'A' ≤ c ∧ c ≤ 'Z' then some (c.toNat - 65)
  else if 'a' ≤ c ∧ c ≤ 'z' then some (c.toNat - 71)
  else if '0' ≤ c ∧ c ≤ '9' then some (c.toNat + 4)
  else if c = '+' ∨ c = '-' then some 62
  else if c = '/' ∨ c = '_' then some 63
  else none

/-- The bytes of digits. -/
def ofDigits : List Nat → List UInt8
  | a :: b :: c :: d :: rest =>
    (a * 4 + b / 16).toUInt8 :: (b * 16 + c / 4).toUInt8 :: (c * 64 + d).toUInt8 :: ofDigits rest
  | [a, b, c] => [(a * 4 + b / 16).toUInt8, (b * 16 + c / 4).toUInt8]
  | [a, b] => [(a * 4 + b / 16).toUInt8]
  | _ => []

/-- The bytes of a text. -/
def bytes (text : List Char) : List UInt8 :=
  let low := (Units.ofText text).map fun unit => Char.ofNat (unit % 0x100)
  ofDigits ((low.takeWhile (· ≠ '=')).filterMap digit?)

example : bytes "TWFu IQ==".toList = [77, 97, 110, 33] := by decide +kernel

end ProverInput.Base64
