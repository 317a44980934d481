set_option autoImplicit false

/-! # Bytes as UTF-8 text

A character is a lead byte and up to three more bytes. The lead tells how many there are and
between which bounds the first of them must lie; the others lie between `0x80` and `0xbf`. What
fits no character is replaced: the longest part that could still have become one, or else a single
byte, counts as one replacement character.
-/

namespace ProverInput.Utf8

/-- What a lead byte calls for: the number of further bytes, the bounds of the first of them, and
the bits it gives itself. -/
structure Lead where
  count : Nat
  low : Nat
  high : Nat
  bits : Nat

def lead? (b : Nat) : Option Lead :=
  if 0xc2 ≤ b ∧ b ≤ 0xdf then some ⟨1, 0x80, 0xbf, b - 0xc0⟩
  else if 0xe0 ≤ b ∧ b ≤ 0xef then
    some ⟨2, if b = 0xe0 then 0xa0 else 0x80, if b = 0xed then 0x9f else 0xbf, b - 0xe0⟩
  else if 0xf0 ≤ b ∧ b ≤ 0xf4 then
    some ⟨3, if b = 0xf0 then 0x90 else 0x80, if b = 0xf4 then 0x8f else 0xbf, b - 0xf0⟩
  else none

/-- The characters of a text, where `lead` is what is open so far. -/
def decodeFrom : Option Lead → List UInt8 → List Char
  | none, [] => []
  | some _, [] => ['\ufffd']
  | none, b :: rest =>
    if b < 0x80 then Char.ofNat b.toNat :: decodeFrom none rest
    else match lead? b.toNat with
      | some lead => decodeFrom (some lead) rest
      | none => '\ufffd' :: decodeFrom none rest
  | some lead, b :: rest =>
    if lead.low ≤ b.toNat ∧ b.toNat ≤ lead.high then
      let bits := lead.bits * 0x40 + b.toNat % 0x40
      if lead.count ≤ 1 then Char.ofNat bits :: decodeFrom none rest
      else decodeFrom (some ⟨lead.count - 1, 0x80, 0xbf, bits⟩) rest
    else if b < 0x80 then '\ufffd' :: Char.ofNat b.toNat :: decodeFrom none rest
    else match lead? b.toNat with
      | some lead => '\ufffd' :: decodeFrom (some lead) rest
      | none => '\ufffd' :: '\ufffd' :: decodeFrom none rest

/-- The text of bytes. -/
def decode (bytes : List UInt8) : List Char := decodeFrom none bytes

/-- The bytes of a character. -/
def encodeChar (c : Char) : List UInt8 := (String.utf8EncodeChar c)

/-- The bytes of a text. -/
def encode (text : List Char) : List UInt8 := text.flatMap encodeChar

theorem decode_ascii {bytes : List UInt8} (h : ∀ b ∈ bytes, b < 0x80) :
    decode bytes = bytes.map fun b => Char.ofNat b.toNat := by
  unfold decode
  induction bytes with
  | nil => rfl
  | cons b rest ih =>
    rw [decodeFrom, if_pos (h b List.mem_cons_self), List.map_cons,
      ih fun c hc => h c (List.mem_cons_of_mem b hc)]

example : decode [0x61, 0xc3, 0xa9, 0xf0, 0x9f, 0x98, 0x80, 0xe2, 0x82, 0x28] =
    ['a', 'é', '😀', '\ufffd', '('] := by decide +kernel

end ProverInput.Utf8
