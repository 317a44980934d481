set_option autoImplicit false

/-! # Text in UTF-16 units

A character of the first plane is one unit of 16 bits, and any other is two, a pair of surrogates.
Documents can hold a surrogate without its partner, which is no character. Texts write it as two
characters, a mark and a private character that tells which surrogate it is, and they write the
mark itself twice. `pieces` takes a text apart into characters and lone surrogates.

Text from outside is `held` this way and read back as `plain` text, in which a lone surrogate has
become the replacement character. Nothing else changes on the way (`plain_held`).
-/

namespace ProverInput.Units

/-! ## Lone surrogates -/

/-- What stands in front of the character for a lone surrogate. It is no character of any text
that is exchanged, only of texts inside a program. -/
def mark : Char := '\ufdd0'

/-- The private character for a surrogate. -/
def stand (surrogate : Nat) : Char := Char.ofNat (surrogate + 0x800)

/-- The surrogate a private character stands for. -/
def surrogate? (c : Char) : Option Nat :=
  if 0xe000 ≤ c.toNat ∧ c.toNat < 0xe800 then some (c.toNat - 0x800) else none

theorem toNat_ofNat {n : Nat} (h : n.isValidChar) : (Char.ofNat n).toNat = n :=
  congrArg Char.toNat (dif_pos h)

theorem surrogate?_stand {u : Nat} (h : 0xd800 ≤ u) (h' : u < 0xe000) :
    surrogate? (stand u) = some u := by
  have hv : (u + 0x800).isValidChar := Or.inr ⟨by omega, by omega⟩
  have hn : (stand u).toNat = u + 0x800 := toNat_ofNat hv
  have hb : 0xe000 ≤ (stand u).toNat ∧ (stand u).toNat < 0xe800 := by omega
  have hs : (stand u).toNat - 0x800 = u := by omega
  exact (if_pos hb).trans (congrArg some hs)

/-! ## Pieces of a text -/

/-- A character or a surrogate without its partner. -/
inductive Piece where
  | char (c : Char)
  | lone (surrogate : Nat)
deriving DecidableEq, Repr

/-- The pieces a text is written for. -/
def pieces : List Char → List Piece
  | [] => []
  | [c] => [.char c]
  | c :: d :: rest =>
    if c = mark then ((surrogate? d).elim (.char d) .lone) :: pieces rest
    else .char c :: pieces (d :: rest)

namespace Piece

/-- How a text writes a piece. -/
def written : Piece → List Char
  | char c => if c = mark then [mark, mark] else [c]
  | lone u => [mark, stand u]

/-- The piece as a character. -/
def plain : Piece → Char
  | char c => c
  | lone _ => '\ufffd'

/-- The units of a piece. -/
def units : Piece → List Nat
  | char c =>
    if c.toNat < 0x10000 then [c.toNat]
    else [0xd800 + (c.toNat - 0x10000) / 0x400, 0xdc00 + (c.toNat - 0x10000) % 0x400]
  | lone u => [u]

end Piece

/-! ## Texts -/

/-- The text for characters. -/
def held (chars : List Char) : List Char := chars.flatMap fun c => (Piece.char c).written

/-- The characters of a text. -/
def plain (text : List Char) : List Char := (pieces text).map Piece.plain

/-- A text from outside. -/
def ofPlain (text : String) : String := String.ofList (held text.toList)

/-- A text as it goes out. -/
def toPlain (text : String) : String := String.ofList (plain text.toList)

/-- The text with every lone surrogate replaced. -/
def mended (text : String) : String := ofPlain (toPlain text)

/-- The units of a text. -/
def ofText (text : List Char) : List Nat := (pieces text).flatMap Piece.units

/-- The character of a pair of surrogates. -/
def pair (high low : Nat) : Char := Char.ofNat (0x10000 + (high - 0xd800) * 0x400 + (low - 0xdc00))

theorem pieces_held (chars : List Char) : pieces (held chars) = chars.map .char := by
  induction chars with
  | nil => rfl
  | cons c rest ih =>
    rw [held, List.flatMap_cons, Piece.written]
    change pieces ((if c = mark then [mark, mark] else [c]) ++ held rest) = _
    by_cases h : c = mark
    · subst h
      rw [if_pos rfl]
      change pieces (mark :: mark :: held rest) = _
      rw [pieces, if_pos rfl, ih]
      rfl
    · rw [if_neg h]
      change pieces (c :: held rest) = _
      rw [List.map_cons, ← ih]
      cases held rest with
      | nil => rfl
      | cons d more => rw [pieces, if_neg h]

theorem plain_held (chars : List Char) : plain (held chars) = chars := by
  rw [plain, pieces_held, List.map_map]
  exact List.map_id chars

example : ofText (held "aé😀".toList) = [0x61, 0xe9, 0xd83d, 0xde00] := by decide +kernel
example : pair 0xd83d 0xde00 = '😀' := by decide +kernel

end ProverInput.Units
