set_option autoImplicit false

/-! # Blank characters

The blank characters of Unicode: tab to carriage return, the space separators, the two separators
of lines and paragraphs, and the byte-order mark. Everything core calls whitespace is blank
(`isBlank_of_isWhitespace`).
-/

namespace ProverInput.Blank

def isBlank (c : Char) : Bool :=
  (9 ≤ c.toNat && c.toNat ≤ 13) || c.toNat == 0x20 || c.toNat == 0xa0 || c.toNat == 0x1680 ||
  (0x2000 ≤ c.toNat && c.toNat ≤ 0x200a) || c.toNat == 0x2028 || c.toNat == 0x2029 ||
  c.toNat == 0x202f || c.toNat == 0x205f || c.toNat == 0x3000 || c.toNat == 0xfeff

/-- The characters that end a line. -/
def endsLine (c : Char) : Bool :=
  c = '\n' || c = '\r' || c.toNat == 0x2028 || c.toNat == 0x2029

theorem isBlank_of_isWhitespace {c : Char} (h : c.isWhitespace = true) : isBlank c = true := by
  simp only [Char.isWhitespace, Bool.or_eq_true, decide_eq_true_eq] at h
  rcases h with ((h | h) | h) | h <;> subst h <;> decide

/-- The text without blanks at its end. -/
def trimEnd (text : List Char) : List Char := (text.reverse.dropWhile isBlank).reverse

/-- The text without blanks at either end. -/
def trim (text : List Char) : List Char := trimEnd (text.dropWhile isBlank)

end ProverInput.Blank
