import Mathlib

set_option autoImplicit false

/-! # Decimal texts

The text of a number has no zero in front that could be left out. So reading decimal digits and
writing the number again takes off the zeros in front, and nothing else
(`toDigits_ofDigitChars`).
-/

namespace ProverInput.Decimal

/-- Digits without the zeros in front. Of zeros only, one is left. -/
def trimZeros (digits : List Char) : List Char :=
  match digits.dropWhile (· = '0') with
  | [] => ['0']
  | trimmed => trimmed

theorem trimZeros_zero (digits : List Char) : trimZeros ('0' :: digits) = trimZeros digits := rfl

theorem trimZeros_cons {c : Char} (h : c ≠ '0') (digits : List Char) :
    trimZeros (c :: digits) = c :: digits := by
  simp [trimZeros, h]

/-- A decimal digit is the one its value writes. -/
theorem digit_value {c : Char} (h : c.isDigit = true) :
    c.toNat - '0'.toNat < 10 ∧ (c.toNat - '0'.toNat).digitChar = c := by
  have hbounds : 48 ≤ c.toNat ∧ c.toNat ≤ 57 := by
    simpa [Char.isDigit, UInt32.le_iff_toNat_le] using h
  have hvalue : c.toNat - '0'.toNat < 10 := by
    rw [show '0'.toNat = 48 from rfl]
    omega
  refine ⟨hvalue, Char.toNat_inj.1 ?_⟩
  rw [Nat.toNat_digitChar_of_lt_ten hvalue, show '0'.toNat = 48 from rfl]
  omega

/-- Digits that are read behind a positive number are the last digits of the result. -/
theorem toDigits_ofDigitChars_pos {digits : List Char} (hall : digits.all Char.isDigit = true)
    {n : Nat} (hn : 0 < n) :
    Nat.toDigits 10 (Nat.ofDigitChars 10 digits n) = Nat.toDigits 10 n ++ digits := by
  induction digits generalizing n with
  | nil => exact (List.append_nil _).symm
  | cons c digits ih =>
      rw [List.all_cons, Bool.and_eq_true] at hall
      obtain ⟨hlt, hchar⟩ := digit_value hall.1
      calc Nat.toDigits 10 (Nat.ofDigitChars 10 (c :: digits) n)
          = Nat.toDigits 10 (10 * n + (c.toNat - '0'.toNat)) ++ digits := by
            rw [Nat.ofDigitChars_cons, ih hall.2 (by omega)]
        _ = Nat.toDigits 10 n ++ [c] ++ digits := by
            rw [← Nat.toDigits_append_toDigits (by norm_num) hn hlt,
              Nat.toDigits_of_lt_base hlt, hchar]
        _ = Nat.toDigits 10 n ++ c :: digits := (List.append_cons _ _ _).symm

/-- Reading decimal digits and writing the number again takes off the zeros in front. -/
theorem toDigits_ofDigitChars {digits : List Char} (hall : digits.all Char.isDigit = true) :
    Nat.toDigits 10 (Nat.ofDigitChars 10 digits 0) = trimZeros digits := by
  -- zeros in front leave the number at zero, and the first other digit makes it positive
  induction digits with
  | nil => rfl
  | cons c digits ih =>
      rw [List.all_cons, Bool.and_eq_true] at hall
      obtain ⟨hlt, hchar⟩ := digit_value hall.1
      by_cases hzero : c = '0'
      · subst hzero
        rw [trimZeros_zero, ← ih hall.2]
        rfl
      · have hpos : 0 < c.toNat - '0'.toNat := by
          rw [Nat.pos_iff_ne_zero]
          intro h0
          rw [h0] at hchar
          exact hzero hchar.symm
        rw [Nat.ofDigitChars_cons, Nat.mul_zero, Nat.zero_add,
          toDigits_ofDigitChars_pos hall.2 hpos, Nat.toDigits_of_lt_base hlt, hchar,
          trimZeros_cons hzero]
        rfl

end ProverInput.Decimal
