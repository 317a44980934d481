import ProverInput.Field.Untagged
import ProverInput.Proofs.Outcome
import ProverInput.Proofs.Text.Digits

set_option autoImplicit false

/-! # The forms of texts

A text is a digest, an integer or a byte string by its form, in this order, or else it has no
reading and is complained of in one of two ways (`badText?`).
-/

namespace ProverInput.Untagged

/-- A text that is read as an integer and not as a digest. -/
def ReadsAsInteger (s : String) : Prop :=
  s.toList ≠ [] ∧ s.toList.all Char.isDigit = true ∧ s.toList.length ≠ 64

instance (s : String) : Decidable (ReadsAsInteger s) :=
  inferInstanceAs (Decidable (_ ∧ _ ∧ _))

/-- A text that is read as a byte string: an even number of hexadecimal digits behind `0x`. -/
def ReadsAsBytes (s : String) : Prop := ∃ digits, s.toList = '0' :: 'x' :: digits ∧
  digits.length % 2 = 0 ∧ digits.all Hex.isDigit = true

/-- The complaint about a text that has none of the forms. -/
def badText? (s : String) : Option ConversionError :=
  if Check.isHash s.toList ∨ ReadsAsInteger s then none
  else match s.toList with
    | '0' :: 'x' :: digits => if Hex.isBody digits then none else some (.notHex s)
    | _ => some (.unexpectedString s)

theorem textField_hash {s : String} (h : Check.isHash s.toList = true) :
    textField s = .ok (.digest s) := by
  rw [Hex.isHash_iff] at h
  rw [textField, if_pos h]

theorem textField_integer {s : String} (h : ReadsAsInteger s) :
    textField s = .ok (.u256 (Nat.ofDigitChars 10 s.toList 0)) := by
  have hlength : ¬ (s.toList.length = 64 ∧ s.toList.all Hex.isDigit = true) := fun hh => h.2.2 hh.1
  rw [textField, if_neg hlength, if_pos ⟨h.1, h.2.1⟩]

/-- A text that is neither a digest nor an integer is a byte string if its digits are. -/
theorem textField_other {s : String}
    (h : ¬ (Check.isHash s.toList = true ∨ ReadsAsInteger s)) :
    textField s = match s.toList with
      | '0' :: 'x' :: _ => Field.byteArrayOf s
      | _ => .error (.unexpectedString s) := by
  obtain ⟨hhash, hinteger⟩ := not_or.1 h
  rw [Hex.isHash_iff] at hhash
  have hdecimal : ¬ (s.toList ≠ [] ∧ s.toList.all Char.isDigit = true) := by
    rintro ⟨hne, hall⟩
    refine hinteger ⟨hne, hall, fun hlength => hhash ⟨hlength, ?_⟩⟩
    exact List.all_eq_true.2 fun c hc => Hex.isDigit_of_decimal (List.all_eq_true.1 hall c hc)
  rw [textField]
  exact (if_neg hhash).trans (if_neg hdecimal)

theorem error?_read {hex : String} {digits : List Char} (h : Hex.dropMark hex.toList = digits) :
    error? (Hex.read hex) = if Hex.isBody digits then none else some (.notHex hex) := by
  rw [Hex.read, h]
  cases hbytes : Hex.bytes? digits with
  | none =>
      rw [Hex.bytes?_eq_none_iff] at hbytes
      simp [hbytes]
  | some bytes =>
      have hbody : Hex.isBody digits = true := by
        rw [← Bool.not_eq_false, ← Hex.bytes?_eq_none_iff, hbytes]
        simp
      simp [hbody]

theorem error?_textField (s : String) : error? (textField s) = badText? s := by
  rw [badText?]
  by_cases hform : Check.isHash s.toList = true ∨ ReadsAsInteger s
  · rw [if_pos hform]
    rcases hform with hhash | hinteger
    · rw [textField_hash hhash, error?_ok]
    · rw [textField_integer hinteger, error?_ok]
  · rw [if_neg hform, textField_other hform]
    split
    case h_1 digits heq =>
      rw [Field.byteArrayOf, error?_map]
      exact error?_read (by rw [heq, Hex.dropMark])
    case h_2 => rfl

/-- The texts that have a reading. -/
theorem badText?_eq_none_iff {s : String} :
    badText? s = none ↔ Check.isHash s.toList = true ∨ ReadsAsInteger s ∨ ReadsAsBytes s := by
  rw [badText?, ← or_assoc]
  by_cases hform : Check.isHash s.toList = true ∨ ReadsAsInteger s
  · simp [hform]
  · rw [if_neg hform, or_iff_right hform]
    split
    case h_1 digits heq =>
      simp [ReadsAsBytes, heq, Hex.isBody]
    case h_2 hother =>
      simp only [reduceCtorEq, false_iff]
      rintro ⟨digits, heq, -⟩
      exact hother digits heq

theorem textField_digits {s : String} (hall : s.toList.all Hex.isDigit = true) {field : Field}
    (h : textField s = .ok field) : Check.isHash s.toList = true ∨ ReadsAsInteger s := by
  have hform : badText? s = none := by rw [← error?_textField, h, error?_ok]
  rw [badText?_eq_none_iff, ← or_assoc] at hform
  refine hform.resolve_right ?_
  -- digits have no prefix
  rintro ⟨digits, heq, -⟩
  rw [heq] at hall
  simp [(by decide : Hex.isDigit 'x' = false)] at hall

end ProverInput.Untagged
