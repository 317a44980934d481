import Mathlib
import ProverInput.Header.Check

set_option autoImplicit false

/-! # Hexadecimal digits

Hexadecimal digits are ASCII, so facts about a single digit are checked on 128 characters
(`forall_isDigit`). The case of a letter does not matter (`digit?_toLower`). A run of digits has no
prefix to lose and is lowercased digit by digit (`toList_normalize`), so the normal form of a hash is
a hash (`isHash_normalize`).

The digits of a number have the number as their value, so a numeral reads back (`integer?_numeral`),
and zeros in front of it do not show in the value (`value_replicate_append`).
-/

namespace ProverInput.Hex

/-! ## One digit -/

theorem isDigit_iff {c : Char} :
    isDigit c = true ↔ '0' ≤ c ∧ c ≤ '9' ∨ 'a' ≤ c ∧ c ≤ 'f' ∨ 'A' ≤ c ∧ c ≤ 'F' := by
  rw [isDigit, digit?]
  split_ifs <;> simp [*]

theorem toNat_lt_of_isDigit {c : Char} (h : isDigit c = true) : c.toNat < 128 := by
  by_contra hge
  have hbelow : ∀ d : Char, d.toNat < 128 → ¬ c ≤ d := by
    intro d hd hle
    have : c.toNat ≤ d.toNat := hle
    omega
  simp [isDigit, digit?, hbelow '9' (by decide), hbelow 'f' (by decide),
    hbelow 'F' (by decide)] at h

/-- What holds of the digits among the first 128 characters holds of all digits. -/
theorem forall_isDigit (P : Char → Prop)
    (h : ∀ n < 128, isDigit (Char.ofNat n) = true → P (Char.ofNat n)) {c : Char}
    (hc : isDigit c = true) : P c := by
  have hP := h c.toNat (toNat_lt_of_isDigit hc)
  rw [Char.ofNat_toNat] at hP
  exact hP hc

/-- The case of a letter does not matter. -/
theorem digit?_toLower (c : Char) : digit? c.toLower = digit? c := by
  by_cases hascii : c.toNat < 128
  · have hall : ∀ n < 128, digit? (Char.ofNat n).toLower = digit? (Char.ofNat n) := by decide
    have hc := hall c.toNat hascii
    rwa [Char.ofNat_toNat] at hc
  · have hcapital : ¬ (c.val ≥ 'A'.val ∧ c.val ≤ 'Z'.val) := by
      rintro ⟨-, hle⟩
      have hle : c.toNat ≤ 90 := hle
      omega
    rw [Char.toLower, dif_neg hcapital]

theorem isDigit_toLower (c : Char) : isDigit c.toLower = isDigit c := by
  rw [isDigit, digit?_toLower, isDigit]

/-- Decimal digits are hexadecimal ones. -/
theorem isDigit_of_decimal {c : Char} (h : c.isDigit = true) : isDigit c = true := by
  simp only [Char.isDigit, Bool.and_eq_true, decide_eq_true_eq] at h
  have hrange : '0' ≤ c ∧ c ≤ '9' := h
  simp [isDigit, digit?, hrange]

/-! ## Runs of digits -/

theorem dropMark_digits {text : List Char} (h : text.all isDigit = true) :
    dropMark text = text := by
  unfold dropMark
  split
  · rename_i rest
    simp [(by decide : isDigit 'x' = false)] at h
  · rename_i rest
    simp [(by decide : isDigit 'X' = false)] at h
  · rfl

theorem lower_digits {text : List Char} (h : text.all isDigit = true) :
    Lowercase.lower text = text.map Char.toLower := by
  have hall : ∀ c ∈ text, isDigit c = true := List.all_eq_true.1 h
  have hsigma : '\u03a3' ∉ text := by
    intro hmem
    exact absurd (hall _ hmem) (by decide)
  rw [Lowercase.lower_eq_flatMap hsigma, List.map_eq_flatMap]
  apply List.flatMap_congr
  intro c hc
  exact Lowercase.lowerChar_ascii (toNat_lt_of_isDigit (hall c hc))

theorem all_isDigit_map_toLower (text : List Char) :
    (text.map Char.toLower).all isDigit = text.all isDigit := by
  rw [List.all_map]
  exact congrArg text.all (funext isDigit_toLower)

theorem value_map_toLower (text : List Char) : value (text.map Char.toLower) = value text := by
  simp only [value, List.foldl_map, digit?_toLower]

/-- The normal form of a run of digits, which has no prefix. -/
theorem toList_normalize {s : String} (h : s.toList.all isDigit = true) :
    (normalize s).toList = s.toList.map Char.toLower := by
  rw [normalize, String.toList_ofList, dropMark_digits h, lower_digits h]

theorem all_isDigit_dropMark {text : List Char} (h : Check.isHexText text = true) :
    (dropMark text).all isDigit = true := by
  unfold Check.isHexText at h
  split at h
  · exact h
  · rwa [dropMark_digits h]

/-- The normal form of any hexadecimal text is a run of digits. -/
theorem all_isDigit_normalize {s : String} (h : Check.isHexText s.toList = true) :
    (normalize s).toList.all isDigit = true := by
  have hbody := all_isDigit_dropMark h
  rwa [normalize, String.toList_ofList, lower_digits hbody, all_isDigit_map_toLower]

theorem value_lt {text : List Char} (h : text.all isDigit = true) :
    value text < 16 ^ text.length := by
  have hfold : ∀ n, text.foldl (fun n c => n * 16 + (digit? c).getD 0) n <
      (n + 1) * 16 ^ text.length := by
    induction text with
    | nil => simp
    | cons c text ih =>
        rw [List.all_cons, Bool.and_eq_true] at h
        obtain ⟨d, hd⟩ := Option.isSome_iff_exists.1 h.1
        have hlt := digit?_lt hd
        intro n
        refine lt_of_lt_of_le (ih h.2 _) ?_
        simp only [hd, Option.getD_some, List.length_cons, pow_succ', ← Nat.mul_assoc]
        exact Nat.mul_le_mul_right _ (by omega)
  have hzero := hfold 0
  rwa [Nat.zero_add, Nat.one_mul] at hzero

/-! ## Numerals -/

theorem value_concat (text : List Char) (c : Char) :
    value (text ++ [c]) = value text * 16 + (digit? c).getD 0 := by
  rw [value, List.foldl_append]
  rfl

theorem value_toDigits (n : Nat) : value (Nat.toDigits 16 n) = n := by
  induction n using Nat.strong_induction_on with
  | _ n ih =>
      rcases lt_or_ge n 16 with hlt | hge
      · rw [Nat.toDigits_of_lt_base hlt, ← List.nil_append [n.digitChar], value_concat,
          digit?_digitChar hlt]
        exact Nat.zero_add n
      · rw [Nat.toDigits_of_base_le (by norm_num) hge, value_concat, ih (n / 16) (by omega),
          digit?_digitChar (Nat.mod_lt n (by norm_num))]
        exact Nat.div_add_mod' n 16

theorem all_isDigit_toDigits (n : Nat) : (Nat.toDigits 16 n).all isDigit = true := by
  have hdigit : ∀ d < 16, isDigit d.digitChar = true := fun d hd => by
    rw [isDigit, digit?_digitChar hd]
    rfl
  induction n using Nat.strong_induction_on with
  | _ n ih =>
      rcases lt_or_ge n 16 with hlt | hge
      · simp [Nat.toDigits_of_lt_base hlt, hdigit n hlt]
      · rw [Nat.toDigits_of_base_le (by norm_num) hge, List.all_append, ih (n / 16) (by omega)]
        simp [hdigit (n % 16) (Nat.mod_lt n (by norm_num))]

/-- Zeros in front do not change the value. -/
theorem value_replicate_append (k : Nat) (text : List Char) :
    value (List.replicate k '0' ++ text) = value text := by
  induction k with
  | zero => rfl
  | succ k ih => rw [← ih, List.replicate_succ, List.cons_append, value, List.foldl_cons]; rfl

/-- The integer of a hexadecimal numeral behind `0x`. -/
def integer? (text : String) : Option Nat :=
  match text.toList with
  | '0' :: 'x' :: digits =>
    if !digits.isEmpty && digits.all isDigit then some (value digits) else none
  | _ => none

/-- A numeral reads back as its number. -/
theorem integer?_numeral (n : Nat) : integer? (numeral n) = some n := by
  have hdigits : (!(Nat.toDigits 16 n).isEmpty && (Nat.toDigits 16 n).all isDigit) = true := by
    rw [all_isDigit_toDigits, Bool.and_true, Bool.not_eq_true', List.isEmpty_eq_false_iff]
    exact Nat.toDigits_ne_nil
  simp only [integer?, numeral, String.toList_ofList, if_pos hdigits, value_toDigits]

/-! ## Hashes -/

theorem isHash_iff {text : List Char} :
    Check.isHash text = true ↔ text.length = 64 ∧ text.all isDigit = true := by
  simp [Check.isHash]

theorem isHexText_of_digits {text : List Char} (h : text.all isDigit = true) :
    Check.isHexText text = true := by
  unfold Check.isHexText
  split
  · simp [(by decide : isDigit 'x' = false)] at h
  · exact h

theorem isHash_normalize {s : String} (h : Check.isHash s.toList = true) :
    Check.isHash (normalize s).toList = true := by
  obtain ⟨hlen, hall⟩ := isHash_iff.1 h
  rw [toList_normalize hall]
  exact isHash_iff.2 ⟨by rwa [List.length_map], by rwa [all_isDigit_map_toLower]⟩

/-- The normal form of a hash has no capitals. -/
theorem not_isUpper_normalize {s : String} (h : Check.isHash s.toList = true) :
    ∀ c ∈ (normalize s).toList, ¬ c.isUpper := by
  obtain ⟨-, hall⟩ := isHash_iff.1 h
  intro c hc
  rw [toList_normalize hall] at hc
  obtain ⟨d, hd, rfl⟩ := List.mem_map.1 hc
  exact forall_isDigit (fun d => ¬ d.toLower.isUpper) (by decide) (List.all_eq_true.1 hall d hd)

end ProverInput.Hex
