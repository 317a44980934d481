import ProverInput.Number.Notation
import ProverInput.Proofs.Number.Double

set_option autoImplicit false

/-! # Decimal notation

The number read from a decimal depends on its value and not on how many zeros stand at its end
(`ofDecimal_shift`). The decimal that is written for a whole double reads back as it
(`ofDecimal_shortest`), whether it was found on one of the grids of at most 17 digits or is the
number itself.
-/

namespace ProverInput.Number

/-! ## Digits -/

theorem digitCount_le_iff {n k : Nat} (hk : 0 < k) : digitCount n ≤ k ↔ n < 10 ^ k :=
  Nat.length_toDigits_le_iff (by norm_num) hk

theorem toDigits_mul_pow {n : Nat} (hn : 0 < n) (k : Nat) :
    Nat.toDigits 10 (n * 10 ^ k) = Nat.toDigits 10 n ++ List.replicate k '0' := by
  induction k with
  | zero => simp
  | succ k ih =>
      have hstep := Nat.toDigits_append_toDigits (b := 10) (n := n * 10 ^ k) (d := 0) (by norm_num)
        (by positivity) (by norm_num)
      rw [ih, Nat.toDigits_zero, List.append_assoc, ← List.replicate_succ'] at hstep
      rw [hstep, pow_succ]
      congr 1
      ring

theorem digitCount_mul_pow {n : Nat} (hn : 0 < n) (k : Nat) :
    digitCount (n * 10 ^ k) = digitCount n + k := by
  rw [digitCount, toDigits_mul_pow hn, List.length_append, List.length_replicate]
  rfl

/-- A positive numeral does not start with a zero. -/
theorem head?_toDigits {n : Nat} (hn : 0 < n) : (Nat.toDigits 10 n).head? ≠ some '0' := by
  induction n using Nat.strong_induction_on with
  | _ n ih =>
      rcases Nat.lt_or_ge n 10 with hlt | hge
      · rw [Nat.toDigits_of_lt_base hlt]
        interval_cases n <;> decide
      · rw [Nat.toDigits_of_base_le (by norm_num) hge,
          List.head?_append_of_ne_nil _ Nat.toDigits_ne_nil]
        exact ih (n / 10) (by omega) (by omega)

theorem all_isDigit_toDigits (n : Nat) : (Nat.toDigits 10 n).all Char.isDigit = true := by
  rw [List.all_eq_true]
  intro c hc
  exact Nat.isDigit_of_mem_toDigits (by norm_num) (by norm_num) hc

/-! ## Reading decimals -/

/-- The text of a natural big integer. -/
theorem toList_toString (n : Nat) : (toString (n : Int)).toList = Nat.toDigits 10 n := by
  show (toString n).toList = _
  rw [Nat.toString_eq_ofList_toDigits, String.toList_ofList]

theorem tens_eq (k : Int) : tens k = 10 ^ k.toNat := rfl

theorem tens_pos (k : Int) : 0 < tens k := by
  rw [tens_eq]
  positivity

/-- The number read from a decimal depends on its value alone. -/
theorem ofDecimal_shift (negative : Bool) {n : Nat} (hn : 0 < n) (j : Nat) (e : Int) :
    ofDecimal negative ⟨n * 10 ^ j, e - j⟩ = ofDecimal negative ⟨n, e⟩ := by
  have hzero : n * 10 ^ j = 0 ↔ n = 0 := by
    rw [Nat.mul_eq_zero, or_iff_left (by positivity)]
  have hmag : ((digitCount n + j : Nat) : Int) + (e - j) = digitCount n + e := by
    push_cast
    ring
  -- one of the two powers of ten grows by what the other does not shrink
  obtain ⟨c, hc⟩ : ∃ c : Nat, (-(e - j)).toNat = (-e).toNat + c ∧ j + (e - j).toNat = e.toNat + c :=
    ⟨(-(e - j)).toNat - (-e).toNat, by omega⟩
  have hden : tens (-(e - j)) = tens (-e) * 10 ^ c := by
    rw [tens_eq, tens_eq, hc.1, pow_add]
  have hnum : 10 ^ j * tens (e - j) = tens e * 10 ^ c := by
    rw [tens_eq, tens_eq, ← pow_add, hc.2, pow_add]
  have hsigned :
      (if negative then -((n * 10 ^ j : Nat) : Int) else (n * 10 ^ j : Nat)) * tens (e - j) =
        (if negative then -(n : Int) else n) * tens e * (10 ^ c : Nat) := by
    have habs : ((n * 10 ^ j : Nat) : Int) * tens (e - j) = n * tens e * (10 ^ c : Nat) := by
      rw [← Nat.cast_mul, Nat.mul_assoc, hnum]
      push_cast
      ring
    cases negative
    · simpa using habs
    · simp only [if_true, neg_mul, habs]
  unfold ofDecimal
  simp only [digitCount_mul_pow hn, hmag, hzero, hsigned, hden]
  rw [nearest_mul _ (tens_pos _) (by positivity)]

theorem ofDecimal_true (d : Decimal) : ofDecimal true d = (ofDecimal false d).neg := by
  unfold ofDecimal
  simp only [if_true, Bool.false_eq_true, if_false]
  split
  · rfl
  · split
    · rfl
    · rw [neg_mul, nearest_neg]

/-- The number of a decimal is rounded. -/
theorem rounded_ofDecimal (negative : Bool) (d : Decimal) : (ofDecimal negative d).Rounded := by
  intro n h
  unfold ofDecimal at h
  simp only at h
  split at h
  · cases h
    exact isDouble_of_le (Nat.zero_le _)
  · split at h
    · cases h
    · refine isDouble_of_nearest ?_ h
      exact Nat.pow_pos (by norm_num)

/-! ## The shortest decimal -/

theorem ofDecimal_onGrid {x : Number} {p q : Nat} {e : Int} {d : Decimal}
    (h : onGrid? x p q e = some d) : ofDecimal false d = x := by
  unfold onGrid? at h
  simp only at h
  split at h
  · rename_i hbelow habove
    split at h
    · cases h
      exact of_decide_eq_true hbelow
    · cases h
      exact of_decide_eq_true habove
  · rename_i hbelow habove
    cases h
    exact of_decide_eq_true hbelow
  · rename_i hbelow habove
    cases h
    exact of_decide_eq_true habove
  · cases h

theorem ofDecimal_zero (negative : Bool) (exponent : Int) :
    ofDecimal negative ⟨0, exponent⟩ = int 0 := by
  rw [ofDecimal]
  exact if_pos (.inl rfl)

/-- The decimal written for a number other than zero has digits. A number that is too small for any
decimal to stand for it is written as zero. -/
theorem shortest_cases {x : Number} (hx : x ≠ int 0) (p q : Nat) :
    0 < (shortest x p q).digits ∨ shortest x p q = ⟨0, 0⟩ := by
  unfold shortest
  simp only
  cases hfind : (List.range 17).findSome? fun i : Nat =>
      onGrid? x p q (decimalExponent p q - i - 1) with
  | some d =>
      obtain ⟨i, -, hi⟩ := List.exists_of_findSome?_eq_some hfind
      obtain ⟨digits, exponent⟩ := d
      left
      rw [Option.getD_some, Nat.pos_iff_ne_zero]
      rintro rfl
      exact hx (by rw [← ofDecimal_onGrid hi, ofDecimal_zero])
  | none =>
      rw [Option.getD_none]
      rcases Nat.eq_zero_or_pos (p / q) with hzero | hpos
      · rw [hzero]
        exact .inr rfl
      · exact .inl hpos

theorem digitCount_le_of_log2_lt {n : Nat} (h : n.log2 < 1024) : digitCount n ≤ 310 := by
  have hplaces : (310 : Nat) = 28 * 11 + 2 := rfl
  rw [hplaces, digitCount_le_iff (by norm_num)]
  have hsmall : (2 : Nat) ^ 93 ≤ 10 ^ 28 := by norm_num
  have hexp : n.log2 + 1 ≤ 93 * 11 + 1 := by omega
  calc n < 2 ^ (n.log2 + 1) := Nat.lt_log2_self
    _ ≤ 2 ^ (93 * 11 + 1) := pow_le_pow_right₀ one_le_two hexp
    _ = (2 ^ 93) ^ 11 * 2 := by rw [pow_succ, pow_mul]
    _ ≤ (10 ^ 28) ^ 11 * 10 ^ 2 := Nat.mul_le_mul (Nat.pow_le_pow_left hsmall 11) (by norm_num)
    _ = 10 ^ (28 * 11 + 2) := by rw [pow_add, pow_mul]

theorem ofDecimal_natCast {n : Nat} (hdouble : IsDouble (int n)) :
    ofDecimal false ⟨n, 0⟩ = int n := by
  have hcount := digitCount_le_of_log2_lt (log2_lt_of_isDouble hdouble)
  rw [Int.natAbs_natCast] at hcount
  rw [ofDecimal]
  by_cases hn : n = 0
  · simp [hn]
  · have hlow : ¬ (n = 0 ∨ (digitCount n : Int) + 0 < -400) := by omega
    have hhigh : ¬ (310 : Int) < digitCount n + 0 := by omega
    simp only
    rw [if_neg hlow, if_neg hhigh]
    simpa [tens_eq] using isDouble_int.1 hdouble

/-- The decimal written for a whole double reads back as it. -/
theorem ofDecimal_shortest {n : Nat} (hdouble : IsDouble (int n)) :
    ofDecimal false (shortest (int n) n 1) = int n := by
  unfold shortest
  simp only
  cases hfind : (List.range 17).findSome? fun i : Nat =>
      onGrid? (int n) n 1 (decimalExponent n 1 - i - 1) with
  | some d =>
      -- whatever is found on a grid was tried on the way back
      obtain ⟨i, -, hi⟩ := List.exists_of_findSome?_eq_some hfind
      exact ofDecimal_onGrid hi
  | none =>
      rw [Option.getD_none, Nat.div_one]
      exact ofDecimal_natCast hdouble

/-! ## The layout of a decimal -/

/-- The significant digits of a decimal are its digits without the zeros at their end. -/
theorem significant_spec (d : Decimal) :
    ∃ (kept : List Char) (zeros : Nat),
      significant d = (kept, kept.length + zeros + d.exponent) ∧
        Nat.toDigits 10 d.digits = kept ++ List.replicate zeros '0' := by
  set digits := Nat.toDigits 10 d.digits with hdigits
  refine ⟨(digits.reverse.dropWhile (· == '0')).reverse,
    (digits.reverse.takeWhile (· == '0')).length, ?_, ?_⟩
  · have hlen := congrArg List.length
      (List.takeWhile_append_dropWhile (p := (· == '0')) (l := digits.reverse))
    rw [List.length_append, List.length_reverse] at hlen
    unfold significant
    simp only [← hdigits, List.length_reverse, Prod.mk.injEq, true_and]
    omega
  · have hzeros : digits.reverse.takeWhile (· == '0') =
        List.replicate (digits.reverse.takeWhile (· == '0')).length '0' := by
      rw [List.eq_replicate_iff]
      refine ⟨rfl, fun c hc => ?_⟩
      simpa using List.mem_takeWhile_imp hc
    have hback := congrArg List.reverse
      (List.takeWhile_append_dropWhile (p := (· == '0')) (l := digits.reverse))
    rw [List.reverse_append, List.reverse_reverse, hzeros, List.reverse_replicate] at hback
    exact hback.symm

end ProverInput.Number
