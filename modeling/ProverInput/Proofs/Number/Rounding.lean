import Mathlib
import ProverInput.Number.Arithmetic

set_option autoImplicit false

/-! # Rounding a quotient

`nearest p q` rounds `p / q` to 53 binary places, counted from its leading place. The leading
place is a logarithm (`binaryExponent_eq_log`), so it depends on the value of the quotient alone,
and so does the number it is rounded to (`nearest_mul`). Rounding is the same on both sides of
zero (`nearest_neg`), and for a numerator below `2 ^ 53` it never carries a quotient to the next
whole number (`floor_nearest`).
-/

namespace ProverInput.Number

/-! ## Numbers over powers of two -/

theorem floor_dyadic (m : Int) (k : Nat) : (dyadic m k).floor = int (m / 2 ^ k) := by
  induction k generalizing m with
  | zero => simp [dyadic, floor]
  | succ k ih =>
      rw [dyadic]
      split
      · rw [floor, Int.shiftRight_eq_div_pow]
        rfl
      · rw [ih, pow_succ', Int.ediv_ediv_of_nonneg (by norm_num)]

theorem ceil_dyadic (m : Int) (k : Nat) : (dyadic m k).ceil = int (-(-m / 2 ^ k)) := by
  induction k generalizing m with
  | zero => simp [dyadic, ceil]
  | succ k ih =>
      rw [dyadic]
      split
      · rename_i hodd
        -- an odd numerator is no multiple of the denominator
        have hnot : ¬ (2 : Int) ^ (k + 1) ∣ m := by
          intro hdvd
          have := dvd_trans (dvd_pow_self 2 (Nat.succ_ne_zero k)) hdvd
          omega
        have hsign : ((2 : Int) ^ (k + 1)).sign = 1 := Int.sign_eq_one_of_pos (by positivity)
        rw [ceil, Int.shiftRight_eq_div_pow, Int.neg_ediv, if_neg hnot, hsign]
        congr 1
        push_cast
        ring
      · rename_i heven
        have hhalf : -m / 2 = -(m / 2) := by omega
        rw [ih, pow_succ', ← Int.ediv_ediv_of_nonneg (by norm_num), hhalf]

/-- Twos that the numerator and the denominator share cancel. -/
theorem dyadic_mul_pow (m : Int) (k j : Nat) : dyadic (m * 2 ^ j) (k + j) = dyadic m k := by
  induction j with
  | zero => simp
  | succ j ih =>
      have heven : ¬ (m * 2 ^ (j + 1)) % 2 = 1 := by
        rw [pow_succ, ← mul_assoc, Int.mul_emod_left]
        norm_num
      have hhalf : m * 2 ^ (j + 1) / 2 = m * 2 ^ j := by
        rw [pow_succ, ← mul_assoc, Int.mul_ediv_cancel _ (by norm_num)]
      rw [← Nat.add_assoc, dyadic, dif_neg heven, hhalf, ih]

theorem dyadic_eq_int {m n : Int} {k : Nat} (h : dyadic m k = int n) : m = n * 2 ^ k := by
  induction k generalizing m with
  | zero => simpa [dyadic] using h
  | succ k ih =>
      rw [dyadic] at h
      split at h
      · cases h
      · have hhalf := ih h
        rw [pow_succ, ← mul_assoc, ← hhalf]
        omega

theorem neg_dyadic (m : Int) (k : Nat) : (dyadic m k).neg = dyadic (-m) k := by
  induction k generalizing m with
  | zero => rfl
  | succ k ih =>
      by_cases hm : m % 2 = 1
      · have hm' : -m % 2 = 1 := neg_odd hm
        simp only [dyadic, hm, hm', dite_true, neg]
      · have hm' : ¬ -m % 2 = 1 := by omega
        have hhalf : -m / 2 = -(m / 2) := by omega
        rw [dyadic, dif_neg hm, ih, dyadic, dif_neg hm', hhalf]

/-! ## Rounding to a whole number -/

theorem roundHalfEven_mul (p q : Nat) {c : Nat} (hc : 0 < c) :
    roundHalfEven (p * c) (q * c) = roundHalfEven p q := by
  have hlt : ∀ x y : Nat, x * c < y * c ↔ x < y := fun x y => Nat.mul_lt_mul_right hc
  unfold roundHalfEven
  rw [Nat.mul_mod_mul_right, Nat.mul_div_mul_right _ _ hc, ← Nat.mul_assoc]
  simp only [hlt]

theorem le_roundHalfEven (p q : Nat) : p / q ≤ roundHalfEven p q := by
  unfold roundHalfEven
  split
  · exact Nat.le_refl _
  · split <;> omega

theorem roundHalfEven_of_dvd {p q : Nat} (hq : 0 < q) (h : q ∣ p) : roundHalfEven p q = p / q := by
  have hmod : p % q = 0 := Nat.mod_eq_zero_of_dvd h
  simp [roundHalfEven, hmod, hq]

/-- A quotient that lies more than a half below a whole number is not rounded to it. -/
theorem roundHalfEven_lt {p q n : Nat} (h : 2 * p + q < 2 * (n * q)) : roundHalfEven p q < n := by
  have hdiv := Nat.div_add_mod p q
  have hq : 0 < q := by
    rcases Nat.eq_zero_or_pos q with rfl | hq
    · simp at h
    · exact hq
  have hlt : p / q < n := by
    rw [Nat.div_lt_iff_lt_mul hq]
    omega
  have hmod := Nat.mod_lt p hq
  unfold roundHalfEven
  split
  · exact hlt
  · -- rounded up, it is still below
    rename_i hhalf
    have hnext : p / q + 1 < n := by
      by_contra hcon
      have hn : n = p / q + 1 := by omega
      subst hn
      rw [Nat.add_mul, Nat.mul_comm (p / q) q] at h
      omega
    split <;> omega

theorem roundHalfEven_le {p q n : Nat} (hq : 0 < q) (h : p ≤ n * q) : roundHalfEven p q ≤ n := by
  have hdiv := Nat.div_add_mod p q
  rcases Nat.lt_or_ge (p / q) n with hlt | hge
  · unfold roundHalfEven
    split
    · omega
    · split <;> omega
  · have hdvd : p = n * q := by
      have : n * q ≤ q * (p / q) := by
        rw [Nat.mul_comm q]
        exact Nat.mul_le_mul_right q hge
      omega
    rw [hdvd, roundHalfEven_of_dvd hq ⟨n, Nat.mul_comm n q⟩, Nat.mul_div_cancel _ hq]

/-! ## The leading binary place -/

/-- `log2` brackets a positive natural. -/
theorem log2_bracket {n : Nat} (hn : 0 < n) : 2 ^ n.log2 ≤ n ∧ n < 2 ^ (n.log2 + 1) :=
  ⟨Nat.log2_self_le (by omega), Nat.lt_log2_self⟩

/-- Shifting numerator and denominator divides a quotient by a power of two. -/
theorem shifted_div (p q : Nat) (e : Int) :
    ((p <<< (-e).toNat : Nat) : ℚ) / (q <<< e.toNat : Nat) = (p : ℚ) / q / 2 ^ e := by
  rw [Nat.shiftLeft_eq, Nat.shiftLeft_eq]
  rcases Int.eq_nat_or_neg e with ⟨n, rfl | rfl⟩
  · simp only [Int.toNat_natCast, Int.toNat_neg_natCast, pow_zero, mul_one, zpow_natCast]
    push_cast
    rw [div_div]
  · simp only [neg_neg, Int.toNat_natCast, Int.toNat_neg_natCast, pow_zero, mul_one, zpow_neg,
      zpow_natCast]
    push_cast
    rw [div_inv_eq_mul, div_mul_eq_mul_div]

theorem shiftLeft_pos {q : Nat} (hq : 0 < q) (n : Nat) : 0 < q <<< n := by
  rw [Nat.shiftLeft_eq]
  positivity

/-- Bounds of a quotient by powers of two, on shifted numerators and denominators. -/
theorem div_lt_zpow_iff {p q : Nat} (hq : 0 < q) (e : Int) (k : Nat) :
    (p : ℚ) / q < 2 ^ (e + k) ↔ p <<< (-e).toNat < 2 ^ k * q <<< e.toNat := by
  have hpow : (0 : ℚ) < 2 ^ e := zpow_pos two_pos e
  have hden : (0 : ℚ) < (q <<< e.toNat : Nat) := by exact_mod_cast shiftLeft_pos hq _
  rw [zpow_add₀ two_ne_zero, zpow_natCast, mul_comm, ← div_lt_iff₀ hpow, ← shifted_div,
    div_lt_iff₀ hden]
  exact_mod_cast Iff.rfl

/-- The binary exponent is the logarithm of the quotient. -/
theorem binaryExponent_eq_log {p q : Nat} (hp : 0 < p) (hq : 0 < q) :
    binaryExponent p q = Int.log 2 ((p : ℚ) / q) := by
  have hpos : (0 : ℚ) < (p : ℚ) / q := by positivity
  have hlog : ∀ e : Int, (p : ℚ) / q < 2 ^ e ↔ Int.log 2 ((p : ℚ) / q) < e := fun e =>
    Int.lt_zpow_iff_log_lt (b := 2) one_lt_two hpos
  obtain ⟨hp1, hp2⟩ := log2_bracket hp
  obtain ⟨hq1, hq2⟩ := log2_bracket hq
  -- numerator and denominator are known up to a factor of two each, which leaves two exponents
  have hhigh : (p : ℚ) / q < 2 ^ ((p.log2 : Int) - q.log2 + 1) := by
    rw [show (p.log2 : Int) - q.log2 + 1 = (p.log2 + 1 : Nat) - q.log2 by push_cast; ring,
      zpow_sub₀ two_ne_zero, zpow_natCast, zpow_natCast]
    exact div_lt_div₀ (by exact_mod_cast hp2) (by exact_mod_cast hq1) (by positivity)
      (by positivity)
  have hlow : ¬ (p : ℚ) / q < 2 ^ ((p.log2 : Int) - q.log2 - 1) := by
    rw [not_lt, show (p.log2 : Int) - q.log2 - 1 = p.log2 - (q.log2 + 1 : Nat) by push_cast; ring,
      zpow_sub₀ two_ne_zero, zpow_natCast, zpow_natCast]
    exact div_le_div₀ (by positivity) (by exact_mod_cast hp1) (by positivity)
      (by exact_mod_cast hq2.le)
  have hmid := div_lt_zpow_iff (p := p) hq ((p.log2 : Int) - q.log2) 0
  rw [Nat.cast_zero, add_zero, pow_zero, one_mul, hlog] at hmid
  rw [hlog] at hlow hhigh
  unfold binaryExponent
  simp only
  split
  · rename_i h
    have := mt hmid.1 (Nat.not_lt.2 h)
    omega
  · rename_i h
    have := hmid.2 (Nat.not_le.1 h)
    omega

theorem binaryExponent_mul {p q c : Nat} (hp : 0 < p) (hq : 0 < q) (hc : 0 < c) :
    binaryExponent (p * c) (q * c) = binaryExponent p q := by
  have hcr : (c : ℚ) ≠ 0 := by exact_mod_cast hc.ne'
  rw [binaryExponent_eq_log (by positivity) (by positivity), binaryExponent_eq_log hp hq,
    Nat.cast_mul, Nat.cast_mul, mul_div_mul_right _ _ hcr]

/-- A quotient is below a power of two exactly when its binary exponent is. -/
theorem binaryExponent_lt_iff {p q : Nat} (hp : 0 < p) (hq : 0 < q) (e : Int) (k : Nat) :
    binaryExponent p q < e + k ↔ p <<< (-e).toNat < 2 ^ k * q <<< e.toNat := by
  have hpos : (0 : ℚ) < (p : ℚ) / q := by positivity
  rw [← div_lt_zpow_iff hq, binaryExponent_eq_log hp hq]
  exact (Int.lt_zpow_iff_log_lt (b := 2) one_lt_two hpos).symm

/-! ## Nearest numbers -/

theorem natAbs_signed (negative : Bool) (n : Nat) :
    (if negative then -(n : Int) else n).natAbs = n := by
  cases negative <;> simp

/-- Every significand has at most 53 bits, and no exponent is below that of the smallest number. -/
theorem nearestMagnitude_cases (negative : Bool) {p q : Nat} (hp : 0 < p) (hq : 0 < q) :
    nearestMagnitude negative p q = infinite negative ∨
      ∃ (m : Nat) (e : Int), m ≤ 2 ^ 53 ∧ (m.log2 : Int) + e < 1024 ∧
        nearestMagnitude negative p q = dyadic
          (if negative then -(m <<< e.toNat : Nat) else (m <<< e.toNat : Nat)) (-e).toNat := by
  set e := max (binaryExponent p q - 52) (-1074) with he
  set m := roundHalfEven (p <<< (-e).toNat) (q <<< e.toNat) with hm
  have hunfold : nearestMagnitude negative p q =
      if 1024 ≤ (m.log2 : Int) + e then infinite negative
      else dyadic (if negative then -(m <<< e.toNat : Nat) else (m <<< e.toNat : Nat))
        (-e).toNat := rfl
  have hbits : m ≤ 2 ^ 53 := by
    apply roundHalfEven_le (shiftLeft_pos hq _)
    have hexp : binaryExponent p q < e + (53 : Nat) := by omega
    exact ((binaryExponent_lt_iff hp hq e 53).1 hexp).le
  by_cases hbig : 1024 ≤ (m.log2 : Int) + e
  · exact Or.inl (by rw [hunfold, if_pos hbig])
  · exact Or.inr ⟨m, e, hbits, by omega, by rw [hunfold, if_neg hbig]⟩

theorem nearestMagnitude_mul (negative : Bool) {p q c : Nat} (hp : 0 < p) (hq : 0 < q)
    (hc : 0 < c) : nearestMagnitude negative (p * c) (q * c) = nearestMagnitude negative p q := by
  have hshift : ∀ a n : Nat, (a * c) <<< n = a <<< n * c := fun a n => by
    rw [Nat.shiftLeft_eq, Nat.shiftLeft_eq, Nat.mul_right_comm]
  unfold nearestMagnitude
  simp only [binaryExponent_mul hp hq hc, hshift, roundHalfEven_mul _ _ hc]

/-- The nearest number depends on the value of a quotient alone. -/
theorem nearest_mul (p : Int) {q c : Nat} (hq : 0 < q) (hc : 0 < c) :
    nearest (p * c) (q * c) = nearest p q := by
  have hci : (0 : Int) < c := by exact_mod_cast hc
  have hmod : p * c % ((q * c : Nat) : Int) = 0 ↔ p % (q : Int) = 0 := by
    rw [Nat.cast_mul, ← Int.dvd_iff_emod_eq_zero, ← Int.dvd_iff_emod_eq_zero]
    exact Int.mul_dvd_mul_iff_right hci.ne'
  have hdiv : p * c / ((q * c : Nat) : Int) = p / q := by
    rw [Nat.cast_mul, Int.mul_ediv_mul_of_pos_left _ _ hci]
  -- whether a quotient is exact depends on its value too
  unfold nearest
  rw [hdiv]
  simp only [hmod]
  by_cases hexact : p % (q : Int) = 0 ∧ (p / q).natAbs ≤ exactBound
  · rw [if_pos hexact, if_pos hexact]
  · rw [if_neg hexact, if_neg hexact]
    have hp : 0 < p.natAbs := by
      rcases Nat.eq_zero_or_pos p.natAbs with h0 | h0
      · rw [Int.natAbs_eq_zero] at h0
        subst h0
        simp at hexact
      · exact h0
    have hsign : decide (p * c < 0) = decide (p < 0) := by
      rw [decide_eq_decide]
      exact ⟨fun h => by nlinarith, fun h => Int.mul_neg_of_neg_of_pos h hci⟩
    rw [hsign, Int.natAbs_mul, Int.natAbs_natCast, nearestMagnitude_mul _ hp hq hc]

/-- Rounding does not take a number below zero. -/
theorem nonneg_of_nearest {p n : Int} {q : Nat} (hp : 0 ≤ p) (hq : 0 < q)
    (h : nearest p q = int n) : 0 ≤ n := by
  rw [nearest] at h
  split at h
  · cases h
    exact Int.ediv_nonneg hp (Int.natCast_nonneg q)
  · rename_i hexact
    have hpos : 0 < p.natAbs := by
      rw [Int.natAbs_pos]
      rintro rfl
      simp at hexact
    rw [decide_eq_false (not_lt.2 hp)] at h
    rcases nearestMagnitude_cases false hpos hq with hinf | ⟨m, e, -, -, heq⟩
    · rw [hinf] at h
      cases h
    · rw [heq] at h
      have hscaled := dyadic_eq_int h
      rw [if_neg Bool.false_ne_true] at hscaled
      have hnumerator : (0 : Int) ≤ ((m <<< e.toNat : Nat) : Int) := Int.natCast_nonneg _
      rw [hscaled] at hnumerator
      exact nonneg_of_mul_nonneg_left hnumerator (by positivity)

theorem nearestMagnitude_not (negative : Bool) (p q : Nat) :
    nearestMagnitude (!negative) p q = (nearestMagnitude negative p q).neg := by
  unfold nearestMagnitude
  simp only
  split
  · rfl
  · rw [neg_dyadic]
    cases negative <;> simp

/-- Rounding is the same on both sides of zero. -/
theorem nearest_neg (p : Int) (q : Nat) : nearest (-p) q = (nearest p q).neg := by
  have hmod : -p % (q : Int) = 0 ↔ p % (q : Int) = 0 := by
    rw [← Int.dvd_iff_emod_eq_zero, ← Int.dvd_iff_emod_eq_zero, Int.dvd_neg]
  unfold nearest
  simp only [hmod]
  by_cases hdvd : p % (q : Int) = 0
  · have hdiv : -p / (q : Int) = -(p / q) :=
      Int.neg_ediv_of_dvd (Int.dvd_of_emod_eq_zero hdvd)
    simp only [hdvd, hdiv, Int.natAbs_neg, true_and]
    split
    · rfl
    · rename_i hbig
      have hp : p ≠ 0 := by
        rintro rfl
        simp at hbig
      rw [← nearestMagnitude_not]
      congr 1
      rw [← decide_not, decide_eq_decide]
      omega
  · simp only [hdvd, false_and, if_false, Int.natAbs_neg]
    have hp : p ≠ 0 := by
      rintro rfl
      simp at hdvd
    rw [← nearestMagnitude_not]
    congr 1
    rw [← decide_not, decide_eq_decide]
    omega

theorem exactBound_eq : exactBound = 2 ^ 53 := by norm_num [exactBound]

/-! ## Whole parts -/

/-- Of a numerator below `2 ^ 53`, a place of the quotient is less than what the numerator is away
from any greater multiple of the denominator. -/
theorem place_lt {p q s d n : Nat} (hp : 0 < p) (hq : 0 < q) (hbound : p < 2 ^ 53)
    (hs : -(s : Int) = max (binaryExponent p q - 52) (-1074)) (hd : 0 < d)
    (hnext : p + d = (n + 1) * q) : q < 2 * 2 ^ s * d := by
  rcases le_or_gt (-1074) (binaryExponent p q - 52) with hnormal | hsmall
  · -- 53 places: the denominator is below two of them
    have hexp : ¬ binaryExponent p q < -((s + 1 : Nat) : Int) + (53 : Nat) := by omega
    rw [binaryExponent_lt_iff hp hq] at hexp
    simp only [neg_neg, Int.toNat_natCast, Int.toNat_neg_natCast, Nat.shiftLeft_eq, pow_zero,
      mul_one, not_lt] at hexp
    have hlt : q < 2 ^ (s + 1) := by
      by_contra hcon
      have : 2 ^ 53 * 2 ^ (s + 1) ≤ 2 ^ 53 * q := Nat.mul_le_mul_left _ (Nat.not_lt.1 hcon)
      have : p * 2 ^ (s + 1) < 2 ^ 53 * 2 ^ (s + 1) :=
        Nat.mul_lt_mul_of_pos_right hbound (by positivity)
      omega
    calc q < 2 * 2 ^ s := by rwa [pow_succ, mul_comm] at hlt
      _ ≤ 2 * 2 ^ s * d := Nat.le_mul_of_pos_right _ hd
  · -- the smallest place: the quotient is below a half
    have hexp : binaryExponent p q < -((1 : Nat) : Int) + (0 : Nat) := by omega
    rw [binaryExponent_lt_iff hp hq] at hexp
    simp only [neg_neg, Int.toNat_natCast, Int.toNat_neg_natCast, Nat.shiftLeft_eq, pow_zero,
      mul_one, one_mul, pow_one] at hexp
    have hq' : q ≤ p + d := by
      rw [hnext]
      exact Nat.le_mul_of_pos_left _ (Nat.succ_pos n)
    calc q < 2 * d := by omega
      _ ≤ 2 * 2 ^ s * d := by
          rw [mul_right_comm]
          exact Nat.le_mul_of_pos_right _ (by positivity)

/-- The significand of such a quotient has its whole part. -/
theorem roundHalfEven_div {p q s : Nat} (hp : 0 < p) (hq : 0 < q) (hbound : p < 2 ^ 53)
    (hs : -(s : Int) = max (binaryExponent p q - 52) (-1074)) :
    p / q * 2 ^ s ≤ roundHalfEven (p * 2 ^ s) q ∧
      roundHalfEven (p * 2 ^ s) q < (p / q + 1) * 2 ^ s := by
  have hdiv := Nat.div_add_mod p q
  have hmod := Nat.mod_lt p hq
  constructor
  · refine le_trans ?_ (le_roundHalfEven _ _)
    rw [Nat.le_div_iff_mul_le hq, mul_right_comm]
    exact Nat.mul_le_mul_right _ (Nat.div_mul_le_self p q)
  · -- a place is less than twice what is missing to the next whole number
    apply roundHalfEven_lt
    have hnext : p + (q - p % q) = (p / q + 1) * q := by
      rw [Nat.add_mul, mul_comm (p / q)]
      omega
    have hplace := place_lt hp hq hbound hs (by omega) hnext
    rw [mul_right_comm, ← hnext]
    linarith

theorem log2_sub_lt {m s : Nat} (h : m < 2 ^ 53 * 2 ^ s) : (m.log2 : Int) - s < 1024 := by
  rcases Nat.eq_zero_or_pos m with rfl | hm
  · simp
    omega
  · rw [← pow_add] at h
    have := (Nat.log2_lt (by omega)).2 h
    omega

/-- A quotient of a numerator below `2 ^ 53` is whole or rounded at a place behind the point. -/
theorem nearest_cases {p q : Nat} (hq : 0 < q) (hbound : p < 2 ^ 53) :
    (q ∣ p ∧ nearest p q = int (p / q : Nat)) ∨
      0 < p ∧ ∃ s : Nat, -(s : Int) = max (binaryExponent p q - 52) (-1074) ∧
        nearest p q = dyadic (roundHalfEven (p * 2 ^ s) q) s := by
  by_cases hexact : (p : Int) % q = 0 ∧ ((p : Int) / q).natAbs ≤ exactBound
  · refine .inl ⟨by exact_mod_cast Int.dvd_of_emod_eq_zero hexact.1, ?_⟩
    rw [nearest, if_pos hexact, Int.natCast_ediv]
  have hp : 0 < p := by
    rcases Nat.eq_zero_or_pos p with rfl | hp
    · simp at hexact
    · exact hp
  -- the quotient is below `2 ^ 53`, so the exponent is not positive
  have hexp : binaryExponent p q < 0 + (53 : Nat) := by
    rw [binaryExponent_lt_iff hp hq]
    simp only [neg_zero, Int.toNat_zero, Nat.shiftLeft_zero]
    exact lt_of_lt_of_le hbound (Nat.le_mul_of_pos_right _ hq)
  set s := (-max (binaryExponent p q - 52) (-1074)).toNat with hs
  have hs' : -(s : Int) = max (binaryExponent p q - 52) (-1074) := by omega
  set m := roundHalfEven (p * 2 ^ s) q with hm
  have hlog : (m.log2 : Int) - s < 1024 := by
    apply log2_sub_lt
    refine lt_of_lt_of_le (roundHalfEven_div hp hq hbound hs').2 (Nat.mul_le_mul_right _ ?_)
    have := Nat.div_le_self p q
    omega
  refine .inr ⟨hp, s, hs', ?_⟩
  rw [nearest, if_neg hexact, nearestMagnitude]
  simp only [← hs', neg_neg, Int.toNat_natCast, Int.toNat_neg_natCast, Int.natAbs_natCast,
    Nat.shiftLeft_zero]
  rw [Nat.shiftLeft_eq, ← hm, if_neg (by omega), decide_eq_false (not_lt.2 (Int.natCast_nonneg p))]
  simp

/-- Rounding a quotient of a numerator below `2 ^ 53` keeps its whole part. -/
theorem nearest_eq_dyadic {p q : Nat} (hq : 0 < q) (hbound : p < 2 ^ 53) :
    ∃ m s : Nat, nearest p q = dyadic m s ∧ m / 2 ^ s = p / q := by
  rcases nearest_cases hq hbound with ⟨-, hwhole⟩ | ⟨hp, s, hs, heq⟩
  · exact ⟨p / q, 0, hwhole, by simp⟩
  · obtain ⟨hlow, hhigh⟩ := roundHalfEven_div hp hq hbound hs
    exact ⟨_, s, heq, Nat.div_eq_of_lt_le hlow hhigh⟩

/-- A numerator below `2 ^ 53` over a power of two is a number itself. -/
theorem nearest_two_pow {p k : Nat} (hbound : p < 2 ^ 53) (hk : k ≤ 1074) :
    nearest p (2 ^ k : Nat) = dyadic p k := by
  rcases nearest_cases (Nat.two_pow_pos k) hbound with ⟨⟨n, rfl⟩, hwhole⟩ | ⟨hp, s, hs, heq⟩
  · have hdyadic : dyadic (n * 2 ^ k : Int) (0 + k) = int n := dyadic_mul_pow n 0 k
    rw [hwhole, Nat.mul_div_cancel_left n (Nat.two_pow_pos k), Nat.mul_comm, Nat.cast_mul,
      Nat.cast_pow, Nat.cast_ofNat, ← hdyadic, Nat.zero_add]
  · -- there are at least as many places as the denominator takes
    have hexp : binaryExponent p (2 ^ k) < -(k : Int) + (53 : Nat) := by
      rw [binaryExponent_lt_iff hp (Nat.two_pow_pos k)]
      simp only [neg_neg, Int.toNat_natCast, Int.toNat_neg_natCast, Nat.shiftLeft_eq, pow_zero,
        mul_one]
      exact Nat.mul_lt_mul_of_pos_right hbound (Nat.two_pow_pos k)
    obtain ⟨more, rfl⟩ := Nat.exists_eq_add_of_le (by omega : k ≤ s)
    have hsplit : p * 2 ^ (k + more) = p * 2 ^ more * 2 ^ k := by
      rw [pow_add]
      ring
    rw [heq, hsplit, roundHalfEven_of_dvd (Nat.two_pow_pos k) ⟨_, Nat.mul_comm _ _⟩,
      Nat.mul_div_cancel _ (Nat.two_pow_pos k), Nat.cast_mul, Nat.cast_pow, Nat.cast_ofNat,
      dyadic_mul_pow]

theorem int_div_int (a : Int) {b : Nat} (hb : 0 < b) :
    int a / int b = nearest a b := by
  show div (int a) (int b) = _
  have hne : ¬ int b = int 0 := fun h => by
    have := int.inj h
    omega
  have hsign : (b : Int).sign = 1 := Int.sign_eq_one_of_pos (by omega)
  simp only [div, numerator, scale, if_neg hne, hsign, Int.shiftLeft_zero,
    mul_one, Nat.shiftLeft_zero, Int.natAbs_natCast]

theorem floor_nearest {p q : Nat} (hq : 0 < q) (hbound : p < 2 ^ 53) :
    (nearest p q).floor = int (p / q : Nat) := by
  obtain ⟨m, s, heq, hdiv⟩ := nearest_eq_dyadic hq hbound
  rw [heq, floor_dyadic, ← hdiv]
  norm_cast

end ProverInput.Number
