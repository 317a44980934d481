import ProverInput.Proofs.Number.Rounding

set_option autoImplicit false

/-! # Numbers of double precision

A whole number is held as an integer of any size, but only some integers are numbers of double
precision: those that rounding leaves alone (`IsDouble`). They are the integers of at most 53 bits
times a power of two, so whatever rounding gives is one of them (`isDouble_of_nearest`), and a whole
number that came about by rounding is a double (`Rounded`).
-/

namespace ProverInput.Number

/-- Rounding leaves the number alone: double precision has it. -/
def IsDouble : Number → Prop
  | infinite _ => True
  | nan => True
  | x => nearest x.numerator (1 <<< x.scale) = x

theorem isDouble_int {n : Int} : IsDouble (int n) ↔ nearest n 1 = int n := Iff.rfl

theorem isDouble_of_le {n : Int} (h : n.natAbs ≤ exactBound) : IsDouble (int n) :=
  isDouble_int.2 (nearest_one h)

/-- A whole number that double precision has. -/
def IsWhole (x : Number) : Prop := ∃ n : Int, x = int n ∧ IsDouble (int n)

theorem isWhole_of_le {n : Int} (h : n.natAbs ≤ exactBound) : IsWhole (int n) :=
  ⟨n, rfl, isDouble_of_le h⟩

theorem IsDouble.neg_int {n : Int} (h : IsDouble (int n)) : IsDouble (int (-n)) := by
  rw [isDouble_int] at h ⊢
  rw [nearest_neg, h]
  rfl

theorem shifted_lt (m a : Nat) : m * 2 ^ a < 2 ^ (m.log2 + 1 + a) := by
  rw [pow_add]
  exact Nat.mul_lt_mul_of_pos_right Nat.lt_log2_self (by positivity)

/-- The place of a number of at most 53 bits times a power of two divides it. -/
theorem pow_dvd_shifted {m a k : Nat} (hm : m ≤ 2 ^ 53) (hlow : 2 ^ 52 * 2 ^ k ≤ m * 2 ^ a) :
    2 ^ k ∣ m * 2 ^ a := by
  rcases Nat.lt_or_ge a k with hak | hak
  · -- the place is beyond the power of two only for the 54-bit significand
    have h1 : 2 ^ 52 * 2 ^ (a + 1) ≤ 2 ^ 52 * 2 ^ k :=
      Nat.mul_le_mul_left _ (Nat.pow_le_pow_right two_pos hak)
    have h2 : m * 2 ^ a ≤ 2 ^ 53 * 2 ^ a := Nat.mul_le_mul_right _ hm
    have h3 : 2 ^ 52 * 2 ^ (a + 1) = 2 ^ 53 * 2 ^ a := by ring
    have heq : m * 2 ^ a = 2 ^ (53 + a) := by
      rw [pow_add]
      omega
    rw [heq]
    apply Nat.pow_dvd_pow
    have hle : 2 ^ (52 + k) ≤ 2 ^ (53 + a) := by
      rw [← heq, pow_add]
      exact hlow
    have := (Nat.pow_le_pow_iff_right (by norm_num : 1 < 2)).1 hle
    omega
  · exact Dvd.dvd.mul_left (Nat.pow_dvd_pow 2 hak) m

/-- Taking a place out of such a number leaves the bits of all of it below the bound. -/
theorem log2_div_pow_lt {m a k : Nat} (hpos : 0 < m * 2 ^ a) (hdvd : 2 ^ k ∣ m * 2 ^ a)
    (hlog : m.log2 + a < 1024) : ((m * 2 ^ a / 2 ^ k).log2 : Int) + k < 1024 := by
  have hback : m * 2 ^ a / 2 ^ k * 2 ^ k = m * 2 ^ a := Nat.div_mul_cancel hdvd
  have hne : m * 2 ^ a / 2 ^ k ≠ 0 := by
    intro h0
    rw [h0] at hback
    omega
  have hlt : 2 ^ ((m * 2 ^ a / 2 ^ k).log2 + k) < 2 ^ (m.log2 + 1 + a) :=
    calc 2 ^ ((m * 2 ^ a / 2 ^ k).log2 + k)
        = 2 ^ (m * 2 ^ a / 2 ^ k).log2 * 2 ^ k := pow_add _ _ _
      _ ≤ m * 2 ^ a / 2 ^ k * 2 ^ k := Nat.mul_le_mul_right _ (Nat.log2_self_le hne)
      _ = m * 2 ^ a := hback
      _ < 2 ^ (m.log2 + 1 + a) := shifted_lt m a
  have := (Nat.pow_lt_pow_iff_right (by norm_num : 1 < 2)).1 hlt
  omega

/-- A whole number of at most 53 bits times a power of two is its own nearest number. -/
theorem nearest_shifted {m a : Nat} (hm : m ≤ 2 ^ 53) (hlog : m.log2 + a < 1024) :
    nearest ((m * 2 ^ a : Nat) : Int) 1 = int (m * 2 ^ a : Nat) := by
  by_cases hexact : m * 2 ^ a ≤ exactBound
  · exact nearest_one (by rwa [Int.natAbs_natCast])
  rw [exactBound_eq] at hexact
  have hpos : 0 < m * 2 ^ a := by omega
  have hbig : ¬ binaryExponent (m * 2 ^ a) 1 < (0 : Int) + (53 : Nat) := by
    rw [binaryExponent_lt_iff hpos one_pos]
    simp
    omega
  obtain ⟨k, hk⟩ : ∃ k : Nat, binaryExponent (m * 2 ^ a) 1 = k + 52 :=
    ⟨(binaryExponent (m * 2 ^ a) 1 - 52).toNat, by omega⟩
  have hlow : 2 ^ 52 * 2 ^ k ≤ m * 2 ^ a := by
    have h : ¬ binaryExponent (m * 2 ^ a) 1 < (k : Int) + (52 : Nat) := by omega
    rw [binaryExponent_lt_iff hpos one_pos] at h
    simpa [Nat.shiftLeft_eq] using h
  have hdvd := pow_dvd_shifted hm hlow
  have hlog' := log2_div_pow_lt hpos hdvd hlog
  generalize m * 2 ^ a = n at *
  have hround : roundHalfEven n (2 ^ k) = n / 2 ^ k := roundHalfEven_of_dvd (by positivity) hdvd
  have hback : n / 2 ^ k * 2 ^ k = n := Nat.div_mul_cancel hdvd
  have hmag : ¬ ((n : Int) % (1 : Nat) = 0 ∧ ((n : Int) / (1 : Nat)).natAbs ≤ exactBound) := by
    rw [exactBound_eq]
    simp
    omega
  have hexp : max (binaryExponent n 1 - 52) (-1074) = (k : Int) := by omega
  rw [nearest, if_neg hmag, nearestMagnitude]
  simp only [Int.natAbs_natCast, hexp, Int.toNat_natCast, Int.toNat_neg_natCast,
    Nat.shiftLeft_eq, pow_zero, mul_one, one_mul, hround, hback, if_neg (not_le.2 hlog')]
  rw [decide_eq_false (not_lt.2 (Int.natCast_nonneg n))]
  simp [dyadic]

/-- A whole number that rounding gives is one of at most 53 bits times a power of two. -/
theorem eq_shifted_of_nearest {p n : Int} {q : Nat} (hq : 0 < q) (h : nearest p q = int n) :
    n.natAbs ≤ exactBound ∨
      ∃ m a : Nat, m ≤ 2 ^ 53 ∧ m.log2 + a < 1024 ∧ n.natAbs = m * 2 ^ a := by
  rw [nearest] at h
  split at h
  · rename_i hexact
    cases h
    exact Or.inl hexact.2
  · rename_i hexact
    have hp : 0 < p.natAbs := by
      rcases Nat.eq_zero_or_pos p.natAbs with h0 | h0
      · rw [Int.natAbs_eq_zero] at h0
        subst h0
        simp at hexact
      · exact h0
    rcases nearestMagnitude_cases (p < 0) hp hq with hinf | ⟨m, e, hm, hlog, heq⟩
    · rw [hinf] at h
      cases h
    · rw [heq] at h
      have habs := congrArg Int.natAbs (dyadic_eq_int h)
      rw [natAbs_signed, Int.natAbs_mul, Int.natAbs_pow, show (2 : Int).natAbs = 2 from rfl,
        Nat.shiftLeft_eq] at habs
      rcases Int.eq_nat_or_neg e with ⟨a, rfl | rfl⟩
      · -- the last place is a whole number
        simp only [Int.toNat_natCast, Int.toNat_neg_natCast, pow_zero, mul_one] at habs
        exact Or.inr ⟨m, a, hm, by omega, habs.symm⟩
      · -- the last place is behind the point, so the number is at most the significand
        simp only [neg_neg, Int.toNat_natCast, Int.toNat_neg_natCast, pow_zero, mul_one] at habs
        left
        calc n.natAbs ≤ n.natAbs * 2 ^ a := Nat.le_mul_of_pos_right _ (by positivity)
          _ = m := habs.symm
          _ ≤ exactBound := by rwa [exactBound_eq]

/-- Whole numbers that rounding gives are doubles: rounding them again changes nothing. -/
theorem isDouble_of_nearest {p n : Int} {q : Nat} (hq : 0 < q) (h : nearest p q = int n) :
    IsDouble (int n) := by
  rcases eq_shifted_of_nearest hq h with hsmall | ⟨m, a, hm, hlog, habs⟩
  · exact isDouble_of_le hsmall
  · have hpos := nearest_shifted hm hlog
    rw [← habs] at hpos
    rw [isDouble_int]
    rcases Int.natAbs_eq n with hn | hn
    · rwa [← hn] at hpos
    · rw [hn, nearest_neg, hpos]
      rfl

theorem log2_lt_of_isDouble {n : Int} (h : IsDouble (int n)) : n.natAbs.log2 < 1024 := by
  rcases Nat.eq_zero_or_pos n.natAbs with h0 | hpos
  · rw [h0]
    simp
  rcases eq_shifted_of_nearest one_pos (isDouble_int.1 h) with hsmall | ⟨m, a, hm, hlog, habs⟩
  · have : n.natAbs < 2 ^ 54 := by
      rw [exactBound_eq] at hsmall
      omega
    have := (Nat.log2_lt (by omega)).2 this
    omega
  · have := (Nat.log2_lt (by omega)).2 (habs ▸ shifted_lt m a)
    omega

/-- The last place of the largest numbers, whose leading place is the 1023rd. -/
@[irreducible] def lastPlace : Nat := 971

theorem lastPlace_eq : lastPlace = 971 := by rw [lastPlace]

/-- The largest natural number of double precision is a last place short of `2 ^ 1024`. -/
theorem add_lastPlace_le_of_isDouble {n : Nat} (h : IsDouble (int n)) :
    n + 2 ^ lastPlace ≤ 2 ^ 53 * 2 ^ lastPlace := by
  have hpos : 0 < 2 ^ lastPlace := Nat.two_pow_pos lastPlace
  by_cases hlow : n < 2 ^ 52 * 2 ^ lastPlace
  · omega
  -- the place of a number this large divides it
  have hn : 0 < n := lt_of_lt_of_le (by positivity) (not_lt.1 hlow)
  have hdvd : 2 ^ lastPlace ∣ n := by
    rcases eq_shifted_of_nearest one_pos (isDouble_int.1 h) with hsmall | ⟨m, a, hm, -, habs⟩
    · have hbig : 2 ^ 53 < 2 ^ 52 * 2 ^ lastPlace := by
        rw [← pow_add]
        exact Nat.pow_lt_pow_right one_lt_two (by rw [lastPlace_eq]; omega)
      rw [exactBound_eq, Int.natAbs_natCast] at hsmall
      omega
    · rw [Int.natAbs_natCast] at habs
      rw [habs] at hlow ⊢
      exact pow_dvd_shifted hm (not_lt.1 hlow)
  have hhigh : n < 2 ^ (lastPlace + 53) :=
    (Nat.log2_lt hn.ne').1 (lastPlace_eq ▸ log2_lt_of_isDouble h)
  rw [pow_add] at hhigh
  generalize 2 ^ lastPlace = place at *
  obtain ⟨c, rfl⟩ := hdvd
  have hc : c + 1 ≤ 2 ^ 53 := Nat.lt_of_mul_lt_mul_left hhigh
  calc place * c + place = (c + 1) * place := by ring
    _ ≤ 2 ^ 53 * place := Nat.mul_le_mul_right _ hc

/-- The number after a natural one is whole too: rounding does not take it to infinity. -/
theorem exists_succ_of_isDouble {n : Nat} (h : IsDouble (int n)) :
    ∃ z : Int, int n + 1 = int z := by
  have hsum : int n + 1 = nearest ((n + 1 : Nat) : Int) 1 := int_add_int n 1
  rw [hsum]
  by_cases hexact : n + 1 ≤ exactBound
  · exact ⟨_, nearest_one (by rwa [Int.natAbs_natCast])⟩
  have hlast := add_lastPlace_le_of_isDouble h
  have hbound : 2 ^ 2 ≤ 2 ^ lastPlace :=
    Nat.pow_le_pow_right two_pos (by rw [lastPlace_eq]; omega)
  -- the leading place is behind the 53rd and before the 1024th
  have hlow : ¬ binaryExponent (n + 1) 1 < (0 : Int) + (53 : Nat) := by
    rw [exactBound_eq] at hexact
    rw [binaryExponent_lt_iff (Nat.succ_pos n) one_pos]
    simp
    omega
  have hhigh : binaryExponent (n + 1) 1 < (lastPlace : Int) + (53 : Nat) := by
    rw [binaryExponent_lt_iff (Nat.succ_pos n) one_pos]
    simp only [Int.toNat_natCast, Int.toNat_neg_natCast, Nat.shiftLeft_eq, pow_zero, mul_one,
      one_mul]
    omega
  obtain ⟨k, hk⟩ : ∃ k : Nat, binaryExponent (n + 1) 1 = k + 52 :=
    ⟨(binaryExponent (n + 1) 1 - 52).toNat, by omega⟩
  have hplaces : 2 ^ k ≤ 2 ^ lastPlace := Nat.pow_le_pow_right two_pos (by omega)
  -- so the significand is below the power of two that the last place leaves
  have hround : roundHalfEven (n + 1) (2 ^ k) < 2 ^ (lastPlace + 53 - k) := by
    apply roundHalfEven_lt
    have hsplit : 2 ^ (lastPlace + 53 - k) * 2 ^ k = 2 ^ 53 * 2 ^ lastPlace := by
      rw [← pow_add, ← pow_add]
      congr 1
      omega
    rw [hsplit]
    omega
  have hlog : ((roundHalfEven (n + 1) (2 ^ k)).log2 : Int) + k < 1024 := by
    rcases Nat.eq_zero_or_pos (roundHalfEven (n + 1) (2 ^ k)) with hzero | hpos
    · rw [hzero, Nat.log2_zero]
      have := lastPlace_eq
      omega
    · have := (Nat.log2_lt hpos.ne').2 hround
      have := lastPlace_eq
      omega
  have hmag : ¬ (((n + 1 : Nat) : Int) % (1 : Nat) = 0 ∧
      (((n + 1 : Nat) : Int) / (1 : Nat)).natAbs ≤ exactBound) := by
    rw [Nat.cast_one, Int.ediv_one, Int.natAbs_natCast]
    exact fun hexact' => hexact hexact'.2
  have hexp : max (binaryExponent (n + 1) 1 - 52) (-1074) = (k : Int) := by omega
  rw [nearest, if_neg hmag, nearestMagnitude]
  simp only [Int.natAbs_natCast, hexp, Int.toNat_natCast, Int.toNat_neg_natCast,
    Nat.shiftLeft_eq, pow_zero, mul_one, one_mul, if_neg (not_le.2 hlog)]
  exact ⟨_, rfl⟩

theorem natAbs_le_of_dyadic_eq {m m' : Int} {s k : Nat} {odd : m' % 2 = 1}
    (h : dyadic m s = fraction m' k odd) : m'.natAbs ≤ m.natAbs := by
  induction s generalizing m with
  | zero => cases h
  | succ s ih =>
      rw [dyadic] at h
      split at h
      · cases h
        exact le_refl _
      · have := ih h
        omega

/-- The numerator of a fraction has at most 53 bits. -/
theorem natAbs_le_of_isDouble {m : Int} {k : Nat} {odd : m % 2 = 1}
    (h : IsDouble (fraction m k odd)) : m.natAbs ≤ 2 ^ 53 := by
  have hround : nearest m (1 <<< (k + 1)) = fraction m k odd := h
  rw [nearest] at hround
  split at hround
  · cases hround
  · have hm : 0 < m.natAbs := by omega
    rcases nearestMagnitude_cases (m < 0) hm (shiftLeft_pos one_pos (k + 1)) with
      hinf | ⟨m', e, hm', -, heq⟩
    · rw [hinf] at hround
      cases hround
    · rw [heq] at hround
      have hle := natAbs_le_of_dyadic_eq hround
      rw [natAbs_signed] at hle
      rcases Int.eq_nat_or_neg e with ⟨a, rfl | rfl⟩
      · rw [Int.toNat_neg_natCast] at hround
        cases hround
      · rw [Int.toNat_neg_natCast, Nat.shiftLeft_zero] at hle
        omega

/-! ## Rounded numbers -/

/-- A number that is a double when it is whole. -/
def Rounded (x : Number) : Prop := ∀ n, x = .int n → IsDouble (.int n)

theorem rounded_of_le {n : Int} (h : n.natAbs ≤ exactBound) : (int n).Rounded := by
  intro m hm
  cases hm
  exact isDouble_of_le h

end ProverInput.Number
