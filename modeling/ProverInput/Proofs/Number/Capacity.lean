import ProverInput.Proofs.Number.Double
import ProverInput.Proofs.Number.Order

set_option autoImplicit false

/-! # Numbers as capacities

A window may have any number for its capacity. A finite one has room for as many entries as it says,
rounded up, which are the naturals below it (`count_eq_ceil`), and an infinite one for any number
(`room`). Larger capacities have more room (`room_mono`, `count_mono`).

A length is taken from a fractional capacity by a rounded subtraction. Its whole part is exact all
the same as long as the length is not far above the capacity (`whole_above`, `whole_below`).
-/

namespace ProverInput.Number

/-! ## Distances from a capacity -/

theorem whole_floor (x : Number) : x.floor.whole = x.whole := by
  cases x with
  | fraction m k odd => rfl
  | _ => rfl

theorem whole_nearest {p q : Nat} (hq : 0 < q) (hbound : p < 2 ^ 53) :
    (nearest p q).whole = p / q := by
  rw [← whole_floor, floor_nearest hq hbound, whole_int, Int.toNat_natCast]

/-- A number below zero has no whole part. -/
theorem whole_neg_nearest {p q : Nat} (hq : 0 < q) (hbound : p < 2 ^ 53) :
    (nearest (-(p : Int)) q).whole = 0 := by
  obtain ⟨m, s, heq, -⟩ := nearest_eq_dyadic hq hbound
  rw [nearest_neg, heq, neg_dyadic, ← whole_floor, floor_dyadic, whole_int]
  have hdiv : -(m : Int) / 2 ^ s ≤ 0 := Int.ediv_nonpos_of_nonpos_of_neg (by omega) (by positivity)
  omega

theorem exactBound_lt_beyond : exactBound < beyond := by
  have hlt (top : Nat) (h : 53 < top) : 2 ^ 53 < 1 <<< top := by
    rw [Nat.shiftLeft_eq, one_mul]
    exact pow_lt_pow_right₀ (by norm_num) h
  exact exactBound_eq ▸ hlt 1024 (by norm_num)

theorem lt_of_one_le_fraction {m : Int} {k : Nat} {odd : m % 2 = 1}
    (h : (1 : Number) ≤ fraction m k odd) : 2 ^ (k + 1) < m := by
  have hle : le (int 1) (fraction m k odd) = true := h
  simpa [le, lt, same, numerator, scale, Int.shiftLeft_eq] using hle

theorem int_sub_fraction (length : Nat) (m : Int) (k : Nat) (odd : m % 2 = 1) :
    int length - fraction m k odd = nearest (length * 2 ^ (k + 1) - m) (2 ^ (k + 1)) := by
  show add (int length) (neg (fraction m k odd)) = _
  simp [add, neg, numerator, scale, Nat.shiftLeft_eq, Int.shiftLeft_eq, Int.sub_eq_add_neg]

/-- A fractional double of at least one has a numerator of at most 53 bits above its denominator. -/
theorem numerator_of_one_le {m : Int} {k : Nat} {odd : m % 2 = 1}
    (h : (1 : Number) ≤ fraction m k odd) (hdouble : IsDouble (fraction m k odd)) :
    ∃ n : Nat, m = n ∧ 2 ^ (k + 1) < n ∧ n < 2 ^ 53 := by
  have hm := lt_of_one_le_fraction h
  have hbits := natAbs_le_of_isDouble hdouble
  obtain ⟨n, rfl⟩ := Int.eq_ofNat_of_zero_le (le_trans (by positivity) hm.le)
  rw [Int.natAbs_natCast] at hbits
  refine ⟨n, rfl, ?_, ?_⟩
  · zify
    exact hm
  · -- an odd number is not the bound itself
    omega

theorem count_fraction (n k : Nat) (odd : (n : Int) % 2 = 1) :
    (fraction (n : Int) k odd).count = n / 2 ^ (k + 1) + 1 := by
  show (((n : Int) >>> (k + 1)) + 1).toNat = _
  rw [Int.shiftRight_eq_div_pow]
  norm_cast

theorem rest_pos {m : Int} (odd : m % 2 = 1) (k : Nat) : 0 < m % 2 ^ (k + 1) := by
  have hne : m % 2 ^ (k + 1) ≠ 0 := by
    intro hzero
    have hdvd : (2 : Int) ∣ m :=
      dvd_trans (dvd_pow_self 2 (Nat.succ_ne_zero k)) (Int.dvd_of_emod_eq_zero hzero)
    omega
  have hnonneg : 0 ≤ m % 2 ^ (k + 1) := Int.emod_nonneg _ (by positivity)
  omega

theorem mod_pos_of_odd {n : Nat} (odd : (n : Int) % 2 = 1) (k : Nat) : 0 < n % 2 ^ (k + 1) := by
  exact_mod_cast rest_pos odd k

theorem two_mul_pow_le {n k : Nat} (hlow : 2 ^ k < n) (hhigh : n < 2 ^ 53) :
    2 * 2 ^ k ≤ 2 ^ 53 := by
  have hk : k < 53 := (Nat.pow_lt_pow_iff_right (by norm_num)).1 (lt_trans hlow hhigh)
  calc 2 * 2 ^ k = 2 ^ (k + 1) := by rw [pow_succ, mul_comm]
    _ ≤ 2 ^ 53 := Nat.pow_le_pow_right (by norm_num) hk

/-- A length of at most two more than the whole part of a capacity, seen from the capacity below. -/
theorem whole_above {n k length : Nat} (hrest : 0 < n % 2 ^ k) (hlow : 2 ^ k < n)
    (hhigh : n < 2 ^ 53) (hlt : n < length * 2 ^ k) (hlength : length ≤ n / 2 ^ k + 1 + 1) :
    (nearest (length * (2 ^ k : Nat) - n) (2 ^ k)).whole = length - (n / 2 ^ k + 1) := by
  have hbound := two_mul_pow_le hlow hhigh
  generalize 2 ^ k = P at *
  have hPpos : 0 < P := by
    rcases Nat.eq_zero_or_pos P with rfl | hP
    · simp at hlt
    · exact hP
  have hdiv := Nat.div_add_mod n P
  have hmod := Nat.mod_lt n hPpos
  have hle : length * P ≤ (n / P + 2) * P := Nat.mul_le_mul_right P hlength
  rw [Nat.add_mul, Nat.mul_comm (n / P) P] at hle
  have hcast : (length * P - n : Int) = ((length * P - n : Nat) : Int) := by
    rw [Nat.cast_sub hlt.le]
    push_cast
    rfl
  rw [hcast, whole_nearest hPpos (by omega)]
  have hlower : n / P + 1 ≤ length := by
    by_contra hshort
    have : length * P ≤ n / P * P := Nat.mul_le_mul_right P (by omega)
    rw [Nat.mul_comm (n / P) P] at this
    omega
  -- what is beyond the next whole number is whole, and the rest is less than one
  obtain ⟨d, rfl⟩ := Nat.exists_eq_add_of_le hlower
  have hsplit : (n / P + 1 + d) * P - n = d * P + (P - n % P) := by
    rw [Nat.add_mul, Nat.add_mul, one_mul, Nat.mul_comm (n / P) P]
    omega
  rw [hsplit, Nat.mul_comm, Nat.mul_add_div hPpos, Nat.div_eq_of_lt (by omega)]
  omega

/-- A length of at most the whole part of a capacity, seen from the capacity above. -/
theorem whole_below {n P length : Nat} (hP : 0 < P) (hhigh : n < 2 ^ 53)
    (hge : length * P ≤ n) :
    (nearest (length * P - n) P).whole = length - (n / P + 1) := by
  have hcast : (length * P - n : Int) = -((n - length * P : Nat) : Int) := by
    rw [Nat.cast_sub hge]
    push_cast
    ring
  have hshort : length ≤ n / P := (Nat.le_div_iff_mul_le hP).2 hge
  rw [hcast, whole_neg_nearest hP (by omega)]
  omega

theorem count_pos {x : Number} (h : 1 ≤ x) : 0 < x.count := by
  cases x with
  | int n =>
      have hn : (1 : Int) ≤ n := int_le_int.1 h
      rw [count_int]
      omega
  | fraction m k odd =>
      have hm := lt_of_one_le_fraction h
      have hshift : 0 ≤ m >>> (k + 1) := by
        rw [Int.shiftRight_eq_div_pow]
        have : (0 : Int) < 2 ^ (k + 1) := by positivity
        exact Int.ediv_nonneg (by omega) (by positivity)
      show 0 < (m >>> (k + 1) + 1).toNat
      omega
  | infinite negative =>
      cases negative with
      | false => exact lt_trans (by decide) exactBound_lt_beyond
      | true => cases h
  | nan => cases h

/-! ## Room -/

/-- A fraction lies between two whole numbers. -/
theorem ceil_fraction {m : Int} (odd : m % 2 = 1) (k : Nat) :
    ⌈(m : ℚ) / 2 ^ (k + 1)⌉ = m / 2 ^ (k + 1) + 1 := by
  have hpos : (0 : Int) < 2 ^ (k + 1) := by positivity
  have hrest := rest_pos odd k
  have hbelow := Int.emod_lt_of_pos m hpos
  have hsplit := Int.mul_ediv_add_emod m (2 ^ (k + 1))
  have hcast : (2 : ℚ) ^ (k + 1) = ((2 ^ (k + 1) : Int) : ℚ) := by norm_cast
  rw [hcast, Int.ceil_eq_iff]
  generalize (2 : Int) ^ (k + 1) = place at *
  have hplace : (0 : ℚ) < place := by exact_mod_cast hpos
  constructor
  · rw [lt_div_iff₀ hplace, Int.cast_add, Int.cast_one, add_sub_cancel_right]
    have hlt : m / place * place < m := by
      rw [mul_comm]
      omega
    exact_mod_cast hlt
  · rw [div_le_iff₀ hplace]
    have hle : m ≤ (m / place + 1) * place := by
      rw [add_mul, one_mul, mul_comm]
      omega
    exact_mod_cast hle

/-- The naturals below a finite number are as many as it says, rounded up. -/
theorem count_eq_ceil {x : Number} {p : ℚ} (hx : x.rational = some p) : x.count = ⌈p⌉₊ := by
  cases x with
  | infinite negative => cases hx
  | nan => cases hx
  | int n =>
      cases hx
      exact (Nat.ceil_intCast n).symm
  | fraction m k odd =>
      cases hx
      show (m >>> (k + 1) + 1).toNat = _
      rw [← Int.ceil_toNat, ceil_fraction odd, Int.shiftRight_eq_div_pow]
      norm_cast

/-- The number of entries that a window of a capacity has room for. -/
def room (x : Number) : ℕ∞ :=
  match x.rational with
  | some p => (⌈p⌉₊ : ℕ)
  | none => ⊤

theorem room_of_rational {x : Number} {p : ℚ} (hx : x.rational = some p) :
    x.room = (⌈p⌉₊ : ℕ) := by
  rw [room, hx]

/-- A whole capacity is its own room. -/
@[simp] theorem room_natCast (n : Nat) : room (int n) = n := by
  rw [room_of_rational (p := (n : Int)) rfl, Int.cast_natCast, Nat.ceil_natCast]

/-- A capacity of at least one is infinite, or has room for the naturals below it. -/
theorem room_cases {x : Number} (h : 1 ≤ x) :
    (x = infinite false ∧ x.room = ⊤) ∨
      ∃ p, x.rational = some p ∧ 1 ≤ p ∧ x.room = (x.count : ℕ∞) := by
  cases hx : x.rational with
  | some p =>
      refine .inr ⟨p, rfl, ?_, ?_⟩
      · exact rational_le (x := 1) rfl hx h
      · rw [room_of_rational hx, count_eq_ceil hx]
  | none =>
      cases x with
      | int n => cases hx
      | fraction m k odd => cases hx
      | infinite negative =>
          cases negative with
          | false => exact .inl ⟨rfl, rfl⟩
          | true => cases h
      | nan => cases h

theorem one_le_room {x : Number} (h : 1 ≤ x) : 1 ≤ x.room := by
  rcases room_cases h with ⟨-, hroom⟩ | ⟨p, -, -, hroom⟩
  · rw [hroom]
    exact le_top
  · rw [hroom]
    exact_mod_cast count_pos h

/-- Larger capacities have more room. -/
theorem room_mono {x y : Number} (hx : 1 ≤ x) (h : x ≤ y) : x.room ≤ y.room := by
  cases hy : y.rational with
  | none =>
      have htop : y.room = ⊤ := by rw [room, hy]
      rw [htop]
      exact le_top
  | some q =>
      rcases room_cases hx with ⟨rfl, -⟩ | ⟨p, hp, -, -⟩
      · cases y with
        | infinite negative => cases hy
        | nan => cases hy
        | _ => cases h
      · rw [room_of_rational hp, room_of_rational hy]
        exact_mod_cast Nat.ceil_mono (rational_le hp hy h)

theorem count_le_beyond {x : Number} (h : 1 ≤ x) (hdouble : x.IsDouble) : x.count ≤ beyond := by
  cases x with
  | int n =>
      have hpos : n.natAbs ≠ 0 := by
        have : (1 : Int) ≤ n := int_le_int.1 h
        omega
      have hbound (top : Nat) (htop : n.natAbs.log2 < top) : n.toNat ≤ 1 <<< top := by
        have := (Nat.log2_lt hpos).1 htop
        rw [Nat.one_shiftLeft]
        omega
      exact hbound 1024 (log2_lt_of_isDouble hdouble)
  | fraction m k odd =>
      obtain ⟨n, rfl, hlow, hhigh⟩ := numerator_of_one_le h hdouble
      have hdiv : n / 2 ^ (k + 1) < n :=
        Nat.div_lt_self (by omega) (Nat.one_lt_two_pow (Nat.succ_ne_zero k))
      have hbound := exactBound_lt_beyond
      rw [exactBound_eq] at hbound
      rw [count_fraction]
      omega
  | infinite negative =>
      cases negative with
      | false => exact le_rfl
      | true => cases h
  | nan => cases h

theorem count_mono {x y : Number} (hx : 1 ≤ x) (hdouble : x.IsDouble) (h : x ≤ y) :
    x.count ≤ y.count := by
  rcases room_cases (Number.le_trans hx h) with ⟨rfl, -⟩ | ⟨q, hq, -, hroom⟩
  · exact count_le_beyond hx hdouble
  · have hmono := room_mono hx h
    rw [hroom] at hmono
    rcases room_cases hx with ⟨-, htop⟩ | ⟨p, -, -, hroom'⟩
    · rw [htop] at hmono
      exact absurd hmono (by simp)
    · rw [hroom'] at hmono
      exact_mod_cast hmono

end ProverInput.Number
