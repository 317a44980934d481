import ProverInput.Proofs.Number.Rounding

set_option autoImplicit false

/-! # Numbers as fractions

A finite number is a fraction over a power of two (`rational_eq`), and the others are none. A
remainder of finite numbers is exact, so nothing is left over exactly at the multiples
(`rem_same_zero_iff`), and this is so of any finite numbers and not only of whole ones.
-/

namespace ProverInput.Number

/-- The fraction that a finite number is. -/
def rational : Number → Option ℚ
  | int n => some n
  | fraction m k _ => some (m / 2 ^ (k + 1))
  | infinite _ => none
  | nan => none

theorem rational_eq {x : Number} {p : ℚ} (h : x.rational = some p) :
    p = x.numerator / 2 ^ x.scale := by
  cases x with
  | int n =>
      cases h
      simp [numerator, scale]
  | fraction m k odd =>
      cases h
      rfl
  | infinite negative => cases h
  | nan => cases h

/-! ## Multiples -/

/-- A whole number of times another number. Zero is a multiple of every number. -/
def IsMultiple (x y : Number) : Prop :=
  x = int 0 ∨ ∃ p q : ℚ, x.rational = some p ∧ y.rational = some q ∧ ∃ k : ℤ, p = k * q

theorem dyadic_eq_zero {m : Int} {k : Nat} : dyadic m k = int 0 ↔ m = 0 := by
  constructor
  · intro h
    rw [dyadic_eq_int h, zero_mul]
  · rintro rfl
    induction k with
    | zero => rfl
    | succ k ih =>
        rw [dyadic, dif_neg (by decide)]
        exact ih

theorem rem_finite {x y : Number} {p q : ℚ} (hx : x.rational = some p) (hy : y.rational = some q)
    (hne : y ≠ int 0) :
    x % y = dyadic (Int.tmod (x.numerator <<< y.scale) (y.numerator <<< x.scale))
      (x.scale + y.scale) := by
  show rem x y = _
  cases x with
  | infinite negative => cases hx
  | nan => cases hx
  | int n =>
      cases y with
      | infinite negative => cases hy
      | nan => cases hy
      | int m => simp [rem, hne]
      | fraction m k odd => simp [rem]
  | fraction n j odd =>
      cases y with
      | infinite negative => cases hy
      | nan => cases hy
      | int m => simp [rem, hne]
      | fraction m k odd => simp [rem]

/-- Multiples of finite numbers, over a common denominator. -/
theorem numerator_dvd_iff {x y : Number} {p q : ℚ} (hx : x.rational = some p)
    (hy : y.rational = some q) :
    y.numerator * 2 ^ x.scale ∣ x.numerator * 2 ^ y.scale ↔ ∃ k : ℤ, p = k * q := by
  rw [rational_eq hx, rational_eq hy]
  have hx0 : (2 : ℚ) ^ x.scale ≠ 0 := by positivity
  have hy0 : (2 : ℚ) ^ y.scale ≠ 0 := by positivity
  refine exists_congr fun k => ?_
  rw [div_eq_iff hx0, mul_div_assoc', div_mul_eq_mul_div, eq_div_iff hy0, ← Int.cast_inj (α := ℚ)]
  push_cast
  constructor
  · intro h
    rw [h]
    ring
  · intro h
    rw [h]
    ring

/-- A remainder that is a number is left by finite dividends only. -/
theorem rem_of_not_finite {x : Number} (hx : x.rational = none) (y : Number) : x % y = nan := by
  show rem x y = nan
  cases x with
  | int n => cases hx
  | fraction m k odd => cases hx
  | infinite negative => cases y <;> rfl
  | nan => cases y <;> rfl

theorem rem_infinite {x : Number} {p : ℚ} (hx : x.rational = some p) (negative : Bool) :
    x % infinite negative = x := by
  show rem x (infinite negative) = x
  cases x with
  | int n => rfl
  | fraction m k odd => rfl
  | infinite negative => cases hx
  | nan => cases hx

theorem rem_finite_eq_zero {x y : Number} {p q : ℚ} (hx : x.rational = some p)
    (hy : y.rational = some q) (hne : y ≠ int 0) : x % y = int 0 ↔ ∃ k : ℤ, p = k * q := by
  rw [rem_finite hx hy hne, dyadic_eq_zero, ← Int.dvd_iff_tmod_eq_zero, Int.shiftLeft_eq,
    Int.shiftLeft_eq, numerator_dvd_iff hx hy]

/-- Nothing is left over exactly at the multiples. -/
theorem rem_same_zero_iff {x y : Number} (hy : 1 ≤ y) :
    (x % y).same 0 = true ↔ x.IsMultiple y := by
  rw [same_iff, IsMultiple]
  cases hx : x.rational with
  | none =>
      have hzero : x ≠ int 0 := by
        rintro rfl
        cases hx
      rw [rem_of_not_finite hx]
      simp [hzero]
  | some p =>
      have hnan : x % y = int 0 → x % y ≠ nan := by
        intro h
        rw [h]
        simp
      cases hq : y.rational with
      | none =>
          -- of the numbers that are at least one, only infinity is not finite
          cases y with
          | int n => cases hq
          | fraction m k odd => cases hq
          | infinite negative =>
              rw [rem_infinite hx] at hnan ⊢
              simpa using hnan
          | nan => cases hy
      | some q =>
          have hne : y ≠ int 0 := by
            rintro rfl
            have : (1 : Int) ≤ 0 := int_le_int.1 hy
            omega
          have hzero : x = int 0 → ∃ k : ℤ, p = k * q := by
            rintro rfl
            cases hx
            exact ⟨0, by simp⟩
          constructor
          · rintro ⟨h, -⟩
            exact .inr ⟨p, q, rfl, rfl, (rem_finite_eq_zero hx hq hne).1 h⟩
          · rintro (h | ⟨_, _, ⟨⟩, ⟨⟩, h⟩)
            · have hrem := (rem_finite_eq_zero hx hq hne).2 (hzero h)
              exact ⟨hrem, hnan hrem⟩
            · have hrem := (rem_finite_eq_zero hx hq hne).2 h
              exact ⟨hrem, hnan hrem⟩

end ProverInput.Number
