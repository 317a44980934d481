import ProverInput.Proofs.Number.Rational

set_option autoImplicit false

/-! # The order of numbers

Finite numbers are in the order of the fractions that they are (`lt_finite_iff`), and the infinities
are at both ends (`infinite_lt_iff`, `lt_infinite_iff`). So the order is transitive (`le_trans`). It
is not reflexive, because `nan` is not even below itself.
-/

namespace ProverInput.Number

theorem not_finite {x : Number} (h : x.rational = none) : x = nan ∨ ∃ s, x = infinite s := by
  cases x with
  | int n => cases h
  | fraction m k odd => cases h
  | infinite s => exact .inr ⟨s, rfl⟩
  | nan => exact .inl rfl

theorem not_lt_nan (x : Number) : ¬ x.lt nan = true := by cases x <;> simp [lt]

theorem not_nan_lt (x : Number) : ¬ nan.lt x = true := by cases x <;> simp [lt]

theorem lt_finite {x y : Number} {p q : ℚ} (hx : x.rational = some p) (hy : y.rational = some q) :
    x.lt y = decide (x.numerator <<< y.scale < y.numerator <<< x.scale) := by
  cases x with
  | infinite negative => cases hx
  | nan => cases hx
  | int n =>
      cases y with
      | infinite negative => cases hy
      | nan => cases hy
      | int m => rfl
      | fraction m k odd => rfl
  | fraction n j odd =>
      cases y with
      | infinite negative => cases hy
      | nan => cases hy
      | int m => rfl
      | fraction m k odd => rfl

theorem lt_finite_iff {x y : Number} {p q : ℚ} (hx : x.rational = some p)
    (hy : y.rational = some q) : x.lt y = true ↔ p < q := by
  rw [lt_finite hx hy, decide_eq_true_eq, Int.shiftLeft_eq, Int.shiftLeft_eq, rational_eq hx,
    rational_eq hy, div_lt_div_iff₀ (by positivity) (by positivity)]
  exact_mod_cast Iff.rfl

/-- Minus infinity is below every other number. -/
theorem infinite_lt_iff {s : Bool} {y : Number} :
    (infinite s).lt y = true ↔ s = true ∧ y ≠ nan ∧ y ≠ infinite true := by
  cases y <;> simp [lt]

/-- Plus infinity is above every other number. -/
theorem lt_infinite_iff {x : Number} {s : Bool} :
    x.lt (infinite s) = true ↔ s = false ∧ x ≠ nan ∧ x ≠ infinite false := by
  cases x <;> simp [lt, and_comm]

protected theorem lt_trans {x y z : Number} (hxy : x.lt y = true) (hyz : y.lt z = true) :
    x.lt z = true := by
  cases hy : y.rational with
  | none =>
      rcases not_finite hy with rfl | ⟨s, rfl⟩
      · exact absurd hxy (not_lt_nan x)
      · -- no number is both below and above others and infinite
        obtain ⟨rfl, -⟩ := lt_infinite_iff.1 hxy
        exact absurd (infinite_lt_iff.1 hyz).1 Bool.false_ne_true
  | some q =>
      cases hx : x.rational with
      | none =>
          rcases not_finite hx with rfl | ⟨s, rfl⟩
          · exact absurd hxy (not_nan_lt y)
          · refine infinite_lt_iff.2 ⟨(infinite_lt_iff.1 hxy).1, ?_, ?_⟩
            · rintro rfl
              exact not_lt_nan y hyz
            · rintro rfl
              exact absurd (lt_infinite_iff.1 hyz).1 Bool.false_ne_true.symm
      | some p =>
          cases hz : z.rational with
          | none =>
              rcases not_finite hz with rfl | ⟨s, rfl⟩
              · exact absurd hyz (not_lt_nan y)
              · refine lt_infinite_iff.2 ⟨(lt_infinite_iff.1 hyz).1, ?_, ?_⟩
                · rintro rfl
                  cases hx
                · rintro rfl
                  cases hx
          | some r =>
              rw [lt_finite_iff hx hy] at hxy
              rw [lt_finite_iff hy hz] at hyz
              exact (lt_finite_iff hx hz).2 (hxy.trans hyz)

theorem le_iff {x y : Number} : x ≤ y ↔ x.lt y = true ∨ x = y ∧ x ≠ nan := by
  show (x.lt y || x.same y) = true ↔ _
  rw [Bool.or_eq_true, same_iff]

/-- No number is below what is none. -/
theorem not_le_nan (x : Number) : ¬ x ≤ nan := by
  rw [le_iff]
  rintro (h | ⟨h, hne⟩)
  · exact not_lt_nan x h
  · exact hne h

theorem rational_le {x y : Number} {p q : ℚ} (hx : x.rational = some p) (hy : y.rational = some q)
    (h : x ≤ y) : p ≤ q := by
  rcases le_iff.1 h with hlt | ⟨rfl, -⟩
  · exact ((lt_finite_iff hx hy).1 hlt).le
  · exact (Option.some.inj (hx.symm.trans hy)).le

protected theorem le_trans {x y z : Number} (hxy : x ≤ y) (hyz : y ≤ z) : x ≤ z := by
  rcases le_iff.1 hxy with hlt | ⟨rfl, -⟩
  · rcases le_iff.1 hyz with hlt' | ⟨rfl, -⟩
    · exact le_iff.2 (.inl (Number.lt_trans hlt hlt'))
    · exact hxy
  · exact hyz

instance : IsTrans Number (· ≤ ·) := ⟨fun _ _ _ => Number.le_trans⟩

end ProverInput.Number
