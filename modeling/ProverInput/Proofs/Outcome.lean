import Mathlib

set_option autoImplicit false

/-! # Outcomes of steps

What it takes for a sequence of operations that may fail to succeed, and what it fails with if it
does not (`FailsOnly`, `error?`). Later proofs take a computation apart with these and never look
into the operations that it is made of.
-/

namespace ProverInput

variable {ε ε' α β γ : Type}

theorem bind_eq_ok {x : Except ε α} {f : α → Except ε β} {b : β} :
    x >>= f = .ok b ↔ ∃ a, x = .ok a ∧ f a = .ok b := by
  cases x with
  | error e => simp [bind, Except.bind]
  | ok a => simp [bind, Except.bind]

theorem map_eq_ok {x : Except ε α} {f : α → β} {b : β} :
    f <$> x = .ok b ↔ ∃ a, x = .ok a ∧ f a = b := by
  cases x with
  | error e => simp [Functor.map, Except.map]
  | ok a => simp [Functor.map, Except.map]

/-- A computation whose outcome is changed. -/
theorem bind_pure_eq_ok {x : Except ε α} {f : α → β} {b : β} :
    (x >>= fun a => pure (f a)) = .ok b ↔ ∃ a, x = .ok a ∧ b = f a := by
  rw [bind_pure_comp, map_eq_ok]
  simp only [eq_comm]

/-- Two computations whose outcomes are put together. -/
theorem both_eq_ok {x : Except ε α} {y : Except ε β} {f : α → β → γ} {c : γ} :
    (x >>= fun a => y >>= fun b => pure (f a b)) = .ok c ↔
      ∃ a b, x = .ok a ∧ y = .ok b ∧ c = f a b := by
  rw [bind_eq_ok]
  constructor
  · rintro ⟨a, ha, h⟩
    obtain ⟨b, hb, hc⟩ := bind_pure_eq_ok.1 h
    exact ⟨a, b, ha, hb, hc⟩
  · rintro ⟨a, b, ha, hb, hc⟩
    exact ⟨a, ha, bind_pure_eq_ok.2 ⟨b, hb, hc⟩⟩

theorem mapError_eq_ok {x : Except ε α} {f : ε → ε'} {a : α} :
    x.mapError f = .ok a ↔ x = .ok a := by
  cases x with
  | error e => simp [Except.mapError]
  | ok b => simp [Except.mapError]

theorem toOption_map_eq_some {x : Except ε α} {f : α → β} {b : β} :
    x.toOption.map f = some b ↔ ∃ a, x = .ok a ∧ f a = b := by
  cases x with
  | error e => simp [Except.toOption]
  | ok a => simp [Except.toOption]

theorem exists_of_isSome {x : Except ε α} (h : x.toOption.isSome = true) : ∃ a, x = .ok a := by
  cases x with
  | error e => cases h
  | ok a => exact ⟨a, rfl⟩

/-- A list is mapped when each of its items is. -/
theorem mapM_eq_ok {f : α → Except ε β} {xs : List α} {ys : List β} :
    xs.mapM f = .ok ys ↔ List.Forall₂ (fun x y => f x = .ok y) xs ys := by
  induction xs generalizing ys with
  | nil =>
      rw [List.mapM_nil, List.forall₂_nil_left_iff]
      exact ⟨fun h => (Except.ok.inj h).symm, fun h => h ▸ rfl⟩
  | cons x xs ih =>
      rw [List.mapM_cons, bind_eq_ok, List.forall₂_cons_left_iff]
      constructor
      · rintro ⟨y, hy, h⟩
        obtain ⟨ys', hys, h⟩ := bind_eq_ok.1 h
        exact ⟨y, ys', hy, ih.1 hys, (Except.ok.inj h).symm⟩
      · rintro ⟨y, ys', hy, hys, rfl⟩
        exact ⟨y, hy, bind_eq_ok.2 ⟨ys', ih.2 hys, rfl⟩⟩

theorem exists_of_mapM {f : α → Except ε β} {xs : List α} {ys : List β} (h : xs.mapM f = .ok ys)
    {x : α} (hx : x ∈ xs) : ∃ y ∈ ys, f x = .ok y := by
  have hpairs := mapM_eq_ok.1 h
  clear h
  induction hpairs with
  | nil => cases hx
  | cons hfirst _ ih =>
      rcases List.mem_cons.1 hx with rfl | hx
      · exact ⟨_, List.mem_cons_self, hfirst⟩
      · obtain ⟨y, hy, hfx⟩ := ih hx
        exact ⟨y, List.mem_cons_of_mem _ hy, hfx⟩

theorem exists_forall₂ {R : α → β → Prop} {xs : List α} (h : ∀ x ∈ xs, ∃ y, R x y) :
    ∃ ys, List.Forall₂ R xs ys := by
  induction xs with
  | nil => exact ⟨[], .nil⟩
  | cons x xs ih =>
      obtain ⟨y, hy⟩ := h x List.mem_cons_self
      obtain ⟨ys, hys⟩ := ih fun x' hx' => h x' (List.mem_cons_of_mem x hx')
      exact ⟨y :: ys, .cons hy hys⟩

theorem forall_of_forall₂ {R : α → β → Prop} {P : β → Prop} {xs : List α} {ys : List β}
    (h : List.Forall₂ R xs ys) (hP : ∀ x y, R x y → P y) : ∀ y ∈ ys, P y := by
  induction h with
  | nil => simp
  | cons hfirst _ ih =>
      intro y hy
      rcases List.mem_cons.1 hy with rfl | hy
      · exact hP _ _ hfirst
      · exact ih y hy

/-! ## Failures -/

/-- A computation that fails with nothing but errors of a certain form. -/
structure FailsOnly (P : ε → Prop) (x : Except ε α) : Prop where
  of_error : ∀ {e}, x = .error e → P e

namespace FailsOnly

variable {P : ε → Prop} {x : Except ε α}

theorem of_ok {a : α} (h : x = .ok a) : FailsOnly P x := by
  constructor
  intro e he
  rw [h] at he
  cases he

theorem error {e : ε} (h : P e) : FailsOnly P (.error e : Except ε α) := by
  constructor
  intro e' he
  cases he
  exact h

theorem bind {f : α → Except ε β} (hx : FailsOnly P x)
    (hf : ∀ a, x = .ok a → FailsOnly P (f a)) : FailsOnly P (x >>= f) := by
  cases x with
  | error e => exact error (hx.of_error rfl)
  | ok a => exact hf a rfl

theorem map {f : α → β} (hx : FailsOnly P x) : FailsOnly P (f <$> x) := by
  cases x with
  | error e => exact error (hx.of_error rfl)
  | ok a => exact of_ok rfl

theorem mapError {P' : ε' → Prop} {f : ε → ε'} (hx : FailsOnly (fun e => P' (f e)) x) :
    FailsOnly P' (x.mapError f) := by
  cases x with
  | error e => exact error (hx.of_error rfl)
  | ok a => exact of_ok rfl

theorem mono {P' : ε → Prop} (hx : FailsOnly P x) (hP : ∀ e, P e → P' e) : FailsOnly P' x :=
  ⟨fun he => hP _ (hx.of_error he)⟩

end FailsOnly

/-- The error of a computation that fails. -/
def error? : Except ε α → Option ε
  | .error e => some e
  | .ok _ => none

@[simp] theorem error?_ok (a : α) : error? (.ok a : Except ε α) = none := rfl

@[simp] theorem error?_error (e : ε) : error? (.error e : Except ε α) = some e := rfl

theorem error?_eq_none_iff {x : Except ε α} : error? x = none ↔ ∃ a, x = .ok a := by
  cases x with
  | error e => simp
  | ok a => simp

theorem error?_eq_some_iff {x : Except ε α} {e : ε} : error? x = some e ↔ x = .error e := by
  cases x with
  | error e' => simp
  | ok a => simp

@[simp] theorem error?_map (f : α → β) (x : Except ε α) : error? (f <$> x) = error? x := by
  cases x with
  | error e => rfl
  | ok a => rfl

theorem error?_mapError (f : ε → ε') (x : Except ε α) :
    error? (x.mapError f) = (error? x).map f := by
  cases x with
  | error e => rfl
  | ok a => rfl

theorem error?_bind_pure (f : α → β) (x : Except ε α) :
    error? (x >>= fun a => pure (f a)) = error? x := by
  rw [bind_pure_comp, error?_map]

/-- Of two computations the first one that fails has the error. -/
theorem error?_both (f : α → β → γ) (x : Except ε α) (y : Except ε β) :
    error? (x >>= fun a => y >>= fun b => pure (f a b)) = (error? x).or (error? y) := by
  cases x with
  | error e => rfl
  | ok a => exact error?_bind_pure (f a) y

/-- Of the items of a list the first one that is not mapped has the error. -/
theorem error?_mapM (f : α → Except ε β) (xs : List α) :
    error? (xs.mapM f) = xs.findSome? fun x => error? (f x) := by
  induction xs with
  | nil => rfl
  | cons x xs ih =>
      rw [List.mapM_cons, error?_both, ih, List.findSome?_cons]
      cases f x with
      | error e => rfl
      | ok b => rfl

theorem mapM_eq_error {f : α → Except ε β} {xs : List α} {e : ε} :
    xs.mapM f = .error e ↔ ∃ before x after, xs = before ++ x :: after ∧ f x = .error e ∧
      ∀ y ∈ before, ∃ z, f y = .ok z := by
  rw [← error?_eq_some_iff, error?_mapM, List.findSome?_eq_some_iff]
  simp only [error?_eq_some_iff, error?_eq_none_iff]

end ProverInput
