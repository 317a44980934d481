import ProverInput.Proofs.ChainState.Checkpoint

set_option autoImplicit false

/-! # Total work as a measure of chains

A block adds the work of its target to the total work and nothing else (`totalWork_applyNext`). The
work is natural, so the total never falls along a run. It is at least one for targets from one up to
`2 ^ 256` and none for any other (`one_le_workOf_iff`): a compact form can stand for far higher
targets, and then a block leaves the total as it was.

Between positive targets the lower one takes at least as much work (`workOf_anti`), so of two runs of
equal length the one with the lower targets ends with at least as much in total
(`totalWork_le_of_harder`). The target zero is left out, as its work is none.
-/

namespace ProverInput

namespace Compact

theorem one_le_workOf_iff (t : Nat) : 1 ≤ workOf t ↔ 0 < t ∧ t < 2 ^ 256 := by
  have hcount : hashCount = 2 ^ 256 := by decide +kernel
  rw [workOf, hcount]
  by_cases ht : t = 0
  · simp [ht]
  · rw [if_neg ht, Nat.le_div_iff_mul_le (Nat.succ_pos t)]
    omega

theorem workOf_anti {a b : Nat} (ha : 0 < a) (hab : a ≤ b) : workOf b ≤ workOf a := by
  rw [workOf, workOf, if_neg (by omega), if_neg (by omega)]
  exact Nat.div_le_div_left (by omega) (Nat.succ_pos a)

end Compact

namespace ChainState

variable {params params' : Params} {state state' next last last' : ChainState}

theorem totalWork_applyNext {header : Header} (h : state.applyNext params header = .ok next) :
    ∃ target, Compact.targetOfText header.bits = .ok target ∧
      next.totalWork = state.totalWork + Compact.workOf target := by
  obtain ⟨target, targets, htarget, -, rfl⟩ := advance_eq_ok.1 (applyNext_eq_ok.1 h).2
  exact ⟨target, htarget, rfl⟩

/-- The total work never falls. -/
theorem totalWork_le_applyAll {headers : List Header}
    (h : state.applyAll params headers = .ok last) : state.totalWork ≤ last.totalWork := by
  refine applyAll_induction (P := fun s => state.totalWork ≤ s.totalWork) ?_ le_rfl h
  intro s header s' _ hle hnext
  obtain ⟨target, -, hwork⟩ := totalWork_applyNext hnext
  rw [hwork]
  omega

/-- The first header has a positive target that is not above the target of the second. -/
def Harder (first second : Header) : Prop :=
  ∃ a b, Compact.targetOfText first.bits = .ok a ∧ Compact.targetOfText second.bits = .ok b ∧
    0 < a ∧ a ≤ b

/-- Of two runs the one with the harder blocks stays ahead. -/
theorem totalWork_le_of_harder {first second : List Header}
    (hpairs : List.Forall₂ Harder first second) (hle : state'.totalWork ≤ state.totalWork)
    (hfirst : state.applyAll params first = .ok last)
    (hsecond : state'.applyAll params' second = .ok last') :
    last'.totalWork ≤ last.totalWork := by
  -- side by side along both runs, from any two states in this order
  induction hpairs generalizing state state' with
  | nil =>
      cases hfirst
      cases hsecond
      exact hle
  | cons hpair _ ih =>
      rw [applyAll_cons] at hfirst hsecond
      obtain ⟨next, hnext, hfirst⟩ := bind_eq_ok.1 hfirst
      obtain ⟨next', hnext', hsecond⟩ := bind_eq_ok.1 hsecond
      refine ih ?_ hfirst hsecond
      obtain ⟨a, b, ha, hb, hpos, hab⟩ := hpair
      obtain ⟨a', ha', hwork⟩ := totalWork_applyNext hnext
      obtain ⟨b', hb', hwork'⟩ := totalWork_applyNext hnext'
      cases ha.symm.trans ha'
      cases hb.symm.trans hb'
      have hanti := Compact.workOf_anti hpos hab
      rw [hwork, hwork']
      omega

/-- The total work never falls along a run, each header raises it exactly when its target is
positive and below `2 ^ 256`, and of two runs from one state the one with the harder blocks ends with
at least as much of it. -/
theorem totalWork_orders (params : Params) (state : ChainState) :
    (∀ headers last, state.applyAll params headers = .ok last →
      state.totalWork ≤ last.totalWork) ∧
    (∀ before header after last, state.applyAll params (before ++ header :: after) = .ok last →
      ∃ reached next target, state.applyAll params before = .ok reached ∧
        reached.applyNext params header = .ok next ∧ next.applyAll params after = .ok last ∧
        Compact.targetOfText header.bits = .ok target ∧
        (reached.totalWork + 1 ≤ next.totalWork ↔ 0 < target ∧ target < 2 ^ 256)) ∧
    ∀ first second last last', state.applyAll params first = .ok last →
      state.applyAll params second = .ok last' → List.Forall₂ Harder first second →
      last'.totalWork ≤ last.totalWork := by
  refine ⟨fun headers last h => totalWork_le_applyAll h, ?_, ?_⟩
  · intro before header after last h
    rw [applyAll_append] at h
    obtain ⟨reached, hreached, h⟩ := bind_eq_ok.1 h
    rw [applyAll_cons] at h
    obtain ⟨next, hnext, hlast⟩ := bind_eq_ok.1 h
    obtain ⟨target, htarget, hwork⟩ := totalWork_applyNext hnext
    refine ⟨reached, next, target, hreached, hnext, hlast, htarget, ?_⟩
    rw [← Compact.one_le_workOf_iff, hwork]
    omega
  · intro first second last last' hfirst hsecond hpairs
    exact totalWork_le_of_harder hpairs le_rfl hfirst hsecond

/-- Of two blocks the second has a target beyond `2 ^ 256`, so it adds no work. -/
theorem totalWork_orders_beyond :
    let state : ChainState := ⟨0, 10, zeroHash, 5, [1], 2, [5]⟩
    let header := plainHeader 1 1600000000
    let easier := { header with bits := "ff00ffff" }
    ∃ last last', state.applyAll Params.mainnet [header] = .ok last ∧
      state.applyAll Params.mainnet [easier] = .ok last' ∧
      List.Forall₂ Harder [header] [easier] ∧ last'.totalWork ≤ last.totalWork ∧
      state.totalWork + 1 ≤ last.totalWork ∧ last'.totalWork = state.totalWork := by
  intro state header easier
  have hbits : Compact.targetOfText "1d00ffff" = .ok Compact.powLimit := rfl
  have hbits' : Compact.targetOfText "ff00ffff" = .ok (Compact.target 0xff00ffff) := rfl
  obtain ⟨hmono, hstep, hpairs⟩ := totalWork_orders Params.mainnet state
  have hraised : ∀ {block : Header} {target : Nat} {last : ChainState},
      state.applyAll Params.mainnet [block] = .ok last →
      Compact.targetOfText block.bits = .ok target →
      (state.totalWork + 1 ≤ last.totalWork ↔ 0 < target ∧ target < 2 ^ 256) := by
    intro block target last hlast htarget
    obtain ⟨reached, next, found, hreached, -, hnext, hfound, hiff⟩ := hstep [] block [] last hlast
    cases hreached
    cases hnext
    obtain rfl := Except.ok.inj (hfound.symm.trans htarget)
    exact hiff
  obtain ⟨last, hlast⟩ : ∃ last, state.applyAll Params.mainnet [header] = .ok last :=
    exists_of_isSome (by decide +kernel)
  obtain ⟨last', hlast'⟩ : ∃ last', state.applyAll Params.mainnet [easier] = .ok last' :=
    exists_of_isSome (by decide +kernel)
  have hharder : List.Forall₂ Harder [header] [easier] :=
    .cons ⟨_, _, hbits, hbits', by decide +kernel, by decide +kernel⟩ .nil
  refine ⟨last, last', hlast, hlast', hharder, hpairs _ _ _ _ hlast hlast' hharder,
    (hraised hlast hbits).2 (by decide +kernel), ?_⟩
  have hkept : ¬ state.totalWork + 1 ≤ last'.totalWork := fun h =>
    absurd ((hraised hlast' hbits').1 h) (by decide +kernel)
  have hle := hmono _ _ hlast'
  omega

end ChainState

end ProverInput
