import ProverInput.Proofs.ChainState.Run
import ProverInput.Proofs.Number.Rational

set_option autoImplicit false

/-! # Where epochs start

An epoch starts at the multiples of the retarget interval (`startsEpoch_iff`). After a run the epoch
is that of the last block at such a height, or still the one from before the run
(`advanceAll_epochStart`).
-/

namespace ProverInput

namespace ChainState

variable {params : Params} {state last : ChainState}

theorem startsEpoch_iff (hretarget : 1 ≤ params.retargetInterval) {height : Number} :
    startsEpoch params height = true ↔ height.IsMultiple params.retargetInterval :=
  Number.rem_same_zero_iff hretarget

/-- After a run the epoch started with the last block at which one starts, if there is any. -/
theorem advanceAll_epochStart {headers : List Header}
    (h : state.advanceAll params headers = .ok last) :
    (∃ i, ∃ hi : i < headers.length, startsEpoch params headers[i].height = true ∧
      (∀ j, i < j → ∀ hj : j < headers.length, startsEpoch params headers[j].height = false) ∧
      last.epochStartTime = headers[i].time) ∨
    ((∀ j, ∀ hj : j < headers.length, startsEpoch params headers[j].height = false) ∧
      last.epochStartTime = state.epochStartTime) := by
  -- the first block counts only when none of the later ones does
  induction headers generalizing state with
  | nil =>
      rw [← advanceAll_nil.1 h]
      exact .inr ⟨fun j hj => absurd hj (Nat.not_lt_zero j), rfl⟩
  | cons header headers ih =>
      obtain ⟨next, hnext, hrest⟩ := advanceAll_cons.1 h
      have hepoch : next.epochStartTime =
          if startsEpoch params header.height then header.time else state.epochStartTime := by
        obtain ⟨target, targets, -, -, rfl⟩ := advance_eq_ok.1 hnext
        rfl
      rcases ih hrest with ⟨i, hi, hstarts, hlater, htime⟩ | ⟨hnone, htime⟩
      · refine .inl ⟨i + 1, Nat.succ_lt_succ hi, hstarts, ?_, htime⟩
        intro j hij hj
        obtain ⟨j, rfl⟩ := Nat.exists_eq_succ_of_ne_zero (Nat.ne_zero_of_lt hij)
        exact hlater j (Nat.lt_of_succ_lt_succ hij) (Nat.lt_of_succ_lt_succ hj)
      · by_cases hfirst : startsEpoch params header.height = true
        · refine .inl ⟨0, Nat.succ_pos _, hfirst, ?_, ?_⟩
          · intro j hij hj
            obtain ⟨j, rfl⟩ := Nat.exists_eq_succ_of_ne_zero (Nat.ne_zero_of_lt hij)
            exact hnone j (Nat.lt_of_succ_lt_succ hj)
          · rw [htime, hepoch, if_pos hfirst]
            rfl
        · refine .inr ⟨?_, ?_⟩
          · intro j hj
            cases j with
            | zero => exact Bool.eq_false_iff.2 hfirst
            | succ j => exact hnone j (Nat.lt_of_succ_lt_succ hj)
          · rw [htime, hepoch, if_neg hfirst]

end ChainState

end ProverInput
