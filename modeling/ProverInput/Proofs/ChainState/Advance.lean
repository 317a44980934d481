import ProverInput.ChainState
import ProverInput.Proofs.Outcome
import ProverInput.Proofs.Window

set_option autoImplicit false

/-! # Steps and runs of a chain state

`advance_eq_ok` says all that a step does, and `applyAll_induction` carries whatever a step
preserves through a run.
-/

namespace ProverInput.ChainState

variable {params : Params} {state next : ChainState} {header : Header}

/-! ## One step -/

/-- Everything a step does: the target of the header, the longer history, and the new state. -/
theorem advance_eq_ok : state.advance params header = .ok next ↔
    ∃ target targets, Compact.targetOfText header.bits = .ok target ∧
      extendTargets params state.powTargetHistory target = .ok targets ∧
      next = {
        blockHeight := header.height
        totalWork := state.totalWork + Compact.workOf target
        bestBlockHash := Hex.normalize header.hash
        currentTarget := target
        prevTimestamps := extendTimes params state.prevTimestamps header.time
        epochStartTime :=
          if startsEpoch params header.height then header.time else state.epochStartTime
        powTargetHistory := targets } := by
  rw [advance, bind_eq_ok]
  constructor
  · rintro ⟨target, htarget, h⟩
    obtain ⟨targets, htargets, h⟩ := bind_eq_ok.1 h
    exact ⟨target, targets, mapError_eq_ok.1 htarget, mapError_eq_ok.1 htargets,
      (Except.ok.inj h).symm⟩
  · rintro ⟨target, targets, htarget, htargets, rfl⟩
    exact ⟨target, mapError_eq_ok.2 htarget,
      bind_eq_ok.2 ⟨targets, mapError_eq_ok.2 htargets, rfl⟩⟩

theorem applyNext_eq_ok : state.applyNext params header = .ok next ↔
    header.height.same (state.blockHeight + 1) = true ∧ state.advance params header = .ok next := by
  rw [applyNext]
  split
  · rename_i hnext
    exact ⟨fun h => ⟨hnext, h⟩, fun h => h.2⟩
  · rename_i hgap
    refine ⟨fun h => ?_, fun h => absurd h.1 hgap⟩
    cases h

/-! ## Windows -/

theorem mem_extendTimes {times : List Number} {time t : Number}
    (h : t ∈ extendTimes params times time) : t ∈ times ∨ t = time := by
  have hmem := Window.mem_newest h
  rw [List.mem_append, List.mem_singleton] at hmem
  exact hmem.imp Window.mem_newest id

theorem forall_extendTimes {P : Number → Prop} {times : List Number} {time : Number}
    (hold : ∀ t ∈ times, P t) (hnew : P time) : ∀ t ∈ extendTimes params times time, P t := by
  intro t ht
  rcases mem_extendTimes ht with ht | rfl
  · exact hold t ht
  · exact hnew

theorem length_extendTimes {n : Nat} (hn : params.maxTimestampHistory = .int n)
    (times : List Number) (time : Number) : (extendTimes params times time).length ≤ n := by
  rw [extendTimes, hn]
  exact Window.length_newest_le n _

/-- A history is extended by a run of easiest targets at most, and then by the new target. -/
theorem extendTargets_eq_ok {history targets : List Int} {target : Int}
    (h : extendTargets params history target = .ok targets) :
    ∃ n, targets = Window.newest params.powAveragingWindow
      (List.replicate n (Compact.powLimit : Int) ++
        Window.newest params.powAveragingWindow history ++ [target]) := by
  unfold extendTargets at h
  simp only at h
  split at h
  · obtain ⟨window, hwindow, h⟩ := bind_eq_ok.1 h
    obtain ⟨n, rfl⟩ := Window.fill_eq_ok hwindow
    exact ⟨n, (Except.ok.inj h).symm⟩
  · exact ⟨0, (Except.ok.inj h).symm⟩

theorem mem_extendTargets {history targets : List Int} {target t : Int}
    (h : extendTargets params history target = .ok targets) (ht : t ∈ targets) :
    t ∈ history ∨ t = Compact.powLimit ∨ t = target := by
  obtain ⟨n, rfl⟩ := extendTargets_eq_ok h
  have hmem := Window.mem_newest ht
  rw [List.mem_append, List.mem_append, List.mem_singleton, List.mem_replicate] at hmem
  rcases hmem with (⟨-, hlimit⟩ | hold) | hnew
  · exact .inr (.inl hlimit)
  · exact .inl (Window.mem_newest hold)
  · exact .inr (.inr hnew)

/-- Natural targets stay natural, since the easiest one is. -/
theorem nonneg_extendTargets {history targets : List Int} {target : Nat}
    (hold : ∀ t ∈ history, 0 ≤ t) (h : extendTargets params history target = .ok targets) :
    ∀ t ∈ targets, 0 ≤ t := by
  intro t ht
  rcases mem_extendTargets h ht with ht | rfl | rfl
  · exact hold t ht
  · exact Int.natCast_nonneg _
  · exact Int.natCast_nonneg _

theorem length_extendTargets {n : Nat} (hn : params.powAveragingWindow = .int n)
    {history targets : List Int} {target : Int}
    (h : extendTargets params history target = .ok targets) : targets.length ≤ n := by
  obtain ⟨_, rfl⟩ := extendTargets_eq_ok h
  rw [hn]
  exact Window.length_newest_le n _

/-! ## Runs -/

/-- What every step preserves holds after a run. -/
theorem applyAll_induction {P : ChainState → Prop} {headers : List Header}
    (hstep : ∀ state header next, header ∈ headers → P state →
      state.applyNext params header = .ok next → P next)
    {final : ChainState} (hstart : P state) (h : state.applyAll params headers = .ok final) :
    P final := by
  -- on the headers, for every state to start from
  induction headers generalizing state with
  | nil =>
      cases h
      exact hstart
  | cons header headers ih =>
      obtain ⟨middle, hmiddle, h⟩ := bind_eq_ok.1 (applyAll_cons params state header headers ▸ h)
      have hP := hstep state header middle List.mem_cons_self hstart hmiddle
      exact ih (fun s hd n hmem => hstep s hd n (List.mem_cons_of_mem header hmem)) hP h

end ProverInput.ChainState
