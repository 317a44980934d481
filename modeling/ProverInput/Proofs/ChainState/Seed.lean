import ProverInput.Proofs.ChainState.ClosedForm

set_option autoImplicit false

/-! # The seed of a run

A run from a state without targets starts with a full window of copies of the easiest target, which
each block pushes out one by one. So after the run the window holds the copies the blocks left and
the last targets of the blocks (`behind`).

The copies are of the easiest target of the main network, whatever the parameters say. The parameters
have an easiest target of their own, and the window is as if it had been seeded with that one when
the blocks push out all the copies or the two targets are the same, and only then
(`powTargetHistory_of_empty`).
-/

namespace ProverInput.ChainState

variable {params : Params} {state last : ChainState} {headers : List Header} {targets : Nat}

/-- A run adds its targets to a history that needs no filling. -/
theorem powTargetHistory_advanceAll (htargets : params.powAveragingWindow = .int targets)
    {header : Header} (hseeded : targets = 0 ∨ state.powTargetHistory ≠ [])
    (h : state.advanceAll params (header :: headers) = .ok last) :
    ∃ blockTargets, List.Forall₂ (fun h target => Compact.targetOfText h.bits = .ok target)
        (header :: headers) blockTargets ∧
      last.powTargetHistory =
        (state.powTargetHistory ++ blockTargets.map Int.ofNat).rtake targets := by
  refine advanceAll_composes (R := fun state _ blockTargets last => last.powTargetHistory =
    (state.powTargetHistory ++ blockTargets.map Int.ofNat).rtake targets)
    (powTargetHistory_advance htargets) ?_ hseeded h
  intro first second third _ _ _ _ hfirst hsecond
  rw [hsecond, hfirst, Window.rtake_append_rtake, List.map_append, List.append_assoc]

/-- A run that gets over the first seed has a window of a whole size that a list can have. -/
theorem exists_seedable (hempty : state.powTargetHistory = []) {header : Header}
    (h : state.advanceAll params (header :: headers) = .ok last) :
    ∃ targets : Nat, params.powAveragingWindow = .int targets ∧ targets < 2 ^ 32 := by
  obtain ⟨next, hnext, -⟩ := advanceAll_cons.1 h
  obtain ⟨target, history, -, hhistory, -⟩ := advance_eq_ok.1 hnext
  rw [hempty, extendTargets_nil] at hhistory
  obtain ⟨window, hfill, -⟩ := map_eq_ok.1 hhistory
  exact Window.exists_of_fill_empty hfill

/-! ## What is left of the seed -/

/-- The window over a seed with the targets of some blocks behind it: a copy of the ceiling for each
target that is missing, and the last targets. -/
def behind (ceiling targets : Nat) (blockTargets : List Nat) : List Int :=
  List.replicate (targets - blockTargets.length) (ceiling : Int) ++
    (blockTargets.map Int.ofNat).rtake (min blockTargets.length targets)

theorem rtake_seed (ceiling : Nat) (blockTargets : List Nat) :
    (List.replicate targets (ceiling : Int) ++ blockTargets.map Int.ofNat).rtake targets =
      behind ceiling targets blockTargets := by
  simp only [behind, List.rtake, List.length_append, List.length_replicate, List.length_map,
    List.drop_append, List.drop_replicate]
  congr 2 <;> omega

/-- The ceiling shows until enough blocks are there. -/
theorem behind_eq_iff {ceiling other : Nat} {blockTargets : List Nat} :
    behind ceiling targets blockTargets = behind other targets blockTargets ↔
      targets ≤ blockTargets.length ∨ other = ceiling := by
  rw [behind, behind, List.append_left_inj, List.replicate_inj, Nat.sub_eq_zero_iff_le, Nat.cast_inj,
    and_iff_right rfl, eq_comm (a := other)]

/-- After blocks on a state without targets, the window holds what they left of a seed with the
easiest target of the main network. With the easiest target of the parameters it would be the same
just when nothing is left or the parameters have the same easiest target. -/
theorem powTargetHistory_of_empty (hempty : state.powTargetHistory = []) (hheaders : headers ≠ [])
    (h : state.applyAll params headers = .ok last) :
    ∃ (targets : Nat) (blockTargets : List Nat), params.powAveragingWindow = .int targets ∧
      List.Forall₂ (fun h target => Compact.targetOfText h.bits = .ok target)
        headers blockTargets ∧
      last.powTargetHistory = behind Compact.powLimit targets blockTargets ∧
      ∀ ceiling, Compact.targetOf params.powLimitBits = .ok ceiling →
        (last.powTargetHistory = behind ceiling targets blockTargets ↔
          targets ≤ headers.length ∨ ceiling = Compact.powLimit) := by
  obtain ⟨header, headers, rfl⟩ := List.exists_cons_of_ne_nil hheaders
  have hrun := (applyAll_eq_ok.1 h).1
  obtain ⟨targets, htargets, hlist⟩ := exists_seedable hempty hrun
  -- the run is one from the seeded state, where nothing is filled any more
  rw [← advanceAll_seeded htargets (.inr hlist)] at hrun
  obtain ⟨blockTargets, hpairs, hhistory⟩ :=
    powTargetHistory_advanceAll htargets (seed_ne_nil targets state.powTargetHistory) hrun
  have hlast : last.powTargetHistory = behind Compact.powLimit targets blockTargets := by
    rw [hhistory, ← rtake_seed]
    simp only [seeded, seed, if_pos hempty]
  refine ⟨targets, blockTargets, htargets, hpairs, hlast, fun ceiling _ => ?_⟩
  rw [hlast, behind_eq_iff, hpairs.length_eq]

/-- Two blocks on a window of three. One copy is left, of a target that is not the easiest of the
parameters. -/
theorem powTargetHistory_of_empty_two :
    let params : Params := { Params.mainnet with powAveragingWindow := 3, powLimitBits := 0x1f07ffff }
    let state : ChainState := ⟨0, 0, zeroHash, 0, [], 0, []⟩
    let first := plainHeader 1 50
    let second := { plainHeader 2 60 with bits := "1c00ffff" }
    ∃ last, (state.powTargetHistory = [] ∧ [first, second] ≠ [] ∧
        state.applyAll params [first, second] = .ok last) ∧
      last.powTargetHistory =
        [(Compact.powLimit : Int), Compact.powLimit, Compact.target 0x1c00ffff] ∧
      last.powTargetHistory ≠
        [(Compact.target 0x1f07ffff : Int), Compact.powLimit, Compact.target 0x1c00ffff] := by
  intro params state first second
  have hheaders : [first, second] ≠ [] := List.cons_ne_nil _ _
  have hfirst : Compact.targetOfText "1d00ffff" = .ok Compact.powLimit := rfl
  have hsecond : Compact.targetOfText "1c00ffff" = .ok (Compact.target 0x1c00ffff) := rfl
  have hwindow : params.powAveragingWindow = .int (3 : Nat) := rfl
  have hseed : Seedable 3 state.powTargetHistory := .inr (by norm_num)
  obtain ⟨middle, hmiddle, -, hseed⟩ : ∃ next, state.advance params first = .ok next ∧ _ :=
    exists_advance hwindow hseed hfirst
  obtain ⟨last, hlast, -⟩ : ∃ next, middle.advance params second = .ok next ∧ _ :=
    exists_advance hwindow hseed hsecond
  have hrun : state.applyAll params [first, second] = .ok last :=
    applyAll_eq_ok.2 ⟨advanceAll_cons.2 ⟨middle, hmiddle, advanceAll_cons.2 ⟨last, hlast,
      advanceAll_nil.2 rfl⟩⟩, by decide⟩
  obtain ⟨targets, blockTargets, htargets, hpairs, hhistory, hceiling⟩ :=
    powTargetHistory_of_empty rfl hheaders hrun
  obtain rfl : 3 = targets := by
    have hthree : (3 : Int) = targets := Number.int.inj htargets
    omega
  obtain rfl : blockTargets = [Compact.powLimit, Compact.target 0x1c00ffff] := by
    obtain ⟨_, _, hfirst', hrest, rfl⟩ := List.forall₂_cons_left_iff.1 hpairs
    obtain ⟨_, _, hsecond', hnone, rfl⟩ := List.forall₂_cons_left_iff.1 hrest
    obtain rfl := Except.ok.inj (hfirst'.symm.trans hfirst)
    obtain rfl := Except.ok.inj (hsecond'.symm.trans hsecond)
    rw [List.forall₂_nil_left_iff.1 hnone]
  refine ⟨last, ⟨rfl, hheaders, hrun⟩, hhistory, fun hother => ?_⟩
  rcases (hceiling (Compact.target 0x1f07ffff) rfl).1 hother with hfull | hsame
  · exact absurd hfull (by decide)
  · exact absurd hsame (by decide)

/-- A block on a window of two that has the easiest target of the parameters leaves two targets, and
the first is the one of the main network. -/
theorem powTargetHistory_ne_ceiling :
    let params : Params := { Params.mainnet with powAveragingWindow := 2, powLimitBits := 0x1f07ffff }
    let state : ChainState := ⟨0, 0, zeroHash, 0, [], 0, []⟩
    let header := { plainHeader 1 1000 with bits := "1f07ffff" }
    ∃ last ceiling, state.applyAll params [header] = .ok last ∧
      Compact.targetOf params.powLimitBits = .ok ceiling ∧
      Compact.targetOfText header.bits = .ok ceiling ∧
      last.powTargetHistory = [(Compact.powLimit : Int), ceiling] ∧
      last.powTargetHistory ≠ behind ceiling 2 [ceiling] := by
  intro params state header
  have htarget : Compact.targetOfText "1f07ffff" = .ok (Compact.target 0x1f07ffff) := rfl
  have hextend : extendTargets params state.powTargetHistory (Compact.target 0x1f07ffff) =
      .ok [(Compact.powLimit : Int), Compact.target 0x1f07ffff] := rfl
  have hadvance : state.advance params header = .ok _ :=
    advance_eq_ok.2 ⟨_, _, htarget, hextend, rfl⟩
  have hrun : state.applyAll params [header] = .ok _ :=
    applyAll_eq_ok.2 ⟨advanceAll_cons.2 ⟨_, hadvance, advanceAll_nil.2 rfl⟩, by decide⟩
  exact ⟨_, Compact.target 0x1f07ffff, hrun, rfl, htarget, rfl, by decide⟩

end ProverInput.ChainState
