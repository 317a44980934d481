import ProverInput.Proofs.ChainData.Follow
import ProverInput.Proofs.ChainData.Generate
import ProverInput.Proofs.ChainState.Epoch

set_option autoImplicit false

/-! # The expected state from the blocks alone

The expected state of chain data is reached from the records and from a state with another target
than the one that is given out. Whoever has only the given state and the blocks comes to the same
state all the same (`generate_recomputes`): a block shows the time and the target of its record
(`ofHeader_shows`), the state before the blocks has a target in its history, so the history is never
filled, and no step looks at the current target.
-/

namespace ProverInput

variable {source : HeaderSource} {params : Params}

/-! ## A history that is not empty -/

namespace Bootstrap

theorem gather_targets_ne_nil {ancestor : Header} {g g' : Gathered} (hg : g.targets ≠ [])
    (h : gather params ancestor g = .ok g') : g'.targets ≠ [] := by
  unfold gather at h
  simp only at h
  split at h
  · obtain ⟨target, -, h⟩ := bind_eq_ok.1 h
    cases h
    exact List.cons_ne_nil _ _
  · cases h
    exact hg

theorem walk_targets_ne_nil {height : Number} {steps : Nat} {current : Header} {g g' : Gathered}
    (hg : g.targets ≠ []) (h : (walk source params height steps current g).outcome = .ok g') :
    g'.targets ≠ [] := by
  induction steps generalizing current g with
  | zero =>
      cases h
      exact hg
  | succ steps ih =>
      rw [walk] at h
      split at h
      · cases h
        exact hg
      · simp only [Logged.outcome_bind, Logged.outcome_conversion, bind_eq_ok,
          mapError_eq_ok] at h
        obtain ⟨ancestor, -, -, -, next, hnext, h⟩ := h
        exact ih (gather_targets_ne_nil hg hnext) h

/-- The history of a state that was built holds the target of its block at least. -/
theorem fromHeader_targets_ne_nil {head : Header} {state : ChainState}
    (h : (fromHeader source params head).outcome = .ok state) : state.powTargetHistory ≠ [] := by
  simp only [fromHeader, Logged.outcome_bind, Logged.outcome_conversion, Logged.outcome_fault,
    Logged.outcome_pure, bind_eq_ok, mapError_eq_ok] at h
  obtain ⟨target, -, g, hg, epoch, -, work, -, h⟩ := h
  cases h
  have htargets := walk_targets_ne_nil (List.cons_ne_nil _ _) hg
  simpa using htargets

end Bootstrap

/-! ## What a block shows -/

/-- A block shows the time of its record, and its bits stand for the target of the record. -/
theorem ofHeader_shows {header : Header} {b : Block} (h : Block.ofHeader params header = .ok b)
    {target : Nat} (htarget : Compact.targetOfText header.bits = .ok target) :
    b.header.time = header.time ∧ Compact.targetOf b.header.bits = .ok target := by
  obtain ⟨found, hfound, h⟩ := bind_eq_ok.1 h
  cases h
  obtain ⟨bits, hbits, hfound⟩ := bind_eq_ok.1 hfound
  obtain ⟨indices, -, hfound⟩ := bind_eq_ok.1 hfound
  cases hfound
  have hparse : Compact.parse header.bits = .ok bits := mapError_eq_ok.1 hbits
  have htarget' : Compact.target bits = target := by
    rw [Compact.targetOfText, hparse] at htarget
    exact Except.ok.inj htarget
  refine ⟨rfl, ?_⟩
  rw [← htarget']
  exact Compact.targetOf_int (Compact.parse_lt hparse)

namespace ChainData

/-- The blocks of a run show its times and its targets. -/
theorem blocks_show {headers : List Header} {blocks : List Block}
    (hblocks : headers.mapM (Block.ofHeader params) = .ok blocks) {targets : List Nat}
    (htargets : List.Forall₂ (fun h target => Compact.targetOfText h.bits = .ok target) headers
      targets) :
    blocks.map (fun b => b.header.time) = headers.map Header.time ∧
      blocks.mapM (fun b => Compact.targetOf b.header.bits) = .ok targets := by
  rw [mapM_eq_ok] at hblocks ⊢
  induction htargets generalizing blocks with
  | nil =>
      cases hblocks
      exact ⟨rfl, .nil⟩
  | cons htarget _ ih =>
      cases hblocks with
      | cons hblock hblocks =>
          obtain ⟨htimes, hrest⟩ := ih hblocks
          obtain ⟨htime, hbits⟩ := ofHeader_shows hblock htarget
          refine ⟨?_, .cons hbits hrest⟩
          rw [List.map_cons, List.map_cons, htime, htimes]

/-! ## Epochs -/

/-- Whether an epoch starts with the block at a position. -/
def EpochAt (params : Params) (d : ChainData) (i : Nat) : Prop :=
  (d.chainState.blockHeight + ((i + 1 : Nat) : Number)).IsMultiple params.retargetInterval

/-- The time at which the epoch of the last block started, as the blocks tell it: that of the last
block at a multiple of the retarget interval, or else what the state before them says. -/
def EpochStarts (params : Params) (d : ChainData) (time : Number) : Prop :=
  (∃ i, ∃ hi : i < d.blocks.length, d.EpochAt params i ∧
      (∀ j, i < j → j < d.blocks.length → ¬ d.EpochAt params j) ∧
      time = d.blocks[i].header.time) ∨
    ((∀ j < d.blocks.length, ¬ d.EpochAt params j) ∧ time = d.chainState.epochStartTime)

variable {start : Number} {d : ChainData} {head : Header} {initial : ChainState}
  {headers : List Header}

theorem MadeOf.length_blocks (h : MadeOf source params start d head initial headers) :
    d.blocks.length = headers.length :=
  (mapM_eq_ok.1 h.formats).length_eq.symm

theorem MadeOf.chainState_eq (h : MadeOf source params start d head initial headers) :
    { d.chainState with currentTarget := initial.currentTarget } = initial := by
  rcases retarget_eq_ok.1 h.retargets with ⟨-, hstate⟩ | ⟨_, _, _, -, -, hstate⟩
  all_goals rw [hstate]

/-- The state that is given out differs in the current target only, which plays no part in a run. -/
theorem MadeOf.takes (h : MadeOf source params start d head initial headers) {times targets : Nat}
    {blockTimes : List Number} {blockTargets : List Nat}
    (htakes : initial.Takes times targets blockTimes blockTargets d.expected) :
    d.chainState.Takes times targets blockTimes blockTargets d.expected := by
  rw [← h.chainState_eq] at htakes
  exact ⟨htakes.currentTarget, htakes.totalWork, htakes.prevTimestamps, htakes.powTargetHistory⟩

/-- The target that is given out with the first state is that of the first block. -/
theorem MadeOf.currentTarget (h : MadeOf source params start d head initial headers)
    {blockTargets : List Nat} (hne : d.blocks ≠ [])
    (hdecode : d.blocks.mapM (fun b => Compact.targetOf b.header.bits) = .ok blockTargets) :
    (blockTargets.map Int.ofNat).head? = some d.chainState.currentTarget := by
  rcases retarget_eq_ok.1 h.retargets with
    ⟨hnone, -⟩ | ⟨first, others, target, hblocks, htarget, hstate⟩
  · exact absurd hnone hne
  · rw [hblocks, mapM_eq_ok, List.forall₂_cons_left_iff] at hdecode
    obtain ⟨target', more, htarget', -, rfl⟩ := hdecode
    cases htarget.symm.trans htarget'
    rw [hstate]
    rfl

theorem MadeOf.epochStarts (h : MadeOf source params start d head initial headers)
    (hretarget : 1 ≤ params.retargetInterval)
    (htimes : d.blocks.map (fun b => b.header.time) = headers.map Header.time)
    (hheights : ∀ i (hi : i < headers.length),
      headers[i].height = d.chainState.blockHeight + ((i + 1 : Nat) : Number)) :
    d.EpochStarts params d.expected.epochStartTime := by
  have hlength := h.length_blocks
  have hstarts : ∀ i (hi : i < headers.length),
      ChainState.startsEpoch params headers[i].height = true ↔ d.EpochAt params i := by
    intro i hi
    rw [ChainState.startsEpoch_iff hretarget, hheights i hi, EpochAt]
  have hnot : ∀ i (hi : i < headers.length),
      ChainState.startsEpoch params headers[i].height = false → ¬ d.EpochAt params i := by
    intro i hi hfalse hmultiple
    rw [(hstarts i hi).2 hmultiple] at hfalse
    cases hfalse
  rcases ChainState.advanceAll_epochStart h.advances with
    ⟨i, hi, hstart, hlater, htime⟩ | ⟨hnone, htime⟩
  · refine .inl ⟨i, hlength ▸ hi, (hstarts i hi).1 hstart, ?_, ?_⟩
    · intro j hij hj
      exact hnot j (hlength ▸ hj) (hlater j hij (hlength ▸ hj))
    · have hsame := List.getElem_of_eq htimes (by rwa [List.length_map, hlength])
      rw [List.getElem_map, List.getElem_map] at hsame
      rw [htime, hsame]
  · refine .inr ⟨?_, ?_⟩
    · intro j hj
      exact hnot j (hlength ▸ hj) (hnone j (hlength ▸ hj))
    · rw [htime, ← h.chainState_eq]

/-! ## The whole state -/

/-- The state that chain data ends with is what its blocks make of the state that it starts with.
For the start of the epoch the heights of the blocks must be consecutive. -/
theorem generate_recomputes {times targets : Nat} (htimes : params.maxTimestampHistory = .int times)
    (htargets : params.powAveragingWindow = .int targets)
    (hretarget : 1 ≤ params.retargetInterval) {n : Nat} (hn : 1 ≤ n)
    (h : (generate source params start (.int n)).outcome = .ok d) :
    ∃ blockTargets head initial headers, headers.length = n ∧
      MadeOf source params start d head initial headers ∧
      d.blocks.length = n ∧
      d.blocks.mapM (fun b => Compact.targetOf b.header.bits) = .ok blockTargets ∧
      (blockTargets.map Int.ofNat).head? = some d.chainState.currentTarget ∧
      d.chainState.Takes times targets (d.blocks.map fun b => b.header.time) blockTargets
        d.expected ∧
      ((∀ i (hi : i < headers.length),
          headers[i].height = d.chainState.blockHeight + ((i + 1 : Nat) : Number)) →
        d.EpochStarts params d.expected.epochStartTime) := by
  obtain ⟨head, initial, headers, hlength, hmade⟩ := generate_eq_ok.1 h
  rw [Number.count_int, Int.toNat_natCast] at hlength
  have hseeded := Bootstrap.fromHeader_targets_ne_nil hmade.builds
  obtain ⟨header, others, rfl⟩ := List.exists_cons_of_length_pos (by omega : 0 < headers.length)
  obtain ⟨blockTargets, hpairs, htakes⟩ :=
    ChainState.advanceAll_takes htimes htargets (.inr hseeded) hmade.advances
  obtain ⟨hblockTimes, hdecode⟩ := blocks_show hmade.formats hpairs
  have hblocks := hmade.length_blocks.trans hlength
  refine ⟨blockTargets, head, initial, _, hlength, hmade, hblocks, hdecode,
    hmade.currentTarget (List.ne_nil_of_length_pos (by omega)) hdecode, ?_,
    hmade.epochStarts hretarget hblockTimes⟩
  rw [hblockTimes]
  exact hmade.takes htakes

/-- Two blocks with windows of two; an epoch starts with the first of them. -/
theorem generate_recomputes_linked :
    let params := { Params.mainnet with
      maxTimestampHistory := 2, powAveragingWindow := 2, retargetInterval := 2 }
    let records := [linking 2 'z' 'a', linking 3 'a' 'b', linking 4 'b' 'c', linking 5 'c' 'd']
    (params.maxTimestampHistory = .int (2 : Nat) ∧ params.powAveragingWindow = .int (2 : Nat) ∧
        1 ≤ params.retargetInterval ∧ 1 ≤ 2) ∧
      ∃ d blockTargets, (generate (Archive.mk records).source params 3 (.int (2 : Nat))).outcome =
          .ok d ∧
        d.blocks.length = 2 ∧
        d.blocks.mapM (fun b => Compact.targetOf b.header.bits) = .ok blockTargets ∧
        d.chainState.Takes 2 2 (d.blocks.map fun b => b.header.time) blockTargets d.expected ∧
        d.EpochStarts params d.expected.epochStartTime := by
  intro params records
  have hretarget : 1 ≤ params.retargetInterval := (by decide : (1 : Number) ≤ 2)
  have htimes : params.maxTimestampHistory = .int (2 : Nat) := rfl
  have htargets : params.powAveragingWindow = .int (2 : Nat) := rfl
  obtain ⟨d, hd, hfirst, -⟩ :=
    exists_generate params records 3 2 (.int 3) (.int 5) (by decide +kernel)
  obtain ⟨blockTargets, head, initial, headers, hlength, hmade, hblocks, hdecode, -, htakes,
    hepoch⟩ := generate_recomputes htimes htargets hretarget (by decide) hd
  refine ⟨⟨htimes, htargets, hretarget, by decide⟩, d, blockTargets, hd, hblocks, hdecode, htakes,
    hepoch ?_⟩
  obtain ⟨rfl, rfl⟩ := hmade.unique (linking 3 'a' 'b') [linking 4 'b' 'c', linking 5 'c' 'd'] rfl
    (.cons_cons ⟨_, rfl, rfl⟩ (.cons_cons ⟨_, rfl, rfl⟩ (.singleton _))) hlength
  rw [hfirst]
  intro i hi
  have hbound : i < 2 := hi
  interval_cases i
  all_goals rfl

end ChainData

end ProverInput
