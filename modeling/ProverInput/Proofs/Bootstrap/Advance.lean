import ProverInput.Proofs.Bootstrap.Walk
import ProverInput.Proofs.ChainState.Advance

set_option autoImplicit false

/-! # Going on from a state that was built

A state built from the blocks up to a height becomes, with one more block, the state built from the
blocks up to the next height (`snapshot_applyNext`): the windows take in what a longer walk sees,
and an epoch starts where the last multiple of a whole retarget interval changes
(`epochStart_succ`). A run of blocks follows by induction (`snapshot_applyAll`), with the work of
its blocks added up.
-/

namespace ProverInput

/-- Window sizes and a retarget interval of at least one. The interval is whole; the sizes need not
be. -/
structure Params.Regular (params : Params) : Prop where
  times : 1 ≤ params.maxTimestampHistory
  timesDouble : params.maxTimestampHistory.IsDouble
  targets : 1 ≤ params.powAveragingWindow
  targetsDouble : params.powAveragingWindow.IsDouble
  retarget : 1 ≤ params.retargetInterval
  whole : params.retargetInterval.floor = params.retargetInterval

namespace Bootstrap

variable {source : HeaderSource} {params : Params}

/-! ## Epochs -/

/-- The epoch of a height starts at the last multiple of a whole interval. -/
theorem epochHeight_int {interval height : Nat} (hinterval : 0 < interval)
    (hretarget : params.retargetInterval = .int interval) (hheight : height < Number.exactBound) :
    epochHeight params (.int height) = .int (height / interval * interval : Nat) := by
  have hexact : ((height / interval : Nat) * interval : Int).natAbs ≤ Number.exactBound := by
    rw [← Nat.cast_mul, Int.natAbs_natCast]
    exact le_trans (Nat.div_mul_le_self height interval) hheight.le
  rw [Number.exactBound_eq] at hheight
  rw [epochHeight, hretarget, Number.int_div_int _ hinterval, Number.floor_nearest hinterval hheight,
    Number.int_mul_int, Number.nearest_one hexact, Nat.cast_mul]

theorem startsEpoch_int {interval height : Nat} (hinterval : 0 < interval)
    (hretarget : params.retargetInterval = .int interval) :
    ChainState.startsEpoch params (.int height) = true ↔ interval ∣ height := by
  have hne : (interval : Int) ≠ 0 := by omega
  have hrem : ((height : Int).tmod interval) = ((height % interval : Nat) : Int) :=
    (Int.ofNat_tmod height interval).symm
  rw [ChainState.startsEpoch, hretarget, Number.int_rem_int _ hne, hrem, Nat.dvd_iff_mod_eq_zero]
  simp only [Number.same, Number.ofNat_eq, Bool.and_eq_true, decide_eq_true_eq, Number.int.injEq]
  constructor
  · rintro ⟨hzero, -⟩
    exact_mod_cast hzero
  · intro hzero
    exact ⟨by exact_mod_cast hzero, by simp⟩

theorem epochStart_succ_int {interval height : Nat} (hinterval : 0 < interval)
    (hretarget : params.retargetInterval = .int interval)
    (hheight : height + 1 < Number.exactBound) {header : Header}
    (hheader : source.headerAt (.int (height + 1 : Nat)) = .ok header) :
    epochStart source params (.int (height + 1 : Nat)) =
      if ChainState.startsEpoch params (.int (height + 1 : Nat)) then .ok header.time
      else epochStart source params (.int height) := by
  have hreached (h : Nat) : (Number.int interval ≤ .int h) ↔ interval ≤ h := by
    rw [Number.int_le_int]
    omega
  rw [epochStart, epochStart, epochHeight_int hinterval hretarget hheight,
    epochHeight_int hinterval hretarget (Nat.lt_of_succ_lt hheight), hretarget, Nat.succ_div]
  simp only [hreached, startsEpoch_int hinterval hretarget]
  by_cases hdvd : interval ∣ height + 1
  · -- the quotient grows by one, and the epoch starts with the block itself
    have hmul : (height / interval + 1) * interval = height + 1 := by
      have h := Nat.div_mul_cancel hdvd
      rwa [Nat.succ_div, if_pos hdvd] at h
    rw [if_pos hdvd, if_pos hdvd, hmul, if_pos (Nat.le_of_dvd (Nat.succ_pos _) hdvd), hheader]
    rfl
  · -- the quotient is the same, and the first epoch is not left here either
    have hle : interval ≤ height + 1 ↔ interval ≤ height := by
      have hne : interval ≠ height + 1 := fun h => hdvd (h ▸ dvd_refl _)
      omega
    simp only [hdvd, hle, if_false, Nat.add_zero]

theorem epochStart_succ_infinite (hretarget : params.retargetInterval = .infinite false)
    {height : Nat} {header : Header} :
    epochStart source params (.int (height + 1 : Nat)) =
      if ChainState.startsEpoch params (.int (height + 1 : Nat)) then .ok header.time
      else epochStart source params (.int height) := by
  have hnever (h : Nat) : ¬ Number.infinite false ≤ .int h := by
    intro hle
    cases hle
  have hsame : ChainState.startsEpoch params (.int (height + 1 : Nat)) = false := by
    rw [ChainState.startsEpoch, hretarget]
    show Number.same (.int (height + 1 : Nat)) 0 = false
    simp [Number.same, Number.ofNat_eq]
    omega
  rw [epochStart, epochStart, hretarget, if_neg (hnever _), if_neg (hnever _), hsame]
  rfl

/-- One block further an epoch starts, or the epoch is still the same. -/
theorem epochStart_succ (hparams : params.Regular) {height : Nat}
    (hheight : height + 1 < Number.exactBound) {header : Header}
    (hheader : source.headerAt (.int (height + 1 : Nat)) = .ok header) :
    epochStart source params (.int (height + 1 : Nat)) =
      if ChainState.startsEpoch params (.int (height + 1 : Nat)) then .ok header.time
      else epochStart source params (.int height) := by
  have hretarget := hparams.retarget
  have hwhole := hparams.whole
  -- of the numbers that are at least one, the whole ones are integers and infinity
  cases hinterval : params.retargetInterval with
  | int n =>
      rw [hinterval] at hretarget
      have hn : (1 : Int) ≤ n := Number.int_le_int.1 hretarget
      obtain ⟨interval, rfl⟩ := Int.eq_ofNat_of_zero_le (by omega : 0 ≤ n)
      exact epochStart_succ_int (by omega) hinterval hheight hheader
  | fraction m k odd =>
      rw [hinterval] at hwhole
      cases hwhole
  | infinite negative =>
      rw [hinterval] at hretarget
      cases negative with
      | false => exact epochStart_succ_infinite hinterval
      | true => cases hretarget
  | nan =>
      rw [hinterval] at hretarget
      cases hretarget

/-! ## Steps -/

theorem extendTimes_windows (hparams : params.Regular) {blocks : List Header}
    (hbeyond : blocks.length < Number.beyond) (h : Header) :
    ChainState.extendTimes params (windows params blocks).times h.time =
      (windows params (blocks ++ [h])).times := by
  have hlength : (blocks.map Header.time).length < Number.beyond := by rwa [List.length_map]
  simp only [windows, List.map_append, List.map_cons, List.map_nil]
  exact Window.entries_append_rtake hparams.times hparams.timesDouble hlength h.time

/-- The window of targets of a run of blocks is not empty, so it is never filled. -/
theorem extendTargets_windows (hparams : params.Regular) {blocks : List Header} (hne : blocks ≠ [])
    (hbeyond : blocks.length < Number.beyond) (h : Header) :
    ChainState.extendTargets params ((windows params blocks).targets.map Int.ofNat) h.target =
      .ok ((windows params (blocks ++ [h])).targets.map Int.ofNat) := by
  set history : List Int := (blocks.map Header.target).map Int.ofNat with hhistory
  have hlength : history.length = blocks.length := by simp [hhistory]
  -- with a block in it and room for one, the window is not empty
  have hempty : (Window.ofList (history.rtake params.powAveragingWindow.count)
      params.powAveragingWindow).isEmpty = false := by
    rw [Window.isEmpty, Window.entries_rtake hparams.targets hparams.targetsDouble
      (hlength ▸ hbeyond), List.isEmpty_eq_false_iff_exists_mem]
    refine List.exists_mem_of_length_pos ?_
    have hcount := Number.count_pos hparams.targets
    have hblocks := List.length_pos_iff.2 hne
    rw [Window.length_rtake]
    omega
  have hentries := Window.entries_append_rtake hparams.targets hparams.targetsDouble
    (hlength ▸ hbeyond) (h.target : Int)
  simp only [windows, List.map_append, List.map_cons, List.map_nil, Window.map_rtake, ← hhistory]
  simp only [ChainState.extendTargets, hempty]
  exact congrArg Except.ok hentries

variable {archive : Archive} {base : Int} {chain : List Header}

theorem epochStart_linked (hparams : params.Regular) (hlinked : Linked base chain)
    (hholds : archive.Holds chain) (hbase : 0 ≤ base) {i : Nat} (hi : i + 1 < chain.length) :
    epochStart archive.source params (.int (base + (i + 1 : Nat))) =
      if ChainState.startsEpoch params chain[i + 1].height then .ok chain[i + 1].time
      else epochStart archive.source params (.int (base + i)) := by
  obtain ⟨b, rfl⟩ := Int.eq_ofNat_of_zero_le hbase
  have hbound := hlinked.bound
  have hheader := hlinked.headerAt_getElem hholds hi
  rw [hlinked.height (i + 1) hi]
  rw [← Nat.cast_add, ← Nat.add_assoc] at hheader ⊢
  rw [← Nat.cast_add]
  exact epochStart_succ hparams (by omega) hheader

/-- One more block takes the state after a run of blocks to the state after the longer run. -/
theorem snapshot_applyNext (hparams : params.Regular) (hlinked : Linked base chain)
    (hbase : 0 ≤ base) {i : Nat} (hi : i + 1 < chain.length) (work : Int) (epoch : Number) :
    (snapshot params (chain.take (i + 1)) chain[i] work epoch).applyNext params chain[i + 1] =
      .ok (snapshot params (chain.take (i + 2)) chain[i + 1]
        (work + Compact.workOf chain[i + 1].target)
        (if ChainState.startsEpoch params chain[i + 1].height then chain[i + 1].time
          else epoch)) := by
  have hbound := hlinked.bound
  have hbeyond : (chain.take (i + 1)).length < Number.beyond := by
    have hlt := Number.exactBound_lt_beyond
    rw [List.length_take]
    omega
  have hne : chain.take (i + 1) ≠ [] := by
    intro hnil
    have := congrArg List.length hnil
    rw [List.length_take, List.length_nil] at this
    omega
  have hnext : chain[i + 1].height.same (chain[i].height + 1) = true := by
    have hexact : (base + i + 1).natAbs ≤ Number.exactBound := by omega
    have hsum : Number.int (base + i) + 1 = .int (base + i + 1) := Number.int_add_exact hexact
    rw [hlinked.height i (by omega), hlinked.height (i + 1) hi, hsum, Nat.cast_succ, ← add_assoc]
    simp [Number.same]
  have hblocks : chain.take (i + 2) = chain.take (i + 1) ++ [chain[i + 1]] :=
    List.take_succ_eq_append_getElem hi
  rw [ChainState.applyNext_eq_ok, ChainState.advance_eq_ok, hblocks]
  -- the linkage of heights, the target, the targets and the state they make
  refine ⟨hnext, chain[i + 1].target, _,
    Header.targetOfText_eq (hlinked.bits _ (List.getElem_mem hi)),
    extendTargets_windows hparams hne hbeyond chain[i + 1], ?_⟩
  rw [snapshot, ← extendTimes_windows hparams hbeyond]
  rfl

/-! ## Runs -/

theorem take_drop_concat {i n : Nat} (hi : i + n + 1 < chain.length) :
    (chain.drop (i + 1)).take (n + 1) = (chain.drop (i + 1)).take n ++ [chain[i + n + 1]] := by
  have hlength : n < (chain.drop (i + 1)).length := by
    rw [List.length_drop]
    omega
  rw [List.take_succ_eq_append_getElem hlength, List.getElem_drop]
  congr 3
  omega

/-- A run of blocks takes the state after some of them to the state after all of them; the total
work grows by the work of each block. -/
theorem snapshot_applyAll (hparams : params.Regular) (hlinked : Linked base chain)
    (hholds : archive.Holds chain) (hbase : 0 ≤ base) {i n : Nat} (hi : i + n < chain.length)
    (work : Int) {epoch : Number}
    (hepoch : epochStart archive.source params (.int (base + i)) = .ok epoch) :
    ∃ last, epochStart archive.source params (.int (base + (i + n : Nat))) = .ok last ∧
      (snapshot params (chain.take (i + 1)) chain[i] work epoch).applyAll params
          ((chain.drop (i + 1)).take n) =
        .ok (snapshot params (chain.take (i + n + 1)) chain[i + n]
          (work + (((chain.drop (i + 1)).take n).map fun h => (Compact.workOf h.target : Int)).sum)
          last) := by
  induction n with
  | zero =>
      refine ⟨epoch, hepoch, ?_⟩
      simp
  | succ n ih =>
      -- the first `n` blocks by induction, then the one at `i + n + 1`
      obtain ⟨last, hlast, hrun⟩ := ih (by omega)
      have hepoch := epochStart_linked hparams hlinked hholds hbase (i := i + n) hi
      have hstep := fun work => snapshot_applyNext hparams hlinked hbase (i := i + n) hi work last
      refine ⟨if ChainState.startsEpoch params chain[i + n + 1].height then chain[i + n + 1].time
        else last, ?_, ?_⟩
      · rw [← Nat.add_assoc, hepoch, hlast]
        split <;> rfl
      · rw [take_drop_concat hi, ChainState.applyAll_append, hrun]
        show ChainState.applyAll params _ [chain[i + n + 1]] = _
        rw [ChainState.applyAll_cons, hstep, List.map_append, List.sum_append, ← Int.add_assoc]
        simp [Except.bind, Nat.add_assoc]

end Bootstrap

end ProverInput
