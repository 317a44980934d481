import ProverInput.Bootstrap
import ProverInput.Proofs.Bootstrap.Linked
import ProverInput.Proofs.Outcome
import ProverInput.Proofs.Window

set_option autoImplicit false

/-! # Walking back from a block

`windows` is what the two windows hold after a run of blocks: the last times and the last targets.
One step of a walk goes from the windows of the blocks seen so far to those with one more ancestor
(`gather_windows`), so a walk along linked blocks ends with the windows of all that it has seen
(`walk_eq_ok`). The walk asks for as many ancestors as the longer window has room for, and nothing
further back shows in either window (`atHeight_eq_ok`).
-/

namespace ProverInput

namespace Logged

variable {α : Type}

@[simp] theorem outcome_conversion (x : Except ConversionError α) :
    (liftM x : Logged Failure α).outcome = x.mapError Failure.conversion := rfl

@[simp] theorem outcome_fault (x : Except Fault α) :
    (liftM x : Logged Failure α).outcome = x.mapError Failure.fault := rfl

@[simp] theorem outcome_lift {ε : Type} (x : Except ε α) :
    (liftM x : Logged ε α).outcome = x := rfl

end Logged

namespace Bootstrap

variable {source : HeaderSource} {params : Params} {height : Number}

/-! ## Windows of a run of blocks -/

/-- The last times and the last targets of a run of blocks. -/
def windows (params : Params) (blocks : List Header) : Gathered where
  times := (blocks.map Header.time).rtake params.maxTimestampHistory.count
  targets := (blocks.map Header.target).rtake params.powAveragingWindow.count

/-- A window of targets with room for one takes that of the ancestor, if its bits stand for one. -/
theorem gather_windows_room {seen : List Header}
    (hroom : seen.length < params.powAveragingWindow.count) (ancestor : Header) :
    gather params ancestor (windows params seen) =
      (fun _ => windows params (ancestor :: seen)) <$> Compact.targetOfText ancestor.bits := by
  simp only [gather, windows, List.map_cons, Window.length_rtake_lt, Window.rtake_cons,
    List.length_map, if_pos hroom]
  cases hbits : Compact.targetOfText ancestor.bits with
  | error e => rfl
  | ok t =>
      rw [Header.targetOfText_eq ⟨t, hbits⟩] at hbits
      cases hbits
      rfl

/-- A full window of targets leaves the bits of the ancestor alone. -/
theorem gather_windows_full {seen : List Header}
    (hfull : params.powAveragingWindow.count ≤ seen.length) (ancestor : Header) :
    gather params ancestor (windows params seen) = .ok (windows params (ancestor :: seen)) := by
  simp only [gather, windows, List.map_cons, Window.length_rtake_lt, Window.rtake_cons,
    List.length_map, if_neg (Nat.not_lt.2 hfull)]
  rfl

theorem gather_windows {ancestor : Header}
    (hbits : ∃ t, Compact.targetOfText ancestor.bits = .ok t) (seen : List Header) :
    gather params ancestor (windows params seen) = .ok (windows params (ancestor :: seen)) := by
  rcases Nat.lt_or_ge seen.length params.powAveragingWindow.count with hroom | hfull
  · rw [gather_windows_room hroom, Header.targetOfText_eq hbits]
    rfl
  · exact gather_windows_full hfull ancestor

/-- A block starts the windows of a walk when both have room for one. -/
theorem windows_singleton (htimes : 0 < params.maxTimestampHistory.count)
    (htargets : 0 < params.powAveragingWindow.count) (head : Header) :
    windows params [head] = ⟨[head.time], [head.target]⟩ := by
  simp only [windows, List.map_cons, List.map_nil, Window.rtake_cons, List.length_nil, htimes,
    htargets, if_true, List.rtake_nil]

/-! ## Walks -/

theorem walk_succ {current ancestor : Header} {hash : String} {steps : Nat} {g : Gathered}
    (hlink : Header.link current.previousBlockHash = some hash)
    (hheader : source.headerOf hash = .ok ancestor) :
    (walk source params height (steps + 1) current g).outcome =
      (gather params ancestor g).mapError Failure.conversion >>= fun g =>
        (walk source params height steps ancestor g).outcome := by
  rw [walk, hlink]
  simp only [Logged.outcome_bind, Logged.outcome_conversion, hheader]
  rfl

/-- A walk along linked blocks sees as many of them as it has steps. -/
theorem walk_eq_ok {current : Header} {ancestors seen : List Header} {steps : Nat}
    (hchain : (current :: ancestors).IsChain fun h ancestor => ∃ hash,
      Header.link h.previousBlockHash = some hash ∧ source.headerOf hash = .ok ancestor)
    (hbits : ∀ h ∈ ancestors, ∃ t, Compact.targetOfText h.bits = .ok t)
    (hstop : ancestors.length < steps → ∀ h ∈ (current :: ancestors).getLast?,
      Header.link h.previousBlockHash = none) :
    (walk source params height steps current (windows params seen)).outcome =
      .ok (windows params ((ancestors.take steps).reverse ++ seen)) := by
  -- one step of the walk for each ancestor, until either runs out
  induction ancestors generalizing current seen steps with
  | nil =>
      cases steps with
      | zero => rfl
      | succ steps =>
          rw [walk, hstop (Nat.succ_pos steps) current rfl]
          rfl
  | cons ancestor ancestors ih =>
      cases steps with
      | zero => rfl
      | succ steps =>
          obtain ⟨⟨hash, hlink, hheader⟩, hrest⟩ := List.isChain_cons_cons.1 hchain
          rw [walk_succ hlink hheader, gather_windows (hbits ancestor List.mem_cons_self),
            List.take_succ_cons, List.reverse_cons, List.append_assoc, List.singleton_append]
          refine ih hrest ?_ ?_
          · exact fun h hmem => hbits h (List.mem_cons_of_mem ancestor hmem)
          · intro hlt h hmem
            refine hstop (Nat.succ_lt_succ hlt) h ?_
            rwa [List.getLast?_cons_cons]

/-! ## The state at a height -/

variable {archive : Archive} {base : Int} {chain : List Header}

theorem reach_of_windows (htimes : 1 ≤ params.maxTimestampHistory)
    (htargets : 1 ≤ params.powAveragingWindow) (height : Number) :
    reach params height = min height.count
      (max params.maxTimestampHistory.count params.powAveragingWindow.count - 1) := by
  -- a size of at least one is a number
  rw [reach, if_neg]
  rintro (h | h)
  · exact Number.not_le_nan _ (h ▸ htimes)
  · exact Number.not_le_nan _ (h ▸ htargets)

theorem reach_le (params : Params) (height : Number) : reach params height ≤ height.count := by
  rw [reach]
  split
  · exact Nat.zero_le _
  · exact Nat.min_le_left _ _

/-- What is too far back for a walk shows in neither window. -/
theorem windows_reach (htimes : 1 ≤ params.maxTimestampHistory)
    (htargets : 1 ≤ params.powAveragingWindow) {base : Int} (hbase : 0 ≤ base)
    (older : List Header) (head : Header) :
    windows params (older.rtake (reach params (.int (base + older.length))) ++ [head]) =
      windows params (older ++ [head]) := by
  -- either the window is no longer than the reach, or the walk comes to the first block
  have hreach (capacity : Nat) (hmax : capacity ≤ max params.maxTimestampHistory.count
      params.powAveragingWindow.count) :
      capacity ≤ reach params (.int (base + older.length)) + 1 ∨
        older.length ≤ reach params (.int (base + older.length)) := by
    rw [reach_of_windows htimes htargets, Number.count_int]
    omega
  simp only [windows, List.map_append, Window.map_rtake, List.map_cons, List.map_nil]
  congr 1
  · refine Window.rtake_rtake_concat _ ?_
    rw [List.length_map]
    exact hreach _ (le_max_left _ _)
  · refine Window.rtake_rtake_concat _ ?_
    rw [List.length_map]
    exact hreach _ (le_max_right _ _)

theorem walk_linked (hlinked : Linked base chain) (hholds : archive.Holds chain) {i : Nat}
    (hi : i < chain.length) (seen : List Header) :
    (walk archive.source params height (reach params (.int (base + i))) chain[i]
      (windows params seen)).outcome = .ok (windows params
        ((chain.take i).rtake (reach params (.int (base + i))) ++ seen)) := by
  have hback : chain[i] :: (chain.take i).reverse = (chain.take (i + 1)).reverse := by
    rw [List.take_succ_eq_append_getElem hi, List.reverse_append]
    rfl
  rw [List.rtake_eq_reverse_take_reverse]
  refine walk_eq_ok ?_ ?_ ?_
  · rw [hback, List.isChain_reverse]
    exact (hlinked.isChain_leads hholds).take (i + 1)
  · intro h hmem
    exact hlinked.bits h (List.mem_of_mem_take (List.mem_reverse.1 hmem))
  · -- a walk that runs out of blocks has come to one above height zero, which has no link
    intro hlt h hmem
    rw [hback, List.getLast?_reverse, List.head?_take, if_neg (Nat.succ_ne_zero i)] at hmem
    have hcount := reach_le params (.int (base + i))
    rw [Number.count_int] at hcount
    rw [List.length_reverse, List.length_take] at hlt
    refine (hlinked.first h hmem).resolve_right fun hzero => ?_
    obtain ⟨hlength, hhead⟩ := List.getElem?_eq_some_iff.1 (List.head?_eq_getElem? ▸ hmem)
    have hheight := hlinked.height 0 hlength
    rw [hhead, hzero] at hheight
    have : (0 : Int) = base + 0 := Number.int.inj hheight
    omega

/-- The state after a run of blocks that ends in `head`. -/
def snapshot (params : Params) (blocks : List Header) (head : Header) (work : Int)
    (epoch : Number) : ChainState where
  blockHeight := head.height
  totalWork := work
  bestBlockHash := Hex.normalize head.hash
  currentTarget := head.target
  prevTimestamps := (windows params blocks).times
  epochStartTime := epoch
  powTargetHistory := (windows params blocks).targets.map Int.ofNat

theorem fromHeader_eq_ok {head : Header} (hbits : ∃ t, Compact.targetOfText head.bits = .ok t)
    {blocks : List Header} (hwalk : (walk source params head.height (reach params head.height) head
      ⟨[head.time], [head.target]⟩).outcome = .ok (windows params blocks)) {s : ChainState} :
    (fromHeader source params head).outcome = .ok s ↔
      ∃ epoch work, epochStart source params head.height = .ok epoch ∧
        totalWork head head.target = .ok work ∧ s = snapshot params blocks head work epoch := by
  simp only [fromHeader, Logged.outcome_bind, Logged.outcome_conversion, Logged.outcome_fault,
    Logged.outcome_pure, Header.targetOfText_eq hbits, bind_eq_ok, mapError_eq_ok]
  constructor
  · rintro ⟨_, htarget, _, hg, epoch, hepoch, work, hwork, h⟩
    cases htarget
    cases hwalk.symm.trans hg
    exact ⟨epoch, work, hepoch, hwork, (Except.ok.inj h).symm⟩
  · rintro ⟨epoch, work, hepoch, hwork, rfl⟩
    exact ⟨head.target, rfl, _, hwalk, epoch, hepoch, work, hwork, rfl⟩

/-- The state at a height of the run holds the windows of all its blocks up to there. -/
theorem atHeight_eq_ok (hlinked : Linked base chain) (hholds : archive.Holds chain)
    (hbase : 0 ≤ base) (htimes : 1 ≤ params.maxTimestampHistory)
    (htargets : 1 ≤ params.powAveragingWindow) {i : Nat} (hi : i < chain.length) {s : ChainState} :
    (atHeight archive.source params (.int (base + i))).outcome = .ok s ↔
      ∃ epoch work, epochStart archive.source params (.int (base + i)) = .ok epoch ∧
        totalWork chain[i] chain[i].target = .ok work ∧
        s = snapshot params (chain.take (i + 1)) chain[i] work epoch := by
  have hheight := hlinked.height i hi
  have hwalk : (walk archive.source params chain[i].height (reach params chain[i].height) chain[i]
      ⟨[chain[i].time], [chain[i].target]⟩).outcome =
        .ok (windows params (chain.take (i + 1))) := by
    have hlength : (chain.take i).length = i := List.length_take_of_le hi.le
    have hreach := windows_reach htimes htargets hbase (chain.take i) chain[i]
    rw [hlength] at hreach
    rw [hheight, ← windows_singleton (Number.count_pos htimes) (Number.count_pos htargets),
      walk_linked hlinked hholds hi, hreach, List.take_succ_eq_append_getElem hi]
  have hhead := hlinked.headerAt_getElem hholds hi
  rw [atHeight, Logged.outcome_bind, Logged.outcome_conversion, hhead, ← hheight]
  exact fromHeader_eq_ok (hlinked.bits _ (List.getElem_mem hi)) hwalk

end Bootstrap

end ProverInput
