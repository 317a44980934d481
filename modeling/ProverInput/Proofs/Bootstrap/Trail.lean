import ProverInput.Proofs.Bootstrap.Resume
import ProverInput.Proofs.ChainData.Failures

set_option autoImplicit false

/-! # The trail of a header

A header may come with any source: links may be broken, lead round in a circle or to nothing. The
headers that the links lead to, one after the other, are its trail (`Trail`). It ends where no more
of them are wanted (`linksOf`), at a header without a link, or at a link that the source has no
header for. Then the error of the source belongs to the trail.

A walk follows the trail and checks the bits of each header, as long as the window of targets has
room, before it asks for the next one. So it fails with the first bad bits among those headers, or
else with the error of the trail, and ends with the windows of the trail if there is neither
(`walk_trail`). Building the state has two more places to fail, the epoch and the total work
(`fromHeader_trail`).
-/

namespace ProverInput.Bootstrap

variable {source : HeaderSource} {params : Params}

/-! ## Trails -/

/-- The headers that up to so many links from a header lead to, the closest one first, and the error
of the last link if the source has no header for it. -/
inductive Trail (source : HeaderSource) :
    Nat → Header → List Header → Option ConversionError → Prop where
  | spent {header : Header} : Trail source 0 header [] none
  | unlinked {n : Nat} {header : Header} (hlink : Header.link header.previousBlockHash = none) :
      Trail source (n + 1) header [] none
  | lost {n : Nat} {header : Header} {hash : String} {e : ConversionError}
      (hlink : Header.link header.previousBlockHash = some hash)
      (hheader : source.headerOf hash = .error e) : Trail source (n + 1) header [] (some e)
  | found {n : Nat} {header ancestor : Header} {hash : String} {ancestors : List Header}
      {lost : Option ConversionError} (hlink : Header.link header.previousBlockHash = some hash)
      (hheader : source.headerOf hash = .ok ancestor)
      (hrest : Trail source n ancestor ancestors lost) :
      Trail source (n + 1) header (ancestor :: ancestors) lost

/-- Every header has a trail. -/
theorem exists_trail (source : HeaderSource) (n : Nat) (header : Header) :
    ∃ ancestors lost, Trail source n header ancestors lost := by
  induction n generalizing header with
  | zero => exact ⟨[], none, .spent⟩
  | succ n ih =>
      cases hlink : Header.link header.previousBlockHash with
      | none => exact ⟨[], none, .unlinked hlink⟩
      | some hash =>
          cases hheader : source.headerOf hash with
          | error e => exact ⟨[], some e, .lost hlink hheader⟩
          | ok ancestor =>
              obtain ⟨ancestors, lost, hrest⟩ := ih ancestor
              exact ⟨ancestor :: ancestors, lost, .found hlink hheader hrest⟩

/-- What holds of every header that the source has holds of the headers on a trail. -/
theorem Trail.forall_mem {P : Header → Prop} (h : ∀ hash a, source.headerOf hash = .ok a → P a)
    {n : Nat} {header : Header} {ancestors : List Header} {lost : Option ConversionError}
    (htrail : Trail source n header ancestors lost) : ∀ a ∈ ancestors, P a := by
  induction htrail with
  | spent => exact fun _ hmem => absurd hmem List.not_mem_nil
  | unlinked _ => exact fun _ hmem => absurd hmem List.not_mem_nil
  | lost _ _ => exact fun _ hmem => absurd hmem List.not_mem_nil
  | found _ hheader _ ih => exact List.forall_mem_cons.2 ⟨h _ _ hheader, ih⟩

/-- The number of links that are wanted: none below the first block, and for each window one less
than it has room for, since the header itself is in both. -/
def linksOf (params : Params) (height : Number) : Nat :=
  min height.count
    (max (params.maxTimestampHistory.count - 1) (params.powAveragingWindow.count - 1))

theorem reach_eq (htimes : 1 ≤ params.maxTimestampHistory)
    (htargets : 1 ≤ params.powAveragingWindow) (height : Number) :
    reach params height = linksOf params height := by
  rw [reach_of_windows htimes htargets, linksOf]
  omega

/-! ## Walks along a trail -/

/-- What is wrong with the bits of a header. -/
def badBits? (header : Header) : Option ConversionError :=
  error? (Compact.targetOfText header.bits)

/-- The first error of a trail: bad bits among the headers whose targets are looked at, or else the
link that leads nowhere. -/
def trailError? (looked : Nat) (headers : List Header) (lost : Option ConversionError) :
    Option ConversionError :=
  ((headers.take looked).findSome? badBits?).or lost

@[simp] theorem trailError?_nil (looked : Nat) (lost : Option ConversionError) :
    trailError? looked [] lost = lost := by
  rw [trailError?, List.take_nil, List.findSome?_nil, Option.none_or]

/-- Headers whose targets are not looked at have no errors. -/
@[simp] theorem trailError?_zero (headers : List Header) (lost : Option ConversionError) :
    trailError? 0 headers lost = lost := by
  rw [trailError?, List.take_zero, List.findSome?_nil, Option.none_or]

theorem trailError?_succ (looked : Nat) (header : Header) (headers : List Header)
    (lost : Option ConversionError) : trailError? (looked + 1) (header :: headers) lost =
      (badBits? header).or (trailError? looked headers lost) := by
  rw [trailError?, List.take_succ_cons, List.findSome?_cons, trailError?]
  cases badBits? header with
  | none => rfl
  | some e => rfl

/-- A walk along a trail fails with its first error or ends with its windows. -/
theorem walk_trail (params : Params) (height : Number) {n : Nat} {current : Header}
    {ancestors : List Header} {lost : Option ConversionError}
    (htrail : Trail source n current ancestors lost) (seen : List Header) :
    (walk source params height n current (windows params seen)).outcome =
      match trailError? (params.powAveragingWindow.count - seen.length) ancestors lost with
      | some e => .error (.conversion e)
      | none => .ok (windows params (ancestors.reverse ++ seen)) := by
  induction htrail generalizing seen with
  | spent =>
      rw [trailError?_nil]
      rfl
  | unlinked hlink =>
      rw [walk, hlink, trailError?_nil]
      rfl
  | lost hlink hheader =>
      rw [walk, hlink, trailError?_nil]
      simp only [Logged.outcome_bind, Logged.outcome_conversion, hheader]
      rfl
  | @found n current ancestor hash ancestors lost hlink hheader hrest ih =>
      have hnext := ih (ancestor :: seen)
      rw [List.length_cons] at hnext
      rw [walk_succ hlink hheader, List.reverse_cons, List.append_assoc, List.singleton_append]
      rcases Nat.lt_or_ge seen.length params.powAveragingWindow.count with hroom | hfull
      · -- the bits are looked at, and there is room for one target less
        have hlooked : params.powAveragingWindow.count - seen.length =
            params.powAveragingWindow.count - (seen.length + 1) + 1 := by omega
        rw [gather_windows_room hroom, hlooked, trailError?_succ, badBits?]
        cases Compact.targetOfText ancestor.bits with
        | error e => rfl
        | ok t =>
            rw [error?_ok, Option.none_or]
            exact hnext
      · rw [Nat.sub_eq_zero_of_le (Nat.le_succ_of_le hfull), trailError?_zero] at hnext
        rw [gather_windows_full hfull, Nat.sub_eq_zero_of_le hfull, trailError?_zero]
        exact hnext

/-! ## The state at the end of a trail -/

/-- The error of looking up the start of an epoch, the last multiple of the interval. The first
epoch needs no looking up. -/
def epochError? (source : HeaderSource) (params : Params) (height : Number) :
    Option ConversionError :=
  if params.retargetInterval ≤ height then
    error? (source.headerAt ((height / params.retargetInterval).floor * params.retargetInterval))
  else none

theorem error?_epochStart (height : Number) :
    error? (epochStart source params height) = epochError? source params height := by
  rw [epochStart, epochError?, epochHeight]
  split
  · rw [error?_map]
  · rfl

/-- The total work of a header can be read: it is recorded as hexadecimal digits, with nothing but
blanks behind them, or it is not recorded and the number of blocks is whole. -/
def HasTotalWork (head : Header) : Prop :=
  let digits := (Hex.normalize (head.chainwork.getD "")).toList
  if digits = [] then ∃ blocks, head.height + 1 = .int blocks
  else Blank.trimEnd digits ≠ [] ∧ (Blank.trimEnd digits).all Hex.isDigit = true

theorem exists_hexInteger_iff {digits : List Char} : (∃ n, hexInteger digits = .ok n) ↔
    Blank.trimEnd digits ≠ [] ∧ (Blank.trimEnd digits).all Hex.isDigit = true := by
  rw [hexInteger.eq_def]
  cases Blank.trimEnd digits with
  | nil => simp
  | cons c rest =>
      by_cases h : (c :: rest).all Hex.isDigit = true
      · simp [h]
      · simp [h]

theorem hasTotalWork_iff {head : Header} {target : Nat} :
    HasTotalWork head ↔ ∃ work, totalWork head target = .ok work := by
  rw [HasTotalWork, totalWork.eq_def]
  cases (Hex.normalize (head.chainwork.getD "")).toList with
  | nil =>
      rw [if_pos rfl]
      cases head.height + 1 with
      | int blocks => exact iff_of_true ⟨blocks, rfl⟩ ⟨_, rfl⟩
      | _ => simp [Number.toInteger]
  | cons c digits => exact exists_hexInteger_iff.symm

/-- With the first error of the trail, the state fails; without one it takes the windows of the
trail, if the epoch and the work are known. -/
theorem fromHeader_eq (htimes : 1 ≤ params.maxTimestampHistory)
    (htargets : 1 ≤ params.powAveragingWindow) {head : Header} {ancestors : List Header}
    {lost : Option ConversionError}
    (htrail : Trail source (linksOf params head.height) head ancestors lost) :
    (fromHeader source params head).outcome =
      match trailError? params.powAveragingWindow.count (head :: ancestors) lost with
      | some e => .error (.conversion e)
      | none =>
        (epochStart source params head.height).mapError Failure.conversion >>= fun epoch =>
          (totalWork head head.target).mapError Failure.fault >>= fun work =>
            pure (snapshot params (head :: ancestors).reverse head work epoch) := by
  have hone := Number.count_pos htargets
  have hwalk := walk_trail params head.height htrail [head]
  rw [← reach_eq htimes htargets, windows_singleton (Number.count_pos htimes) hone,
    List.length_singleton] at hwalk
  -- the head itself is the first one whose bits are looked at
  obtain ⟨looked, hlooked⟩ := Nat.exists_eq_succ_of_ne_zero (Nat.ne_of_gt hone)
  rw [hlooked, Nat.succ_sub_one] at hwalk
  rw [hlooked, trailError?_succ, List.reverse_cons]
  simp only [fromHeader, Logged.outcome_bind, Logged.outcome_conversion, Logged.outcome_fault,
    Logged.outcome_pure]
  cases hbits : Compact.targetOfText head.bits with
  | error e =>
      rw [badBits?, hbits]
      rfl
  | ok t =>
      rw [badBits?, hbits, error?_ok, Option.none_or]
      rw [Header.targetOfText_eq ⟨t, hbits⟩] at hbits
      cases hbits
      show (walk source params head.height (reach params head.height) head
        ⟨[head.time], [head.target]⟩).outcome >>= _ = _
      rw [hwalk]
      cases trailError? looked ancestors lost with
      | some e => rfl
      | none => rfl

/-- A state that does not fail has the windows of the whole trail. -/
theorem exists_of_fromHeader (htimes : 1 ≤ params.maxTimestampHistory)
    (htargets : 1 ≤ params.powAveragingWindow) {head : Header} {ancestors : List Header}
    {lost : Option ConversionError}
    (htrail : Trail source (linksOf params head.height) head ancestors lost) {state : ChainState}
    (h : (fromHeader source params head).outcome = .ok state) :
    ∃ epoch work, epochStart source params head.height = .ok epoch ∧
      totalWork head head.target = .ok work ∧
      state = snapshot params (head :: ancestors).reverse head work epoch := by
  rw [fromHeader_eq htimes htargets htrail] at h
  cases htrailError : trailError? params.powAveragingWindow.count (head :: ancestors) lost with
  | some e =>
      rw [htrailError] at h
      cases h
  | none =>
      rw [htrailError] at h
      obtain ⟨epoch, work, hepoch, hwork, rfl⟩ := both_eq_ok.1 h
      exact ⟨epoch, work, mapError_eq_ok.1 hepoch, mapError_eq_ok.1 hwork, rfl⟩

/-- A state holds what a header and its ancestors, the closest one first, say about it: the windows
of the last of them, oldest first and never padded, and the time of the epoch. -/
structure EndsTrail (source : HeaderSource) (params : Params) (head : Header)
    (ancestors : List Header) (state : ChainState) : Prop where
  height : state.blockHeight = head.height
  hash : state.bestBlockHash = Hex.normalize head.hash
  target : state.currentTarget = head.target
  times : state.prevTimestamps =
    (((head :: ancestors).take params.maxTimestampHistory.count).map Header.time).reverse
  targets : state.powTargetHistory =
    (((head :: ancestors).take params.powAveragingWindow.count).map
      fun h => (h.target : Int)).reverse
  epoch : if params.retargetInterval ≤ head.height then ∃ first,
      source.headerAt ((head.height / params.retargetInterval).floor * params.retargetInterval) =
        .ok first ∧ state.epochStartTime = first.time
    else state.epochStartTime = params.genesisTime
  work : totalWork head head.target = .ok state.totalWork

/-- The windows of a run that is given newest first. -/
theorem windows_reverse (params : Params) (headers : List Header) :
    windows params headers.reverse =
      ⟨((headers.take params.maxTimestampHistory.count).map Header.time).reverse,
        ((headers.take params.powAveragingWindow.count).map Header.target).reverse⟩ := by
  simp only [windows, List.map_reverse, List.rtake_eq_reverse_take_reverse, List.reverse_reverse,
    List.map_take]

theorem endsTrail_snapshot {head : Header} {ancestors : List Header} {epoch : Number} {work : Int}
    (hepoch : epochStart source params head.height = .ok epoch)
    (hwork : totalWork head head.target = .ok work) :
    EndsTrail source params head ancestors
      (snapshot params (head :: ancestors).reverse head work epoch) where
  height := rfl
  hash := rfl
  target := rfl
  times := by rw [snapshot, windows_reverse]
  targets := by
    rw [snapshot, windows_reverse]
    show List.map Int.ofNat (List.reverse _) = _
    rw [List.map_reverse, List.map_map]
    rfl
  epoch := by
    rw [epochStart] at hepoch
    split at hepoch
    · rename_i hreached
      obtain ⟨first, hfirst, rfl⟩ := map_eq_ok.1 hepoch
      rw [if_pos hreached]
      exact ⟨first, hfirst, rfl⟩
    · rename_i hreached
      cases hepoch
      rw [if_neg hreached]
      rfl
  work := hwork

/-- Every header has a trail, whatever the source. The state after the header fails with the first
error of the trail, or else where its epoch has no start, or else where its total work cannot be
read, which never happens to a header that was checked. A state that does not fail holds what the
trail says. -/
theorem fromHeader_trail (htimes : 1 ≤ params.maxTimestampHistory)
    (htargets : 1 ≤ params.powAveragingWindow) (source : HeaderSource) (head : Header) :
    (∃ ancestors lost, Trail source (linksOf params head.height) head ancestors lost) ∧
    ∀ ancestors lost, Trail source (linksOf params head.height) head ancestors lost →
      error? (fromHeader source params head).outcome =
        (((trailError? params.powAveragingWindow.count (head :: ancestors) lost).or
          (epochError? source params head.height)).map .conversion).or
            ((error? (totalWork head head.target)).map .fault) ∧
      (error? (totalWork head head.target) = none ↔ HasTotalWork head) ∧
      (head.Sound → HasTotalWork head) ∧
      ∀ state, (fromHeader source params head).outcome = .ok state →
        EndsTrail source params head ancestors state := by
  refine ⟨exists_trail source _ head, fun ancestors lost htrail => ⟨?_, ?_, ?_, ?_⟩⟩
  · rw [fromHeader_eq htimes htargets htrail]
    cases trailError? params.powAveragingWindow.count (head :: ancestors) lost with
    | some e => rfl
    | none =>
        rw [Option.none_or, ← error?_epochStart, ← error?_mapError, ← error?_mapError]
        exact error?_both _ _ _
  · rw [hasTotalWork_iff, error?_eq_none_iff]
  · intro hsound
    exact hasTotalWork_iff.2 (exists_totalWork hsound head.target)
  · intro state hstate
    obtain ⟨epoch, work, hepoch, hwork, rfl⟩ := exists_of_fromHeader htimes htargets htrail hstate
    exact endsTrail_snapshot hepoch hwork

/-- A header above height zero that names itself as the one before it. -/
def circle : Header :=
  ⟨5, "a", some "a", none, 1000, "1f07ffff", none, none, 4, none, none, none, none, []⟩

/-- The trail of a header that names itself goes round until the windows are full. -/
theorem fromHeader_trail_circle :
    let params := { Params.mainnet with maxTimestampHistory := 3, powAveragingWindow := 1 }
    let source : HeaderSource := ⟨fun _ => .ok "a", fun _ => .ok circle⟩
    (1 ≤ params.maxTimestampHistory ∧ 1 ≤ params.powAveragingWindow ∧
      Trail source (linksOf params circle.height) circle [circle, circle] none) ∧
      ∃ state, (fromHeader source params circle).outcome = .ok state ∧
        state.prevTimestamps = [1000, 1000, 1000] ∧ state.powTargetHistory.length = 1 := by
  intro params source
  have htimes : 1 ≤ params.maxTimestampHistory := by decide
  have htargets : 1 ≤ params.powAveragingWindow := by decide
  have hlinks : linksOf params circle.height = 2 := by decide
  have htrail : Trail source (linksOf params circle.height) circle [circle, circle] none := by
    rw [hlinks]
    exact .found rfl rfl (.found rfl rfl .spent)
  obtain ⟨hfails, -, -, hends⟩ := (fromHeader_trail htimes htargets source circle).2 _ _ htrail
  obtain ⟨state, hstate⟩ := error?_eq_none_iff.1 (hfails.trans (by decide +kernel))
  have hends := hends state hstate
  refine ⟨⟨htimes, htargets, htrail⟩, state, hstate, hends.times, ?_⟩
  rw [hends.targets]
  rfl

/-- Total work that cannot be read fails the state though neither the trail nor the epoch does, and
windows of one and a half have room for two. -/
theorem fromHeader_beyond_trail :
    (let head := { circle with height := 0, chainwork := some "zz" }
      let source := (Archive.mk []).source
      Trail source (linksOf Params.mainnet head.height) head [] none ∧
        trailError? Params.mainnet.powAveragingWindow.count [head] none = none ∧
        epochError? source Params.mainnet head.height = none ∧
        error? (fromHeader source Params.mainnet head).outcome = some (.fault .malformedInteger)) ∧
    (let size : Number := .fraction 3 0 rfl
      let params := { Params.mainnet with maxTimestampHistory := size, powAveragingWindow := size }
      let source : HeaderSource := ⟨fun _ => .ok "a", fun _ => .ok circle⟩
      Trail source (linksOf params circle.height) circle [circle] none ∧ ¬ (2 : Number) ≤ size ∧
        (fromHeader source params circle).outcome.toOption.map ChainState.prevTimestamps =
          some [1000, 1000]) := by
  refine ⟨⟨.spent, ?_, ?_, ?_⟩, .found rfl rfl .spent, ?_, ?_⟩
  all_goals decide +kernel

end ProverInput.Bootstrap
