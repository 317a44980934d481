import ProverInput.ChainState.Checkpoint
import ProverInput.Proofs.ChainData.Document
import ProverInput.Proofs.ChainState.Advance
import ProverInput.Proofs.Header.Check

set_option autoImplicit false

/-! # Resuming from checkpoints

A state is `Sound` when it has all that a checkpoint asks for, apart from the bound on the height.
Steps along checked headers keep a state sound (`Sound.applyAll`), and a sound state of bounded
height is restored from its checkpoint as it was (`reload_saveable`). So a run that is cut anywhere
and resumed from a checkpoint at each cut has the outcome of the whole run (`applySegments_eq`), by
induction on the segments.
-/

namespace ProverInput

/-! ## Accepted members -/

namespace Check

/-- A text of decimal digits, at least one. -/
def IsDecimal (s : String) : Prop := s.toList ≠ [] ∧ ∀ c ∈ s.toList, '0' ≤ c ∧ c ≤ '9'

theorem isDecimal_iff {s : String} : isDecimal s.toList = true ↔ IsDecimal s := by
  simp [isDecimal, IsDecimal, Char.isDigit, Char.le_def]

theorem accepts_decimal : Accepts decimal .string IsDecimal := by
  intro path value s
  exact (accepts_text isDecimal _ path value s).trans (and_congr_right fun _ => isDecimal_iff)

theorem isDecimal_toString {n : Int} (h : 0 ≤ n) : IsDecimal (toString n) := by
  obtain ⟨n, rfl⟩ := Int.eq_ofNat_of_zero_le h
  rw [← isDecimal_iff, Number.toList_toString, isDecimal, Number.all_isDigit_toDigits, Bool.and_true,
    Bool.not_eq_true', List.isEmpty_eq_false_iff]
  exact Nat.toDigits_ne_nil

end Check

namespace ChainState

variable {params : Params} {state : ChainState}

/-! ## Sound states -/

/-- What a checkpoint asks of a state, apart from the bound on the height. -/
structure Sound (params : Params) (state : ChainState) : Prop where
  blockHeight : Check.IsNatural state.blockHeight
  totalWork : 0 ≤ state.totalWork
  bestBlockHash : Check.isHash state.bestBlockHash.toList = true
  lowercase : ∀ c ∈ state.bestBlockHash.toList, ¬ c.isUpper
  currentTarget : 0 ≤ state.currentTarget
  prevTimestamps : ∀ time ∈ state.prevTimestamps, Check.IsWord time
  epochStartTime : Check.IsWord state.epochStartTime
  powTargetHistory : ∀ target ∈ state.powTargetHistory, 0 ≤ target
  fits : state.fits params = true

/-- What a checkpoint can hold. -/
def Saveable (params : Params) (state : ChainState) : Prop :=
  state.Sound params ∧ state.blockHeight ≤ 4294967295

theorem Saveable.storable (h : state.Saveable params) : state.Storable where
  blockHeight := (Check.isWord_iff.2 ⟨h.1.blockHeight, h.2⟩).isWhole
  totalWork := h.1.totalWork
  bestBlockHash := h.1.bestBlockHash
  currentTarget := h.1.currentTarget
  prevTimestamps time htime := (h.1.prevTimestamps time htime).isWhole
  epochStartTime := h.1.epochStartTime.isWhole
  powTargetHistory := h.1.powTargetHistory

theorem fits_iff {times targets : Nat} (htimes : params.maxTimestampHistory = .int times)
    (htargets : params.powAveragingWindow = .int targets) : state.fits params = true ↔
      state.prevTimestamps.length ≤ times ∧ state.powTargetHistory.length ≤ targets := by
  simp [fits, htimes, htargets]

/-- A step along a checked header keeps a state sound. -/
theorem Sound.applyNext (htimes : Check.IsNatural params.maxTimestampHistory)
    (htargets : Check.IsNatural params.powAveragingWindow) {header : Header}
    (hheader : header.Valid) {next : ChainState} (h : state.Sound params)
    (hnext : state.applyNext params header = .ok next) : next.Sound params := by
  obtain ⟨times, htimes⟩ := htimes
  obtain ⟨capacity, hcapacity⟩ := htargets
  obtain ⟨target, targets, -, htargets, rfl⟩ := advance_eq_ok.1 (applyNext_eq_ok.1 hnext).2
  refine {
    blockHeight := hheader.height
    totalWork := by have := h.totalWork; positivity
    bestBlockHash := Hex.isHash_normalize hheader.hash
    lowercase := Hex.not_isUpper_normalize hheader.hash
    currentTarget := Int.natCast_nonneg target
    prevTimestamps := forall_extendTimes h.prevTimestamps hheader.time
    epochStartTime := ?_
    powTargetHistory := nonneg_extendTargets h.powTargetHistory htargets
    fits := (fits_iff htimes hcapacity).2
      ⟨length_extendTimes htimes _ _, length_extendTargets hcapacity htargets⟩ }
  show Check.IsWord (if _ then _ else _)
  split
  · exact hheader.time
  · exact h.epochStartTime

theorem Sound.applyAll (htimes : Check.IsNatural params.maxTimestampHistory)
    (htargets : Check.IsNatural params.powAveragingWindow) {headers : List Header}
    (hheaders : ∀ header ∈ headers, header.Valid) {final : ChainState} (h : state.Sound params)
    (hfinal : state.applyAll params headers = .ok final) : final.Sound params := by
  refine applyAll_induction (P := Sound params) ?_ h hfinal
  intro state header next hmem hsound hnext
  exact hsound.applyNext htimes htargets (hheaders header hmem) hnext

/-! ## Restoring -/

theorem ofDigits_toString {n : Int} (h : 0 ≤ n) : ofDigits (toString n) = n := by
  obtain ⟨n, rfl⟩ := Int.eq_ofNat_of_zero_le h
  rw [ofDigits, Number.toList_toString, Nat.ofDigitChars_ten_toDigits]

theorem lower_of_lowercase {s : String} (hall : s.toList.all Hex.isDigit = true)
    (h : ∀ c ∈ s.toList, ¬ c.isUpper) : String.ofList (Lowercase.lower s.toList) = s := by
  rw [Hex.lower_digits hall]
  have hmap : s.toList.map Char.toLower = s.toList :=
    calc s.toList.map Char.toLower = s.toList.map id :=
          List.map_congr_left fun c hc => Char.toLower_eq_of_not_isUpper (h c hc)
      _ = s.toList := List.map_id _
  rw [hmap, String.ofList_toList]

/-- The members of a document that a state is restored from, each of its form. -/
structure Holds (doc : Json) (height : Number) (work hash target : String) (times : List Number)
    (epochStart : Number) (targets : List String) : Prop where
  blockHeight : doc.get? "block_height" = some (.number height)
  totalWork : doc.get? "total_work" = some (.string work)
  bestBlockHash : doc.get? "best_block_hash" = some (.string hash)
  currentTarget : doc.get? "current_target" = some (.string target)
  prevTimestamps : doc.get? "prev_timestamps" = some (.array (times.map .number))
  epochStartTime : doc.get? "epoch_start_time" = some (.number epochStart)
  powTargetHistory : doc.get? "pow_target_history" = some (.array (targets.map .string))
  height_word : Check.IsWord height
  work_decimal : Check.IsDecimal work
  hash_digits : Check.IsHash hash
  target_decimal : Check.IsDecimal target
  times_word : ∀ time ∈ times, Check.IsWord time
  epochStart_word : Check.IsWord epochStart
  targets_decimal : ∀ text ∈ targets, Check.IsDecimal text

/-- A document is accepted exactly when it holds the members of a checkpoint. -/
theorem checkMembers_valid_iff {doc : Json} : checkMembers doc = .valid state ↔
    ∃ height work hash target times epochStart targets,
      Holds doc height work hash target times epochStart targets ∧
        state = ofMembers height work hash target times epochStart targets := by
  constructor
  · intro h
    simp only [checkMembers, Checked.seq_valid_iff, Checked.map_valid_iff,
      Check.accepts_word.member_valid_iff, Check.accepts_decimal.member_valid_iff,
      Check.accepts_hash64.member_valid_iff, Check.accepts_word.list.member_valid_iff,
      Check.accepts_decimal.list.member_valid_iff] at h
    -- the members come off from the last one on
    obtain ⟨_, targets, h, htargets, rfl⟩ := h
    obtain ⟨_, epochStart, h, hepoch, rfl⟩ := h
    obtain ⟨_, times, h, htimes, rfl⟩ := h
    obtain ⟨_, target, h, htarget, rfl⟩ := h
    obtain ⟨_, hash, h, hhash, rfl⟩ := h
    obtain ⟨_, work, ⟨height, hheight, rfl⟩, hwork, rfl⟩ := h
    exact ⟨height, work, hash, target, times, epochStart, targets,
      ⟨hheight.1, hwork.1, hhash.1, htarget.1, htimes.1, hepoch.1, htargets.1, hheight.2, hwork.2,
        hhash.2, htarget.2, htimes.2, hepoch.2, htargets.2⟩, rfl⟩
  · rintro ⟨height, work, hash, target, times, epochStart, targets, h, rfl⟩
    rw [checkMembers,
      Check.accepts_word.member_valid_iff.2 ⟨h.blockHeight, h.height_word⟩,
      Check.accepts_decimal.member_valid_iff.2 ⟨h.totalWork, h.work_decimal⟩,
      Check.accepts_hash64.member_valid_iff.2 ⟨h.bestBlockHash, h.hash_digits⟩,
      Check.accepts_decimal.member_valid_iff.2 ⟨h.currentTarget, h.target_decimal⟩,
      Check.accepts_word.list.member_valid_iff.2 ⟨h.prevTimestamps, h.times_word⟩,
      Check.accepts_word.member_valid_iff.2 ⟨h.epochStartTime, h.epochStart_word⟩,
      Check.accepts_decimal.list.member_valid_iff.2 ⟨h.powTargetHistory, h.targets_decimal⟩]
    rfl

/-- What a checkpoint can hold is written with the members that a state is restored from. -/
theorem Saveable.holds (h : state.Saveable params) :
    Holds state.toJson state.blockHeight (toString state.totalWork) state.bestBlockHash
      (toString state.currentTarget) state.prevTimestamps state.epochStartTime
      (state.powTargetHistory.map toString) where
  blockHeight := rfl
  totalWork := rfl
  bestBlockHash := rfl
  currentTarget := rfl
  prevTimestamps := rfl
  epochStartTime := rfl
  powTargetHistory := by
    rw [List.map_map]
    rfl
  height_word := Check.isWord_iff.2 ⟨h.1.blockHeight, h.2⟩
  work_decimal := Check.isDecimal_toString h.1.totalWork
  hash_digits := Check.isHash_iff.1 h.1.bestBlockHash
  target_decimal := Check.isDecimal_toString h.1.currentTarget
  times_word := h.1.prevTimestamps
  epochStart_word := h.1.epochStartTime
  targets_decimal := by
    intro text htext
    obtain ⟨target, htarget, rfl⟩ := List.mem_map.1 htext
    exact Check.isDecimal_toString (h.1.powTargetHistory target htarget)

/-- The members of a checkpoint give back the state. -/
theorem checkMembers_toJson (h : state.Saveable params) :
    checkMembers state.toJson = .valid state := by
  refine checkMembers_valid_iff.2 ⟨_, _, _, _, _, _, _, h.holds, ?_⟩
  have hhistory : (state.powTargetHistory.map toString).map ofDigits = state.powTargetHistory :=
    calc (state.powTargetHistory.map toString).map ofDigits
        = state.powTargetHistory.map (ofDigits ∘ toString) := List.map_map
      _ = state.powTargetHistory.map id :=
          List.map_congr_left fun t ht => ofDigits_toString (h.1.powTargetHistory t ht)
      _ = state.powTargetHistory := List.map_id _
  rw [ofMembers, ofDigits_toString h.1.totalWork, ofDigits_toString h.1.currentTarget,
    lower_of_lowercase (Hex.isHash_iff.1 h.1.bestBlockHash).2 h.1.lowercase, hhistory]

theorem ofJson_eq_ok {doc : Json} : ofJson params doc = .ok state ↔
    checkMembers doc = .valid state ∧ state.fits params = true := by
  have hobject : Check.object checkMembers doc = .valid state ↔ checkMembers doc = .valid state := by
    rw [Check.object_valid_iff, and_iff_right_iff_imp]
    intro hvalid
    obtain ⟨_, _, _, _, _, _, _, h, -⟩ := checkMembers_valid_iff.1 hvalid
    have hmember := h.blockHeight
    cases doc with
    | object members => rfl
    | _ => cases hmember
  rw [← hobject, ofJson, bind_eq_ok]
  constructor
  · rintro ⟨found, hfound, h⟩
    split at h
    · rename_i hfits
      cases h
      exact ⟨Checked.orElse_eq_ok.1 hfound, hfits⟩
    · cases h
  · rintro ⟨hvalid, hfits⟩
    exact ⟨state, Checked.orElse_eq_ok.2 hvalid, if_pos hfits⟩

theorem ofJson_toJson (h : state.Saveable params) : ofJson params state.toJson = .ok state :=
  ofJson_eq_ok.2 ⟨checkMembers_toJson h, h.1.fits⟩

/-! ## Segments -/

/-- Save a state as text and restore it. There is no outcome when the text holds no document. -/
def reload (params : Params) (print : Json → String) (state : ChainState) :
    Option (Except Failure ChainState) :=
  (Json.read (print state.toJson)).map fun doc => (ofJson params doc).mapError .conversion

/-- Apply headers segment by segment, and go on from a checkpoint after each segment. -/
def applySegments (params : Params) (print : Json → String) :
    ChainState → List (List Header) → Option (Except Failure ChainState)
  | state, [] => some (.ok state)
  | state, segment :: rest =>
    match state.applyAll params segment with
    | .error e => some (.error e)
    | .ok reached =>
      match reload params print reached with
      | some (.ok restored) => applySegments params print restored rest
      | outcome => outcome

theorem reload_saveable {print : Json → String}
    (hprint : print = Json.compactText ∨ print = Json.indentedText) (h : state.Saveable params) :
    reload params print state = some (.ok state) := by
  have hread : Json.read (print state.toJson) = some state.toJson :=
    Json.read_print hprint (plain_toJson h.storable)
  rw [reload, hread, Option.map_some, ofJson_toJson h]
  rfl

/-- A run that is resumed from checkpoints has the outcome of the uninterrupted run. -/
theorem applySegments_eq (htimes : Check.IsNatural params.maxTimestampHistory)
    (htargets : Check.IsNatural params.powAveragingWindow) {print : Json → String}
    (hprint : print = Json.compactText ∨ print = Json.indentedText) {segments : List (List Header)}
    (hheaders : ∀ header ∈ segments.flatten, ∃ doc, Header.ofJson doc = .ok header)
    (h : state.Saveable params)
    (hheights : ∀ before after reached, segments = before ++ after →
      state.applyAll params before.flatten = .ok reached → reached.blockHeight ≤ 4294967295) :
    applySegments params print state segments = some (state.applyAll params segments.flatten) := by
  -- what is reached after a segment can be saved again, so the rest starts where the run stands
  induction segments generalizing state with
  | nil => rfl
  | cons segment rest ih =>
      rw [List.flatten_cons, applyAll_append, applySegments]
      cases hreached : state.applyAll params segment with
      | error e => rfl
      | ok reached =>
          have hvalid : ∀ header ∈ segment, header.Valid := by
            intro header hmem
            obtain ⟨doc, hdoc⟩ := hheaders header (by simp [hmem])
            exact Header.valid_of_ofJson hdoc
          have hsound : reached.Sound params := h.1.applyAll htimes htargets hvalid hreached
          have hbound : reached.blockHeight ≤ 4294967295 :=
            hheights [segment] rest reached rfl (by simpa using hreached)
          have hsave : reached.Saveable params := ⟨hsound, hbound⟩
          simp only [reload_saveable hprint hsave]
          refine ih (fun header hmem => hheaders header (by simp [hmem])) hsave ?_
          -- a cut of the rest is a cut of the whole run behind the first segment
          intro before after last hcut hlast
          refine hheights (segment :: before) after last (by rw [hcut, List.cons_append]) ?_
          rw [List.flatten_cons, applyAll_append, hreached]
          exact hlast

/-- A header without links. -/
def plainHeader (height time : Number) : Header :=
  ⟨height, zeroHash, none, none, time, "1d00ffff", none, none, 4, none, none, none, none, []⟩

/-- Two segments of one header each, from a state at height two on. -/
theorem applySegments_eq_mainnet :
    let state : ChainState := ⟨2, 3, zeroHash, 5, [1600000000], 1477953400, [5]⟩
    let segments := [[plainHeader 3 1600000150], [plainHeader 4 1600000300]]
    (Check.IsNatural Params.mainnet.maxTimestampHistory ∧
      Check.IsNatural Params.mainnet.powAveragingWindow ∧ state.Saveable Params.mainnet) ∧
      applySegments Params.mainnet Json.compactText state segments =
        some (state.applyAll Params.mainnet segments.flatten) := by
  intro state segments
  have htimes : Check.IsNatural Params.mainnet.maxTimestampHistory := ⟨28, rfl⟩
  have htargets : Check.IsNatural Params.mainnet.powAveragingWindow := ⟨17, rfl⟩
  have hsave : state.Saveable Params.mainnet := by
    have hlower : ∀ c ∈ zeroHash.toList, ¬ c.isUpper := by
      intro c hc
      rw [toList_zeroHash] at hc
      rw [List.eq_of_mem_replicate hc]
      decide
    refine ⟨⟨⟨2, rfl⟩, by decide, isHash_zeroHash, hlower, by decide, ?_,
      ⟨1477953400, rfl, by decide⟩, by decide, by decide +kernel⟩, by decide⟩
    intro time htime
    rw [List.mem_singleton.1 htime]
    exact ⟨1600000000, rfl, by decide⟩
  have hcases : ∀ header ∈ segments.flatten,
      header = plainHeader 3 1600000150 ∨ header = plainHeader 4 1600000300 := by
    intro header hmem
    simpa [segments] using hmem
  have hheaders : ∀ header ∈ segments.flatten, ∃ doc, Header.ofJson doc = .ok header := by
    intro header hmem
    rcases hcases header hmem with rfl | rfl
    · exact ⟨(plainHeader 3 1600000150).toJson, rfl⟩
    · exact ⟨(plainHeader 4 1600000300).toJson, rfl⟩
  refine ⟨⟨htimes, htargets, hsave⟩,
    applySegments_eq htimes htargets (.inl rfl) hheaders hsave ?_⟩
  intro before after reached hcut hreached
  refine applyAll_induction (P := fun s => s.blockHeight ≤ 4294967295) ?_ hsave.2 hreached
  intro s header next hmem _ hnext
  obtain ⟨_, _, -, -, rfl⟩ := advance_eq_ok.1 (applyNext_eq_ok.1 hnext).2
  have hheader : header ∈ segments.flatten := by
    rw [hcut, List.flatten_append]
    exact List.mem_append_left _ hmem
  rcases hcases header hheader with rfl | rfl
  · exact (by decide : (3 : Number) ≤ 4294967295)
  · exact (by decide : (4 : Number) ≤ 4294967295)

end ChainState

end ProverInput
