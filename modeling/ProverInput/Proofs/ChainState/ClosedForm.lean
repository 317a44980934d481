import ProverInput.Proofs.ChainData.Consecutive
import ProverInput.Proofs.ChainState.Checkpoint
import ProverInput.Proofs.ChainState.Epoch

set_option autoImplicit false

/-! # Runs of blocks in closed form

Whether a run is accepted is seen from its headers alone: their heights follow on the height of the
state, and their bits stand for targets. The first header that breaks this is the one complained of,
its height before its bits (`applyAll_of_first`). What a run that is accepted leads to is known from
the state and the headers at once, with no step in between (`LeadsTo`).

An empty history of targets is filled with the easiest target by the first step, and by no later
one. A run from a state with an empty history is thus one from the state with the filled history
(`advanceAll_seeded`), where nothing is filled any more. The seed has to be a list, so it has less
than `2 ^ 32` entries (`Seedable`); with a larger window the first step that would seed the history
breaks off (`advance_unseeded`).
-/

namespace ProverInput

/-- A whole number below `2 ^ 53` in size. -/
def Number.IsSafe (x : Number) : Prop := ∃ n : Int, x = .int n ∧ n.natAbs < exactBound

theorem Number.isSafe_int {n : Int} : (int n).IsSafe ↔ n.natAbs < exactBound := by
  simp [IsSafe]

namespace ChainState

variable {params : Params} {state next last : ChainState} {header : Header} {headers : List Header}
  {times targets : Nat} {tip : Int}

/-! ## The seed -/

/-- The history of targets that the first step goes by: copies of the easiest target for as many as
the window holds where there is none. -/
def seed (targets : Nat) (history : List Int) : List Int :=
  if history = [] then List.replicate targets (Compact.powLimit : Int) else history

/-- The seed of a history can be a list. -/
def Seedable (targets : Nat) (history : List Int) : Prop := history ≠ [] ∨ targets < 2 ^ 32

/-- The state with its seed for a history. -/
def seeded (targets : Nat) (state : ChainState) : ChainState :=
  { state with powTargetHistory := seed targets state.powTargetHistory }

theorem seed_ne_nil (targets : Nat) (history : List Int) :
    targets = 0 ∨ seed targets history ≠ [] := by
  by_cases hempty : history = []
  · rw [seed, if_pos hempty, Ne, List.replicate_eq_nil_iff]
    exact em _
  · rw [seed, if_neg hempty]
    exact .inr hempty

theorem extendTargets_nil (params : Params) (target : Int) :
    extendTargets params [] target =
      ((Window.empty params.powAveragingWindow).fill (Compact.powLimit : Int)).map fun window =>
        (window.append target).entries := by
  have hwindow : Window.ofList ([] : List Int) params.powAveragingWindow =
      Window.empty params.powAveragingWindow := by
    rw [Window.ofList, Window.newest, List.drop_nil]
    rfl
  have hempty : (Window.empty params.powAveragingWindow : Window Int).isEmpty = true := rfl
  rw [extendTargets, hwindow]
  simp only [hempty, if_true, bind_pure_comp]
  rfl

/-- A history is extended from its seed, as long as the seed can be a list. -/
theorem extendTargets_seed (htargets : params.powAveragingWindow = .int targets)
    {history : List Int} (hseed : Seedable targets history) (target : Int) :
    extendTargets params history target =
      .ok ((seed targets history ++ [target]).rtake targets) := by
  by_cases hempty : history = []
  · subst hempty
    have hlist : targets < 2 ^ 32 := hseed.resolve_left fun h => h rfl
    rw [extendTargets_nil, htargets, Window.fill_empty, if_pos hlist, seed, if_pos rfl]
    rfl
  · rw [extendTargets_int htargets (.inr hempty), seed, if_neg hempty]

theorem seed_seed (targets : Nat) (history : List Int) :
    seed targets (seed targets history) = seed targets history := by
  rcases seed_ne_nil targets history with rfl | hne
  · by_cases hempty : history = []
    · simp [seed, hempty]
    · simp [seed, hempty]
  · rw [seed, if_neg hne]

section

variable (htargets : params.powAveragingWindow = .int targets)
  (hseed : Seedable targets state.powTargetHistory)

include htargets hseed

theorem advance_seeded (header : Header) :
    (state.seeded targets).advance params header = state.advance params header := by
  have hseeded : Seedable targets (seed targets state.powTargetHistory) := by
    rcases seed_ne_nil targets state.powTargetHistory with rfl | hne
    · exact .inr (by norm_num)
    · exact .inl hne
  have hsame : ∀ target, extendTargets params (state.seeded targets).powTargetHistory target =
      extendTargets params state.powTargetHistory target := by
    intro target
    show extendTargets params (seed targets state.powTargetHistory) target = _
    rw [extendTargets_seed htargets hseeded, extendTargets_seed htargets hseed, seed_seed]
  simp only [advance, hsame]
  rfl

/-- Seeding first changes nothing in a run of at least one block. -/
theorem advanceAll_seeded (header : Header) (headers : List Header) :
    (state.seeded targets).advanceAll params (header :: headers) =
      state.advanceAll params (header :: headers) := by
  rw [advanceAll, advanceAll, List.foldlM_cons, List.foldlM_cons, advance_seeded htargets hseed]

theorem exists_advance {target : Nat} (htarget : Compact.targetOfText header.bits = .ok target) :
    ∃ next, state.advance params header = .ok next ∧ next.blockHeight = header.height ∧
      Seedable targets next.powTargetHistory := by
  refine ⟨_, advance_eq_ok.2 ⟨target, _, htarget, extendTargets_seed htargets hseed _, rfl⟩, rfl,
    ?_⟩
  by_cases hroom : targets = 0
  · exact .inr (by omega)
  · exact .inl (rtake_concat_ne_nil hroom _ _)

end

/-! ## Steps -/

/-- A history that is too long to be seeded ends the run. -/
theorem advance_unseeded (htargets : params.powAveragingWindow = .int targets)
    (hlong : ¬ Seedable targets state.powTargetHistory) {target : Nat}
    (htarget : Compact.targetOfText header.bits = .ok target) :
    state.advance params header = .error (.fault .badLength) := by
  obtain ⟨hempty, hlist⟩ := not_or.1 hlong
  have hextend : extendTargets params state.powTargetHistory target = .error .badLength := by
    rw [not_not.1 hempty, extendTargets_nil, htargets, Window.fill_empty, if_neg hlist]
    rfl
  rw [advance, htarget]
  show ((extendTargets params state.powTargetHistory target : Except Fault (List Int)) :
    Except Failure (List Int)) >>= _ = _
  rw [hextend]
  rfl

theorem applyNext_of_gap (htip : state.blockHeight = .int tip)
    (hsafe : tip.natAbs < Number.exactBound) (hheight : header.height ≠ .int (tip + 1)) :
    state.applyNext params header = .error (.conversion (.headerGap header.height (.int tip))) := by
  have hgap : ¬ header.height.same (state.blockHeight + 1) = true := by
    rwa [htip, same_succ_iff hsafe]
  rw [applyNext, if_neg hgap, htip]

theorem applyNext_of_next (htip : state.blockHeight = .int tip)
    (hsafe : tip.natAbs < Number.exactBound) (hheight : header.height = .int (tip + 1)) :
    state.applyNext params header = state.advance params header := by
  have hnext : header.height.same (state.blockHeight + 1) = true := by
    rwa [htip, same_succ_iff hsafe]
  rw [applyNext, if_pos hnext]

theorem advance_of_bits {e : ConversionError}
    (hbits : Compact.targetOfText header.bits = .error e) :
    state.advance params header = .error (.conversion e) := by
  rw [advance, hbits]
  rfl

/-! ## Runs -/

/-- The bits of each header stand for a target. -/
def HaveTargets (headers : List Header) : Prop :=
  ∀ header ∈ headers, ∃ target, Compact.targetOfText header.bits = .ok target

/-- Blocks at the next heights with proper bits are accepted, and so are no others. -/
theorem exists_applyAll_iff (htargets : params.powAveragingWindow = .int targets)
    (hseed : Seedable targets state.powTargetHistory) (htip : state.blockHeight = .int tip)
    (hsafe : tip.natAbs < Number.exactBound) (hheights : ∀ header ∈ headers, header.height.IsSafe) :
    (∃ last, state.applyAll params headers = .ok last) ↔
      Consecutive (tip + 1) headers ∧ HaveTargets headers := by
  induction headers generalizing state tip with
  | nil =>
      refine ⟨fun _ => ⟨fun i hi => absurd hi (Nat.not_lt_zero i), by simp [HaveTargets]⟩, ?_⟩
      exact fun _ => ⟨state, rfl⟩
  | cons header headers ih =>
      rw [applyAll_cons, consecutive_cons, HaveTargets, List.forall_mem_cons]
      by_cases hheight : header.height = .int (tip + 1)
      · rw [applyNext_of_next htip hsafe hheight]
        cases hbits : Compact.targetOfText header.bits with
        | error e =>
            rw [advance_of_bits hbits]
            simp [Except.bind]
        | ok target =>
            obtain ⟨next, hadvance, hnext, hseed'⟩ := exists_advance htargets hseed hbits
            have hsafe' := Number.isSafe_int.1 (hheight ▸ hheights header List.mem_cons_self)
            have hrest := ih hseed' (hnext.trans hheight) hsafe'
              fun h hmem => hheights h (List.mem_cons_of_mem header hmem)
            rw [hadvance, show (Except.ok next).bind (fun s => s.applyAll params headers) =
              next.applyAll params headers from rfl, hrest]
            simp [hheight, HaveTargets]
      · rw [applyNext_of_gap htip hsafe hheight]
        simp [hheight, Except.bind]

/-- The time at which the epoch after a run started: that of the last header at a multiple of the
retarget interval, or else the one from before the run. -/
def EpochStarts (params : Params) (state : ChainState) (headers : List Header) (time : Number) :
    Prop :=
  (∃ i, ∃ hi : i < headers.length, headers[i].height.IsMultiple params.retargetInterval ∧
      (∀ j, i < j → ∀ hj : j < headers.length,
        ¬ headers[j].height.IsMultiple params.retargetInterval) ∧ time = headers[i].time) ∨
    ((∀ j, ∀ hj : j < headers.length, ¬ headers[j].height.IsMultiple params.retargetInterval) ∧
      time = state.epochStartTime)

/-- What a run of headers with these targets leads to from a state at the height `tip`, for windows
of `times` block times and `targets` targets. -/
structure LeadsTo (params : Params) (times targets : Nat) (tip : Int) (state : ChainState)
    (headers : List Header) (blockTargets : List Nat) (last : ChainState) : Prop where
  blockHeight : last.blockHeight = .int (tip + headers.length)
  bestBlockHash : (headers.map fun header => Hex.normalize header.hash).getLast? =
    some last.bestBlockHash
  currentTarget : (blockTargets.map Int.ofNat).getLast? = some last.currentTarget
  totalWork : last.totalWork =
    state.totalWork + (blockTargets.map fun target => (Compact.workOf target : Int)).sum
  prevTimestamps : last.prevTimestamps =
    (state.prevTimestamps ++ headers.map Header.time).rtake times
  epochStartTime : EpochStarts params state headers last.epochStartTime
  powTargetHistory : last.powTargetHistory =
    (seed targets state.powTargetHistory ++ blockTargets.map Int.ofNat).rtake targets

theorem epochStarts_of_advanceAll (hretarget : 1 ≤ params.retargetInterval)
    (h : state.advanceAll params headers = .ok last) :
    EpochStarts params state headers last.epochStartTime := by
  have hstarts : ∀ {i} (hi : i < headers.length), startsEpoch params headers[i].height = false →
      ¬ headers[i].height.IsMultiple params.retargetInterval := by
    intro i hi hnot
    rw [← startsEpoch_iff hretarget, hnot]
    exact Bool.false_ne_true
  rcases advanceAll_epochStart h with ⟨i, hi, hfirst, hlater, htime⟩ | ⟨hnone, htime⟩
  · exact .inl ⟨i, hi, (startsEpoch_iff hretarget).1 hfirst,
      fun j hij hj => hstarts hj (hlater j hij hj), htime⟩
  · exact .inr ⟨fun j hj => hstarts hj (hnone j hj), htime⟩

/-- Blocks at the next heights lead as many heights on. -/
theorem blockHeight_of_consecutive (htip : state.blockHeight = .int tip)
    (hall : Consecutive (tip + 1) headers) (h : state.advanceAll params headers = .ok last) :
    last.blockHeight = .int (tip + headers.length) := by
  induction headers generalizing state tip with
  | nil =>
      rw [← advanceAll_nil.1 h, htip, List.length_nil, Nat.cast_zero, add_zero]
  | cons header headers ih =>
      obtain ⟨next, hnext, hrest⟩ := advanceAll_cons.1 h
      obtain ⟨hheight, hall⟩ := consecutive_cons.1 hall
      rw [ih ((blockHeight_advance hnext).trans hheight) hall hrest, List.length_cons]
      congr 1
      omega

theorem isSafe_blockHeight (hstate : state.blockHeight.IsSafe)
    (hheights : ∀ header ∈ headers, header.height.IsSafe)
    (h : state.advanceAll params headers = .ok last) : last.blockHeight.IsSafe := by
  induction headers generalizing state with
  | nil => rwa [← advanceAll_nil.1 h]
  | cons header headers ih =>
      obtain ⟨next, hnext, hrest⟩ := advanceAll_cons.1 h
      rw [List.forall_mem_cons] at hheights
      exact ih (by rw [blockHeight_advance hnext]; exact hheights.1) hheights.2 hrest

/-- A run that is accepted leads to the state in closed form. -/
theorem leadsTo_of_applyAll (htimes : params.maxTimestampHistory = .int times)
    (htargets : params.powAveragingWindow = .int targets)
    (hretarget : 1 ≤ params.retargetInterval)
    (hseed : Seedable targets state.powTargetHistory) (htip : state.blockHeight = .int tip)
    (hheaders : headers ≠ []) (hall : Consecutive (tip + 1) headers)
    (h : state.applyAll params headers = .ok last) :
    ∃ blockTargets, List.Forall₂ (fun h target => Compact.targetOfText h.bits = .ok target)
        headers blockTargets ∧
      LeadsTo params times targets tip state headers blockTargets last := by
  have hrun := (applyAll_eq_ok.1 h).1
  obtain ⟨header, headers, rfl⟩ := List.exists_cons_of_ne_nil hheaders
  have hseeded : (state.seeded targets).advanceAll params (header :: headers) = .ok last := by
    rw [advanceAll_seeded htargets hseed, hrun]
  obtain ⟨blockTargets, hpairs, htakes⟩ :=
    advanceAll_takes htimes htargets (seed_ne_nil targets state.powTargetHistory) hseeded
  have hhash := getLast?_advanceAll bestBlockHash_advance hrun
  rw [List.map_cons, List.getLast?_cons_cons] at hhash
  exact ⟨blockTargets, hpairs, {
    blockHeight := blockHeight_of_consecutive htip hall hrun
    bestBlockHash := hhash
    currentTarget := htakes.currentTarget
    totalWork := htakes.totalWork
    prevTimestamps := htakes.prevTimestamps
    epochStartTime := epochStarts_of_advanceAll hretarget hrun
    powTargetHistory := htakes.powTargetHistory }⟩

/-- The first header that does not fit is the one complained of, its height before its bits. -/
theorem applyAll_of_first (htargets : params.powAveragingWindow = .int targets)
    (htip : state.blockHeight = .int tip) (hsafe : tip.natAbs < Number.exactBound)
    {before : List Header} (header : Header) (after : List Header)
    (hheights : ∀ h ∈ before, h.height.IsSafe)
    (hall : Consecutive (tip + 1) before) (hbits : HaveTargets before)
    (hseed : before = [] ∨ Seedable targets state.powTargetHistory) :
    (header.height ≠ .int (tip + before.length + 1) →
      state.applyAll params (before ++ header :: after) =
        .error (.conversion (.headerGap header.height (.int (tip + before.length))))) ∧
    (header.height = .int (tip + before.length + 1) →
      ∀ e, Compact.targetOfText header.bits = .error e →
        state.applyAll params (before ++ header :: after) = .error (.conversion e)) := by
  obtain ⟨reached, hreached⟩ : ∃ reached, state.applyAll params before = .ok reached := by
    rcases hseed with rfl | hseed
    · exact ⟨state, rfl⟩
    · exact (exists_applyAll_iff htargets hseed htip hsafe hheights).2 ⟨hall, hbits⟩
  have hrun := (applyAll_eq_ok.1 hreached).1
  -- the state behind the headers that fit is at the height of the last of them
  have hheight := blockHeight_of_consecutive htip hall hrun
  have hsafe' := isSafe_blockHeight (htip ▸ Number.isSafe_int.2 hsafe) hheights hrun
  rw [hheight, Number.isSafe_int] at hsafe'
  have hsplit : state.applyAll params (before ++ header :: after) =
      (reached.applyNext params header).bind fun next => next.applyAll params after := by
    rw [applyAll_append, hreached, ← applyAll_cons]
    rfl
  rw [hsplit]
  refine ⟨fun hgap => ?_, fun hnext e he => ?_⟩
  · rw [applyNext_of_gap hheight hsafe' hgap]
    rfl
  · rw [applyNext_of_next hheight hsafe' hnext, advance_of_bits he]
    rfl

/-- A run of headers with safe heights is accepted exactly when they follow on the state, have
proper bits and any history to be seeded can be. The first one that does not fit is the one
complained of, its height before its bits, and these before a seed that is too long. An accepted run
leaves the state as it was if it is empty, and else leads to the state in closed form. -/
theorem applyAll_closed_form (htimes : params.maxTimestampHistory = .int times)
    (htargets : params.powAveragingWindow = .int targets)
    (hretarget : 1 ≤ params.retargetInterval) (htip : state.blockHeight = .int tip)
    (hsafe : tip.natAbs < Number.exactBound) (hheights : ∀ header ∈ headers, header.height.IsSafe) :
    ((∃ last, state.applyAll params headers = .ok last) ↔
      Consecutive (tip + 1) headers ∧ HaveTargets headers ∧
        (headers = [] ∨ Seedable targets state.powTargetHistory)) ∧
    (∀ before header after, headers = before ++ header :: after →
      Consecutive (tip + 1) before → HaveTargets before →
      (before = [] ∨ Seedable targets state.powTargetHistory) →
      (header.height ≠ .int (tip + before.length + 1) →
        state.applyAll params headers =
          .error (.conversion (.headerGap header.height (.int (tip + before.length))))) ∧
      (header.height = .int (tip + before.length + 1) →
        (∀ e, Compact.targetOfText header.bits = .error e →
          state.applyAll params headers = .error (.conversion e)) ∧
        (∀ target, Compact.targetOfText header.bits = .ok target →
          ¬ Seedable targets state.powTargetHistory →
          state.applyAll params headers = .error (.fault .badLength)))) ∧
    (headers = [] → state.applyAll params headers = .ok state) ∧
    (∀ last, headers ≠ [] → state.applyAll params headers = .ok last →
      ∃ blockTargets, List.Forall₂ (fun h target => Compact.targetOfText h.bits = .ok target)
          headers blockTargets ∧
        LeadsTo params times targets tip state headers blockTargets last) := by
  have hiff : (∃ last, state.applyAll params headers = .ok last) ↔
      Consecutive (tip + 1) headers ∧ HaveTargets headers ∧
        (headers = [] ∨ Seedable targets state.powTargetHistory) := by
    by_cases hseed : Seedable targets state.powTargetHistory
    · rw [exists_applyAll_iff htargets hseed htip hsafe hheights]
      simp [hseed]
    · cases headers with
      | nil =>
          refine ⟨fun _ => ?_, fun _ => ⟨state, rfl⟩⟩
          exact ⟨fun i hi => absurd hi (Nat.not_lt_zero i), by simp [HaveTargets], .inl rfl⟩
      | cons header headers =>
          constructor
          · rintro ⟨last, hlast⟩
            obtain ⟨next, hnext, -⟩ := advanceAll_cons.1 (applyAll_eq_ok.1 hlast).1
            obtain ⟨target, -, htarget, -⟩ := advance_eq_ok.1 hnext
            rw [advance_unseeded htargets hseed htarget] at hnext
            cases hnext
          · rintro ⟨-, -, hempty | hseeded⟩
            · cases hempty
            · exact absurd hseeded hseed
  refine ⟨hiff, ?_, ?_, ?_⟩
  · rintro before header after rfl hall hbits hseed
    have hbefore : ∀ h ∈ before, h.height.IsSafe := fun h hmem =>
      hheights h (List.mem_append_left _ hmem)
    obtain ⟨hgap, hmalformed⟩ :=
      applyAll_of_first htargets htip hsafe header after hbefore hall hbits hseed
    refine ⟨hgap, fun hnext => ⟨hmalformed hnext, fun target htarget hlong => ?_⟩⟩
    -- only a first step seeds the history
    obtain rfl := hseed.resolve_right hlong
    rw [List.length_nil, Nat.cast_zero, add_zero] at hnext
    rw [List.nil_append, applyAll_cons, applyNext_of_next htip hsafe hnext,
      advance_unseeded htargets hlong htarget]
    rfl
  · rintro rfl
    rfl
  · intro last hheaders hlast
    obtain ⟨hall, -, hseed⟩ := hiff.1 ⟨last, hlast⟩
    exact leadsTo_of_applyAll htimes htargets hretarget (hseed.resolve_left hheaders) htip hheaders
      hall hlast

/-- Two blocks on a state without targets. The seed fills the window of two, and the later target
stays when the earlier copies are pushed out. -/
theorem applyAll_closed_form_seeded :
    let params : Params := { Params.mainnet with powAveragingWindow := 2, maxTimestampHistory := 3 }
    let state : ChainState := ⟨3, 5, zeroHash, 7, [10, 20, 30, 40], 10, []⟩
    let headers := [plainHeader 4 50, plainHeader 5 60]
    (params.maxTimestampHistory = .int (3 : Nat) ∧ params.powAveragingWindow = .int (2 : Nat) ∧
      1 ≤ params.retargetInterval ∧ state.blockHeight = .int 3 ∧
      Int.natAbs 3 < Number.exactBound ∧ ∀ header ∈ headers, header.height.IsSafe) ∧
    ∃ last, state.applyAll params headers = .ok last ∧ last.blockHeight = .int 5 ∧
      last.prevTimestamps = [40, 50, 60] ∧
      last.powTargetHistory = [(Compact.powLimit : Int), Compact.powLimit] := by
  intro params state headers
  have htimes : params.maxTimestampHistory = .int (3 : Nat) := rfl
  have htargets : params.powAveragingWindow = .int (2 : Nat) := rfl
  have hretarget : 1 ≤ params.retargetInterval := by decide
  have htip : state.blockHeight = .int 3 := rfl
  have hsafe : Int.natAbs 3 < Number.exactBound := by decide
  have hheights : ∀ header ∈ headers, header.height.IsSafe := by
    intro header hmem
    rcases List.mem_pair.1 hmem with rfl | rfl
    · exact ⟨4, rfl, by decide⟩
    · exact ⟨5, rfl, by decide⟩
  obtain ⟨hiff, -, -, hleads⟩ :=
    applyAll_closed_form htimes htargets hretarget htip hsafe hheights
  have hbits : Compact.targetOfText "1d00ffff" = .ok Compact.powLimit := rfl
  have hall : Consecutive (3 + 1) headers := by
    intro i hi
    have hbound : i < 2 := hi
    interval_cases i
    all_goals rfl
  have htargets' : HaveTargets headers := by
    intro header hmem
    rcases List.mem_pair.1 hmem with rfl | rfl
    all_goals exact ⟨_, hbits⟩
  obtain ⟨last, hlast⟩ := hiff.2 ⟨hall, htargets', .inr (.inr (by norm_num))⟩
  obtain ⟨blockTargets, hpairs, hled⟩ := hleads last (List.cons_ne_nil _ _) hlast
  obtain rfl : blockTargets = [Compact.powLimit, Compact.powLimit] := by
    obtain ⟨_, _, hfirst, hrest, rfl⟩ := List.forall₂_cons_left_iff.1 hpairs
    obtain ⟨_, _, hsecond, hnone, rfl⟩ := List.forall₂_cons_left_iff.1 hrest
    obtain rfl := Except.ok.inj (hfirst.symm.trans hbits)
    obtain rfl := Except.ok.inj (hsecond.symm.trans hbits)
    rw [List.forall₂_nil_left_iff.1 hnone]
  refine ⟨⟨htimes, htargets, hretarget, htip, hsafe, hheights⟩, last, hlast, hled.blockHeight,
    ?_, ?_⟩
  · rw [hled.prevTimestamps]
    rfl
  · rw [hled.powTargetHistory]
    rfl

/-- A window of `2 ^ 32` targets cannot be seeded. The first block that fits ends the run, and the
malformed bits of the second are never looked at. -/
theorem applyAll_unseeded :
    let params : Params := { Params.mainnet with powAveragingWindow := 4294967296 }
    let state : ChainState := ⟨0, 0, zeroHash, 0, [], 0, []⟩
    let first := plainHeader 1 1600000000
    let second := { plainHeader 2 1600000150 with bits := "zz" }
    (∀ header ∈ [first, second], header.height.IsSafe) ∧ Consecutive 1 [first, second] ∧
      HaveTargets [first] ∧
      Compact.targetOfText second.bits = .error (.compactText "zz") ∧
      state.applyAll params [first] = .error (.fault .badLength) ∧
      state.applyAll params [first, second] = .error (.fault .badLength) := by
  intro params state first second
  have htarget : Compact.targetOfText "1d00ffff" = .ok Compact.powLimit := rfl
  have hmalformed : Compact.targetOfText "zz" = .error (.compactText "zz") := rfl
  have htargets : params.powAveragingWindow = .int (4294967296 : Nat) := rfl
  have hadvance : state.advance params first = .error (.fault .badLength) :=
    advance_unseeded htargets (by simp [Seedable, state]) htarget
  have hnext : state.applyNext params first = .error (.fault .badLength) := by
    rw [applyNext_of_next rfl (by decide) rfl, hadvance]
  refine ⟨?_, ?_, ?_, hmalformed, ?_, ?_⟩
  · intro header hmem
    rcases List.mem_pair.1 hmem with rfl | rfl
    · exact ⟨1, rfl, by decide⟩
    · exact ⟨2, rfl, by decide⟩
  · intro i hi
    have hbound : i < 2 := hi
    interval_cases i
    all_goals rfl
  · intro header hmem
    rw [List.mem_singleton.1 hmem]
    exact ⟨_, htarget⟩
  · rw [applyAll_cons, hnext]
    rfl
  · rw [applyAll_cons, hnext]
    rfl

end ChainState

end ProverInput
