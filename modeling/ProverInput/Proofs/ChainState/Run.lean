import ProverInput.Proofs.ChainState.Advance

set_option autoImplicit false

/-! # Runs that trust their heights

`advanceAll` applies blocks one after the other without a look at their heights. It does what
`applyAll` does as long as each height is one more than the one before, and only then is the run
accepted by `applyAll` (`applyAll_eq_ok`). What a step does to a state with the target of its block,
a run does with all its targets, if it composes (`advanceAll_composes`).

For windows of whole sizes, the state after a run is known from the state before it and the times
and targets of the blocks (`Takes`). One block does this (`takes_advance`), and what two runs do in
a row is what the longer run does (`Takes.trans`), so a run of any length does it
(`advanceAll_takes`). The history of targets starts with one at least, and it never gets empty while
the window has room for one, so the easiest target never comes in.
-/

namespace ProverInput.ChainState

variable {params : Params} {state last : ChainState}

/-- The state after a run of blocks, each trusted to be the next one. -/
def advanceAll (params : Params) (state : ChainState) (headers : List Header) :
    Except Failure ChainState :=
  headers.foldlM (advance params) state

theorem advanceAll_nil : state.advanceAll params [] = .ok last ↔ state = last := by
  rw [advanceAll, List.foldlM_nil]
  exact ⟨Except.ok.inj, congrArg Except.ok⟩

theorem advanceAll_cons {header : Header} {headers : List Header} :
    state.advanceAll params (header :: headers) = .ok last ↔
      ∃ next, state.advance params header = .ok next ∧
        next.advanceAll params headers = .ok last := by
  rw [advanceAll, List.foldlM_cons, bind_eq_ok]
  rfl

/-! ## Heights -/

theorem blockHeight_advance {header : Header} {next : ChainState}
    (h : state.advance params header = .ok next) : next.blockHeight = header.height := by
  obtain ⟨target, targets, -, -, rfl⟩ := advance_eq_ok.1 h
  rfl

theorem bestBlockHash_advance {header : Header} {next : ChainState}
    (h : state.advance params header = .ok next) :
    next.bestBlockHash = Hex.normalize header.hash := by
  obtain ⟨target, targets, -, -, rfl⟩ := advance_eq_ok.1 h
  rfl

/-- What each step takes from its block is that of the last block after a run. -/
theorem getLast?_advanceAll {β : Type} {ofState : ChainState → β} {ofBlock : Header → β}
    (hstep : ∀ {state next header}, advance params state header = .ok next →
      ofState next = ofBlock header) {headers : List Header}
    (h : state.advanceAll params headers = .ok last) :
    (ofState state :: headers.map ofBlock).getLast? = some (ofState last) := by
  induction headers generalizing state with
  | nil =>
      rw [← advanceAll_nil.1 h]
      rfl
  | cons header headers ih =>
      obtain ⟨next, hnext, hrest⟩ := advanceAll_cons.1 h
      rw [List.map_cons, List.getLast?_cons_cons, ← hstep hnext]
      exact ih hrest

/-- After a run the height is that of its last block. -/
theorem blockHeight_advanceAll {headers : List Header}
    (h : state.advanceAll params headers = .ok last) :
    (state.blockHeight :: headers.map Header.height).getLast? = some last.blockHeight :=
  getLast?_advanceAll blockHeight_advance h

/-- A run is accepted when its steps succeed and each height is one more than the one before. -/
theorem applyAll_eq_ok {headers : List Header} :
    state.applyAll params headers = .ok last ↔
      state.advanceAll params headers = .ok last ∧
        (state.blockHeight :: headers.map Header.height).IsChain fun height next =>
          next.same (height + 1) = true := by
  induction headers generalizing state with
  | nil =>
      rw [applyAll_nil, advanceAll_nil]
      exact ⟨fun h => ⟨Except.ok.inj h, .singleton _⟩, fun h => congrArg Except.ok h.1⟩
  | cons header headers ih =>
      rw [applyAll_cons, advanceAll_cons, List.map_cons, List.isChain_cons_cons]
      constructor
      · intro h
        obtain ⟨next, hnext, hrest⟩ := bind_eq_ok.1 h
        obtain ⟨hheight, hadvance⟩ := applyNext_eq_ok.1 hnext
        obtain ⟨hrest, hchain⟩ := ih.1 hrest
        rw [blockHeight_advance hadvance] at hchain
        exact ⟨⟨next, hadvance, hrest⟩, hheight, hchain⟩
      · rintro ⟨⟨next, hadvance, hrest⟩, hheight, hchain⟩
        rw [← blockHeight_advance hadvance] at hchain
        exact bind_eq_ok.2 ⟨next, applyNext_eq_ok.2 ⟨hheight, hadvance⟩, ih.2 ⟨hrest, hchain⟩⟩

/-! ## Composition -/

/-- What a step does to a state with the target of its block, runs do with the targets of theirs, as
long as one after the other they do it together. A step may rely on what it leaves behind. -/
theorem advanceAll_composes {Before : ChainState → Prop}
    {R : ChainState → List Header → List Nat → ChainState → Prop}
    (hstep : ∀ {state next : ChainState} {header : Header}, Before state →
      state.advance params header = .ok next →
      ∃ target, Compact.targetOfText header.bits = .ok target ∧ R state [header] [target] next ∧
        Before next)
    (htrans : ∀ {first second third : ChainState} {headers more : List Header}
      {targets moreTargets : List Nat}, R first headers targets second →
      R second more moreTargets third → R first (headers ++ more) (targets ++ moreTargets) third)
    {header : Header} {headers : List Header} (hbefore : Before state)
    (h : state.advanceAll params (header :: headers) = .ok last) :
    ∃ targets, List.Forall₂ (fun h target => Compact.targetOfText h.bits = .ok target)
        (header :: headers) targets ∧ R state (header :: headers) targets last := by
  -- on the blocks after the first, for every state to start from
  induction headers generalizing header state with
  | nil =>
      obtain ⟨next, hnext, hrest⟩ := advanceAll_cons.1 h
      obtain ⟨target, htarget, hR, -⟩ := hstep hbefore hnext
      rw [advanceAll_nil.1 hrest] at hR
      exact ⟨[target], .cons htarget .nil, hR⟩
  | cons second headers ih =>
      obtain ⟨next, hnext, hrest⟩ := advanceAll_cons.1 h
      obtain ⟨target, htarget, hR, hbefore⟩ := hstep hbefore hnext
      obtain ⟨more, hmore, hR'⟩ := ih hbefore hrest
      exact ⟨target :: more, .cons htarget hmore, htrans hR hR'⟩

/-! ## Windows -/

theorem extendTimes_int {capacity : Nat} (htimes : params.maxTimestampHistory = .int capacity)
    (times : List Number) (time : Number) :
    extendTimes params times time = (times ++ [time]).rtake capacity := by
  have hwindow : extendTimes params times time =
      (times.rtake capacity ++ [time]).rtake capacity := by
    rw [extendTimes, htimes]
    rfl
  rw [hwindow, Window.rtake_append_rtake]

theorem rtake_concat_ne_nil {α : Type} {capacity : Nat} (hroom : capacity ≠ 0) (values : List α)
    (x : α) : (values ++ [x]).rtake capacity ≠ [] := by
  obtain ⟨n, rfl⟩ := Nat.exists_eq_succ_of_ne_zero hroom
  rw [List.rtake_concat_succ]
  simp

/-- A history that is not empty is only filled up when the window has no room at all, and then
nothing fits. -/
theorem extendTargets_int {capacity : Nat} (htargets : params.powAveragingWindow = .int capacity)
    {history : List Int} (hseeded : capacity = 0 ∨ history ≠ []) (target : Int) :
    extendTargets params history target = .ok ((history ++ [target]).rtake capacity) := by
  rw [extendTargets, htargets]
  by_cases hroom : capacity = 0
  · subst hroom
    have hnone : Window.newest (.int (0 : Nat)) history = [] := by
      rw [Window.newest_int, List.rtake_zero]
    simp only [Window.ofList, hnone, List.rtake_zero]
    rfl
  · have hhistory := hseeded.resolve_left hroom
    have hkept : (Window.ofList history (.int capacity)).isEmpty = false := by
      rw [← List.dropLast_append_getLast hhistory]
      rw [Window.isEmpty, List.isEmpty_eq_false_iff]
      exact rtake_concat_ne_nil hroom _ _
    simp only [hkept]
    exact congrArg Except.ok (Window.rtake_append_rtake capacity history [target])

/-- A step adds its target to a history that needs no filling, and leaves one of this kind. -/
theorem powTargetHistory_advance {targets : Nat} (htargets : params.powAveragingWindow = .int targets)
    {header : Header} {next : ChainState} (hseeded : targets = 0 ∨ state.powTargetHistory ≠ [])
    (h : state.advance params header = .ok next) :
    ∃ target : Nat, Compact.targetOfText header.bits = .ok target ∧
      next.powTargetHistory = (state.powTargetHistory ++ [(target : Int)]).rtake targets ∧
      (targets = 0 ∨ next.powTargetHistory ≠ []) := by
  obtain ⟨target, history, htarget, hhistory, rfl⟩ := advance_eq_ok.1 h
  rw [extendTargets_int htargets hseeded] at hhistory
  cases hhistory
  exact ⟨target, htarget, rfl, or_iff_not_imp_left.2 fun hroom => rtake_concat_ne_nil hroom _ _⟩

/-! ## What a run adds -/

/-- One state comes from another by blocks of the given times and targets: the work of the targets
is added, and the windows move on to the last values. -/
structure Takes (times targets : Nat) (state : ChainState) (blockTimes : List Number)
    (blockTargets : List Nat) (last : ChainState) : Prop where
  currentTarget : (blockTargets.map Int.ofNat).getLast? = some last.currentTarget
  totalWork : last.totalWork =
    state.totalWork + (blockTargets.map fun target => (Compact.workOf target : Int)).sum
  prevTimestamps : last.prevTimestamps = (state.prevTimestamps ++ blockTimes).rtake times
  powTargetHistory : last.powTargetHistory =
    (state.powTargetHistory ++ blockTargets.map Int.ofNat).rtake targets

section

variable {times targets : Nat}

theorem Takes.trans {first second third : ChainState} {blockTimes moreTimes : List Number}
    {blockTargets moreTargets : List Nat}
    (h : Takes times targets first blockTimes blockTargets second)
    (h' : Takes times targets second moreTimes moreTargets third) :
    Takes times targets first (blockTimes ++ moreTimes) (blockTargets ++ moreTargets) third where
  currentTarget := by
    rw [List.map_append, List.getLast?_append, h'.currentTarget, Option.some_or]
  totalWork := by
    rw [List.map_append, List.sum_append, h'.totalWork, h.totalWork, add_assoc]
  prevTimestamps := by
    rw [h'.prevTimestamps, h.prevTimestamps, Window.rtake_append_rtake, List.append_assoc]
  powTargetHistory := by
    rw [h'.powTargetHistory, h.powTargetHistory, Window.rtake_append_rtake, List.map_append,
      List.append_assoc]

variable (htimes : params.maxTimestampHistory = .int times)
  (htargets : params.powAveragingWindow = .int targets)

include htimes htargets

theorem takes_advance {header : Header} {next : ChainState}
    (hseeded : targets = 0 ∨ state.powTargetHistory ≠ [])
    (h : state.advance params header = .ok next) :
    ∃ target, Compact.targetOfText header.bits = .ok target ∧
      Takes times targets state [header.time] [target] next ∧
      (targets = 0 ∨ next.powTargetHistory ≠ []) := by
  obtain ⟨target, htarget, hhistory, hseeded⟩ := powTargetHistory_advance htargets hseeded h
  obtain ⟨_, history, htarget', -, rfl⟩ := advance_eq_ok.1 h
  obtain rfl := Except.ok.inj (htarget.symm.trans htarget')
  refine ⟨target, htarget, ⟨rfl, ?_, extendTimes_int htimes _ _, hhistory⟩, hseeded⟩
  rw [List.map_singleton, List.sum_singleton]

/-- A run of at least one block takes the times and the targets of its blocks. -/
theorem advanceAll_takes {header : Header} {headers : List Header}
    (hseeded : targets = 0 ∨ state.powTargetHistory ≠ [])
    (h : state.advanceAll params (header :: headers) = .ok last) :
    ∃ blockTargets, List.Forall₂ (fun h target => Compact.targetOfText h.bits = .ok target)
        (header :: headers) blockTargets ∧
      Takes times targets state ((header :: headers).map Header.time) blockTargets last :=
  advanceAll_composes (R := fun state headers => Takes times targets state (headers.map Header.time))
    (takes_advance htimes htargets) (fun h h' => List.map_append ▸ h.trans h') hseeded h

end

end ProverInput.ChainState
