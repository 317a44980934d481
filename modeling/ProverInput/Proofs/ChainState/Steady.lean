import ProverInput.Proofs.Bootstrap.Trail
import ProverInput.Proofs.ChainData.Follow
import ProverInput.Proofs.ChainData.Generate
import ProverInput.Proofs.Window.Room
import ProverInput.Proofs.ChainState.Checkpoint

set_option autoImplicit false

/-! # What all reachable states have in common

A state is built at a height and goes on by runs of blocks and by way of checkpoints (`Step`). The
two windows are built by one walk with two capacities, and grow by one entry each from then on, so
the shorter one always holds as many entries as it has room for and the longer one has (`Steady`).
So it is where a state is built, at the end of a run of records (`exists_snapshot`), a step along a
checked record keeps it (`Steady.advance`), and a checkpoint that can be restored gives the state
itself (`Steady.eq_of_restored`), or all of it but the start of the epoch, if that is a number whose
text reads as another (`Steady.of_reloaded`). By induction on the steps it holds of every state that
is reached (`steady_of_reachable`), and a history of times that is full stays full.
-/

namespace ProverInput

open Number (room)

/-- An averaging window of at least one block that is no longer than the history of times. -/
structure Params.Nested (params : Params) : Prop where
  one_le : 1 ≤ params.powAveragingWindow
  le : params.powAveragingWindow ≤ params.maxTimestampHistory
  targets_double : params.powAveragingWindow.IsDouble
  times_double : params.maxTimestampHistory.IsDouble

variable {params : Params}

theorem Params.Nested.one_le_times (h : params.Nested) : 1 ≤ params.maxTimestampHistory :=
  Number.le_trans h.one_le h.le

theorem Params.Nested.room_le (h : params.Nested) :
    params.powAveragingWindow.room ≤ params.maxTimestampHistory.room :=
  Number.room_mono h.one_le h.le

/-- What two windows that grow together have in entries, with their capacities as room. -/
theorem Params.Nested.length_room (h : params.Nested) {times targets : Nat}
    (htimes : times ≤ params.maxTimestampHistory.count)
    (htargets : targets = min params.powAveragingWindow.count times) :
    (times : ℕ∞) ≤ params.maxTimestampHistory.room ∧
      (targets : ℕ∞) = min params.powAveragingWindow.room times := by
  constructor
  · rcases Number.room_cases h.one_le_times with ⟨-, hroom⟩ | ⟨p, -, -, hroom⟩
    · rw [hroom]
      exact le_top
    · rw [hroom]
      exact_mod_cast htimes
  · rw [htargets]
    rcases Number.room_cases h.one_le with ⟨hinfinite, hroom⟩ | ⟨p, -, -, hroom⟩
    · -- both capacities are infinite, so the times are all that counts
      have hcount : times ≤ params.powAveragingWindow.count := by
        have htop := h.room_le
        rw [hroom, top_le_iff] at htop
        rcases Number.room_cases h.one_le_times with ⟨hinfinite', -⟩ | ⟨p, -, -, hroom'⟩
        · rwa [hinfinite', ← hinfinite] at htimes
        · rw [hroom'] at htop
          exact absurd htop (by simp)
      rw [hroom, top_inf_eq, min_eq_right hcount]
    · rw [hroom]
      rcases le_total params.powAveragingWindow.count times with hle | hle
      · rw [min_eq_left hle, min_eq_left (by exact_mod_cast hle)]
      · rw [min_eq_right hle, min_eq_right (by exact_mod_cast hle)]

namespace ChainState

/-- Two windows within their capacities, of which the shorter one holds as many entries as it has
room for and the longer one has; and a tip that agrees with them. -/
structure Steady (params : Params) (state : ChainState) : Prop where
  times_ne_nil : state.prevTimestamps ≠ []
  times_fit : (state.prevTimestamps.length : ℕ∞) ≤ params.maxTimestampHistory.room
  targets_ne_nil : state.powTargetHistory ≠ []
  targets_length : (state.powTargetHistory.length : ℕ∞) =
    min params.powAveragingWindow.room state.prevTimestamps.length
  currentTarget : state.powTargetHistory.getLast? = some state.currentTarget
  targets_nonneg : ∀ target ∈ state.powTargetHistory, 0 ≤ target
  blockHeight : state.blockHeight.IsWhole
  bestBlockHash : Check.isHash state.bestBlockHash.toList = true
  lowercase : ∀ c ∈ state.bestBlockHash.toList, ¬ c.isUpper
  times_word : ∀ time ∈ state.prevTimestamps, Check.IsWord time
  epochStartTime : Check.IsWord params.genesisTime → Check.IsWord state.epochStartTime
  totalWork : 0 ≤ state.totalWork

variable {state next : ChainState}

theorem Steady.targets_fit (h : state.Steady params) :
    (state.powTargetHistory.length : ℕ∞) ≤ params.powAveragingWindow.room := by
  rw [h.targets_length]
  exact min_le_left _ _

theorem Steady.currentTarget_nonneg (h : state.Steady params) : 0 ≤ state.currentTarget :=
  h.targets_nonneg _ (List.mem_of_getLast? h.currentTarget)

end ChainState

/-! ## The state at a height -/

namespace Bootstrap

variable {source : HeaderSource}

/-- A state that is built over checked records stands at the end of a run of them. -/
theorem exists_snapshot (hparams : params.Nested) (hsource : source.Sound) {head : Header}
    {state : ChainState} (h : (fromHeader source params head).outcome = .ok state) :
    ∃ older epoch work, (∀ header ∈ older, header.Sound) ∧
      epochStart source params head.height = .ok epoch ∧
      totalWork head head.target = .ok work ∧
      state = snapshot params (older ++ [head]) head work epoch := by
  obtain ⟨ancestors, lost, htrail⟩ := exists_trail source (linksOf params head.height) head
  obtain ⟨epoch, work, hepoch, hwork, hstate⟩ :=
    exists_of_fromHeader hparams.one_le_times hparams.one_le htrail h
  rw [List.reverse_cons] at hstate
  refine ⟨ancestors.reverse, epoch, work, fun header hmem => ?_, hepoch, hwork, hstate⟩
  exact htrail.forall_mem hsource header (List.mem_reverse.1 hmem)

/-- The windows of a run of blocks have as many entries as there is room for in each. -/
theorem length_windows (hparams : params.Nested) (blocks : List Header) :
    ((windows params blocks).times.length : ℕ∞) ≤ params.maxTimestampHistory.room ∧
      ((windows params blocks).targets.length : ℕ∞) =
        min params.powAveragingWindow.room (windows params blocks).times.length := by
  have hcount := Number.count_mono hparams.one_le hparams.targets_double hparams.le
  have htimes : (windows params blocks).times.length =
      min params.maxTimestampHistory.count blocks.length := by
    rw [windows, Window.length_rtake, List.length_map]
  have htargets : (windows params blocks).targets.length =
      min params.powAveragingWindow.count (windows params blocks).times.length := by
    rw [htimes, windows, Window.length_rtake, List.length_map]
    omega
  have hle : (windows params blocks).times.length ≤ params.maxTimestampHistory.count := by
    rw [htimes]
    exact min_le_left _ _
  exact hparams.length_room hle htargets

/-- The newest block is the last one in both windows. -/
theorem windows_concat (hparams : params.Nested) (older : List Header) (head : Header) :
    ∃ times targets, windows params (older ++ [head]) =
      ⟨times ++ [head.time], targets ++ [head.target]⟩ := by
  obtain ⟨times, htimes⟩ := Nat.exists_eq_add_one.2 (Number.count_pos hparams.one_le_times)
  obtain ⟨targets, htargets⟩ := Nat.exists_eq_add_one.2 (Number.count_pos hparams.one_le)
  refine ⟨(older.map Header.time).rtake times, (older.map Header.target).rtake targets, ?_⟩
  rw [windows, htimes, htargets, List.map_append, List.map_append, List.map_singleton,
    List.map_singleton, List.rtake_concat_succ, List.rtake_concat_succ]

theorem steady_fromHeader (hparams : params.Nested) (hsource : source.Sound) {head : Header}
    (hhead : head.Sound) {state : ChainState}
    (h : (fromHeader source params head).outcome = .ok state) : state.Steady params := by
  obtain ⟨older, epoch, work, holder, hepoch, hwork, rfl⟩ :=
    exists_snapshot hparams hsource h
  have hblocks : ∀ header ∈ older ++ [head], header.Sound :=
    List.forall_mem_append.2 ⟨holder, List.forall_mem_singleton.2 hhead⟩
  have hrecords : ∀ hash h, source.headerOf hash = .ok h → Check.IsWord h.time :=
    fun hash h hheader => (hsource hash h hheader).valid.time
  obtain ⟨hfit, hlength⟩ := length_windows hparams (older ++ [head])
  obtain ⟨times, targets, hlast⟩ := windows_concat hparams older head
  exact {
    times_ne_nil := by
      rw [snapshot, hlast]
      simp
    times_fit := hfit
    targets_ne_nil := by
      rw [snapshot, hlast]
      simp
    targets_length := by rw [snapshot, List.length_map, hlength]
    currentTarget := by
      rw [snapshot, hlast]
      simp
    targets_nonneg := by
      intro t ht
      obtain ⟨n, -, rfl⟩ := List.mem_map.1 ht
      exact Int.natCast_nonneg n
    blockHeight := hhead.height
    bestBlockHash := Hex.isHash_normalize hhead.valid.hash
    lowercase := Hex.not_isUpper_normalize hhead.valid.hash
    times_word := by
      intro time htime
      obtain ⟨header, hheader, rfl⟩ := List.mem_map.1 (List.mem_of_mem_drop htime)
      exact (hblocks header hheader).valid.time
    epochStartTime := fun hgenesis => epochStart_time hrecords hgenesis hepoch
    totalWork := totalWork_nonneg hhead.valid.height hwork }

theorem steady_atHeight (hparams : params.Nested) (hsource : source.Sound) {height : Number}
    {state : ChainState} (h : (atHeight source params height).outcome = .ok state) :
    state.Steady params := by
  simp only [atHeight, Logged.outcome_bind, Logged.outcome_conversion, bind_eq_ok,
    mapError_eq_ok] at h
  obtain ⟨head, hhead, h⟩ := h
  exact steady_fromHeader hparams hsource (hsource.headerAt hhead) h

end Bootstrap

namespace ChainState

variable {state next : ChainState}

/-! ## Steps along records -/

/-- A window of times that fits takes in one more. -/
theorem length_extendTimes_room (hparams : params.Nested) (h : state.Steady params)
    (time : Number) :
    ((extendTimes params state.prevTimestamps time).length : ℕ∞) =
      min params.maxTimestampHistory.room (state.prevTimestamps.length + 1) := by
  have hkept := Window.newest_of_fits hparams.one_le_times hparams.times_double h.times_fit
  have hextended : extendTimes params state.prevTimestamps time =
      Window.newest params.maxTimestampHistory (state.prevTimestamps ++ [time]) := by
    show Window.newest _ (Window.newest _ state.prevTimestamps ++ [time]) = _
    rw [hkept]
    rfl
  rw [hextended]
  exact Window.length_newest_concat hparams.one_le_times hparams.times_double h.times_fit time

/-- A history that is not empty is never filled. -/
theorem extendTargets_eq (hparams : params.Nested) (h : state.Steady params) (target : Int) :
    extendTargets params state.powTargetHistory target =
      .ok (Window.newest params.powAveragingWindow (state.powTargetHistory ++ [target])) := by
  have hkept : Window.newest params.powAveragingWindow state.powTargetHistory =
      state.powTargetHistory :=
    Window.newest_of_fits hparams.one_le hparams.targets_double h.targets_fit
  have hentries : Window.ofList state.powTargetHistory params.powAveragingWindow =
      ⟨state.powTargetHistory, params.powAveragingWindow⟩ := by rw [Window.ofList, hkept]
  have hsome : state.powTargetHistory.isEmpty = false := by
    rw [List.isEmpty_eq_false_iff]
    exact h.targets_ne_nil
  rw [extendTargets, hentries]
  simp only [Window.isEmpty, hsome]
  rfl

theorem ne_nil_of_one_le {α : Type} {values : List α} (h : (1 : ℕ∞) ≤ values.length) :
    values ≠ [] := by
  rintro rfl
  simp at h

/-- Two windows that grow by one entry each stay in step. -/
theorem min_succ_eq {targets times length : ℕ∞} (h : targets ≤ times) :
    min targets (min targets length + 1) = min targets (min times (length + 1)) := by
  rw [← min_assoc, min_eq_left h]
  rcases le_total targets length with hle | hle
  · rw [min_eq_left hle, min_eq_left le_self_add, min_eq_left (le_trans hle le_self_add)]
  · rw [min_eq_right hle]

/-- A step along a checked record keeps a state steady. -/
theorem Steady.advance (hparams : params.Nested) (h : state.Steady params) {header : Header}
    (hheader : header.Sound) (hnext : state.advance params header = .ok next) :
    next.Steady params := by
  obtain ⟨target, targets, -, htargets, rfl⟩ := advance_eq_ok.1 hnext
  have hnonneg := nonneg_extendTargets h.targets_nonneg htargets
  rw [extendTargets_eq hparams h] at htargets
  obtain rfl := Except.ok.inj htargets
  have htimes := length_extendTimes_room hparams h header.time
  have hhistory := Window.length_newest_concat hparams.one_le hparams.targets_double h.targets_fit
    (target : Int)
  have hlast := Window.getLast?_newest_concat hparams.one_le hparams.targets_double h.targets_fit
    (target : Int)
  exact {
    times_ne_nil := by
      apply ne_nil_of_one_le
      rw [htimes]
      exact le_min (Number.one_le_room hparams.one_le_times) le_add_self
    times_fit := by
      rw [htimes]
      exact min_le_left _ _
    targets_ne_nil := by
      apply ne_nil_of_one_le
      rw [hhistory]
      exact le_min (Number.one_le_room hparams.one_le) le_add_self
    targets_length := by
      rw [hhistory, htimes, h.targets_length]
      exact min_succ_eq hparams.room_le
    currentTarget := hlast
    targets_nonneg := hnonneg
    blockHeight := hheader.height
    bestBlockHash := Hex.isHash_normalize hheader.valid.hash
    lowercase := Hex.not_isUpper_normalize hheader.valid.hash
    times_word := forall_extendTimes h.times_word hheader.valid.time
    epochStartTime := by
      intro hgenesis
      show Check.IsWord (if _ then _ else _)
      split
      · exact hheader.valid.time
      · exact h.epochStartTime hgenesis
    totalWork := by
      have := h.totalWork
      positivity }

/-- A history of times that is full stays full. -/
theorem Steady.advance_full (hparams : params.Nested) (h : state.Steady params) {header : Header}
    (hnext : state.advance params header = .ok next)
    (hfull : (state.prevTimestamps.length : ℕ∞) = params.maxTimestampHistory.room) :
    (next.prevTimestamps.length : ℕ∞) = params.maxTimestampHistory.room := by
  obtain ⟨target, targets, -, -, rfl⟩ := advance_eq_ok.1 hnext
  have htimes := length_extendTimes_room hparams h header.time
  rw [hfull, min_eq_left le_self_add] at htimes
  exact htimes

/-! ## Checkpoints -/

/-- The two numbers of an accepted checkpoint are words. -/
theorem words_of_checkMembers {doc : Json} {found : ChainState}
    (h : checkMembers doc = .valid found) {height epoch : Number}
    (hheight : doc.get? "block_height" = some (.number height))
    (hepoch : doc.get? "epoch_start_time" = some (.number epoch)) :
    Check.IsWord height ∧ Check.IsWord epoch := by
  obtain ⟨_, _, _, _, _, _, _, hholds, -⟩ := checkMembers_valid_iff.1 h
  cases hheight.symm.trans hholds.blockHeight
  cases hepoch.symm.trans hholds.epochStartTime
  exact ⟨hholds.height_word, hholds.epochStart_word⟩

/-- A steady state that is restored from its checkpoint is the state itself. -/
theorem Steady.eq_of_restored (h : state.Steady params)
    (hnext : ofJson params state.toJson = .ok next) : next = state := by
  have hvalid := (ofJson_eq_ok.1 hnext).1
  obtain ⟨hheight, hepoch⟩ := words_of_checkMembers hvalid rfl rfl
  obtain ⟨hnatural, hbound⟩ := Check.isWord_iff.1 hheight
  -- whether the windows fit is asked after the members, so any capacities do for these
  have hsave : state.Saveable { params with
      maxTimestampHistory := .infinite false, powAveragingWindow := .infinite false } :=
    ⟨⟨hnatural, h.totalWork, h.bestBlockHash, h.lowercase, h.currentTarget_nonneg, h.times_word,
      hepoch, h.targets_nonneg, rfl⟩, hbound⟩
  cases hvalid.symm.trans (checkMembers_toJson hsave)
  rfl

open Json (ReadsAs MemberReadsAs Spacing) in
/-- The checkpoint of a steady state reads as it is written, except perhaps for the start of the
epoch, which is a number of any kind. -/
theorem Steady.exists_readsAs (h : state.Steady params) (s : Spacing) : ∃ value : Json,
    ReadsAs s state.toJson (.object
      [("block_height", .number state.blockHeight),
       ("total_work", .decimal state.totalWork),
       ("best_block_hash", .string state.bestBlockHash),
       ("current_target", .decimal state.currentTarget),
       ("prev_timestamps", .array (state.prevTimestamps.map .number)),
       ("epoch_start_time", value),
       ("pow_target_history", .array (state.powTargetHistory.map .decimal))]) := by
  obtain ⟨value, hvalue⟩ := ReadsAs.exists_number s state.epochStartTime
  have hplain {name : String} (hname : name.toList.all Json.isPlain = true) {doc : Json}
      (hdoc : doc.Plain) : MemberReadsAs s (name, doc) (name, doc) :=
    ⟨hname, Json.readsAs_of_plain hdoc⟩
  have htimes : ∀ time ∈ state.prevTimestamps, time.IsWhole :=
    fun time htime => (h.times_word time htime).isWhole
  refine ⟨value, .object ordered_names ?_⟩
  exact .cons (hplain (by decide) h.blockHeight) <|
    .cons (hplain (by decide) (plain_decimal h.totalWork)) <|
    .cons (hplain (by decide) (plain_hash h.bestBlockHash)) <|
    .cons (hplain (by decide) (plain_decimal h.currentTarget_nonneg)) <|
    .cons (hplain (by decide) (plain_numbers htimes)) <|
    .cons ⟨by decide, hvalue⟩ <|
    .cons (hplain (by decide) (plain_decimals h.targets_nonneg)) .nil

/-- So a state that is restored from the text of its checkpoint is the state itself, except perhaps
for the start of the epoch, which is a word then. -/
theorem Steady.of_reloaded (h : state.Steady params) {print : Json → String}
    (hprint : print = Json.compactText ∨ print = Json.indentedText)
    (hnext : reload params print state = some (.ok next)) :
    ∃ epoch, Check.IsWord epoch ∧ next = { state with epochStartTime := epoch } := by
  obtain ⟨s, hs⟩ := Json.exists_spread hprint
  obtain ⟨value, hvalue⟩ := h.exists_readsAs s
  rw [reload, hs, Json.read_spread hvalue rfl, Option.map_some, Option.some.injEq,
    mapError_eq_ok] at hnext
  obtain ⟨_, _, _, _, _, epoch, _, hholds, -⟩ := checkMembers_valid_iff.1 (ofJson_eq_ok.1 hnext).1
  cases hholds.epochStartTime
  have hepoch := hholds.epochStart_word
  have hsteady : { state with epochStartTime := epoch }.Steady params :=
    { h with epochStartTime := fun _ => hepoch }
  exact ⟨epoch, hepoch, hsteady.eq_of_restored hnext⟩

/-! ## Reachable states -/

/-- One step on from a state: a run of checked records that follow each other, a checkpoint that is
restored as a document, or one that is restored from its text. -/
inductive Step (params : Params) : ChainState → ChainState → Prop
  | apply {state next : ChainState} {headers : List Header}
      (records : ∀ header ∈ headers, ∃ doc : Json, doc.Rounded ∧ Header.ofJson doc = .ok header)
      (applied : state.applyAll params headers = .ok next) : Step params state next
  | restore {state next : ChainState} (restored : ofJson params state.toJson = .ok next) :
      Step params state next
  | reload {state next : ChainState} {print : Json → String}
      (printed : print = Json.compactText ∨ print = Json.indentedText)
      (reloaded : ChainState.reload params print state = some (.ok next)) : Step params state next

/-- Every step keeps a state steady, and a history of times that is full. -/
theorem Steady.step (hparams : params.Nested) (h : state.Steady params)
    (hstep : Step params state next) :
    next.Steady params ∧
      ((state.prevTimestamps.length : ℕ∞) = params.maxTimestampHistory.room →
        (next.prevTimestamps.length : ℕ∞) = params.maxTimestampHistory.room) := by
  cases hstep with
  | apply records applied =>
      refine applyAll_induction (P := fun reached => reached.Steady params ∧
        ((state.prevTimestamps.length : ℕ∞) = params.maxTimestampHistory.room →
          (reached.prevTimestamps.length : ℕ∞) = params.maxTimestampHistory.room))
        ?_ ⟨h, id⟩ applied
      rintro middle header last hmem ⟨hmiddle, hfull⟩ hlast
      obtain ⟨doc, hrounded, hdoc⟩ := records header hmem
      obtain ⟨-, hadvance⟩ := applyNext_eq_ok.1 hlast
      exact ⟨hmiddle.advance hparams (Header.sound_of_ofJson hrounded hdoc) hadvance,
        fun hstart => hmiddle.advance_full hparams hadvance (hfull hstart)⟩
  | restore restored =>
      cases h.eq_of_restored restored
      exact ⟨h, id⟩
  | reload printed reloaded =>
      -- no window has anything to do with the epoch, so another start of it makes no difference
      obtain ⟨epoch, hepoch, rfl⟩ := h.of_reloaded printed reloaded
      exact ⟨{ h with epochStartTime := fun _ => hepoch }, id⟩

theorem Steady.run (hparams : params.Nested) (h : state.Steady params)
    (hreached : Relation.ReflTransGen (Step params) state next) :
    next.Steady params ∧
      ((state.prevTimestamps.length : ℕ∞) = params.maxTimestampHistory.room →
        (next.prevTimestamps.length : ℕ∞) = params.maxTimestampHistory.room) := by
  induction hreached with
  | refl => exact ⟨h, id⟩
  | tail _ hstep ih =>
      obtain ⟨hmiddle, hfull⟩ := ih
      obtain ⟨hlast, hkept⟩ := hmiddle.step hparams hstep
      exact ⟨hlast, fun hstart => hkept (hfull hstart)⟩

/-- Every state that is reached from one built over checked records is steady, and from the moment
on that it holds as many times as there is room for, so do all that are reached from it. -/
theorem steady_of_reachable (hparams : params.Nested) {docs : List Json}
    (hdocs : ∀ doc ∈ docs, doc.Rounded) {archive : Archive}
    (harchive : Archive.ofDocuments docs = .ok archive) {height : Number} {start : ChainState}
    (hstart : (Bootstrap.atHeight archive.source params height).outcome = .ok start)
    (hreached : Relation.ReflTransGen (Step params) start state) :
    state.Steady params ∧ ∀ later, Relation.ReflTransGen (Step params) state later →
      (state.prevTimestamps.length : ℕ∞) = params.maxTimestampHistory.room →
        (later.prevTimestamps.length : ℕ∞) = params.maxTimestampHistory.room := by
  have hbuilt := Bootstrap.steady_atHeight hparams (Archive.sound_source hdocs harchive) hstart
  obtain ⟨hsteady, -⟩ := hbuilt.run hparams hreached
  exact ⟨hsteady, fun later hlater => (hsteady.run hparams hlater).2⟩

/-- Capacities for one target and two times. -/
def narrow : Params := { Params.mainnet with powAveragingWindow := 1, maxTimestampHistory := 2 }

/-- A record that names the one before it by the letter of its hash. -/
def linkedBack (height : Int) (letter last : Char) : Header :=
  { ChainData.linking height letter letter with
    previousBlockHash := some (ChainData.letterHash last), nextBlockHash := none }

theorem rounded_linkedBack {height : Int} (letter last : Char)
    (h : height.natAbs ≤ 2 ^ 50) : (linkedBack height letter last).toJson.Rounded := by
  have hsmall (n : Int) (hn : n.natAbs ≤ 2 ^ 51) : (Number.int n).Rounded :=
    Number.rounded_of_le (le_trans hn (by decide))
  exact ⟨hsmall _ (by omega), trivial, trivial, hsmall _ (by omega), trivial,
    hsmall _ (by decide), trivial⟩

theorem steady_of_reachable_narrow :
    let records := [linkedBack 0 'a' 'f', linkedBack 1 'b' 'a']
    (narrow.Nested ∧ (∀ doc ∈ records.map Header.toJson, doc.Rounded) ∧
        Archive.ofDocuments (records.map Header.toJson) = .ok ⟨records⟩) ∧
      ∃ start reached,
        (Bootstrap.atHeight (Archive.mk records).source narrow 1).outcome = .ok start ∧
        start.applyAll narrow [linkedBack 2 'c' 'b'] = .ok reached ∧
        reached.Steady narrow ∧ reached.prevTimestamps.length = 2 := by
  intro records
  have hparams : narrow.Nested :=
    ⟨by decide, by decide, Number.isDouble_of_le (n := 1) (by decide),
      Number.isDouble_of_le (n := 2) (by decide)⟩
  have hdocs : ∀ doc ∈ records.map Header.toJson, doc.Rounded := by
    intro doc hdoc
    rcases List.mem_pair.1 hdoc with rfl | rfl
    · exact rounded_linkedBack 'a' 'f' (by decide)
    · exact rounded_linkedBack 'b' 'a' (by decide)
  have harchive : Archive.ofDocuments (records.map Header.toJson) = .ok ⟨records⟩ := rfl
  obtain ⟨reached, hreached⟩ := exists_of_isSome
    (by decide +kernel : ((Bootstrap.atHeight (Archive.mk records).source narrow 1).outcome >>=
      fun start => start.applyAll narrow [linkedBack 2 'c' 'b']).toOption.isSome = true)
  obtain ⟨start, hstart, happlied⟩ := bind_eq_ok.1 hreached
  obtain ⟨start', hstart', hlength⟩ := toOption_map_eq_some.1
    (by decide +kernel : ((Bootstrap.atHeight (Archive.mk records).source narrow
      1).outcome.toOption.map fun start => start.prevTimestamps.length) = some 2)
  cases hstart.symm.trans hstart'
  have hstep : Step narrow start reached := by
    refine .apply ?_ happlied
    intro header hheader
    rw [List.mem_singleton.1 hheader]
    have hrounded : (linkedBack 2 'c' 'b').toJson.Rounded := rounded_linkedBack 'c' 'b' (by decide)
    exact ⟨_, hrounded, rfl⟩
  have hroom : narrow.maxTimestampHistory.room = 2 := Number.room_natCast 2
  obtain ⟨-, hkept⟩ := steady_of_reachable hparams hdocs harchive hstart .refl
  obtain ⟨hsteady, -⟩ := steady_of_reachable hparams hdocs harchive hstart (.single hstep)
  have hfull := hkept reached (.single hstep) (by rw [hroom, hlength]; rfl)
  rw [hroom] at hfull
  exact ⟨⟨hparams, hdocs, harchive⟩, start, reached, hstart, happlied, hsteady,
    by exact_mod_cast hfull⟩

/-- Capacities of one and a half have room for two entries, which are more. -/
theorem steady_of_reachable_fraction :
    let params := { Params.mainnet with
      powAveragingWindow := .dyadic 3 1, maxTimestampHistory := .dyadic 3 1 }
    let records := [linkedBack 0 'a' 'f', linkedBack 1 'b' 'a']
    (1 ≤ params.powAveragingWindow ∧
        params.powAveragingWindow ≤ params.maxTimestampHistory ∧ 1 ≤ params.retargetInterval) ∧
      Archive.ofDocuments (records.map Header.toJson) = .ok ⟨records⟩ ∧
      ∃ state, (Bootstrap.atHeight (Archive.mk records).source params 1).outcome = .ok state ∧
        params.maxTimestampHistory < state.prevTimestamps.length ∧
        params.powAveragingWindow < state.powTargetHistory.length := by
  intro params records
  obtain ⟨state, hstate, hlengths⟩ := toOption_map_eq_some.1
    (by decide +kernel : ((Bootstrap.atHeight (Archive.mk records).source params
      1).outcome.toOption.map fun state =>
        (state.prevTimestamps.length, state.powTargetHistory.length)) = some (2, 2))
  obtain ⟨htimes, htargets⟩ := Prod.mk.inj hlengths
  refine ⟨⟨by decide, by decide, by decide⟩, rfl, state, hstate, ?_, ?_⟩
  · rw [htimes]
    decide
  · rw [htargets]
    decide

end ChainState

end ProverInput
