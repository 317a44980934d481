import ProverInput.Proofs.Bootstrap.Advance

set_option autoImplicit false

/-! # Building a state and going on from one

There are two ways to the state at a height: build it from the blocks below, or build it at a lower
height and go on block by block. They give the same state up to the total work, and the same total
work too where the records carry one that grows by the work of each block (`atHeight_applyAll`).

Three things can part the two ways. At a negative height a walk sees no ancestor. A link that is
empty stops the walk. And the height of an epoch is rounded when the retarget interval is not whole,
so an epoch may start at a height that is not a multiple of the interval.
-/

namespace ProverInput

/-! ## Recorded work -/

/-- The record carries the work of the chain up to it. -/
def Header.HasWork (h : Header) (work : Int) : Prop :=
  ∃ text, h.chainwork = some text ∧ Bootstrap.hexInteger (Hex.normalize text).toList = .ok work

/-- Each record carries the work of the chain up to it: that of the one before it and its own. -/
def RecordsWork (chain : List Header) : Prop :=
  (∀ h ∈ chain, ∃ work, h.HasWork work) ∧
    chain.IsChain fun previous h =>
      ∃ work, previous.HasWork work ∧ h.HasWork (work + Compact.workOf h.target)

namespace Header.HasWork

variable {h : Header} {work work' : Int}

theorem unique (hwork : h.HasWork work) (hwork' : h.HasWork work') : work = work' := by
  obtain ⟨text, htext, hvalue⟩ := hwork
  obtain ⟨text', htext', hvalue'⟩ := hwork'
  cases Option.some.inj (htext.symm.trans htext')
  exact Except.ok.inj (hvalue.symm.trans hvalue')

theorem totalWork (hwork : h.HasWork work) (target : Nat) :
    Bootstrap.totalWork h target = .ok work := by
  obtain ⟨text, htext, hvalue⟩ := hwork
  rw [Bootstrap.totalWork, htext, Option.getD_some]
  cases hdigits : (Hex.normalize text).toList with
  | nil =>
      rw [hdigits] at hvalue
      cases hvalue
  | cons c digits =>
      rw [hdigits] at hvalue
      exact hvalue

end Header.HasWork

theorem RecordsWork.drop {chain : List Header} (h : RecordsWork chain) (n : Nat) :
    RecordsWork (chain.drop n) :=
  ⟨fun x hx => h.1 x (List.mem_of_mem_drop hx), h.2.drop n⟩

namespace Bootstrap

variable {params : Params} {archive : Archive} {base : Int} {chain : List Header}

/-- Along such records the work grows by the work of each block. -/
theorem hasWork_sum (hwork : RecordsWork chain) {i n : Nat} (hi : i + n < chain.length) {work : Int}
    (hstart : chain[i].HasWork work) :
    chain[i + n].HasWork (work +
      (((chain.drop (i + 1)).take n).map fun h => (Compact.workOf h.target : Int)).sum) := by
  induction n with
  | zero =>
      rw [List.take_zero, List.map_nil, List.sum_nil, Int.add_zero]
      exact hstart
  | succ n ih =>
      -- the record before carries one work only, and that is the sum so far
      obtain ⟨before, hbefore, hnext⟩ := List.isChain_iff_getElem.1 hwork.2 (i + n) hi
      have hsum := (ih (by omega) hstart).unique hbefore
      rw [take_drop_concat hi, List.map_append, List.sum_append, ← Int.add_assoc, hsum,
        List.map_singleton, List.sum_singleton]
      exact hnext

/-! ## Two ways to a state -/

/-- The state at the position `i` of a run of blocks with the next `n` blocks applied to it is the
state at the position `i + n`, up to the total work unless that is recorded. -/
def Resumes (params : Params) (archive : Archive) (base : Int) (chain : List Header) (i n : Nat) :
    Prop :=
  ∀ start whole,
    (atHeight archive.source params (.int (base + i))).outcome = .ok start →
    (atHeight archive.source params (.int (base + (i + n : Nat)))).outcome = .ok whole →
    ∃ final, start.applyAll params ((chain.drop (i + 1)).take n) = .ok final ∧
      final = { whole with totalWork := final.totalWork } ∧
      (RecordsWork chain → final = whole)

theorem resumes_of_nonneg (hparams : params.Regular) (hlinked : Linked base chain)
    (hholds : archive.Holds chain) (hbase : 0 ≤ base) {i n : Nat} (hi : i + n < chain.length) :
    Resumes params archive base chain i n := by
  intro start whole hstart hwhole
  obtain ⟨epoch, work, hepoch, hwork, rfl⟩ := (atHeight_eq_ok hlinked hholds hbase hparams.times
    hparams.targets (Nat.lt_of_le_of_lt (Nat.le_add_right i n) hi)).1 hstart
  obtain ⟨epoch', work', hepoch', hwork', rfl⟩ := (atHeight_eq_ok hlinked hholds hbase hparams.times
    hparams.targets hi).1 hwhole
  -- the run ends with the epoch and the windows of the longer walk
  obtain ⟨last, hlast, hrun⟩ := snapshot_applyAll hparams hlinked hholds hbase hi work hepoch
  cases hlast.symm.trans hepoch'
  refine ⟨_, hrun, rfl, fun hrecords => ?_⟩
  obtain ⟨first, hfirst⟩ := hrecords.1 chain[i] (List.getElem_mem _)
  have hsum := (hasWork_sum hrecords hi hfirst).totalWork chain[i + n].target
  cases (hfirst.totalWork chain[i].target).symm.trans hwork
  cases hsum.symm.trans hwork'
  rfl

/-- From height zero on, building a state and going on from a lower one give the same state. -/
theorem resumes (hparams : params.Regular) (hlinked : Linked base chain)
    (hholds : archive.Holds chain) {i n : Nat} (hi : i + n < chain.length)
    (hheight : 0 ≤ base + i) : Resumes params archive base chain i n := by
  rcases lt_or_ge base 0 with hneg | hnonneg
  · -- the blocks below height zero play no part
    obtain ⟨j, rfl⟩ := Nat.exists_eq_add_of_le (show (-base).toNat ≤ i by omega)
    have hlength : j + n < (chain.drop (-base).toNat).length := by
      rw [List.length_drop]
      omega
    have hcast (m : Nat) : base + ((-base).toNat + m : Nat) = 0 + (m : Int) := by
      push_cast
      omega
    intro start whole hstart hwhole
    rw [hcast] at hstart
    rw [Nat.add_assoc, hcast] at hwhole
    obtain ⟨final, hrun, hsame, hall⟩ := resumes_of_nonneg hparams (hlinked.drop_negative hneg)
      (hholds.drop _) le_rfl hlength start whole hstart hwhole
    rw [List.drop_drop, ← Nat.add_assoc] at hrun
    exact ⟨final, hrun, hsame, fun hrecords => hall (hrecords.drop _)⟩
  · exact resumes_of_nonneg hparams hlinked hholds hnonneg hi

/-- Blocks from a height on, each with a hash of one letter. -/
def plainChain (height : Int) (previous : Option String) : List Char → List Header
  | [] => []
  | letter :: letters =>
    let hash := String.ofList [letter]
    ⟨.int height, hash, previous, none, .int (1000 + height), "1f07ffff", none, none, 4, none, none,
      none, none, []⟩ :: plainChain (height + 1) (some hash) letters

theorem length_plainChain (height : Int) (previous : Option String) (letters : List Char) :
    (plainChain height previous letters).length = letters.length := by
  induction letters generalizing height previous with
  | nil => rfl
  | cons letter letters ih => rw [plainChain, List.length_cons, ih, List.length_cons]

theorem height_plainChain (height : Int) (previous : Option String) (letters : List Char) (i : Nat)
    (hi : i < (plainChain height previous letters).length) :
    (plainChain height previous letters)[i].height = .int (height + i) := by
  induction letters generalizing height previous i with
  | nil => exact absurd hi (Nat.not_lt_zero i)
  | cons letter letters ih =>
      cases i with
      | zero => exact congrArg Number.int (Int.add_zero height).symm
      | succ i =>
          refine (ih (height + 1) _ i (Nat.lt_of_succ_lt_succ hi)).trans ?_
          congr 1
          push_cast
          omega

theorem bits_plainChain {height : Int} {previous : Option String} {letters : List Char} {h : Header}
    (hmem : h ∈ plainChain height previous letters) : h.bits = "1f07ffff" := by
  induction letters generalizing height previous with
  | nil => cases hmem
  | cons letter letters ih =>
      rcases List.mem_cons.1 hmem with rfl | hmem
      · rfl
      · exact ih hmem

theorem names_plainChain (height : Int) (previous : Option String) (letters : List Char) :
    (plainChain height previous letters).IsChain fun previous h => h.Names previous := by
  induction letters generalizing height previous with
  | nil => exact .nil
  | cons letter letters ih =>
      refine List.isChain_cons.2 ⟨fun h hmem => ?_, ih _ _⟩
      cases letters with
      | nil => cases hmem
      | cons next letters =>
          cases hmem
          have hne : String.ofList [letter] ≠ "" := by
            intro hempty
            have := congrArg String.toList hempty
            simp at this
          exact ⟨_, Option.filter_eq_some_iff.2 ⟨rfl, decide_eq_true hne⟩, rfl⟩

theorem linked_plainChain {height : Int} {letters : List Char}
    (hbound : height + letters.length ≤ Number.exactBound) :
    Linked height (plainChain height none letters) where
  height := height_plainChain height none letters
  bound := by rwa [length_plainChain]
  bits h hmem := bits_plainChain hmem ▸ ⟨_, rfl⟩
  names := names_plainChain height none letters
  first h hmem := by
    cases letters with
    | nil => cases hmem
    | cons letter letters =>
        cases hmem
        exact .inl rfl

theorem regular_mainnet {interval : Number} (hinterval : 1 ≤ interval)
    (hwhole : interval.floor = interval) :
    { Params.mainnet with retargetInterval := interval }.Regular where
  times := (by decide : (1 : Number) ≤ 28)
  timesDouble := Number.isDouble_of_le (n := 28) (by decide)
  targets := (by decide : (1 : Number) ≤ 17)
  targetsDouble := Number.isDouble_of_le (n := 17) (by decide)
  retarget := hinterval
  whole := hwhole

/-- The state at height two is the one at height zero with two blocks applied; an epoch starts on
the way. -/
theorem resumes_plainChain :
    let params := { Params.mainnet with retargetInterval := 2 }
    let chain := plainChain 0 none ['a', 'b', 'c']
    (params.Regular ∧ Linked 0 chain ∧ Archive.Holds ⟨chain⟩ chain ∧ 0 + 2 < chain.length ∧
      (0 : Int) ≤ 0 + (0 : Nat)) ∧ Resumes params ⟨chain⟩ 0 chain 0 2 ∧
      ∃ start whole final,
        (atHeight (Archive.mk chain).source params 0).outcome = .ok start ∧
        (atHeight (Archive.mk chain).source params 2).outcome = .ok whole ∧
        start.applyAll params chain.tail = .ok final ∧
        final = { whole with totalWork := final.totalWork } := by
  intro params chain
  have hparams : params.Regular := regular_mainnet (by decide) rfl
  have hlinked : Linked 0 chain := linked_plainChain (by decide)
  have hholds : Archive.Holds ⟨chain⟩ chain :=
    .of_perm hlinked (List.Perm.refl _) (by decide +kernel)
  have hlength : 0 + 2 < chain.length := by decide
  have hheight : (0 : Int) ≤ 0 + (0 : Nat) := le_rfl
  have hresumes : Resumes params ⟨chain⟩ 0 chain 0 2 :=
    resumes hparams hlinked hholds hlength hheight
  obtain ⟨start, hstart⟩ := exists_of_isSome
    (by decide +kernel : (atHeight (Archive.mk chain).source params 0).outcome.toOption.isSome)
  obtain ⟨whole, hwhole⟩ := exists_of_isSome
    (by decide +kernel : (atHeight (Archive.mk chain).source params 2).outcome.toOption.isSome)
  obtain ⟨final, hfinal, hsame, -⟩ := hresumes start whole hstart hwhole
  exact ⟨⟨hparams, hlinked, hholds, hlength, hheight⟩, hresumes, start, whole, final, hstart,
    hwhole, hfinal, hsame⟩

/-! ## Where the two ways part -/

/-- A state that differs in more than the total work parts the two ways. -/
theorem not_resumes {α : Type} (value : ChainState → α) {i n : Nat} (x y : α)
    (hvalue : ∀ s work, value { s with totalWork := work } = value s)
    (hgoing : ((atHeight archive.source params (.int (base + i))).outcome >>= fun start =>
      start.applyAll params ((chain.drop (i + 1)).take n)).toOption.map value = some x)
    (hbuilt : (atHeight archive.source params (.int (base + (i + n : Nat)))).outcome.toOption.map
      value = some y)
    (hne : x ≠ y) : ¬ Resumes params archive base chain i n := by
  intro h
  obtain ⟨final, hfinal, rfl⟩ := toOption_map_eq_some.1 hgoing
  obtain ⟨start, hstart, hrun⟩ := bind_eq_ok.1 hfinal
  obtain ⟨whole, hwhole, rfl⟩ := toOption_map_eq_some.1 hbuilt
  obtain ⟨final', hrun', hsame, -⟩ := h start whole hstart hwhole
  cases hrun.symm.trans hrun'
  exact hne (hsame ▸ hvalue whole final.totalWork)

/-- The interval is the number closest to four thirds and a little below. Three times it is rounded
to four, yet four is not a multiple of it. -/
def fourThirds : Params :=
  { Params.mainnet with retargetInterval := .fraction 6004799503160661 51 rfl }

/-- Two blocks of which the first has an empty hash. -/
def namelessPair : List Header :=
  (plainChain 0 none ['a', 'b']).map fun h =>
    if h.height = 0 then { h with hash := "" } else { h with previousBlockHash := some "" }

/-- An interval that is not whole, negative heights and an empty hash each part the two ways. -/
theorem not_resumes_outside :
    (let chain := plainChain 0 none ['a', 'b', 'c', 'd', 'e'];
      (1 ≤ fourThirds.retargetInterval ∧ Linked 0 chain ∧ Archive.Holds ⟨chain⟩ chain) ∧
        ¬ Resumes fourThirds ⟨chain⟩ 0 chain 1 3) ∧
    (let chain := plainChain (-2) none ['a', 'b'];
      (Params.mainnet.Regular ∧ Linked (-2) chain ∧ Archive.Holds ⟨chain⟩ chain) ∧
        ¬ Resumes Params.mainnet ⟨chain⟩ (-2) chain 0 1) ∧
    ((namelessPair.map Header.height = [0, 1] ∧
        (namelessPair.map fun h => Hex.normalize h.hash) = ["", "b"] ∧
        namelessPair.map Header.previousBlockHash = [none, some ""]) ∧
      ¬ Resumes Params.mainnet ⟨namelessPair⟩ 0 namelessPair 0 1) := by
  refine ⟨⟨⟨by decide, linked_plainChain (by decide), ?_⟩, ?_⟩,
    ⟨⟨regular_mainnet (by decide) rfl, linked_plainChain (by decide), ?_⟩, ?_⟩,
    ⟨by decide, by decide +kernel, by decide⟩, ?_⟩
  · exact .of_perm (linked_plainChain (by decide)) (List.Perm.refl _) (by decide +kernel)
  · exact not_resumes ChainState.epochStartTime 1477953400 1004 (fun _ _ => rfl)
      (by decide +kernel) (by decide +kernel) (by decide)
  · exact .of_perm (linked_plainChain (by decide)) (List.Perm.refl _) (by decide +kernel)
  · exact not_resumes ChainState.prevTimestamps [998, 999] [999] (fun _ _ => rfl)
      (by decide +kernel) (by decide +kernel) (by decide)
  · exact not_resumes ChainState.prevTimestamps [1000, 1001] [1001] (fun _ _ => rfl)
      (by decide +kernel) (by decide +kernel) (by decide)

end Bootstrap

end ProverInput
