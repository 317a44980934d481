import ProverInput.Proofs.Bootstrap.Walk
import ProverInput.Proofs.ChainState.Run
import ProverInput.ChainData

set_option autoImplicit false

/-! # What chain data is made of

Generating chain data finds a block by its height, builds the state after it, and follows the links
to the next block from there. `generate_eq_ok` says all that this takes and gives: the records that
are followed, each the one that the record before it names, the run of steps along them, and the
blocks they are formatted to. Heights play no part in it.
-/

namespace ProverInput

/-- A source answers a record's link to the next block with another record. -/
def Header.Leads (source : HeaderSource) (h next : Header) : Prop :=
  ∃ hash, link h.nextBlockHash = some hash ∧ source.headerOf hash = .ok next

namespace ChainData

variable {source : HeaderSource} {params : Params} {start count : Number}

/-- Chain data made of a first record, the state built for it, and the records followed from it. -/
structure MadeOf (source : HeaderSource) (params : Params) (start : Number) (d : ChainData)
    (head : Header) (initial : ChainState) (headers : List Header) : Prop where
  starts : source.headerAt start = .ok head
  builds : (Bootstrap.fromHeader source params head).outcome = .ok initial
  follows : (head :: headers).IsChain (Header.Leads source)
  advances : initial.advanceAll params headers = .ok d.expected
  formats : headers.mapM (Block.ofHeader params) = .ok d.blocks
  retargets : retarget initial d.blocks = .ok d.chainState

/-! ## Following links -/

/-- What holds of all records of a source holds of those that links lead to. -/
theorem forall_of_isChain {P : Header → Prop} (hP : ∀ hash h, source.headerOf hash = .ok h → P h)
    {head : Header} {headers : List Header}
    (h : (head :: headers).IsChain (Header.Leads source)) : ∀ header ∈ headers, P header := by
  induction headers generalizing head with
  | nil => simp
  | cons next headers ih =>
      obtain ⟨⟨hash, -, hnext⟩, hrest⟩ := List.isChain_cons_cons.1 h
      exact List.forall_mem_cons.2 ⟨hP hash next hnext, ih hrest⟩

/-- One more block: the record that the link names, the step along it, and the block it becomes. -/
theorem follow_succ_eq_ok {left taken : Nat} {next : Option String} {state last : ChainState}
    {blocks : List Block} :
    (follow source params start count (left + 1) taken next state).outcome = .ok (blocks, last) ↔
      ∃ hash header reached block others, Header.link next = some hash ∧
        source.headerOf hash = .ok header ∧ state.advance params header = .ok reached ∧
        Block.ofHeader params header = .ok block ∧
        (follow source params start count left (taken + 1) header.nextBlockHash reached).outcome =
          .ok (others, last) ∧ blocks = block :: others := by
  rw [follow]
  cases hlink : Header.link next with
  | none => simp
  | some hash =>
      simp only [Logged.outcome_bind, Logged.outcome_conversion, bind_eq_ok, mapError_eq_ok]
      constructor
      · rintro ⟨header, hheader, reached, hreached, block, hblock, -, -, ⟨others, final⟩, hrest, h⟩
        cases h
        exact ⟨hash, header, reached, block, others, rfl, hheader, hreached, hblock, hrest, rfl⟩
      · rintro ⟨_, header, reached, block, others, hhash, hheader, hreached, hblock, hrest, rfl⟩
        cases hhash
        exact ⟨header, hheader, reached, hreached, block, hblock, (), rfl, (others, last), hrest,
          rfl⟩

/-- The blocks and the state that links lead to are those of the records along the links. -/
theorem follow_eq_ok {left taken : Nat} {head : Header} {state last : ChainState}
    {blocks : List Block} :
    (follow source params start count left taken head.nextBlockHash state).outcome =
        .ok (blocks, last) ↔
      ∃ headers, headers.length = left ∧ (head :: headers).IsChain (Header.Leads source) ∧
        state.advanceAll params headers = .ok last ∧
        headers.mapM (Block.ofHeader params) = .ok blocks := by
  -- on the number of blocks that are left, for every record to go on from
  induction left generalizing taken head state blocks with
  | zero =>
      constructor
      · intro h
        cases h
        exact ⟨[], rfl, .singleton head, ChainState.advanceAll_nil.2 rfl, rfl⟩
      · rintro ⟨headers, hlength, -, hlast, hblocks⟩
        cases List.length_eq_zero_iff.1 hlength
        cases hblocks
        rw [← ChainState.advanceAll_nil.1 hlast]
        rfl
  | succ left ih =>
      rw [follow_succ_eq_ok]
      constructor
      · rintro ⟨hash, header, reached, block, others, hlink, hheader, hreached, hblock, hrest, rfl⟩
        obtain ⟨headers, hlength, hchain, hlast, hblocks⟩ := ih.1 hrest
        refine ⟨header :: headers, congrArg Nat.succ hlength, ?_, ?_, ?_⟩
        · exact List.isChain_cons_cons.2 ⟨⟨hash, hlink, hheader⟩, hchain⟩
        · exact ChainState.advanceAll_cons.2 ⟨reached, hreached, hlast⟩
        · rw [mapM_eq_ok] at hblocks ⊢
          exact .cons hblock hblocks
      · rintro ⟨headers, hlength, hchain, hlast, hblocks⟩
        obtain ⟨header, headers, rfl⟩ := List.exists_cons_of_length_eq_add_one hlength
        obtain ⟨⟨hash, hlink, hheader⟩, hchain⟩ := List.isChain_cons_cons.1 hchain
        obtain ⟨reached, hreached, hlast⟩ := ChainState.advanceAll_cons.1 hlast
        rw [mapM_eq_ok, List.forall₂_cons_left_iff] at hblocks
        obtain ⟨block, others, hblock, hothers, rfl⟩ := hblocks
        refine ⟨hash, header, reached, block, others, hlink, hheader, hreached, hblock, ?_, rfl⟩
        exact ih.2 ⟨headers, Nat.succ.inj hlength, hchain, hlast, mapM_eq_ok.2 hothers⟩

/-- Everything that generating chain data does. -/
theorem generate_eq_ok {d : ChainData} :
    (generate source params start count).outcome = .ok d ↔
      ∃ head initial headers, headers.length = count.count ∧
        MadeOf source params start d head initial headers := by
  simp only [generate, Logged.outcome_bind, Logged.outcome_conversion, Logged.outcome_pure,
    bind_eq_ok, mapError_eq_ok]
  constructor
  · rintro ⟨-, -, head, hhead, initial, hinitial, ⟨blocks, expected⟩, hfollow, chainState,
      hretarget, h⟩
    cases h
    obtain ⟨headers, hlength, hchain, hexpected, hblocks⟩ := follow_eq_ok.1 hfollow
    exact ⟨head, initial, headers, hlength, hhead, hinitial, hchain, hexpected, hblocks, hretarget⟩
  · rintro ⟨head, initial, headers, hlength, h⟩
    refine ⟨(), rfl, head, h.starts, initial, h.builds, (d.blocks, d.expected), ?_, d.chainState,
      h.retargets, rfl⟩
    exact follow_eq_ok.2 ⟨headers, hlength, h.follows, h.advances, h.formats⟩

theorem leads_unique {h next next' : Header} (hnext : h.Leads source next)
    (hnext' : h.Leads source next') : next = next' := by
  obtain ⟨hash, hlink, hheader⟩ := hnext
  obtain ⟨hash', hlink', hheader'⟩ := hnext'
  cases hlink.symm.trans hlink'
  exact Except.ok.inj (hheader.symm.trans hheader')

theorem isChain_leads_unique {head : Header} {headers headers' : List Header}
    (h : (head :: headers).IsChain (Header.Leads source))
    (h' : (head :: headers').IsChain (Header.Leads source))
    (hlength : headers.length = headers'.length) : headers = headers' := by
  induction headers generalizing head headers' with
  | nil => exact (List.length_eq_zero_iff.1 hlength.symm).symm
  | cons next headers ih =>
      obtain ⟨next', headers', rfl⟩ := List.exists_cons_of_length_eq_add_one hlength.symm
      obtain ⟨hfirst, hrest⟩ := List.isChain_cons_cons.1 h
      obtain ⟨hfirst', hrest'⟩ := List.isChain_cons_cons.1 h'
      cases leads_unique hfirst hfirst'
      rw [ih hrest hrest' (Nat.succ.inj hlength)]

/-- There is only one run of records to follow from a height. -/
theorem MadeOf.unique {d : ChainData} {head : Header} {initial : ChainState} {headers : List Header}
    (h : MadeOf source params start d head initial headers) (head' : Header)
    (headers' : List Header) (hstart : source.headerAt start = .ok head')
    (hfollows : (head' :: headers').IsChain (Header.Leads source))
    (hlength : headers.length = headers'.length) : head = head' ∧ headers = headers' := by
  cases h.starts.symm.trans hstart
  exact ⟨rfl, isChain_leads_unique h.follows hfollows hlength⟩

/-! ## The first state -/

theorem blockHeight_fromHeader {head : Header} {initial : ChainState}
    (h : (Bootstrap.fromHeader source params head).outcome = .ok initial) :
    initial.blockHeight = head.height := by
  simp only [Bootstrap.fromHeader, Logged.outcome_bind, Logged.outcome_conversion,
    Logged.outcome_fault, Logged.outcome_pure, bind_eq_ok, mapError_eq_ok] at h
  obtain ⟨target, -, g, -, epoch, -, work, -, h⟩ := h
  cases h
  rfl

/-- Apart from its target, the first state is the one built for the first record. -/
theorem retarget_eq_ok {initial state : ChainState} {blocks : List Block} :
    retarget initial blocks = .ok state ↔
      (blocks = [] ∧ state = initial) ∨ ∃ first others target, blocks = first :: others ∧
        Compact.targetOf first.header.bits = .ok target ∧
        state = { initial with currentTarget := target } := by
  cases blocks with
  | nil =>
      constructor
      · intro h
        cases h
        exact .inl ⟨rfl, rfl⟩
      · rintro (⟨-, rfl⟩ | ⟨first, others, target, h, -⟩)
        · rfl
        · cases h
  | cons first others =>
      rw [retarget, bind_eq_ok]
      constructor
      · rintro ⟨target, htarget, h⟩
        cases h
        exact .inr ⟨first, others, target, rfl, htarget, rfl⟩
      · rintro (⟨h, -⟩ | ⟨_, _, target, h, htarget, rfl⟩)
        · cases h
        · cases h
          exact ⟨target, htarget, rfl⟩

/-! ## Records with hashes of one letter -/

/-- The hash that is one letter 64 times. -/
def letterHash (letter : Char) : String := String.ofList (List.replicate 64 letter)

/-- A record that names the next one by the letter of its hash. -/
def linking (height : Int) (letter next : Char) : Header :=
  ⟨.int height, letterHash letter, none, some (letterHash next), .int (1000 + height), "1f07ffff",
    none, none, 4, none, none, none, none, []⟩

theorem exists_generate (params : Params) (headers : List Header) (start : Int) (n : Nat)
    (first last : Number)
    (hheights : ((generate (Archive.mk headers).source params (.int start)
      (.int n)).outcome.toOption.map fun d => (d.chainState.blockHeight, d.expected.blockHeight)) =
        some (first, last)) :
    ∃ d, (generate (Archive.mk headers).source params (.int start) (.int n)).outcome =
      .ok d ∧ d.chainState.blockHeight = first ∧ d.expected.blockHeight = last := by
  obtain ⟨d, hd, hvalues⟩ := toOption_map_eq_some.1 hheights
  exact ⟨d, hd, Prod.mk.inj hvalues⟩

end ChainData

end ProverInput
