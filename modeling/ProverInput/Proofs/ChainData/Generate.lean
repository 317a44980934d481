import ProverInput.Proofs.Bootstrap.Walk
import ProverInput.Proofs.ChainData.Document
import ProverInput.Proofs.ChainState.Advance
import ProverInput.Proofs.Header.Check
import ProverInput.Proofs.Json.Doubles

set_option autoImplicit false

/-! # Chain data from checked records

Whatever is generated from records that were checked is `Storable`: its numbers are whole doubles,
its works and targets are natural and its hashes are hexadecimal digits. Each part keeps this on its
own: a walk (`walk_times`), a step (`Storable.advance`), a block (`storable_ofHeader`), and by
induction on the number of blocks the whole of them (`storable_follow`).
-/

namespace ProverInput

/-- A record that was checked and whose height double precision has. -/
structure Header.Sound (h : Header) : Prop where
  valid : h.Valid
  height : h.height.IsWhole

/-- A source of such records. -/
def HeaderSource.Sound (source : HeaderSource) : Prop :=
  ∀ hash h, source.headerOf hash = .ok h → h.Sound

variable {source : HeaderSource} {params : Params}

theorem HeaderSource.Sound.headerAt (hsource : source.Sound) {height : Number} {h : Header}
    (hheader : source.headerAt height = .ok h) : h.Sound := by
  obtain ⟨hash, -, hheader⟩ := bind_eq_ok.1 hheader
  exact hsource hash h hheader

/-! ## The state at a height -/

namespace Bootstrap

theorem hexInteger_nonneg {digits : List Char} {n : Int} (h : hexInteger digits = .ok n) :
    0 ≤ n := by
  unfold hexInteger at h
  split at h
  · cases h
  · split at h
    · cases h
      exact Int.natCast_nonneg _
    · cases h

theorem totalWork_nonneg {head : Header} (hhead : Check.IsNatural head.height) {target : Nat}
    {work : Int} (h : totalWork head target = .ok work) : 0 ≤ work := by
  unfold totalWork at h
  split at h
  · obtain ⟨blocks, hblocks, h⟩ := bind_eq_ok.1 h
    cases h
    obtain ⟨n, hn⟩ := hhead
    -- the height was checked, but the next one is rounded again
    have hsum : head.height + 1 = Number.nearest (n + 1) 1 := by
      rw [hn]
      exact Number.int_add_int n 1
    have hnonneg : 0 ≤ blocks := by
      rw [hsum] at hblocks
      cases hnear : Number.nearest (n + 1) 1 with
      | int z =>
          rw [hnear] at hblocks
          cases hblocks
          exact Number.nonneg_of_nearest (by omega) one_pos hnear
      | _ =>
          rw [hnear] at hblocks
          cases hblocks
    positivity
  · exact hexInteger_nonneg h

theorem gather_times {ancestor : Header} {g g' : Gathered}
    (h : gather params ancestor g = .ok g') {time : Number} (htime : time ∈ g'.times) :
    time ∈ g.times ∨ time = ancestor.time := by
  have htimes : g'.times = if g.times.length < params.maxTimestampHistory.count then
      ancestor.time :: g.times else g.times := by
    unfold gather at h
    simp only at h
    split at h
    · obtain ⟨target, -, h⟩ := bind_eq_ok.1 h
      cases h
      rfl
    · cases h
      rfl
  rw [htimes] at htime
  split at htime
  · exact (List.mem_cons.1 htime).symm
  · exact .inl htime

/-- What holds of the times of all records holds of those that a walk gathers. -/
theorem walk_times {P : Number → Prop} (hP : ∀ hash h, source.headerOf hash = .ok h → P h.time)
    {height : Number} {steps : Nat} {current : Header} {g g' : Gathered}
    (hg : ∀ time ∈ g.times, P time)
    (h : (walk source params height steps current g).outcome = .ok g') :
    ∀ time ∈ g'.times, P time := by
  induction steps generalizing current g with
  | zero =>
      cases h
      exact hg
  | succ steps ih =>
      rw [walk] at h
      split at h
      · cases h
        exact hg
      · simp only [Logged.outcome_bind, Logged.outcome_conversion, bind_eq_ok,
          mapError_eq_ok] at h
        obtain ⟨ancestor, hancestor, -, -, next, hnext, h⟩ := h
        -- what a step adds is the time of a record
        refine ih ?_ h
        intro time htime
        rcases gather_times hnext htime with hold | rfl
        · exact hg time hold
        · exact hP _ _ hancestor

/-- An epoch starts at the time of a record or of the first block. -/
theorem epochStart_time {P : Number → Prop}
    (hP : ∀ hash h, source.headerOf hash = .ok h → P h.time) (hgenesis : P params.genesisTime)
    {height time : Number} (h : epochStart source params height = .ok time) : P time := by
  unfold epochStart at h
  split at h
  · obtain ⟨header, hheader, rfl⟩ := map_eq_ok.1 h
    obtain ⟨hash, -, hheader⟩ := bind_eq_ok.1 hheader
    exact hP hash header hheader
  · cases h
    exact hgenesis

theorem storable_fromHeader (hsource : source.Sound) (hgenesis : params.genesisTime.IsWhole)
    {head : Header} (hhead : head.Sound) {state : ChainState}
    (h : (fromHeader source params head).outcome = .ok state) : state.Storable := by
  simp only [fromHeader, Logged.outcome_bind, Logged.outcome_conversion, Logged.outcome_fault,
    Logged.outcome_pure, bind_eq_ok, mapError_eq_ok] at h
  obtain ⟨target, -, g, hg, epoch, hepoch, work, hwork, h⟩ := h
  cases h
  have hstart : ∀ time ∈ [head.time], time.IsWhole := by
    intro time htime
    rw [List.mem_singleton.1 htime]
    exact hhead.valid.time.isWhole
  have hrecords : ∀ hash h, source.headerOf hash = .ok h → h.time.IsWhole := fun hash h hheader =>
    (hsource hash h hheader).valid.time.isWhole
  exact {
    blockHeight := hhead.height
    totalWork := totalWork_nonneg hhead.valid.height hwork
    bestBlockHash := Hex.isHash_normalize hhead.valid.hash
    currentTarget := Int.natCast_nonneg target
    prevTimestamps := walk_times hrecords hstart hg
    epochStartTime := epochStart_time hrecords hgenesis hepoch
    powTargetHistory := fun t ht => by
      obtain ⟨n, -, rfl⟩ := List.mem_map.1 ht
      exact Int.natCast_nonneg n }

end Bootstrap

/-! ## Steps -/

theorem ChainState.Storable.advance {state next : ChainState} (h : state.Storable)
    {header : Header} (hheader : header.Sound) (hnext : state.advance params header = .ok next) :
    next.Storable := by
  obtain ⟨target, targets, -, htargets, rfl⟩ := advance_eq_ok.1 hnext
  refine {
    blockHeight := hheader.height
    totalWork := by have := h.totalWork; positivity
    bestBlockHash := Hex.isHash_normalize hheader.valid.hash
    currentTarget := Int.natCast_nonneg target
    prevTimestamps := forall_extendTimes h.prevTimestamps hheader.valid.time.isWhole
    epochStartTime := ?_
    powTargetHistory := nonneg_extendTargets h.powTargetHistory htargets }
  show Number.IsWhole (if _ then _ else _)
  split
  · exact hheader.valid.time.isWhole
  · exact h.epochStartTime

/-! ## Blocks -/

namespace Equihash

theorem lowWord_lt (x : Number) : x.lowWord < 0x100000000 := by
  cases x with
  | int n =>
      show (n % 0x100000000).toNat < _
      omega
  | fraction m k odd =>
      show (m.tdiv (1 <<< (k + 1)) % 0x100000000).toNat < _
      omega
  | _ => exact Nat.two_pow_pos 32

theorem signed_natAbs_le {n : Nat} (h : n < 0x100000000) :
    (signed n).natAbs ≤ 0x100000000 := by
  unfold signed
  split <;> omega

theorem indices_natAbs_le {width : Number} {count : Nat} {source : Source} {index : Int}
    (h : index ∈ indices width count source) : index.natAbs ≤ 0x100000000 := by
  induction count generalizing source with
  | zero => cases h
  | succ count ih =>
      rcases List.mem_cons.1 h with rfl | h
      · exact signed_natAbs_le (lt_of_le_of_lt Nat.and_le_right (lowWord_lt _))
      · exact ih h

/-- The indices of a solution are small, whatever the parameters. -/
theorem decodeText_natAbs_le {e : Equihash} {text : String} {found : List Int}
    (h : e.decodeText text = .ok found) : ∀ index ∈ found, index.natAbs ≤ 0x100000000 := by
  obtain ⟨bytes, -, h⟩ := bind_eq_ok.1 h
  unfold decode at h
  split at h
  · cases h
    simp
  · split at h
    · obtain ⟨count, -, h⟩ := bind_eq_ok.1 h
      cases h
      exact fun index hindex => indices_natAbs_le hindex
    · cases h

end Equihash

/-- A hash that may be absent, in normal form. -/
theorem isHash_normalize_getD {hash : Option String}
    (h : ∀ s, hash = some s → Check.isHash s.toList = true) :
    Check.isHash (Hex.normalize (hash.getD zeroHash)).toList = true := by
  refine Hex.isHash_normalize ?_
  cases hash with
  | none => exact isHash_zeroHash
  | some s => exact h s rfl

theorem storable_ofHeader {header : Header} (hheader : header.Valid) {b : Block}
    (h : Block.ofHeader params header = .ok b) : b.Storable := by
  obtain ⟨found, hfound, h⟩ := bind_eq_ok.1 h
  cases h
  obtain ⟨bits, hbits, hfound⟩ := bind_eq_ok.1 hfound
  obtain ⟨indices, hindices, hfound⟩ := bind_eq_ok.1 hfound
  cases hfound
  have hnonce : Check.isHexText (header.nonce.getD zeroHash).toList = true := by
    cases hnonce : header.nonce with
    | none => exact Hex.isHexText_of_digits (Hex.isHash_iff.1 isHash_zeroHash).2
    | some s => exact hheader.nonce s hnonce
  have hcommitment : ∀ s, header.commitment params = some s → Check.isHash s.toList = true := by
    intro s hs
    unfold Header.commitment at hs
    split at hs
    · exact hheader.finalSaplingRoot s hs
    · exact hheader.blockCommitments s hs
  -- eight digits of bits are far below the bound of exact integers
  have hsmall : ∀ n : Nat, n < 2 ^ 32 → Number.IsWhole (.int n) := by
    intro n hn
    refine Number.isWhole_of_le ?_
    rw [Int.natAbs_natCast, Number.exactBound_eq]
    omega
  exact {
    version := hheader.version.isWhole
    commitment := isHash_normalize_getD hcommitment
    time := hheader.time.isWhole
    bits := hsmall bits (Compact.parse_lt (mapError_eq_ok.1 hbits))
    nonce := Hex.all_isDigit_normalize hnonce
    indices := by
      intro index hindex
      obtain ⟨n, hn, rfl⟩ := List.mem_map.1 hindex
      have hle := Equihash.decodeText_natAbs_le hindices n hn
      refine Number.isWhole_of_le ?_
      rw [Number.exactBound_eq]
      omega
    variantId := Number.isWhole_of_le (Nat.zero_le _)
    merkleRoot := isHash_normalize_getD hheader.merkleRoot }

/-! ## Chain data -/

namespace ChainData

theorem storable_follow (hsource : source.Sound) {start count : Number} {left taken : Nat}
    {next : Option String} {state last : ChainState} {blocks : List Block} (hstate : state.Storable)
    (h : (follow source params start count left taken next state).outcome = .ok (blocks, last)) :
    (∀ b ∈ blocks, b.Storable) ∧ last.Storable := by
  induction left generalizing taken next state blocks with
  | zero =>
      cases h
      exact ⟨by simp, hstate⟩
  | succ left ih =>
      rw [follow] at h
      split at h
      · cases h
      · simp only [Logged.outcome_bind, Logged.outcome_conversion, bind_eq_ok,
          mapError_eq_ok] at h
        obtain ⟨header, hheader, reached, hreached, block, hblock, -, -, ⟨others, final⟩, hrest,
          h⟩ := h
        cases h
        have hsound := hsource _ _ hheader
        obtain ⟨hothers, hfinal⟩ := ih (hstate.advance hsound hreached) hrest
        refine ⟨?_, hfinal⟩
        intro b hb
        rcases List.mem_cons.1 hb with rfl | hb
        · exact storable_ofHeader hsound.valid hblock
        · exact hothers b hb

theorem storable_retarget {state retargeted : ChainState} {blocks : List Block}
    (hstate : state.Storable) (h : retarget state blocks = .ok retargeted) :
    retargeted.Storable := by
  cases blocks with
  | nil =>
      cases h
      exact hstate
  | cons first others =>
      obtain ⟨target, -, h⟩ := bind_eq_ok.1 h
      cases h
      exact { hstate with currentTarget := Int.natCast_nonneg target }

theorem storable_generate (hsource : source.Sound) (hgenesis : params.genesisTime.IsWhole)
    {start count : Number} {d : ChainData}
    (h : (generate source params start count).outcome = .ok d) : d.Storable := by
  simp only [generate, Logged.outcome_bind, Logged.outcome_conversion, Logged.outcome_pure,
    bind_eq_ok, mapError_eq_ok] at h
  obtain ⟨-, -, head, hhead, initial, hinitial, ⟨blocks, expected⟩, hfollow, chainState,
    hretarget, h⟩ := h
  cases h
  have hstorable := Bootstrap.storable_fromHeader hsource hgenesis (hsource.headerAt hhead) hinitial
  obtain ⟨hblocks, hexpected⟩ := storable_follow hsource hstorable hfollow
  exact ⟨storable_retarget hstorable hretarget, hblocks, hexpected⟩

end ChainData

/-! ## Sources of documents -/

theorem Header.sound_of_ofJson {doc : Json} {header : Header} (hdoc : doc.Rounded)
    (h : Header.ofJson doc = .ok header) : header.Sound := by
  have hvalid := Header.valid_of_ofJson h
  have hrounded : header.height.Rounded := hdoc.get? (Header.height_of_ofJson h)
  obtain ⟨n, hn⟩ := hvalid.height
  exact ⟨hvalid, n, hn, hrounded n hn⟩

/-- A record that a source over records answers with is one of them. -/
theorem Archive.mem_of_headerOf {archive : Archive} {hash : String} {header : Header}
    (h : archive.source.headerOf hash = .ok header) : header ∈ archive.headers := by
  simp only [source] at h
  split at h
  · rename_i hfound
    cases h
    exact List.mem_reverse.1 (List.mem_of_find?_eq_some hfound)
  · cases h

/-- Records of a document that was read are sound. -/
theorem Archive.sound_source {docs : List Json} (hdocs : ∀ doc ∈ docs, doc.Rounded)
    {archive : Archive} (h : ofDocuments docs = .ok archive) : archive.source.Sound := by
  obtain ⟨headers, hheaders, rfl⟩ := map_eq_ok.1 h
  have hsound : ∀ header ∈ headers, header.Sound := by
    have hpairs := (List.forall₂_and_left _ _).2 ⟨hdocs, mapM_eq_ok.1 hheaders⟩
    refine forall_of_forall₂ hpairs ?_
    exact fun doc header ⟨hdoc, hheader⟩ => Header.sound_of_ofJson hdoc hheader
  exact fun hash header hheader => hsound header (mem_of_headerOf hheader)

end ProverInput
