import ProverInput.Proofs.ChainData.Recompute
import ProverInput.Proofs.Equihash.Codec

set_option autoImplicit false

/-! # How work on checked records fails

Records that passed their check are read again further on: their bits as a target, their chain work
as an integer, their height as the number before the next one, their solution as indices. Only the
last of these can fail on a checked record. So building a state fails only where a block is not
found (`atHeight_fails`), a step never fails (`advance_of_valid`), and generating chain data fails
only so or at the solution of a record that was followed (`generate_fails`). No fault ever ends it.
-/

namespace ProverInput

variable {source : HeaderSource} {params : Params}

/-- The failure to find a block. -/
def Failure.NotFound (e : Failure) : Prop := ∃ c, e = .conversion c ∧ c.kind = .headerNotFound

theorem FailsOnly.conversion {α : Type} {x : Except ConversionError α}
    (h : FailsOnly (fun c => c.kind = .headerNotFound) x) :
    FailsOnly Failure.NotFound (x.mapError Failure.conversion) :=
  FailsOnly.mapError (h.mono fun c hc => ⟨c, rfl, hc⟩)

/-! ## Sources -/

/-- A source that fails only to find a block. -/
structure HeaderSource.Searches (source : HeaderSource) : Prop where
  hashAt : ∀ height, FailsOnly (fun c => c.kind = .headerNotFound) (source.hashAt height)
  headerOf : ∀ hash, FailsOnly (fun c => c.kind = .headerNotFound) (source.headerOf hash)

theorem HeaderSource.Searches.headerAt (h : source.Searches) (height : Number) :
    FailsOnly (fun c => c.kind = .headerNotFound) (source.headerAt height) :=
  (h.hashAt height).bind fun hash _ => h.headerOf hash

theorem Archive.searches_source (archive : Archive) : archive.source.Searches := by
  constructor
  · intro height
    simp only [source]
    split
    · exact FailsOnly.of_ok rfl
    · exact FailsOnly.error rfl
  · intro hash
    simp only [source]
    split
    · exact FailsOnly.of_ok rfl
    · exact FailsOnly.error rfl

/-! ## Chain work -/

namespace Bootstrap

theorem trimEnd_digits {digits : List Char} (h : digits.all Hex.isDigit = true) :
    Blank.trimEnd digits = digits := by
  have hnot : ∀ c : Char, Hex.isDigit c = true → Blank.isBlank c = false := fun c =>
    Hex.forall_isDigit (fun c => Blank.isBlank c = false) (by decide)
  have hdrop : digits.reverse.dropWhile Blank.isBlank = digits.reverse := by
    rw [List.dropWhile_eq_self_iff]
    intro hne
    have hmem := List.mem_reverse.1 (List.getElem_mem hne)
    rw [hnot _ (List.all_eq_true.1 h _ hmem)]
    exact Bool.false_ne_true
  rw [Blank.trimEnd, hdrop, List.reverse_reverse]

theorem exists_hexInteger {digits : List Char} (hne : digits ≠ [])
    (h : digits.all Hex.isDigit = true) : ∃ n, hexInteger digits = .ok n := by
  rw [hexInteger, trimEnd_digits h]
  cases digits with
  | nil => exact absurd rfl hne
  | cons c digits => exact ⟨_, if_pos h⟩

/-- The work of a checked record is an integer: its chain work has only digits, and the number after
its height is whole. -/
theorem exists_totalWork {head : Header} (hhead : head.Sound) (target : Nat) :
    ∃ work, totalWork head target = .ok work := by
  have hdigits : (Hex.normalize (head.chainwork.getD "")).toList.all Hex.isDigit = true := by
    apply Hex.all_isDigit_normalize
    cases hwork : head.chainwork with
    | none => rfl
    | some s => exact hhead.valid.chainwork s hwork
  unfold totalWork
  split
  · obtain ⟨n, hn⟩ := hhead.valid.height
    obtain ⟨m, hm, hdouble⟩ := hhead.height
    rw [hn] at hm
    cases hm
    obtain ⟨z, hz⟩ := Number.exists_succ_of_isDouble hdouble
    rw [hn, hz]
    exact ⟨_, rfl⟩
  · rename_i hne
    exact exists_hexInteger hne hdigits

/-! ## The state at a height -/

theorem exists_gather (params : Params) {ancestor : Header} (hancestor : ancestor.Valid)
    (g : Gathered) : ∃ g', gather params ancestor g = .ok g' := by
  obtain ⟨target, htarget⟩ := Compact.exists_targetOfText hancestor.bits
  unfold gather
  simp only
  split
  · exact ⟨_, by rw [htarget]; rfl⟩
  · exact ⟨_, rfl⟩

theorem walk_fails (hsource : source.Sound) (hsearches : source.Searches) {height : Number}
    {steps : Nat} {current : Header} {g : Gathered} :
    FailsOnly Failure.NotFound (walk source params height steps current g).outcome := by
  induction steps generalizing current g with
  | zero => exact FailsOnly.of_ok rfl
  | succ steps ih =>
      rw [walk]
      split
      · exact FailsOnly.of_ok rfl
      · rename_i hash hlink
        simp only [Logged.outcome_bind, Logged.outcome_conversion]
        apply FailsOnly.bind (hsearches.headerOf hash).conversion
        intro ancestor hancestor
        apply FailsOnly.bind (FailsOnly.of_ok rfl)
        intro _ _
        -- the ancestor was checked, so it is taken in
        obtain ⟨next, hnext⟩ :=
          exists_gather params (hsource _ _ (mapError_eq_ok.1 hancestor)).valid g
        apply FailsOnly.bind (FailsOnly.of_ok (mapError_eq_ok.2 hnext))
        exact fun _ _ => ih

theorem epochStart_fails (hsearches : source.Searches) (height : Number) :
    FailsOnly (fun c => c.kind = .headerNotFound) (epochStart source params height) := by
  unfold epochStart
  split
  · exact (hsearches.headerAt _).map
  · exact FailsOnly.of_ok rfl

theorem fromHeader_fails (hsource : source.Sound) (hsearches : source.Searches) {head : Header}
    (hhead : head.Sound) :
    FailsOnly Failure.NotFound (fromHeader source params head).outcome := by
  obtain ⟨target, htarget⟩ := Compact.exists_targetOfText hhead.valid.bits
  simp only [fromHeader, Logged.outcome_bind, Logged.outcome_conversion, Logged.outcome_fault]
  apply FailsOnly.bind (FailsOnly.of_ok (mapError_eq_ok.2 htarget))
  intro target _
  apply FailsOnly.bind (walk_fails hsource hsearches)
  intro g _
  apply FailsOnly.bind (epochStart_fails hsearches _).conversion
  intro epoch _
  obtain ⟨work, hwork⟩ := exists_totalWork hhead target
  apply FailsOnly.bind (FailsOnly.of_ok (mapError_eq_ok.2 hwork))
  exact fun _ _ => FailsOnly.of_ok rfl

theorem atHeight_fails (hsource : source.Sound) (hsearches : source.Searches) (height : Number) :
    FailsOnly Failure.NotFound (atHeight source params height).outcome := by
  simp only [atHeight, Logged.outcome_bind, Logged.outcome_conversion]
  apply FailsOnly.bind (hsearches.headerAt height).conversion
  exact fun head hhead =>
    fromHeader_fails hsource hsearches (hsource.headerAt (mapError_eq_ok.1 hhead))

end Bootstrap

/-! ## Steps -/

namespace ChainState

/-- The window of the main network can be filled. -/
theorem exists_extendTargets (history : List Int) (target : Int) :
    ∃ targets, extendTargets .mainnet history target = .ok targets := by
  unfold extendTargets
  simp only
  split
  · rename_i hempty
    have hlength : (Window.ofList history Params.mainnet.powAveragingWindow).length = 0 := by
      rw [Window.length, List.length_eq_zero_iff]
      exact List.isEmpty_iff.1 hempty
    rw [Window.fill, hlength]
    exact ⟨_, rfl⟩
  · exact ⟨_, rfl⟩

/-- A step along a checked record succeeds from any state. -/
theorem advance_of_valid (state : ChainState) {header : Header} (hheader : header.Valid) :
    ∃ next, state.advance .mainnet header = .ok next := by
  obtain ⟨target, htarget⟩ := Compact.exists_targetOfText hheader.bits
  obtain ⟨targets, htargets⟩ := exists_extendTargets state.powTargetHistory target
  exact ⟨_, advance_eq_ok.2 ⟨target, targets, htarget, htargets, rfl⟩⟩

end ChainState

/-! ## Blocks -/

/-- The solution of a record is refused, as a text or for its length. -/
structure Header.Unsolved (h : Header) (c : ConversionError) : Prop where
  refused : ∃ solution, h.solution = some solution ∧
    Equihash.mainnet.decodeText solution = .error (.conversion c)
  kind : c.kind = .unsupportedStringShape ∨ c.kind = .invalidSolutionLength

namespace Equihash

theorem mainnet_sized : mainnet.Sized 9 21 :=
  sized_of_dvd (n := 200) (k := 9) rfl rfl (by decide) (by decide) (by decide) (by decide)

/-- Reading a solution of the main network fails only for its text or its length. -/
theorem decodeText_fails (text : String) :
    FailsOnly (fun e => ∃ c, e = .conversion c ∧
      (c.kind = .unsupportedStringShape ∨ c.kind = .invalidSolutionLength))
      (mainnet.decodeText text) := by
  refine FailsOnly.bind (FailsOnly.mapError ?_) fun bytes _ => ?_
  · unfold Hex.read
    split
    · exact FailsOnly.of_ok rfl
    · exact FailsOnly.error ⟨_, rfl, .inl rfl⟩
  · unfold decode
    split
    · exact FailsOnly.of_ok rfl
    · split
      · exact FailsOnly.of_ok rfl
      · exact FailsOnly.error ⟨_, rfl, .inr rfl⟩

end Equihash

theorem Block.ofHeader_fails {header : Header} (hheader : header.Valid) :
    FailsOnly (fun e => ∃ c, e = .conversion c ∧ header.Unsolved c)
      (Block.ofHeader params header) := by
  obtain ⟨bits, hbits⟩ := Compact.exists_parse hheader.bits
  refine FailsOnly.bind (FailsOnly.bind (FailsOnly.of_ok (mapError_eq_ok.2 hbits)) fun _ _ => ?_)
    fun _ _ => FailsOnly.of_ok rfl
  refine FailsOnly.bind ⟨fun {e} he => ?_⟩ fun _ _ => FailsOnly.of_ok rfl
  obtain ⟨c, rfl, hkind⟩ := (Equihash.decodeText_fails _).of_error he
  cases hsolution : header.solution with
  | none =>
      rw [hsolution] at he
      cases he
  | some solution =>
      rw [hsolution] at he
      exact ⟨c, rfl, ⟨solution, hsolution, he⟩, hkind⟩

/-! ## Chain data -/

namespace ChainData

/-- A failure of following at most `count` records from `head`: a block is not found, or the
solution of a record that the links lead to is refused. -/
def Stops (source : HeaderSource) (head : Header) (count : Nat) (e : Failure) : Prop :=
  ∃ c, e = .conversion c ∧ (c.kind = .headerNotFound ∨
    ∃ headers header, (head :: headers).IsChain (Header.Leads source) ∧
      headers.getLast? = some header ∧ headers.length ≤ count ∧ header.Unsolved c)

theorem Stops.of_notFound {head : Header} {count : Nat} {e : Failure} (h : e.NotFound) :
    Stops source head count e := by
  obtain ⟨c, rfl, hkind⟩ := h
  exact ⟨c, rfl, .inl hkind⟩

/-- A failure one record further on. -/
theorem Stops.cons {head header : Header} {count : Nat} {e : Failure}
    (hlead : head.Leads source header) (h : Stops source header count e) :
    Stops source head (count + 1) e := by
  obtain ⟨c, rfl, hkind | ⟨headers, last, hchain, hlast, hlength, hunsolved⟩⟩ := h
  · exact ⟨c, rfl, .inl hkind⟩
  · refine ⟨c, rfl, .inr ⟨header :: headers, last, List.isChain_cons_cons.2 ⟨hlead, hchain⟩, ?_,
      Nat.succ_le_succ hlength, hunsolved⟩⟩
    rw [List.getLast?_cons, hlast]
    rfl

theorem follow_fails (hsource : source.Sound) (hsearches : source.Searches) {start count : Number}
    {left taken : Nat} {head : Header} {state : ChainState} :
    FailsOnly (Stops source head left)
      (follow source .mainnet start count left taken head.nextBlockHash state).outcome := by
  -- on the number of blocks that are left, for every record to go on from
  induction left generalizing taken head state with
  | zero => exact FailsOnly.of_ok rfl
  | succ left ih =>
      rw [follow]
      split
      · exact FailsOnly.error (Stops.of_notFound ⟨_, rfl, rfl⟩)
      · rename_i hash hlink
        simp only [Logged.outcome_bind, Logged.outcome_conversion, Logged.outcome_lift]
        apply FailsOnly.bind ((hsearches.headerOf hash).conversion.mono fun _ => Stops.of_notFound)
        intro header hheader
        have hheader := mapError_eq_ok.1 hheader
        have hlead : head.Leads source header := ⟨hash, hlink, hheader⟩
        have hvalid := (hsource _ _ hheader).valid
        obtain ⟨next, hnext⟩ := state.advance_of_valid hvalid
        apply FailsOnly.bind (FailsOnly.of_ok hnext)
        intro _ _
        apply FailsOnly.bind
        · apply (Block.ofHeader_fails hvalid).mono
          rintro e ⟨c, rfl, hunsolved⟩
          exact ⟨c, rfl, .inr ⟨[header], header, List.isChain_cons_cons.2 ⟨hlead, .singleton _⟩,
            rfl, Nat.succ_le_succ (Nat.zero_le left), hunsolved⟩⟩
        · intro block _
          apply FailsOnly.bind (FailsOnly.of_ok rfl)
          intro _ _
          apply FailsOnly.bind (ih.mono fun _ => Stops.cons hlead)
          exact fun _ _ => FailsOnly.of_ok rfl

/-- The bits of a block that was formatted stand for a target. -/
theorem exists_retarget (state : ChainState) {headers : List Header} {blocks : List Block}
    (hvalid : ∀ header ∈ headers, header.Valid)
    (h : headers.mapM (Block.ofHeader params) = .ok blocks) :
    ∃ retargeted, retarget state blocks = .ok retargeted := by
  rw [mapM_eq_ok] at h
  cases h with
  | nil => exact ⟨state, rfl⟩
  | @cons header block headers blocks hblock _ =>
      obtain ⟨target, htarget⟩ :=
        Compact.exists_targetOfText (hvalid header List.mem_cons_self).bits
      have hshown := (ofHeader_shows hblock htarget).2
      exact ⟨_, bind_eq_ok.2 ⟨target, hshown, rfl⟩⟩

theorem generate_fails (hsource : source.Sound) (hsearches : source.Searches)
    (start count : Number) :
    FailsOnly (fun e => e.NotFound ∨
        ∃ head, source.headerAt start = .ok head ∧ Stops source head count.count e)
      (generate source .mainnet start count).outcome := by
  simp only [generate, Logged.outcome_bind, Logged.outcome_conversion]
  apply FailsOnly.bind (FailsOnly.of_ok rfl)
  intro _ _
  apply FailsOnly.bind ((hsearches.headerAt start).conversion.mono fun _ => Or.inl)
  intro head hhead
  have hhead := mapError_eq_ok.1 hhead
  have hsound := hsource.headerAt hhead
  apply FailsOnly.bind ((Bootstrap.fromHeader_fails hsource hsearches hsound).mono fun _ => Or.inl)
  intro initial _
  apply FailsOnly.bind
    ((follow_fails hsource hsearches).mono fun _ hstops => Or.inr ⟨head, hhead, hstops⟩)
  rintro ⟨blocks, expected⟩ hfollow
  obtain ⟨headers, -, hchain, -, hblocks⟩ := follow_eq_ok.1 hfollow
  have hvalid := forall_of_isChain (fun hash h hheader => (hsource hash h hheader).valid) hchain
  obtain ⟨retargeted, hretarget⟩ := exists_retarget initial hvalid hblocks
  apply FailsOnly.bind (FailsOnly.of_ok (mapError_eq_ok.2 hretarget))
  exact fun _ _ => FailsOnly.of_ok rfl

/-! ## Sources of documents -/

/-- Work on checked records of the main network ends with a result, or because a block is not found,
or because of the solution of a record that was followed. Steps always succeed. -/
theorem failures_of_documents {docs : List Json} (hdocs : ∀ doc ∈ docs, doc.Rounded)
    {archive : Archive} (harchive : Archive.ofDocuments docs = .ok archive) :
    (∀ height e, (Bootstrap.atHeight archive.source .mainnet height).outcome = .error e →
      ∃ c, e = .conversion c ∧ c.kind = .headerNotFound) ∧
    (∀ start count e, (generate archive.source .mainnet start count).outcome = .error e →
      ∃ c, e = .conversion c ∧ (c.kind = .headerNotFound ∨
        ∃ head headers header, archive.source.headerAt start = .ok head ∧
          (head :: headers).IsChain (Header.Leads archive.source) ∧
          headers.getLast? = some header ∧ headers.length ≤ count.count ∧ header.Unsolved c)) ∧
    ∀ (state : ChainState) (doc : Json) (header : Header), Header.ofJson doc = .ok header →
      ∃ next, state.advance .mainnet header = .ok next := by
  have hsource := Archive.sound_source hdocs harchive
  have hsearches := archive.searches_source
  refine ⟨?_, ?_, ?_⟩
  · intro height e he
    exact (Bootstrap.atHeight_fails hsource hsearches height).of_error he
  · intro start count e he
    rcases (generate_fails hsource hsearches start count).of_error he with
      ⟨c, rfl, hkind⟩ | ⟨head, hhead, c, rfl, hkind | ⟨headers, header, hstops⟩⟩
    · exact ⟨c, rfl, .inl hkind⟩
    · exact ⟨c, rfl, .inl hkind⟩
    · exact ⟨c, rfl, .inr ⟨head, headers, header, hhead, hstops⟩⟩
  · intro state doc header hheader
    exact state.advance_of_valid (Header.valid_of_ofJson hheader)

/-- A record whose solution is a single byte, and the one that leads to it. -/
theorem failures_of_documents_unsolved :
    let records := [linking 3 'a' 'b', { linking 4 'b' 'c' with solution := some "00" }]
    ((∀ doc ∈ records.map Header.toJson, doc.Rounded) ∧
        Archive.ofDocuments (records.map Header.toJson) = .ok ⟨records⟩) ∧
      (generate (Archive.mk records).source .mainnet 3 1).outcome =
        .error (.conversion (.solutionLength 1344 1)) ∧
      ∃ head headers header, (Archive.mk records).source.headerAt 3 = .ok head ∧
        (head :: headers).IsChain (Header.Leads (Archive.mk records).source) ∧
        headers.getLast? = some header ∧ headers.length ≤ 1 ∧
        header.Unsolved (.solutionLength 1344 1) := by
  intro records
  have hdocs : ∀ doc ∈ records.map Header.toJson, doc.Rounded := by
    have hsmall (n : Int) (hn : n.natAbs ≤ Number.exactBound) : (Number.int n).Rounded :=
      Number.rounded_of_le hn
    intro doc hdoc
    rcases List.mem_pair.1 hdoc with rfl | rfl
    · exact ⟨hsmall _ (by decide), trivial, trivial, hsmall _ (by decide), trivial,
        hsmall _ (by decide), trivial⟩
    · exact ⟨hsmall _ (by decide), trivial, trivial, hsmall _ (by decide), trivial, trivial,
        hsmall _ (by decide), trivial⟩
  have harchive : Archive.ofDocuments (records.map Header.toJson) = .ok ⟨records⟩ := rfl
  have hstops : (generate (Archive.mk records).source .mainnet 3 1).outcome =
      .error (.conversion (.solutionLength 1344 1)) := by
    decide +kernel
  obtain ⟨-, hgenerate, -⟩ := failures_of_documents hdocs harchive
  obtain ⟨c, hc, hkind | ⟨head, headers, header, hfound⟩⟩ := hgenerate 3 1 _ hstops
  · cases hc
    cases hkind
  · cases hc
    exact ⟨⟨hdocs, harchive⟩, hstops, head, headers, header, hfound⟩

end ChainData

end ProverInput
