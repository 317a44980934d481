import ProverInput.Proofs.ChainData.Follow
import ProverInput.Proofs.Header.Check

set_option autoImplicit false

/-! # Heights along generated chain data

The blocks of chain data are found by their links alone, so nothing makes their heights consecutive:
a record may link to itself or past its successor, and a height may lead to a hash that another
record has too. What is generated from checked records is a run of consecutive blocks exactly when
the records that were followed are at consecutive heights (`generate_consecutive_iff`). Otherwise
the steps still succeed, while a run that looks at the heights stops at the first gap.
-/

namespace ProverInput

/-! ## Consecutive heights -/

/-- Records at the heights from `base` on. -/
def Consecutive (base : Int) (headers : List Header) : Prop :=
  ∀ i (hi : i < headers.length), headers[i].height = .int (base + i)

theorem consecutive_cons {base : Int} {h : Header} {headers : List Header} :
    Consecutive base (h :: headers) ↔ h.height = .int base ∧ Consecutive (base + 1) headers := by
  constructor
  · intro hall
    refine ⟨?_, ?_⟩
    · simpa using hall 0 (Nat.succ_pos _)
    · intro i hi
      have hnext := hall (i + 1) (Nat.succ_lt_succ hi)
      rw [List.getElem_cons_succ] at hnext
      rw [hnext, Nat.cast_succ, add_assoc, add_comm 1]
  · rintro ⟨hfirst, hrest⟩ i hi
    cases i with
    | zero => simpa using hfirst
    | succ i =>
        rw [List.getElem_cons_succ, hrest i (Nat.lt_of_succ_lt_succ hi), Nat.cast_succ, add_assoc,
          add_comm 1]

theorem Consecutive.getLast?_height {base : Int} {h : Header} {headers : List Header}
    (hall : Consecutive base (h :: headers)) :
    (h.height :: headers.map Header.height).getLast? = some (.int (base + headers.length)) := by
  have hlength : headers.length < (h :: headers).length := Nat.lt_succ_self _
  rw [← List.map_cons, List.getLast?_eq_getElem?, List.length_map, List.getElem?_map,
    List.length_cons, Nat.add_sub_cancel, List.getElem?_eq_getElem hlength]
  exact congrArg some (hall headers.length hlength)

/-- Below the bound of exact integers a step of one is exact. -/
theorem same_succ_iff {height : Int} (hsafe : height.natAbs < Number.exactBound) {next : Number} :
    next.same (.int height + 1) = true ↔ next = .int (height + 1) := by
  have hsum : Number.int height + 1 = .int (height + 1) :=
    Number.int_add_exact (a := height) (b := 1) (by omega)
  rw [hsum, Number.same_iff]
  constructor
  · rintro ⟨hnext, -⟩
    exact hnext
  · rintro rfl
    exact ⟨rfl, by simp⟩

/-- Heights that each follow the one before are consecutive. -/
theorem isChain_heights_iff {base : Int} {headers : List Header} (hlow : 0 ≤ base)
    (hhigh : base + headers.length ≤ Number.exactBound) :
    ((Number.int base :: headers.map Header.height).IsChain fun height next =>
      next.same (height + 1) = true) ↔ Consecutive (base + 1) headers := by
  induction headers generalizing base with
  | nil =>
      refine ⟨fun _ i hi => absurd hi (Nat.not_lt_zero i), fun _ => .singleton _⟩
  | cons h headers ih =>
      rw [List.length_cons] at hhigh
      rw [List.map_cons, List.isChain_cons_cons, consecutive_cons,
        same_succ_iff (by omega)]
      refine and_congr_right fun hheight => ?_
      rw [hheight]
      exact ih (by omega) (by omega)

/-! ## Checked records -/

namespace Archive

variable {docs : List Json} {archive : Archive}

theorem valid_of_ofDocuments (h : ofDocuments docs = .ok archive) :
    ∀ header ∈ archive.headers, header.Valid := by
  obtain ⟨headers, hheaders, rfl⟩ := map_eq_ok.1 h
  exact forall_of_forall₂ (mapM_eq_ok.1 hheaders) fun doc header => Header.valid_of_ofJson

/-- Checked records have no negative heights. -/
theorem nonneg_of_headerAt (h : ofDocuments docs = .ok archive) {height : Int} {header : Header}
    (hheader : archive.source.headerAt (.int height) = .ok header) : 0 ≤ height := by
  obtain ⟨hash, hhash, -⟩ := bind_eq_ok.1 hheader
  cases hfound : archive.atHeight? (.int height) with
  | none => simp [source, hfound] at hhash
  | some found =>
      have hmem := List.mem_reverse.1 (List.mem_of_find?_eq_some hfound)
      have hheight : found.height = .int height := by simpa using List.find?_some hfound
      obtain ⟨n, hn⟩ := (valid_of_ofDocuments h found hmem).height
      rw [hheight, Number.int.injEq] at hn
      omega

end Archive

/-! ## Runs along the links -/

/-- A run of steps that succeed is accepted, or else stopped at a gap between two heights. -/
theorem ChainState.applyAll_of_advanceAll {params : Params} {state last : ChainState}
    {headers : List Header} (h : state.advanceAll params headers = .ok last) :
    state.applyAll params headers = .ok last ∨ ∃ height tip,
      state.applyAll params headers = .error (.conversion (.headerGap height tip)) := by
  induction headers generalizing state with
  | nil =>
      rw [← advanceAll_nil.1 h]
      exact .inl rfl
  | cons header headers ih =>
      obtain ⟨next, hnext, hrest⟩ := advanceAll_cons.1 h
      rw [applyAll_cons]
      by_cases hheight : header.height.same (state.blockHeight + 1) = true
      · rw [applyNext, if_pos hheight, hnext]
        exact ih hrest
      · rw [applyNext, if_neg hheight]
        exact .inr ⟨header.height, state.blockHeight, rfl⟩

namespace ChainData

variable {docs : List Json} {archive : Archive} {params : Params}

theorem MadeOf.blockHeight {source : HeaderSource} {start : Number} {d : ChainData} {head : Header}
    {initial : ChainState} {headers : List Header}
    (h : MadeOf source params start d head initial headers) :
    initial.blockHeight = head.height ∧ d.chainState.blockHeight = head.height := by
  have hinitial := blockHeight_fromHeader h.builds
  refine ⟨hinitial, ?_⟩
  rcases retarget_eq_ok.1 h.retargets with ⟨-, hstate⟩ | ⟨_, _, _, -, -, hstate⟩
  · rw [hstate, hinitial]
  · rw [hstate, ← hinitial]

/-- Chain data starts at its height, ends as many blocks later and is accepted as a run of blocks,
exactly when the records it was made of are at consecutive heights. -/
theorem generate_consecutive_iff (hdocs : Archive.ofDocuments docs = .ok archive) {start : Int}
    {n : Nat} (hsafe : start + n < Number.exactBound) {d : ChainData}
    (h : (generate archive.source params (.int start) (.int n)).outcome = .ok d) :
    ∃ head initial headers, headers.length = n ∧
      MadeOf archive.source params (.int start) d head initial headers ∧
      (Consecutive start (head :: headers) ↔
        d.chainState.blockHeight = .int start ∧ d.expected.blockHeight = .int (start + n) ∧
          initial.applyAll params headers = .ok d.expected) ∧
      (initial.applyAll params headers = .ok d.expected ∨ ∃ height tip,
        initial.applyAll params headers = .error (.conversion (.headerGap height tip))) := by
  obtain ⟨head, initial, headers, hlength, hmade⟩ := generate_eq_ok.1 h
  rw [Number.count_int, Int.toNat_natCast] at hlength
  have hlow := Archive.nonneg_of_headerAt hdocs hmade.starts
  obtain ⟨hinitial, hchainState⟩ := hmade.blockHeight
  refine ⟨head, initial, headers, hlength, hmade, ?_,
    ChainState.applyAll_of_advanceAll hmade.advances⟩
  have hlast := ChainState.blockHeight_advanceAll hmade.advances
  have hchain : _ ↔ Consecutive (start + 1) headers := isChain_heights_iff hlow (by omega)
  rw [hinitial] at hlast
  rw [hchainState, ChainState.applyAll_eq_ok, hinitial]
  constructor
  · intro hall
    obtain ⟨hhead, hrest⟩ := consecutive_cons.1 hall
    refine ⟨hhead, ?_, hmade.advances, hhead ▸ hchain.2 hrest⟩
    rw [← hlength]
    exact Option.some.inj (hlast.symm.trans hall.getLast?_height)
  · rintro ⟨hhead, -, -, hheights⟩
    rw [hhead] at hheights
    exact consecutive_cons.2 ⟨hhead, hchain.1 hheights⟩

/-! ## Links to the next height, and others -/

/-- Of three linked records the last two are generated after the first, at consecutive heights. -/
theorem generate_consecutive_iff_linked :
    let records := [linking 3 'a' 'b', linking 4 'b' 'c', linking 5 'c' 'd']
    (Archive.ofDocuments (records.map Header.toJson) = .ok ⟨records⟩ ∧
      (3 : Int) + (2 : Nat) < Number.exactBound) ∧
      ∃ d head initial headers,
        (generate (Archive.mk records).source Params.mainnet (.int 3) (.int 2)).outcome = .ok d ∧
        headers.length = 2 ∧
        MadeOf (Archive.mk records).source Params.mainnet (.int 3) d head initial headers ∧
        Consecutive 3 (head :: headers) ∧ d.expected.blockHeight = .int (3 + (2 : Nat)) ∧
        initial.applyAll Params.mainnet headers = .ok d.expected := by
  intro records
  have hdocs : Archive.ofDocuments (records.map Header.toJson) = .ok ⟨records⟩ := rfl
  have hsafe : (3 : Int) + (2 : Nat) < Number.exactBound := by decide
  obtain ⟨d, hd, -⟩ :=
    exists_generate Params.mainnet records 3 2 (.int 3) (.int 5) (by decide +kernel)
  obtain ⟨head, initial, headers, hlength, hmade, hiff, -⟩ :=
    generate_consecutive_iff hdocs hsafe hd
  have hconsecutive : Consecutive 3 (head :: headers) := by
    obtain ⟨rfl, rfl⟩ := hmade.unique (linking 3 'a' 'b')
      [linking 4 'b' 'c', linking 5 'c' 'd'] rfl
      (.cons_cons ⟨_, rfl, rfl⟩ (.cons_cons ⟨_, rfl, rfl⟩ (.singleton _))) hlength
    intro i hi
    have hbound : i < 3 := hi
    interval_cases i
    all_goals rfl
  obtain ⟨-, hlast, hrun⟩ := hiff.1 hconsecutive
  exact ⟨⟨hdocs, hsafe⟩, d, head, initial, headers, hd, hlength, hmade, hconsecutive, hlast, hrun⟩

/-- A record that links to itself gives one block at the height of the state before it, which no run
accepts. Two records with one hash give the state at the height of the other. -/
theorem generate_ne_consecutive :
    (let records := [linking 0 'a' 'a'];
      Archive.ofDocuments (records.map Header.toJson) = .ok ⟨records⟩ ∧
        ∃ d head initial headers,
          (generate (Archive.mk records).source Params.mainnet (.int 0) (.int 1)).outcome = .ok d ∧
          MadeOf (Archive.mk records).source Params.mainnet (.int 0) d head initial headers ∧
          d.expected.blockHeight = .int 0 ∧
          initial.applyAll Params.mainnet headers = .error (.conversion (.headerGap 0 0))) ∧
    (let records := [linking 0 'a' 'b', linking 5 'a' 'b'];
      Archive.ofDocuments (records.map Header.toJson) = .ok ⟨records⟩ ∧
        ∃ d, (generate (Archive.mk records).source Params.mainnet (.int 0) (.int 0)).outcome =
          .ok d ∧ d.chainState.blockHeight = .int 5) := by
  refine ⟨⟨rfl, ?_⟩, rfl, ?_⟩
  · obtain ⟨d, hd, -, hlast⟩ := exists_generate Params.mainnet
      [linking 0 'a' 'a'] 0 1 (.int 0) (.int 0) (by decide +kernel)
    obtain ⟨head, initial, headers, hlength, hmade⟩ := generate_eq_ok.1 hd
    refine ⟨d, head, initial, headers, hd, hmade, hlast, ?_⟩
    -- the only record is the first one and the one that is followed
    obtain ⟨rfl, rfl⟩ := hmade.unique (linking 0 'a' 'a')
      [linking 0 'a' 'a'] rfl (.cons_cons ⟨_, rfl, rfl⟩ (.singleton _)) hlength
    rw [ChainState.applyAll_cons, ChainState.applyNext, hmade.blockHeight.1]
    rfl
  · obtain ⟨d, hd, hfirst, -⟩ := exists_generate Params.mainnet
      [linking 0 'a' 'b', linking 5 'a' 'b'] 0 0 (.int 5) (.int 5) (by decide +kernel)
    exact ⟨d, hd, hfirst⟩

end ChainData

end ProverInput
