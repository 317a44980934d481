import ProverInput.Field.Untagged
import ProverInput.ProgramArgs
import ProverInput.Proofs.ChainData.Document
import ProverInput.Proofs.Field.Guess
import ProverInput.Proofs.Untagged.Texts

set_option autoImplicit false

/-! # Chain data without type tags

The document of chain data says nothing of types, and reading it means guessing them. `Guesses`
relates a field value to the document of the same thing: what is guessed from the document is
`Field.guessed` of the field value. It holds of every part of storable chain data whose nonces are
hashes, so the arguments of the whole and those of its document are the arguments of a field value
and of what is guessed of it (`ChainData.exists_hexArgs`).
-/

namespace ProverInput

/-- A document that reads as what is guessed of a field value. -/
def Guesses (field : Field) (doc : Json) : Prop :=
  (Untagged.ofJson doc).toField = .ok field.guessed

/-! ## Leaves -/

theorem textField_decimal {n : Int} (h : 0 ≤ n) :
    Untagged.textField (toString n) = .ok (Field.u256 n).guessed := by
  by_cases hread : readsAsDigest n = true
  · rw [Untagged.textField_hash (readsAsDigest_spec hread).2.2, Field.guessed, if_pos hread]
  · obtain ⟨n, rfl⟩ := Int.eq_ofNat_of_zero_le h
    have hinteger : Untagged.ReadsAsInteger (toString (n : Int)) := by
      rw [Untagged.ReadsAsInteger, Number.toList_toString]
      exact ⟨Nat.toDigits_ne_nil, Number.all_isDigit_toDigits n,
        fun hlength => hread (decide_eq_true hlength)⟩
    rw [Untagged.textField_integer hinteger, Number.toList_toString,
      Nat.ofDigitChars_ten_toDigits, Field.guessed, if_neg hread]

theorem guesses_int (n : Int) : Guesses (.felt n) (.number (.int n)) := by
  rw [Guesses, Untagged.ofJson, Untagged.toField, Field.guessed]
  all_goals simp

theorem guesses_hash {s : String} (h : Check.isHash s.toList = true) :
    Guesses (.digest s) (.string s) := by
  rw [Guesses, Untagged.ofJson, Untagged.toField, Untagged.textField_hash h, Field.guessed]
  all_goals simp

theorem guesses_decimal {n : Int} (h : 0 ≤ n) : Guesses (.u256 n) (.decimal n) := by
  rw [Guesses, Json.decimal, Untagged.ofJson, Untagged.toField, textField_decimal h]

/-! ## Lists and records -/

theorem guesses_array {fields : List Field} {docs : List Json}
    (h : List.Forall₂ Guesses fields docs) : Guesses (.array fields) (.array docs) := by
  have hitems : Untagged.toFields (Untagged.ofJsonItems docs) = .ok (Field.guessedAll fields) := by
    induction h with
    | nil => rw [Untagged.ofJsonItems, Untagged.toFields, Field.guessedAll]
    | cons hfirst _ ih =>
        rw [Guesses] at hfirst
        rw [Untagged.ofJsonItems, Untagged.toFields, hfirst, ih, Field.guessedAll]
        rfl
  rw [Guesses, Untagged.ofJson, Untagged.toField, hitems, Field.guessed]
  rfl

/-- Members that read as what is guessed of the entries of a record. -/
def GuessesAll (entries : List (String × Slot)) (members : List (String × Json)) : Prop :=
  Untagged.toSlots (Untagged.ofJsonMembers members) = .ok (Field.guessedEntries entries)

theorem GuessesAll.nil : GuessesAll [] [] := by
  rw [GuessesAll, Untagged.ofJsonMembers, Untagged.toSlots, Field.guessedEntries]

theorem GuessesAll.cons {name : String} {field : Field} {doc : Json}
    {entries : List (String × Slot)} {members : List (String × Json)}
    (hname : Untagged.isRawName name = false) (h : Guesses field doc)
    (hrest : GuessesAll entries members) :
    GuessesAll ((name, .single field) :: entries) ((name, doc) :: members) := by
  have hslot : Untagged.toSlot name (Untagged.ofJson doc) = .ok (.single field.guessed) := by
    rw [Guesses] at h
    rw [Untagged.toSlot.eq_def]
    simp only [hname, h, Bool.false_eq_true, if_false]
    rfl
  rw [GuessesAll] at hrest
  rw [GuessesAll, Untagged.ofJsonMembers, Untagged.toSlots, hslot, hrest, Field.guessedEntries,
    Field.guessedSlot]
  rfl

theorem map_fst_guessedEntries (entries : List (String × Slot)) :
    (Field.guessedEntries entries).map Prod.fst = entries.map Prod.fst := by
  induction entries with
  | nil => rw [Field.guessedEntries]
  | cons entry entries ih => rw [Field.guessedEntries, List.map_cons, List.map_cons, ih]

theorem guesses_record {names : List String} (hordered : Members.Ordered names)
    (hreserved : Members.reserved ∉ names) {entries : List (String × Slot)}
    {members : List (String × Json)} (hnames : entries.map Prod.fst = names)
    (h : GuessesAll entries members) : Guesses (.record entries) (.object members) := by
  rw [← hnames, ← map_fst_guessedEntries] at hordered hreserved
  rw [GuessesAll] at h
  rw [Guesses, Untagged.ofJson, Untagged.toField, h, Field.guessed]
  show Except.ok (Field.ofAssignments (Field.guessedEntries entries)) = _
  rw [Field.ofAssignments, Members.assign_of_ordered hordered hreserved]

/-! ## Counting -/

theorem misreadAll_eq_sum (fields : List Field) :
    Field.misreadAll fields = (fields.map Field.misread).sum := by
  induction fields with
  | nil => rfl
  | cons field fields ih => rw [Field.misreadAll, ih, List.map_cons, List.sum_cons]

theorem misreadAll_of_forall {fields : List Field} (h : ∀ field ∈ fields, field.misread = 0) :
    Field.misreadAll fields = 0 := by
  rw [misreadAll_eq_sum, List.sum_eq_zero]
  intro n hn
  obtain ⟨field, hfield, rfl⟩ := List.mem_map.1 hn
  exact h field hfield

theorem misreadAll_u256 (ns : List Int) :
    Field.misreadAll (ns.map .u256) = ns.countP readsAsDigest := by
  induction ns with
  | nil => rfl
  | cons n ns ih =>
      rw [List.map_cons, Field.misreadAll, ih, Field.misread, List.countP_cons, Nat.add_comm]

/-! ## Chain states -/

/-- The field elements of whole numbers, and their documents. -/
theorem exists_felts {xs : List Number} (h : ∀ x ∈ xs, x.IsWhole) :
    ∃ fields, xs.mapM Field.feltOf = .ok fields ∧
      Guesses (.array fields) (.array (xs.map .number)) ∧ Field.misreadAll fields = 0 := by
  obtain ⟨ns, hns⟩ := exists_forall₂ h
  have hfelts : List.Forall₂ (fun x field => Field.feltOf x = .ok field) xs (ns.map .felt) := by
    rw [List.forall₂_map_right_iff]
    refine hns.imp ?_
    rintro x n ⟨rfl, -⟩
    rfl
  have hdocs : List.Forall₂ Guesses (ns.map .felt) (xs.map .number) := by
    rw [List.forall₂_map_left_iff, List.forall₂_map_right_iff]
    refine (hns.imp ?_).flip
    rintro x n ⟨rfl, -⟩
    exact guesses_int n
  -- a number has a kind of its own in a document, so there is nothing to guess
  refine ⟨ns.map .felt, mapM_eq_ok.2 hfelts, guesses_array hdocs, misreadAll_of_forall ?_⟩
  intro field hfield
  obtain ⟨n, -, rfl⟩ := List.mem_map.1 hfield
  rfl

theorem guesses_decimals {ns : List Int} (h : ∀ n ∈ ns, 0 ≤ n) :
    Guesses (.array (ns.map .u256)) (.array (ns.map .decimal)) := by
  apply guesses_array
  rw [List.forall₂_map_left_iff, List.forall₂_map_right_iff, List.forall₂_same]
  intro n hn
  exact guesses_decimal (h n hn)

/-- The integers of a chain state that travel as decimal texts. -/
def ChainState.bigIntegers (state : ChainState) : List Int :=
  state.totalWork :: state.currentTarget :: state.powTargetHistory

theorem ChainState.guesses {state : ChainState} (h : state.Storable) :
    ∃ field, state.toField = .ok field ∧ Guesses field state.toJson ∧
      field.misread = state.bigIntegers.countP readsAsDigest := by
  obtain ⟨height, hheight, -⟩ := h.blockHeight
  obtain ⟨epoch, hepoch, -⟩ := h.epochStartTime
  obtain ⟨times, htimes, hguesses, hmisread⟩ := exists_felts h.prevTimestamps
  have hheight' : Guesses (.felt height) (.number state.blockHeight) := hheight ▸ guesses_int height
  have hepoch' : Guesses (.felt epoch) (.number state.epochStartTime) := hepoch ▸ guesses_int epoch
  refine ⟨.record
    [("block_height", .single (.felt height)),
     ("total_work", .single (.u256 state.totalWork)),
     ("best_block_hash", .single (.digest state.bestBlockHash)),
     ("current_target", .single (.u256 state.currentTarget)),
     ("prev_timestamps", .single (.array times)),
     ("epoch_start_time", .single (.felt epoch)),
     ("pow_target_history", .single (.array (state.powTargetHistory.map .u256)))],
    ?_, guesses_record ordered_names (by decide) rfl ?_, ?_⟩
  · rw [ChainState.toField, hheight, hepoch, htimes]
    rfl
  · exact .cons (by decide) hheight' <| .cons (by decide) (guesses_decimal h.totalWork) <|
      .cons (by decide) (guesses_hash h.bestBlockHash) <|
      .cons (by decide) (guesses_decimal h.currentTarget) <| .cons (by decide) hguesses <|
      .cons (by decide) hepoch' <| .cons (by decide) (guesses_decimals h.powTargetHistory) .nil
  · -- only the works and the targets are decimal texts
    simp only [Field.misread, Field.misreadEntries, Field.misreadSlot, hmisread, misreadAll_u256,
      bigIntegers, List.countP_cons]
    omega

/-! ## Blocks -/

theorem BlockHeader.guesses {b : Block} (h : b.Storable)
    (hnonce : Check.isHash b.header.nonce.toList = true) :
    ∃ field, b.header.toField = .ok field ∧ Guesses field b.header.toJson ∧ field.misread = 0 := by
  obtain ⟨version, hversion, -⟩ := h.version
  obtain ⟨time, htime, -⟩ := h.time
  obtain ⟨bits, hbits, -⟩ := h.bits
  obtain ⟨indices, hindices, hguesses, hmisread⟩ := exists_felts h.indices
  have hversion' : Guesses (.felt version) (.number b.header.version) :=
    hversion ▸ guesses_int version
  have htime' : Guesses (.felt time) (.number b.header.time) := htime ▸ guesses_int time
  have hbits' : Guesses (.felt bits) (.number b.header.bits) := hbits ▸ guesses_int bits
  refine ⟨.record
    [("version", .single (.felt version)),
     ("final_sapling_root", .single (.digest b.header.commitment)),
     ("time", .single (.felt time)),
     ("bits", .single (.felt bits)),
     ("nonce", .single (.digest b.header.nonce)),
     ("indices", .single (.array indices))],
    ?_, guesses_record ordered_names (by decide) rfl ?_, ?_⟩
  · rw [BlockHeader.toField, hversion, htime, hbits, hindices]
    rfl
  · exact .cons (by decide) hversion' <| .cons (by decide) (guesses_hash h.commitment) <|
      .cons (by decide) htime' <| .cons (by decide) hbits' <|
      .cons (by decide) (guesses_hash hnonce) <| .cons (by decide) hguesses .nil
  · simp only [Field.misread, Field.misreadEntries, Field.misreadSlot, hmisread]

theorem Block.guesses {b : Block} (h : b.Storable)
    (hnonce : Check.isHash b.header.nonce.toList = true) :
    ∃ field, b.toField = .ok field ∧ Guesses field b.toJson ∧ field.misread = 0 := by
  obtain ⟨header, hheader, hguesses, hmisread⟩ := BlockHeader.guesses h hnonce
  obtain ⟨variant, hvariant, -⟩ := h.variantId
  have hvariant' : Guesses (.felt variant) (.number b.variantId) := hvariant ▸ guesses_int variant
  have hmembers : GuessesAll
      [("variant_id", .single (.felt variant)), ("merkle_root", .single (.digest b.merkleRoot))]
      [("variant_id", .number b.variantId), ("merkle_root", .string b.merkleRoot)] :=
    .cons (by decide) hvariant' <| .cons (by decide) (guesses_hash h.merkleRoot) .nil
  have hdata := guesses_record ordered_dataNames (by decide) rfl hmembers
  refine ⟨.record
    [("header", .single header),
     ("data", .single (.record
       [("variant_id", .single (.felt variant)),
        ("merkle_root", .single (.digest b.merkleRoot))]))],
    ?_, guesses_record ordered_names (by decide) rfl ?_, ?_⟩
  · rw [Block.toField, hheader, hvariant]
    rfl
  · exact .cons (by decide) hguesses <| .cons (by decide) hdata .nil
  · simp only [Field.misread, Field.misreadEntries, Field.misreadSlot, hmisread]

/-! ## Chain data -/

/-- The integers of chain data that travel as decimal texts. -/
def ChainData.bigIntegers (d : ChainData) : List Int :=
  d.chainState.bigIntegers ++ d.expected.bigIntegers

theorem ChainData.guesses {d : ChainData} (h : d.Storable)
    (hnonces : ∀ b ∈ d.blocks, Check.isHash b.header.nonce.toList = true) :
    ∃ field, d.toField = .ok field ∧ Guesses field d.toJson ∧
      field.misread = d.bigIntegers.countP readsAsDigest := by
  obtain ⟨chainState, hchainState, hguesses, hmisread⟩ := ChainState.guesses h.chainState
  obtain ⟨expected, hexpected, hguesses', hmisread'⟩ := ChainState.guesses h.expected
  obtain ⟨blocks, hblocks⟩ :=
    exists_forall₂ fun b hb => Block.guesses (h.blocks b hb) (hnonces b hb)
  have hfields : d.blocks.mapM Block.toField = .ok blocks :=
    mapM_eq_ok.2 (hblocks.imp fun b field hb => hb.1)
  have hdocs : Guesses (.array blocks) (.array (d.blocks.map Block.toJson)) := by
    apply guesses_array
    rw [List.forall₂_map_right_iff]
    exact (hblocks.imp fun b field hb => hb.2.1).flip
  have hnone : Field.misreadAll blocks = 0 :=
    misreadAll_of_forall (forall_of_forall₂ hblocks fun b field hb => hb.2.2)
  refine ⟨.record
    [("chain_state", .single chainState), ("blocks", .single (.array blocks)),
     ("expected", .single expected)],
    ?_, guesses_record ordered_names (by decide) rfl ?_, ?_⟩
  · rw [ChainData.toField, hchainState, hexpected, hfields]
    rfl
  · exact .cons (by decide) hguesses <| .cons (by decide) hdocs <| .cons (by decide) hguesses' .nil
  · simp only [Field.misread, Field.misreadEntries, Field.misreadSlot, hmisread, hmisread', hnone,
      bigIntegers, List.countP_append]
    omega

/-- Chain data has the arguments of a field value, and its document those of what is guessed from the
texts of that field value. -/
theorem ChainData.exists_hexArgs {d : ChainData} (h : d.Storable)
    (hnonces : ∀ b ∈ d.blocks, Check.isHash b.header.nonce.toList = true) :
    ∃ field, d.toField = .ok field ∧ (Untagged.ofJson d.toJson).hexArgs = field.guessed.hexArgs ∧
      d.hexArgs = field.hexArgs ∧ field.misread = d.bigIntegers.countP readsAsDigest := by
  obtain ⟨field, hfield, hguesses, hmisread⟩ := guesses h hnonces
  refine ⟨field, hfield, ?_, ?_, hmisread⟩
  · rw [Guesses] at hguesses
    rw [Untagged.hexArgs, hguesses]
    rfl
  · rw [ChainData.hexArgs, hfield]
    rfl

end ProverInput
