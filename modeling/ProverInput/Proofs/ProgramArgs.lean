import ProverInput.Proofs.ChainData.Untagged

set_option autoImplicit false

/-! # Arguments of chain data and of its document

Chain data reaches the prover either with its types or by way of a document that has lost them. Both
ways fail on the same leaf with the same error. Where they succeed, they agree exactly when no work
and no target has 64 decimal digits, which would read as a digest (`untagged_hexArgs`).
-/

namespace ProverInput.ChainData

theorem countP_readsAsDigest_eq_zero {ns : List Int} :
    ns.countP readsAsDigest = 0 ↔ ∀ n ∈ ns, Number.digitCount n.toNat ≠ 64 := by
  simp [List.countP_eq_zero, readsAsDigest]

/-- The two ways on the document itself, before it is written. -/
theorem hexArgs_ofJson {d : ChainData} (h : d.Storable)
    (hnonces : ∀ b ∈ d.blocks, Check.isHash b.header.nonce.toList = true) :
    (∀ e, d.hexArgs = .error e → (Untagged.ofJson d.toJson).hexArgs = .error e) ∧
      ∀ args, d.hexArgs = .ok args → ∃ args', (Untagged.ofJson d.toJson).hexArgs = .ok args' ∧
        (args' = args ↔ ∀ n ∈ d.bigIntegers, Number.digitCount n.toNat ≠ 64) := by
  obtain ⟨field, -, huntagged, htyped, hmisread⟩ := exists_hexArgs h hnonces
  have hlonger := field.hexArgs_guessed
  rw [huntagged, htyped]
  generalize htagged : field.hexArgs = tagged at hlonger
  generalize hguessed : field.guessed.hexArgs = guessed at hlonger
  cases hlonger with
  | error e =>
      refine ⟨fun e' he => he, ?_⟩
      intro args hargs
      cases hargs
  | @ok args args' hlen =>
      refine ⟨?_, ?_⟩
      · intro e he
        cases he
      rintro _ ⟨⟩
      refine ⟨args', rfl, ?_⟩
      rw [← countP_readsAsDigest_eq_zero, ← hmisread]
      constructor
      · -- equal lists have equal lengths, so no integer was misread
        rintro rfl
        omega
      · intro hnone
        rw [Field.guessed_of_misread hnone, htagged] at hguessed
        exact (Except.ok.inj hguessed).symm

/-- The arguments of chain data and those of its document, written in either layout and read back.
-/
theorem untagged_hexArgs {d : ChainData} (h : d.Storable)
    (hnonces : ∀ b ∈ d.blocks, Check.isHash b.header.nonce.toList = true) {text : String}
    (htext : text = d.toJson.compactText ∨ text = d.toJson.indentedText) :
    ∃ doc, Json.read text = some doc ∧
      (∀ e, d.hexArgs = .error e → (Untagged.ofJson doc).hexArgs = .error e) ∧
      ∀ args, d.hexArgs = .ok args → ∃ args', (Untagged.ofJson doc).hexArgs = .ok args' ∧
        (args' = args ↔ ∀ n ∈ d.bigIntegers, Number.digitCount n.toNat ≠ 64) := by
  refine ⟨d.toJson, ?_, hexArgs_ofJson h hnonces⟩
  rcases htext with rfl | rfl
  · exact Json.read_compactText (plain_toJson h)
  · exact Json.read_indentedText (plain_toJson h)

/-- Chain data of one block whose total work has 64 digits. -/
def sample : ChainData :=
  let state : ChainState := ⟨2, 10 ^ 63, zeroHash, 5, [1600000000], 1477953400, [5]⟩
  ⟨state, [⟨⟨4, zeroHash, 1600000150, 0x1d00ffff, zeroHash, []⟩, 0, zeroHash⟩],
    { state with blockHeight := 3 }⟩

theorem storable_sample : sample.Storable := by
  have htimes : ∀ time ∈ [(1600000000 : Number)], time.IsWhole := by
    intro time htime
    rw [List.mem_singleton.1 htime]
    exact Number.isWhole_of_le (by decide)
  have htargets : ∀ target ∈ [(5 : Int)], 0 ≤ target := by decide
  refine ⟨⟨?_, by decide, isHash_zeroHash, by decide, htimes, ?_, htargets⟩, ?_,
    ⟨?_, by decide, isHash_zeroHash, by decide, htimes, ?_, htargets⟩⟩
  case refine_3 =>
    intro b hb
    rw [List.mem_singleton.1 hb]
    exact ⟨Number.isWhole_of_le (by decide), isHash_zeroHash, Number.isWhole_of_le (by decide),
      Number.isWhole_of_le (by decide), (Hex.isHash_iff.1 isHash_zeroHash).2, by simp,
      Number.isWhole_of_le (by decide), isHash_zeroHash⟩
  all_goals exact Number.isWhole_of_le (by decide)

/-- Both ways give arguments for the sample. -/
theorem untagged_hexArgs_sample :
    (sample.Storable ∧ ∀ b ∈ sample.blocks, Check.isHash b.header.nonce.toList = true) ∧
      ∃ doc args args', Json.read sample.toJson.indentedText = some doc ∧
        sample.hexArgs = .ok args ∧ (Untagged.ofJson doc).hexArgs = .ok args' ∧
        (args' = args ↔ ∀ n ∈ sample.bigIntegers, Number.digitCount n.toNat ≠ 64) := by
  have hnonces : ∀ b ∈ sample.blocks, Check.isHash b.header.nonce.toList = true := by
    intro b hb
    rw [List.mem_singleton.1 hb]
    exact isHash_zeroHash
  obtain ⟨args, hargs⟩ := exists_of_isSome (by decide +kernel : sample.hexArgs.toOption.isSome)
  obtain ⟨doc, hdoc, -, hboth⟩ := untagged_hexArgs storable_sample hnonces (.inr rfl)
  obtain ⟨args', hargs', hsame⟩ := hboth args hargs
  exact ⟨⟨storable_sample, hnonces⟩, doc, args, args', hdoc, hargs, hargs', hsame⟩

end ProverInput.ChainData
