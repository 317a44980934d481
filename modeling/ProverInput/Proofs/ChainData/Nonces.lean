import ProverInput.Proofs.ChainData.Follow
import ProverInput.Proofs.ChainData.Generate
import ProverInput.Proofs.Field.Digest
import ProverInput.Proofs.Field.Parts
import ProverInput.Proofs.Untagged.Texts
import ProverInput.ProgramArgs

set_option autoImplicit false

/-! # Nonces

A record may carry a nonce of any number of hexadecimal digits, but only one of 64 is a digest.
Chain data has arguments only if all its nonces are digests (`isHash_nonce_of_hexArgs`). Its
document has some also if a nonce reads as an integer, which has decimal digits alone
(`nonce_of_untagged`). Where all records have digests for nonces or none, so has whatever is
generated from them (`isHash_nonce_of_generate`).
-/

namespace ProverInput

theorem isHash_of_ofDigest {s : String} (hall : s.toList.all Hex.isDigit = true) {layout : Layout}
    (h : Layout.ofDigest s = .ok layout) : Check.isHash s.toList = true := by
  obtain ⟨bytes, hbytes, -⟩ := bind_eq_ok.1 h
  unfold Layout.digestBytes at hbytes
  simp only [Hex.toList_normalize hall, List.length_map] at hbytes
  split at hbytes
  · split at hbytes
    · rename_i hlength
      exact Hex.isHash_iff.2 ⟨hlength, hall⟩
    · cases hbytes
  · cases hbytes

namespace ChainData

variable {d : ChainData} {args : List HexArg}

/-- Every nonce of chain data that has arguments is a digest. -/
theorem isHash_nonce_of_hexArgs (h : d.Storable) (hargs : d.hexArgs = .ok args) :
    ∀ b ∈ d.blocks, Check.isHash b.header.nonce.toList = true := by
  obtain ⟨field, hfield, hargs⟩ := bind_eq_ok.1 hargs
  obtain ⟨layout, hlayout, -⟩ := bind_eq_ok.1 hargs
  have hlayout := mapError_eq_ok.1 hlayout
  obtain ⟨chainState, -, hfield⟩ := bind_eq_ok.1 (mapError_eq_ok.1 hfield)
  obtain ⟨blocks, hblocks, hfield⟩ := bind_eq_ok.1 hfield
  obtain ⟨expected, -, hfield⟩ := bind_eq_ok.1 hfield
  cases hfield
  intro b hb
  obtain ⟨field, hmem, hblock⟩ := exists_of_mapM hblocks hb
  obtain ⟨header, hheader, hblock⟩ := bind_eq_ok.1 hblock
  obtain ⟨variant, -, hblock⟩ := bind_eq_ok.1 hblock
  cases hblock
  obtain ⟨version, -, hheader⟩ := bind_eq_ok.1 hheader
  obtain ⟨time, -, hheader⟩ := bind_eq_ok.1 hheader
  obtain ⟨bits, -, hheader⟩ := bind_eq_ok.1 hheader
  obtain ⟨indices, -, hheader⟩ := bind_eq_ok.1 hheader
  cases hheader
  -- down to the nonce: the blocks, the block, its header
  obtain ⟨_, hlayout⟩ := Layout.exists_of_mem_record hlayout
    (List.mem_cons_of_mem _ List.mem_cons_self)
  obtain ⟨_, hlayout⟩ := Layout.exists_of_mem_array hlayout hmem
  obtain ⟨_, hlayout⟩ := Layout.exists_of_mem_record hlayout List.mem_cons_self
  obtain ⟨_, hlayout⟩ := Layout.exists_of_mem_record hlayout
    (List.mem_cons_of_mem _ (List.mem_cons_of_mem _ (List.mem_cons_of_mem _
      (List.mem_cons_of_mem _ List.mem_cons_self))))
  rw [Layout.ofField] at hlayout
  exact isHash_of_ofDigest (h.blocks b hb).nonce hlayout

/-- Every nonce of chain data whose document has arguments is a digest or reads as an integer. -/
theorem nonce_of_untagged (h : d.Storable)
    (hargs : (Untagged.ofJson d.toJson).hexArgs = .ok args) :
    ∀ b ∈ d.blocks, Check.isHash b.header.nonce.toList = true ∨
      Untagged.ReadsAsInteger b.header.nonce := by
  intro b hb
  obtain ⟨field, hfield, -⟩ := bind_eq_ok.1 hargs
  obtain ⟨_, hblocks⟩ := Untagged.exists_of_mem_object (mapError_eq_ok.1 hfield)
    (List.mem_cons_of_mem _ List.mem_cons_self) (by decide)
  obtain ⟨_, hblock⟩ := Untagged.exists_of_mem_array hblocks (List.mem_map_of_mem hb)
  obtain ⟨_, hheader⟩ := Untagged.exists_of_mem_object hblock List.mem_cons_self (by decide)
  obtain ⟨_, hnonce⟩ := Untagged.exists_of_mem_object hheader
    (List.mem_cons_of_mem _ (List.mem_cons_of_mem _ (List.mem_cons_of_mem _
      (List.mem_cons_of_mem _ List.mem_cons_self)))) (by decide)
  rw [Untagged.ofJson, Untagged.toField] at hnonce
  exact Untagged.textField_digits (h.blocks b hb).nonce hnonce

end ChainData

/-! ## Nonces of records -/

/-- The nonce of a block is that of its record. -/
theorem Block.nonce_ofHeader {params : Params} {header : Header} {b : Block}
    (h : Block.ofHeader params header = .ok b) :
    b.header.nonce = Hex.normalize (header.nonce.getD zeroHash) := by
  obtain ⟨found, hfound, h⟩ := bind_eq_ok.1 h
  cases h
  obtain ⟨bits, hbits, hfound⟩ := bind_eq_ok.1 hfound
  obtain ⟨indices, hindices, hfound⟩ := bind_eq_ok.1 hfound
  cases hfound
  rfl

/-- A record whose nonce is a digest, if it has one. -/
def Header.HasDigestNonce (h : Header) : Prop :=
  ∀ nonce, h.nonce = some nonce → Layout.IsDigest nonce

theorem Block.isHash_nonce_ofHeader {params : Params} {header : Header} {b : Block}
    (h : Block.ofHeader params header = .ok b) (hnonce : header.HasDigestNonce) :
    Check.isHash b.header.nonce.toList = true := by
  rw [nonce_ofHeader h, Hex.isHash_normalize_iff]
  cases hgiven : header.nonce with
  | none =>
      rw [Option.getD_none, Hex.dropMark_digits (Hex.isHash_iff.1 isHash_zeroHash).2]
      exact isHash_zeroHash
  | some nonce => exact Layout.isDigest_iff.1 (hnonce nonce hgiven)

namespace ChainData

/-- Chain data from records whose nonces are digests has digests for nonces. -/
theorem isHash_nonce_of_generate {archive : Archive}
    (hnonces : ∀ h ∈ archive.headers, h.HasDigestNonce) {params : Params} {start count : Number}
    {d : ChainData} (h : (generate archive.source params start count).outcome = .ok d) :
    ∀ b ∈ d.blocks, Check.isHash b.header.nonce.toList = true := by
  obtain ⟨head, initial, headers, -, hmade⟩ := generate_eq_ok.1 h
  have hfollowed : ∀ header ∈ headers, header.HasDigestNonce :=
    forall_of_isChain (fun hash header hheader => hnonces header (Archive.mem_of_headerOf hheader))
      hmade.follows
  have hpairs := (List.forall₂_and_left _ _).2 ⟨hfollowed, mapM_eq_ok.1 hmade.formats⟩
  exact forall_of_forall₂ hpairs fun header b ⟨hnonce, hblock⟩ =>
    Block.isHash_nonce_ofHeader hblock hnonce

end ChainData

end ProverInput
