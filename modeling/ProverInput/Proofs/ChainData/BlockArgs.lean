import ProverInput.Proofs.ChainData.Failures
import ProverInput.Proofs.ChainData.Nonces
import ProverInput.Proofs.Field.Guess

set_option autoImplicit false

/-! # Arguments of a block

A block that was formatted from a checked record has a field value, and all parts of it but one have
a layout: its numbers are far below the bound of field elements and its hashes have 64 digits. The
nonce is laid out as a hash too, but a record may carry one of any length. So the block has
arguments exactly when the record has no nonce or one of 64 digits (`hexArgs_ofHeader`).
-/

namespace ProverInput

open Layout (ofField ofFields ofDigest)

/-! ## Numbers -/

/-- A number that is a field element. -/
def Number.IsFelt (x : Number) : Prop :=
  ∃ n : Int, x = .int n ∧ n ∈ Set.Ico 0 (Layout.feltBound : Int)

theorem Number.isFelt_of_lt {n : Nat} (h : n < 2 ^ 32) : IsFelt (.int n) := by
  refine ⟨n, rfl, Int.natCast_nonneg n, ?_⟩
  rw [Layout.feltBound_eq]
  omega

theorem Check.IsWord.isFelt {x : Number} (h : IsWord x) : x.IsFelt := by
  obtain ⟨n, rfl, hn⟩ := h
  exact Number.isFelt_of_lt (by omega)

namespace Field

/-- A field element has a value with a layout. -/
theorem exists_feltOf {x : Number} (h : x.IsFelt) :
    ∃ field, feltOf x = .ok field ∧ ∃ l, ofField field = .ok l := by
  obtain ⟨n, rfl, hn⟩ := h
  refine ⟨.felt n, rfl, .scalar n, ?_⟩
  rw [ofField, Layout.inRange_eq_ok.2 ⟨rfl, hn⟩]
  rfl

theorem exists_feltsOf {xs : List Number} (h : ∀ x ∈ xs, x.IsFelt) :
    ∃ fields, xs.mapM feltOf = .ok fields ∧ ∃ ls, ofFields fields = .ok ls := by
  induction xs with
  | nil => exact ⟨[], rfl, [], rfl⟩
  | cons x xs ih =>
      obtain ⟨hx, hxs⟩ := List.forall_mem_cons.1 h
      obtain ⟨field, hfield, l, hl⟩ := exists_feltOf hx
      obtain ⟨fields, hfields, ls, hls⟩ := ih hxs
      refine ⟨field :: fields, ?_, l :: ls, Layout.ofFields_cons_eq_ok.2 ⟨l, ls, hl, hls, rfl⟩⟩
      rw [mapM_eq_ok] at hfields ⊢
      exact .cons hfield hfields

end Field

/-! ## Digests -/

/-- A run of digits is a digest when there are 64 of them. -/
theorem Layout.ofDigest_digits {s : String} (hall : s.toList.all Hex.isDigit = true) :
    (s.toList.length = 64 ∧ ∃ l, ofDigest s = .ok l) ∨
      (s.toList.length ≠ 64 ∧ ofDigest s = .error (.notDigest s)) := by
  by_cases hlength : s.toList.length = 64
  · obtain ⟨l, hl, -⟩ := ofDigest_hash (Hex.isHash_iff.2 ⟨hlength, hall⟩)
    exact .inl ⟨hlength, l, hl⟩
  · right
    refine ⟨hlength, ?_⟩
    have hbody : (Hex.normalize s).toList.length ≠ 64 := by
      rwa [Hex.toList_normalize hall, List.length_map]
    have hbytes : digestBytes s = .error (.notDigest s) := by
      unfold digestBytes
      simp only
      split
      · rw [if_neg hbody]
      · rfl
    rw [ofDigest, hbytes]
    rfl

/-- Normal forms have the digits behind the prefix. -/
theorem Hex.length_normalize {s : String} (h : Check.isHexText s.toList = true) :
    (normalize s).toList.length = (dropMark s.toList).length := by
  rw [normalize, String.toList_ofList, lower_digits (all_isDigit_dropMark h), List.length_map]

/-! ## Blocks -/

namespace Block

/-- A block all of whose parts have a layout, except perhaps its nonce. -/
structure Fits (b : Block) : Prop where
  version : b.header.version.IsFelt
  commitment : Check.isHash b.header.commitment.toList = true
  time : b.header.time.IsFelt
  bits : b.header.bits.IsFelt
  indices : ∀ index ∈ b.header.indices, index.IsFelt
  variantId : b.variantId.IsFelt
  merkleRoot : Check.isHash b.merkleRoot.toList = true

/-- The header has a value, and its layout comes from that of the nonce. -/
theorem Fits.exists_header {b : Block} (h : b.Fits) :
    ∃ field build, b.header.toField = .ok field ∧
      ofField field = build <$> ofDigest b.header.nonce := by
  obtain ⟨version, hversion, v, hv⟩ := Field.exists_feltOf h.version
  obtain ⟨time, htime, t, ht⟩ := Field.exists_feltOf h.time
  obtain ⟨bits, hbits, w, hw⟩ := Field.exists_feltOf h.bits
  obtain ⟨indices, hindices, is, his⟩ := Field.exists_feltsOf h.indices
  obtain ⟨c, hc, -⟩ := Layout.ofDigest_hash h.commitment
  have hfield : b.header.toField = .ok (.record
      [("version", .single version),
       ("final_sapling_root", .single (.digest b.header.commitment)),
       ("time", .single time),
       ("bits", .single bits),
       ("nonce", .single (.digest b.header.nonce)),
       ("indices", .single (.array indices))]) := by
    rw [BlockHeader.toField, hversion, htime, hbits, hindices]
    rfl
  refine ⟨_, fun l => .tuple [v, c, t, w, l, .sequence is.length is], hfield, ?_⟩
  simp only [ofField, Layout.ofEntries, Layout.ofSlot, hv, hc, ht, hw, his]
  cases ofDigest b.header.nonce with
  | error e => rfl
  | ok l => rfl

/-- So does the layout of the whole block. -/
theorem Fits.exists_toField {b : Block} (h : b.Fits) :
    ∃ field build, b.toField = .ok field ∧ ofField field = build <$> ofDigest b.header.nonce := by
  obtain ⟨header, build, hheader, hlayout⟩ := h.exists_header
  obtain ⟨variant, hvariant, v, hv⟩ := Field.exists_feltOf h.variantId
  obtain ⟨m, hm, -⟩ := Layout.ofDigest_hash h.merkleRoot
  have hfield : b.toField = .ok (.record
      [("header", .single header),
       ("data", .single (.record
         [("variant_id", .single variant),
          ("merkle_root", .single (.digest b.merkleRoot))]))]) := by
    rw [Block.toField, hheader, hvariant]
    rfl
  refine ⟨_, fun l => .tuple [build l, .tuple [v, m]], hfield, ?_⟩
  simp only [ofField, Layout.ofEntries, Layout.ofSlot, hlayout, hv, hm]
  cases ofDigest b.header.nonce with
  | error e => rfl
  | ok l => rfl

end Block

/-- Indices of the main network have 21 bits. -/
theorem Equihash.decodeText_range {text : String} {found : List Int}
    (h : mainnet.decodeText text = .ok found) : ∀ index ∈ found, 0 ≤ index ∧ index < 2 ^ 21 := by
  obtain ⟨bytes, -, h⟩ := bind_eq_ok.1 h
  have hdecode := h
  unfold decode at h
  split at h
  · cases h
    simp
  · split at h
    · rename_i hsame
      obtain ⟨xs, hxs, -, hsmall, -⟩ := mainnet_sized.encode_decode (Number.same_iff.1 hsame).1
      cases hxs.symm.trans hdecode
      intro index hindex
      obtain ⟨x, hx, rfl⟩ := List.mem_map.1 hindex
      exact ⟨Int.natCast_nonneg x, by exact_mod_cast hsmall x hx⟩
    · cases h

/-- Blocks that are formatted from checked records fit. -/
theorem Block.fits_ofHeader {params : Params} {header : Header} (hheader : header.Valid) {b : Block}
    (h : Block.ofHeader params header = .ok b) : b.Fits := by
  have hstorable := storable_ofHeader hheader h
  have hcommitment := hstorable.commitment
  have hmerkleRoot := hstorable.merkleRoot
  obtain ⟨found, hfound, h⟩ := bind_eq_ok.1 h
  cases h
  obtain ⟨bits, hbits, hfound⟩ := bind_eq_ok.1 hfound
  obtain ⟨indices, hindices, hfound⟩ := bind_eq_ok.1 hfound
  cases hfound
  exact {
    version := hheader.version.isFelt
    commitment := hcommitment
    time := hheader.time.isFelt
    bits := Number.isFelt_of_lt (Compact.parse_lt (mapError_eq_ok.1 hbits))
    indices := by
      intro index hindex
      obtain ⟨n, hn, rfl⟩ := List.mem_map.1 hindex
      obtain ⟨hlow, hhigh⟩ := Equihash.decodeText_range hindices n hn
      obtain ⟨m, rfl⟩ := Int.eq_ofNat_of_zero_le hlow
      exact Number.isFelt_of_lt (by omega)
    variantId := Number.isFelt_of_lt (by norm_num)
    merkleRoot := hmerkleRoot }

namespace Block

/-- A block that was formatted from a checked record has arguments exactly when the record has no
nonce or one of 64 digits. Otherwise the nonce is refused. -/
theorem hexArgs_ofHeader {params : Params} {doc : Json} {header : Header}
    (hdoc : Header.ofJson doc = .ok header) {b : Block}
    (h : Block.ofHeader params header = .ok b) :
    ∃ field, b.toField = .ok field ∧
      ((∃ args, field.hexArgs = .ok args) ↔
        ∀ nonce, header.nonce = some nonce → (Hex.dropMark nonce.toList).length = 64) ∧
      ∀ e, field.hexArgs = .error e → e = .conversion (.notDigest b.header.nonce) := by
  have hvalid := Header.valid_of_ofJson hdoc
  obtain ⟨field, build, hfield, hlayout⟩ := (fits_ofHeader hvalid h).exists_toField
  have hnonce := nonce_ofHeader h
  have htext : Check.isHexText (header.nonce.getD zeroHash).toList = true := by
    cases hgiven : header.nonce with
    | none => exact Hex.isHexText_of_digits (Hex.isHash_iff.1 isHash_zeroHash).2
    | some nonce => exact hvalid.nonce nonce hgiven
  have hlength : b.header.nonce.toList.length = 64 ↔
      ∀ nonce, header.nonce = some nonce → (Hex.dropMark nonce.toList).length = 64 := by
    rw [hnonce, Hex.length_normalize htext]
    cases header.nonce with
    | none => exact iff_of_true (by decide +kernel) (by simp)
    | some nonce => simp
  have hdigits : b.header.nonce.toList.all Hex.isDigit = true := by
    rw [hnonce]
    exact Hex.all_isDigit_normalize htext
  refine ⟨field, hfield, ?_⟩
  rw [← hlength]
  rcases Layout.ofDigest_digits hdigits with ⟨hlong, l, hl⟩ | ⟨hshort, hrefused⟩
  · rw [hl] at hlayout
    obtain ⟨args, hargs, -⟩ := Field.hexArgs_of_layout hlayout
    refine ⟨⟨fun _ => hlong, fun _ => ⟨args, hargs⟩⟩, ?_⟩
    intro e he
    cases hargs.symm.trans he
  · rw [hrefused] at hlayout
    have hargs := Field.hexArgs_of_error hlayout
    refine ⟨⟨?_, fun hlong => absurd hlong hshort⟩, ?_⟩
    · rintro ⟨args, hok⟩
      cases hargs.symm.trans hok
    · intro e he
      cases hargs.symm.trans he
      rfl

/-- A record with a nonce. -/
def bearing (nonce : String) : Header :=
  { ChainData.linking 1 'a' 'b' with nonce := some nonce }

def prefixedNonce : String := String.ofList ('0' :: 'x' :: List.replicate 64 'F')

/-- A nonce of 64 digits behind a prefix. -/
theorem hexArgs_ofHeader_prefixed :
    ∃ b, (Header.ofJson (bearing prefixedNonce).toJson = .ok (bearing prefixedNonce) ∧
        Block.ofHeader .mainnet (bearing prefixedNonce) = .ok b) ∧
      ∃ field args, b.toField = .ok field ∧ field.hexArgs = .ok args := by
  have hdoc : Header.ofJson (bearing prefixedNonce).toJson = .ok (bearing prefixedNonce) := by rfl
  obtain ⟨b, hb⟩ := exists_of_isSome
    (by decide +kernel : (Block.ofHeader .mainnet (bearing prefixedNonce)).toOption.isSome = true)
  obtain ⟨field, hfield, hiff, -⟩ := hexArgs_ofHeader hdoc hb
  obtain ⟨args, hargs⟩ := hiff.2 (by rintro _ ⟨⟩; rfl)
  exact ⟨b, ⟨hdoc, hb⟩, field, args, hfield, hargs⟩

/-- A nonce of one byte passes the check of its record and is formatted, and the block has no
arguments. -/
theorem hexArgs_ofHeader_short :
    Header.ofJson (bearing "00").toJson = .ok (bearing "00") ∧
      ∃ b field, Block.ofHeader .mainnet (bearing "00") = .ok b ∧ b.toField = .ok field ∧
        field.hexArgs = .error (.conversion (.notDigest "00")) := by
  have hdoc : Header.ofJson (bearing "00").toJson = .ok (bearing "00") := rfl
  obtain ⟨b, hb⟩ := exists_of_isSome
    (by decide +kernel : (Block.ofHeader .mainnet (bearing "00")).toOption.isSome = true)
  obtain ⟨field, build, hfield, hlayout⟩ :=
    (fits_ofHeader (Header.valid_of_ofJson hdoc) hb).exists_toField
  have hnonce : b.header.nonce = "00" := (nonce_ofHeader hb).trans (by decide +kernel)
  have hrefused : ofDigest "00" = .error (.notDigest "00") := by rfl
  rw [hnonce, hrefused] at hlayout
  exact ⟨hdoc, b, field, hb, hfield, Field.hexArgs_of_error hlayout⟩

end Block

end ProverInput
