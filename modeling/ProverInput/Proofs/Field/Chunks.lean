import ProverInput.Proofs.Field.Bytes

set_option autoImplicit false

/-! # Byte strings in chunks

A byte string is cut into chunks of 31 bytes from the front, and what is left is written as one more
integer behind them, together with its number of bytes. Chunks and remainder forget leading zeros,
but each is written at a known width, so the bytes can be put together again (`joined_parts`), and
parts that fit their widths are found again in the bytes (`ofBytes_joined`). So the layouts of byte
strings are the parts that fit, and every byte string has its own.
-/

namespace ProverInput.Layout

open Hex (bigEndian bigEndianBytes bigEndian_bigEndianBytes length_bigEndianBytes)

/-! ## Widths -/

/-- Numbers that fit are the same when their bytes are. -/
theorem eq_of_bigEndianBytes {width : Nat} {m n : Int} (hm : m ∈ Set.Ico 0 (256 ^ width))
    (hn : n ∈ Set.Ico 0 (256 ^ width))
    (h : bigEndianBytes width m.toNat = bigEndianBytes width n.toNat) : m = n := by
  have hfits : ∀ v ∈ Set.Ico (0 : Int) (256 ^ width), v.toNat < 256 ^ width := by
    rintro v ⟨hpos, hlt⟩
    zify
    rwa [Int.toNat_of_nonneg hpos]
  have hvalue := congrArg bigEndian h
  rw [bigEndian_bigEndianBytes (hfits m hm), bigEndian_bigEndianBytes (hfits n hn)] at hvalue
  rw [← Int.toNat_of_nonneg hm.1, ← Int.toNat_of_nonneg hn.1, hvalue]

/-! ## Parts -/

theorem length_chunks_bytes (chunks : List Int) :
    (chunks.flatMap fun c => bigEndianBytes chunkLength c.toNat).length =
      chunks.length * chunkLength := by
  induction chunks with
  | nil => rfl
  | cons c chunks ih =>
      rw [List.flatMap_cons, List.length_append, length_bigEndianBytes, ih, List.length_cons,
        Nat.add_one_mul, Nat.add_comm]

theorem length_joined (chunks : List Int) (remainder remainderLength : Int) :
    (joined chunks remainder remainderLength).length =
      chunks.length * chunkLength + remainderLength.toNat := by
  rw [joined, List.length_append, length_chunks_bytes, length_bigEndianBytes]

theorem eq_of_chunks_bytes {chunks chunks' : List Int}
    (h : ∀ c ∈ chunks, c ∈ Set.Ico 0 (256 ^ chunkLength))
    (h' : ∀ c ∈ chunks', c ∈ Set.Ico 0 (256 ^ chunkLength))
    (hlength : chunks.length = chunks'.length)
    (hbytes : chunks.flatMap (fun c => bigEndianBytes chunkLength c.toNat) =
      chunks'.flatMap fun c => bigEndianBytes chunkLength c.toNat) : chunks = chunks' := by
  induction chunks generalizing chunks' with
  | nil => exact (List.eq_nil_of_length_eq_zero hlength.symm).symm
  | cons c chunks ih =>
      obtain ⟨c', chunks', rfl⟩ := List.exists_cons_of_length_eq_add_one hlength.symm
      rw [List.forall_mem_cons] at h h'
      rw [List.flatMap_cons, List.flatMap_cons] at hbytes
      obtain ⟨hfirst, hrest⟩ := List.append_inj hbytes (by
        rw [length_bigEndianBytes, length_bigEndianBytes])
      rw [eq_of_bigEndianBytes h.1 h'.1 hfirst, ih h.2 h'.2 (Nat.succ.inj hlength) hrest]

namespace Chunked

variable {limit : Nat} {count remainder remainderLength : Int} {chunks : List Int}

theorem chunks_fit (h : Chunked limit count chunks remainder remainderLength) :
    ∀ c ∈ chunks, c ∈ Set.Ico 0 (256 ^ chunkLength) := by
  have hpow : (256 : Int) ^ chunkLength = 2 ^ 248 := by norm_num [chunkLength]
  rw [hpow]
  exact h.chunks_mem

/-- How many bytes there are in all tells the number of chunks and the length of the remainder. -/
theorem lengths (h : Chunked limit count chunks remainder remainderLength) {bytes : List UInt8}
    (hjoined : joined chunks remainder remainderLength = bytes) :
    chunks.length = bytes.length / chunkLength ∧
      remainderLength = (bytes.length % chunkLength : Nat) := by
  have hlength := length_joined chunks remainder remainderLength
  have hshort := h.length_mem
  rw [hjoined] at hlength
  rw [Set.mem_Icc] at hshort
  unfold chunkLength at hlength ⊢
  omega

end Chunked

/-- The parts of a byte string, which fit their widths. -/
theorem joined_parts (bytes : List UInt8) :
    ∃ chunks remainder,
      ofBytes bytes = .byteChunks (bytes.length / chunkLength : Nat) chunks remainder
        (bytes.length % chunkLength : Nat) ∧
      chunks.length = bytes.length / chunkLength ∧
      Chunked (bytes.length + 1) (bytes.length / chunkLength : Nat) chunks remainder
        (bytes.length % chunkLength : Nat) ∧
      joined chunks remainder (bytes.length % chunkLength : Nat) = bytes := by
  obtain ⟨chunks, remainder, remainderLength, hparts, hjoined⟩ := joined_ofBytes bytes
  have hbounded : (ofBytes bytes).Bounded (bytes.length + 1) := bounded_ofBytes (Nat.lt_succ_self _)
  rw [hparts] at hbounded
  obtain ⟨hcount, hrest⟩ := Chunked.lengths hbounded hjoined
  rw [hrest] at hparts hbounded hjoined
  exact ⟨chunks, remainder, hcount ▸ hparts, hcount, hcount ▸ hbounded, hjoined⟩

/-- Parts that fit their widths are those of the bytes that they write. -/
theorem ofBytes_joined {limit : Nat} {count remainder remainderLength : Int} {chunks : List Int}
    (h : Chunked limit count chunks remainder remainderLength) :
    ofBytes (joined chunks remainder remainderLength) =
      .byteChunks count chunks remainder remainderLength := by
  obtain ⟨chunks', remainder', hparts, hcount', hfits', hjoined'⟩ :=
    joined_parts (joined chunks remainder remainderLength)
  obtain ⟨hcount, hrest⟩ := h.lengths rfl
  rw [← hrest] at hparts hfits' hjoined'
  have hlength : chunks'.length = chunks.length := hcount'.trans hcount.symm
  -- chunks and remainder take up the same bytes in both
  obtain ⟨hchunks, hremainder⟩ := List.append_inj hjoined' (by
    rw [length_chunks_bytes, length_chunks_bytes, hlength])
  rw [hparts, ← hcount, ← h.count,
    eq_of_chunks_bytes hfits'.chunks_fit h.chunks_fit hlength hchunks,
    eq_of_bigEndianBytes hfits'.remainder_mem h.remainder_mem hremainder]

/-- Different byte strings have different parts. -/
theorem ofBytes_inj {bytes bytes' : List UInt8} :
    ofBytes bytes = ofBytes bytes' ↔ bytes = bytes' := by
  constructor
  · intro h
    obtain ⟨chunks, remainder, hparts, -, -, hjoined⟩ := joined_parts bytes
    obtain ⟨chunks', remainder', hparts', -, -, hjoined'⟩ := joined_parts bytes'
    rw [hparts, hparts'] at h
    injection h with _ hchunks hremainder hrest
    rw [← hjoined, ← hjoined', hchunks, hremainder, hrest]
  · exact congrArg ofBytes

/-- The layout of a byte string counts the chunks and the bytes of the remainder, and the bytes can
be written from it. Every layout whose parts fit their widths is that of the bytes it writes, so no
two byte strings share a layout, and zeros in front or behind show in it. -/
theorem ofBytes_chunks :
    (∀ bytes, ∃ chunks remainder,
      ofBytes bytes = .byteChunks (bytes.length / 31 : Nat) chunks remainder
        (bytes.length % 31 : Nat) ∧
      chunks.length = bytes.length / 31 ∧
      Chunked (bytes.length + 1) (bytes.length / 31 : Nat) chunks remainder
        (bytes.length % 31 : Nat) ∧
      chunks.flatMap (fun c => bigEndianBytes 31 c.toNat) ++
        bigEndianBytes (bytes.length % 31) remainder.toNat = bytes) ∧
    (∀ limit count chunks remainder remainderLength,
      Chunked limit count chunks remainder remainderLength →
      ofBytes (joined chunks remainder remainderLength) =
        .byteChunks count chunks remainder remainderLength) ∧
    (∀ bytes bytes', ofBytes bytes = ofBytes bytes' ↔ bytes = bytes') ∧
    ∀ bytes front behind,
      ofBytes (List.replicate front 0 ++ bytes ++ List.replicate behind 0) = ofBytes bytes ↔
        front = 0 ∧ behind = 0 := by
  refine ⟨joined_parts, fun _ _ _ _ _ => ofBytes_joined, fun _ _ => ofBytes_inj, ?_⟩
  intro bytes front behind
  rw [ofBytes_inj]
  constructor
  · intro h
    have hlength := congrArg List.length h
    simp only [List.length_append, List.length_replicate] at hlength
    omega
  · rintro ⟨rfl, rfl⟩
    rw [List.replicate_zero, List.nil_append, List.append_nil]

/-- A chunk and a remainder that begin with zeros, a chunk of nothing but zeros, and the zero that
makes a remainder a chunk. -/
theorem ofBytes_chunks_zeros :
    let zeros : List UInt8 := List.replicate 30 0
    ofBytes (zeros ++ [7, 0, 5]) = .byteChunks 1 [7] 5 2 ∧
      ofBytes (zeros ++ [0]) = .byteChunks 1 [0] 0 0 ∧
      ofBytes ([] ++ zeros ++ [0]) ≠ ofBytes zeros := by
  intro zeros
  have hseven : Chunked 2 1 [7] 5 2 :=
    ⟨rfl, by decide, by simp, by simp, ⟨by norm_num, by decide⟩⟩
  have hzero : Chunked 2 1 [0] 0 0 := ⟨rfl, by decide, by simp, by simp, by simp⟩
  refine ⟨ofBytes_chunks.2.1 2 1 [7] 5 2 hseven, ofBytes_chunks.2.1 2 1 [0] 0 0 hzero, fun h => ?_⟩
  exact absurd ((ofBytes_chunks.2.2.2 zeros 0 1).1 h).2 (by decide)

end ProverInput.Layout
