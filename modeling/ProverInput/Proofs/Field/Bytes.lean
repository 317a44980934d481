import Mathlib
import ProverInput.Proofs.Field.Bounds
import ProverInput.Proofs.Text.Body

set_option autoImplicit false

/-! # Byte strings from their integers

Chunks and words forget leading zeros, but their widths are known, so the bytes come back: those of
a byte string from its chunks, its remainder and the length of the remainder (`joined_ofBytes`),
those of a digest, and with them its text up to prefix and case, from its eight words
(`textOfWords_of_ofDigest`).
-/

namespace ProverInput.Layout

open Hex (bigEndian bigEndianBytes bigEndianBytes_bigEndian)

/-! ## Chunks -/

/-- The bytes of whole chunks and a remainder. -/
def joined (chunks : List Int) (remainder remainderLength : Int) : List UInt8 :=
  chunks.flatMap (fun c => bigEndianBytes chunkLength c.toNat) ++
    bigEndianBytes remainderLength.toNat remainder.toNat

theorem bytes_chunk {bytes : List UInt8} {i : Nat} (h : (i + 1) * chunkLength ≤ bytes.length) :
    bigEndianBytes chunkLength (chunk bytes i).toNat =
      (bytes.drop (i * chunkLength)).take chunkLength := by
  have hlen : ((bytes.drop (i * chunkLength)).take chunkLength).length = chunkLength := by
    rw [Nat.add_one_mul] at h
    rw [List.length_take, List.length_drop]
    omega
  have hbytes := bigEndianBytes_bigEndian ((bytes.drop (i * chunkLength)).take chunkLength)
  rwa [hlen] at hbytes

/-- The chunks up to a position are the bytes up to there. -/
theorem bytes_chunks {bytes : List UInt8} {n : Nat} (h : n * chunkLength ≤ bytes.length) :
    ((List.range n).map (chunk bytes)).flatMap (fun c => bigEndianBytes chunkLength c.toNat) =
      bytes.take (n * chunkLength) := by
  induction n with
  | zero => rw [Nat.zero_mul]; rfl
  | succ n ih =>
      have hn : n * chunkLength ≤ bytes.length :=
        le_trans (Nat.mul_le_mul_right _ (Nat.le_succ n)) h
      rw [List.range_succ, List.map_append, List.flatMap_append, ih hn, List.map_singleton,
        List.flatMap_singleton, bytes_chunk h, Nat.add_one_mul, List.take_add]

/-- A byte string is what its chunks and its remainder say, and the chunks are counted. -/
theorem joined_ofBytes (bytes : List UInt8) :
    ∃ (chunks : List Int) (remainder remainderLength : Int),
      ofBytes bytes = .byteChunks chunks.length chunks remainder remainderLength ∧
        joined chunks remainder remainderLength = bytes := by
  refine ⟨(List.range (bytes.length / chunkLength)).map (chunk bytes),
    bigEndian (bytes.drop (bytes.length / chunkLength * chunkLength)),
    (bytes.drop (bytes.length / chunkLength * chunkLength)).length, ?_, ?_⟩
  · rw [ofBytes, List.length_map, List.length_range]
  · rw [joined, bytes_chunks (Nat.div_mul_le_self _ _), Int.toNat_natCast, Int.toNat_natCast,
      bigEndianBytes_bigEndian, List.take_append_drop]

/-! ## Words -/

/-- The bytes of words of four bytes. -/
def joinedWords (ws : List Int) : List UInt8 := ws.flatMap fun w => bigEndianBytes 4 w.toNat

theorem joinedWords_words {bytes : List UInt8} (h : bytes.length % 4 = 0) :
    joinedWords (words bytes) = bytes := by
  fun_induction words bytes with
  | case1 a b c d rest ih =>
      have hrest : rest.length % 4 = 0 := by
        simp only [List.length_cons] at h
        omega
      have hword : bigEndianBytes 4 (bigEndian [a, b, c, d]) = [a, b, c, d] :=
        bigEndianBytes_bigEndian [a, b, c, d]
      rw [joinedWords, List.flatMap_cons, Int.toNat_natCast, hword, ← joinedWords, ih hrest]
      rfl
  | case2 bytes hshort =>
      -- no bytes are left when there are fewer than four
      rcases bytes with _ | ⟨a, _ | ⟨b, _ | ⟨c, _ | ⟨d, rest⟩⟩⟩⟩
      · rfl
      · cases h
      · cases h
      · cases h
      · exact absurd rfl (hshort a b c d rest)

/-- The text of a digest in display order. -/
def textOfWords (ws : List Int) : String := String.ofList (Hex.ofBytes (joinedWords ws).reverse)

/-- A digest is what its words say, up to prefix and case. -/
theorem textOfWords_of_ofDigest {hex : String} {l : Layout} (h : ofDigest hex = .ok l) :
    ∃ ws : List Int, l = .digest ws ∧ ws.length = 8 ∧ textOfWords ws = Hex.normalize hex := by
  obtain ⟨bytes, hbytes, hlen, rfl⟩ := ofDigest_eq_ok h
  have hwhole : bytes.reverse.length % 4 = 0 := by rw [List.length_reverse, hlen]
  refine ⟨words bytes.reverse, rfl, ?_, ?_⟩
  · rw [length_words, List.length_reverse, hlen]
  · rw [textOfWords, joinedWords_words hwhole, List.reverse_reverse,
      Hex.normalize_eq_ofBytes hbytes]

/-! ## Halves -/

/-- A 256-bit integer is what its halves say. -/
theorem halves_add (value : Int) : value % halfBound + value / halfBound * halfBound = value := by
  rw [mul_comm]
  exact Int.emod_add_mul_ediv value halfBound

end ProverInput.Layout
