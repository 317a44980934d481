import ProverInput.Proofs.Field.Bytes
import ProverInput.Proofs.Field.Leaves
import ProverInput.Proofs.Header.Check

set_option autoImplicit false

/-! # Digests

A digest is displayed as 64 hexadecimal digits (`IsDigest`) and laid out as eight words of its bytes
in reverse. Word by word this reverses the order of the words and keeps the order of the bytes
within a word read backwards (`getElem?_words`); as a whole it reads the displayed bytes as one
little-endian number (`foldl_words`, `Hex.bigEndian_reverse`). The words give the bytes back, so
digests have the same words exactly when their texts differ in nothing but prefix and case
(`ofDigest_eq_iff`). Any other text has no layout (`ofDigest_of_not_isDigest`).
-/

namespace ProverInput.Layout

open Hex (bigEndian dropMark)

/-! ## Texts -/

/-- 64 hexadecimal digits of either case behind a prefix or behind none. -/
def IsDigest (hex : String) : Prop := Check.IsHash (String.ofList (dropMark hex.toList))

theorem isDigest_iff {hex : String} :
    IsDigest hex ↔ Check.isHash (dropMark hex.toList) = true := by
  rw [IsDigest, ← Check.isHash_iff, String.toList_ofList]

/-- A digest has 32 bytes, and its words are those of the bytes in reverse. -/
theorem exists_ofDigest {hex : String} (h : IsDigest hex) :
    ∃ bytes, Hex.bytes? (dropMark hex.toList) = some bytes ∧ bytes.length = 32 ∧
      ofDigest hex = .ok (.digest (words bytes.reverse)) := by
  rw [isDigest_iff] at h
  obtain ⟨l, hl⟩ := exists_ofDigest_iff.2 h
  obtain ⟨bytes, hbytes, hlen, rfl⟩ := ofDigest_eq_ok hl
  rw [Hex.normalize, String.toList_ofList, Hex.lower_digits (Hex.isHash_iff.1 h).2,
    Hex.bytes?_map_toLower] at hbytes
  exact ⟨bytes, hbytes, hlen, hl⟩

theorem ofDigest_of_not_isDigest {hex : String} (h : ¬ IsDigest hex) :
    ofDigest hex = .error (.notDigest hex) := by
  have hnone : ¬ ∃ l, ofDigest hex = .ok l := by
    rwa [exists_ofDigest_iff, ← isDigest_iff]
  have honly : FailsOnly (fun e => e = .notDigest hex) (ofDigest hex) := by
    rw [ofDigest_eq]
    apply FailsOnly.bind
    · unfold digestBytes
      simp only
      split
      · split
        · exact FailsOnly.of_ok rfl
        · exact FailsOnly.error rfl
      · exact FailsOnly.error rfl
    · exact fun _ _ => FailsOnly.of_ok rfl
  cases hlayout : ofDigest hex with
  | ok l => exact absurd ⟨l, hlayout⟩ hnone
  | error e => rw [honly.of_error hlayout]

/-! ## Words -/

theorem getElem?_words {bytes : List UInt8} {j : Nat} (hj : 4 * j + 3 < bytes.length) :
    (words bytes)[j]? = some ((bytes[4 * j].toNat * 256 ^ 3 + bytes[4 * j + 1].toNat * 256 ^ 2 +
      bytes[4 * j + 2].toNat * 256 + bytes[4 * j + 3].toNat : Nat) : Int) := by
  fun_induction words bytes generalizing j with
  | case1 a b c d rest ih =>
      cases j with
      | zero =>
          rw [List.getElem?_cons_zero, Option.some.injEq, Int.natCast_inj]
          show (((0 * 256 + a.toNat) * 256 + b.toNat) * 256 + c.toNat) * 256 + d.toNat =
            a.toNat * 256 ^ 3 + b.toNat * 256 ^ 2 + c.toNat * 256 + d.toNat
          ring
      | succ j =>
          -- four bytes further in the string is one word further
          have hrest : 4 * j + 3 < rest.length := by
            simp only [List.length_cons] at hj
            omega
          rw [List.getElem?_cons_succ, ih hrest]
          rfl
  | case2 bytes hshort =>
      rcases bytes with _ | ⟨a, _ | ⟨b, _ | ⟨c, _ | ⟨d, rest⟩⟩⟩⟩
      · simp at hj
      · simp at hj
      · simp at hj
      · simp at hj
      · exact absurd rfl (hshort a b c d rest)

/-- The words one after the other are the integer of the bytes. -/
theorem foldl_words {bytes : List UInt8} (h : bytes.length % 4 = 0) (n : Int) :
    (words bytes).foldl (fun n w => n * 2 ^ 32 + w) n =
      n * 256 ^ bytes.length + bigEndian bytes := by
  fun_induction words bytes generalizing n with
  | case1 a b c d rest ih =>
      have hrest : rest.length % 4 = 0 := by
        simp only [List.length_cons] at h
        omega
      have hsplit : bigEndian (a :: b :: c :: d :: rest) =
          bigEndian [a, b, c, d] * 256 ^ rest.length + bigEndian rest :=
        Hex.bigEndian_append [a, b, c, d] rest
      have hlen : (256 : Int) ^ (a :: b :: c :: d :: rest).length = 2 ^ 32 * 256 ^ rest.length :=
        calc (256 : Int) ^ (a :: b :: c :: d :: rest).length
            = 256 ^ (rest.length + 4) := rfl
          _ = 256 ^ rest.length * 256 ^ 4 := pow_add 256 rest.length 4
          _ = 2 ^ 32 * 256 ^ rest.length := by norm_num [mul_comm]
      rw [List.foldl_cons, ih hrest, hsplit, hlen]
      push_cast
      rw [add_mul, mul_assoc, add_assoc]
  | case2 bytes hshort =>
      rcases bytes with _ | ⟨a, _ | ⟨b, _ | ⟨c, _ | ⟨d, rest⟩⟩⟩⟩
      · simp [bigEndian]
      · simp at h
      · simp at h
      · simp at h
      · exact absurd rfl (hshort a b c d rest)

/-- What the words of a digest are: eight words of 32 bits, each of four displayed bytes from the
end on, and together the displayed bytes read as a little-endian number. -/
structure DigestWords (bytes : List UInt8) (ws : List Int) : Prop where
  length_bytes : bytes.length = 32
  length : ws.length = 8
  mem : ∀ w ∈ ws, 0 ≤ w ∧ w < 2 ^ 32
  word : ∀ j (hj : j < 8), ws[j]? = some ((bytes[31 - 4 * j].toNat * 256 ^ 3 +
    bytes[30 - 4 * j].toNat * 256 ^ 2 + bytes[29 - 4 * j].toNat * 256 +
    bytes[28 - 4 * j].toNat : Nat) : Int)
  number : ws.foldl (fun n w => n * 2 ^ 32 + w) 0 =
    ((Nat.ofDigits 256 (bytes.map UInt8.toNat) : Nat) : Int)

theorem digestWords_reverse {bytes : List UInt8} (h : bytes.length = 32) :
    DigestWords bytes (words bytes.reverse) where
  length_bytes := h
  length := by rw [length_words, List.length_reverse, h]
  mem := words_mem bytes.reverse
  word j hj := by
    rw [getElem?_words (by rw [List.length_reverse]; omega)]
    simp only [List.getElem_reverse, h]
    -- the positions from the end, as positions from the start
    have h1 : 32 - 1 - (4 * j + 1) = 30 - 4 * j := by omega
    have h2 : 32 - 1 - (4 * j + 2) = 29 - 4 * j := by omega
    have h3 : 32 - 1 - (4 * j + 3) = 28 - 4 * j := by omega
    simp only [h1, h2, h3]
  number := by
    rw [foldl_words (by rw [List.length_reverse, h]), Hex.bigEndian_reverse, zero_mul, zero_add]

/-- Two digests have the same words exactly when they have the same bytes, which is when their texts
are the same up to prefix and case. -/
theorem ofDigest_eq_iff {hex hex' : String} (h : IsDigest hex) (h' : IsDigest hex') :
    (ofDigest hex = ofDigest hex' ↔
      Hex.bytes? (dropMark hex.toList) = Hex.bytes? (dropMark hex'.toList)) ∧
    (ofDigest hex = ofDigest hex' ↔
      (dropMark hex.toList).map Char.toLower = (dropMark hex'.toList).map Char.toLower) := by
  obtain ⟨bytes, hbytes, hlen, hwords⟩ := exists_ofDigest h
  obtain ⟨bytes', hbytes', hlen', hwords'⟩ := exists_ofDigest h'
  have hjoin : ofDigest hex = ofDigest hex' → bytes = bytes' := by
    intro heq
    rw [hwords, hwords', Except.ok.injEq, Layout.digest.injEq] at heq
    have hjoined := congrArg joinedWords heq
    rw [joinedWords_words (by rw [List.length_reverse, hlen]),
      joinedWords_words (by rw [List.length_reverse, hlen'])] at hjoined
    exact List.reverse_injective hjoined
  have hsame : bytes = bytes' → ofDigest hex = ofDigest hex' := by
    rintro rfl
    rw [hwords, hwords']
  constructor
  · rw [hbytes, hbytes', Option.some.injEq]
    exact ⟨hjoin, hsame⟩
  · rw [← Hex.ofBytes_of_bytes? hbytes, ← Hex.ofBytes_of_bytes? hbytes']
    refine ⟨fun heq => by rw [hjoin heq], fun heq => hsame ?_⟩
    have hread := congrArg Hex.bytes? heq
    rw [Hex.bytes?_ofBytes, Hex.bytes?_ofBytes] at hread
    exact Option.some.inj hread

/-- A digest is laid out as the words of its displayed bytes in reverse. The words of the all-zero
digest, which are not computed, are those that would be. Prefix and case do not matter, and digests
of different bytes have different words. A text that is no digest is refused. -/
theorem ofDigest_words :
    (∀ hex, IsDigest hex → ∃ bytes ws, Hex.bytes? (dropMark hex.toList) = some bytes ∧
      ofDigest hex = .ok (.digest ws) ∧ DigestWords bytes ws) ∧
    (∀ hex, ofDigest hex = (fun bytes => .digest (words bytes.reverse)) <$> digestBytes hex) ∧
    (∀ hex hex', IsDigest hex → IsDigest hex' →
      (ofDigest hex = ofDigest hex' ↔
        Hex.bytes? (dropMark hex.toList) = Hex.bytes? (dropMark hex'.toList)) ∧
      (ofDigest hex = ofDigest hex' ↔
        (dropMark hex.toList).map Char.toLower = (dropMark hex'.toList).map Char.toLower)) ∧
    ∀ hex, ¬ IsDigest hex → ofDigest hex = .error (.notDigest hex) ∧
      (ConversionError.notDigest hex).kind = .unsupportedStringShape := by
  refine ⟨?_, ?_, fun hex hex' => ofDigest_eq_iff, ?_⟩
  · intro hex h
    obtain ⟨bytes, hbytes, hlen, hwords⟩ := exists_ofDigest h
    exact ⟨bytes, _, hbytes, hwords, digestWords_reverse hlen⟩
  · intro hex
    rw [ofDigest_eq, bind_pure_comp]
  · intro hex h
    exact ⟨ofDigest_of_not_isDigest h, rfl⟩

/-- One digest in two spellings has one layout, which is not the layout of its bytes in reverse
order; its digits behind two prefixes are no digest. -/
theorem ofDigest_words_spelled :
    ofDigest "0X00Ab000000000000000000000000000000000000000000000000000000000001" =
      ofDigest "00aB000000000000000000000000000000000000000000000000000000000001" ∧
    ofDigest "00ab000000000000000000000000000000000000000000000000000000000001" ≠
      ofDigest "010000000000000000000000000000000000000000000000000000000000ab00" ∧
    ofDigest "0x0x00ab000000000000000000000000000000000000000000000000000000000001" = .error (.notDigest
      "0x0x00ab000000000000000000000000000000000000000000000000000000000001") := by
  refine ⟨((ofDigest_words.2.2.1 _ _ (isDigest_iff.2 (by decide)) (isDigest_iff.2 (by decide))).2).2
    (by decide), fun heq => ?_, (ofDigest_words.2.2.2 _ (mt isDigest_iff.1 (by decide))).1⟩
  have hbytes := ((ofDigest_words.2.2.1 _ _ (isDigest_iff.2 (by decide))
    (isDigest_iff.2 (by decide))).1).1 heq
  revert hbytes
  decide

end ProverInput.Layout
