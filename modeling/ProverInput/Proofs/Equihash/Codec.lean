import Mathlib
import ProverInput.Equihash
import ProverInput.Proofs.Outcome
import ProverInput.Proofs.Number.Rounding
import ProverInput.Proofs.Equihash.Bits

set_option autoImplicit false

/-! # Equihash solutions read and written

A solution is the bits of its indices one after the other, and zeros up to the end of the last byte.
For indices of at most 25 bits the decoder reads exactly that: between two indices it holds the bits
it has not used (`Source.Holds`), less than a byte of them, so with the bytes that the next index
takes there are at most 32 (`fill_holds`). What it gives out are the numbers of the successive
pieces of the bit string (`indices_eq`).

Hence decoding gives back what was encoded, and encoding what was decoded up to the bits behind the
last index (`encode_decode_inverse`).
-/

namespace ProverInput.Equihash

variable {e : Equihash} {places width count : Nat}

/-! ## Sizes -/

/-- A solution of `2 ^ places` indices of `width` bits, small enough for the decoder's accumulator
and for the length of a byte string. -/
structure Sized (e : Equihash) (places width : Nat) : Prop where
  indexBits : e.indexBits = .int width
  count : e.count = .int (2 ^ places : Nat)
  byteLength : e.byteLength = .int ((2 ^ places * width + 7) / 8 : Nat)
  width_pos : 0 < width
  width_le : width ≤ 25
  size_lt : 2 ^ places * width < 2 ^ 31

theorem Sized.count_lt (h : e.Sized places width) : 2 ^ places < 2 ^ 31 :=
  lt_of_le_of_lt (Nat.le_mul_of_pos_right _ h.width_pos) h.size_lt

/-- Eighths of a number of bits, rounded up. -/
theorem bytes_of_bits {size : Nat} (h : size < 2 ^ 53) :
    (Number.int size / 8).ceil = .int ((size + 7) / 8 : Nat) := by
  have hdiv : Number.int size / Number.int (2 ^ 3 : Nat) = Number.dyadic size 3 := by
    rw [Number.int_div_int size (by norm_num), Number.nearest_two_pow h (by omega)]
  have hceil : -(-(size : Int) / 2 ^ 3) = ((size + 7) / 8 : Nat) := by omega
  calc (Number.int size / 8).ceil = (Number.int size / Number.int (2 ^ 3 : Nat)).ceil := rfl
    _ = .int ((size + 7) / 8 : Nat) := by rw [hdiv, Number.ceil_dyadic, hceil]

/-- The width of an index is one more than that of a collision. -/
theorem indexBits_of_dvd {n k : Nat} (hn : e.n = n) (hk : e.k = k) (hplaces : k < 1024)
    (hdvd : k + 1 ∣ n) (hwidth : n / (k + 1) + 1 = width) (hbound : width ≤ 25) :
    e.indexBits = .int width := by
  have hsucc : e.k + 1 = .int (k + 1 : Nat) := by
    rw [hk]
    exact Number.int_add_exact (b := 1) (by simp only [Number.exactBound]; omega)
  have hcollision : e.collisionBits = .int (n / (k + 1) : Nat) := by
    have hmod : (n : Int) % (k + 1 : Nat) = 0 := Int.emod_eq_zero_of_dvd (by exact_mod_cast hdvd)
    have hsmall : ((n : Int) / (k + 1 : Nat)).natAbs ≤ Number.exactBound := by
      rw [← Int.natCast_ediv, Int.natAbs_natCast, Number.exactBound]
      omega
    rw [collisionBits, hn, hsucc]
    show Number.int n / Number.int (k + 1 : Nat) = _
    rw [Number.int_div_int n (Nat.succ_pos k), Number.nearest, if_pos ⟨hmod, hsmall⟩,
      Int.natCast_ediv]
  rw [indexBits, hcollision, ← hwidth]
  exact Number.int_add_exact (b := 1) (by simp only [Number.exactBound]; omega)

theorem count_of_lt {k : Nat} (hk : e.k = k) (hplaces : k < 1024) :
    e.count = .int (2 ^ k : Nat) := by
  have hpower := Number.power_natCast hplaces
  rw [Nat.one_shiftLeft] at hpower
  rw [Equihash.count, hk]
  exact hpower

theorem byteLength_of_count (hindex : e.indexBits = .int width) (hcount : e.count = .int count)
    (hsize : count * width < 2 ^ 53) : e.byteLength = .int ((count * width + 7) / 8 : Nat) := by
  have hproduct : e.count * e.indexBits = .int (count * width : Nat) := by
    have hexact : (count * width : Nat) ≤ Number.exactBound := by
      rw [Number.exactBound_eq]
      exact hsize.le
    rw [hindex, hcount, Number.int_mul_int, ← Nat.cast_mul,
      Number.nearest_one (by rwa [Int.natAbs_natCast])]
  rw [byteLength, hproduct, bytes_of_bits hsize]

/-- Whole parameters whose collisions are whole. -/
theorem sized_of_dvd {n k : Nat} (hn : e.n = n) (hk : e.k = k) (hdvd : k + 1 ∣ n)
    (hwidth : n / (k + 1) + 1 = width) (hbound : width ≤ 25) (hsize : 2 ^ k * width < 2 ^ 31) :
    e.Sized k width := by
  have hpos : 0 < width := hwidth ▸ Nat.succ_pos _
  have hpow : 2 ^ k < 2 ^ 31 := lt_of_le_of_lt (Nat.le_mul_of_pos_right _ hpos) hsize
  have hplaces : k < 31 := (Nat.pow_lt_pow_iff_right (by omega)).1 hpow
  have hindex := indexBits_of_dvd hn hk (by omega) hdvd hwidth hbound
  have hcount := count_of_lt hk (by omega)
  exact ⟨hindex, hcount, byteLength_of_count hindex hcount (by omega), hpos, hbound, hsize⟩

/-! ## Filling the accumulator -/

/-- What a source has not used yet: the held bits of its accumulator, then those of its bytes. -/
structure Source.Holds (source : Source) (left : Nat) (stream : List Bool) : Prop where
  held : source.held = .int left
  small : source.accumulator < 2 ^ left
  bits : bits left source.accumulator ++ bitString source.bytes = stream

/-- A byte is shifted in behind the bits that are held. -/
theorem shiftIn_holds {left accumulator : Nat} {b : UInt8} {rest : List UInt8}
    {stream : List Bool} (hleft : left + 8 ≤ 32)
    (h : Source.Holds ⟨accumulator, .int left, b :: rest⟩ left stream) :
    Source.Holds ⟨shiftIn accumulator b.toNat, .int (left + 8 : Nat), rest⟩ (left + 8) stream := by
  have hb : b.toNat < 2 ^ 8 := b.toNat_lt
  have hsmall : accumulator * 2 ^ 8 + b.toNat < 2 ^ (left + 8) := by
    have hle : (accumulator + 1) * 2 ^ 8 ≤ 2 ^ left * 2 ^ 8 := Nat.mul_le_mul_right _ h.small
    rw [pow_add]
    omega
  have hword : 2 ^ (left + 8) ≤ 2 ^ 32 := Nat.pow_le_pow_right (by omega) hleft
  have hshift : shiftIn accumulator b.toNat = accumulator * 2 ^ 8 + b.toNat :=
    Nat.mod_eq_of_lt (lt_of_lt_of_le hsmall hword)
  have hupper : (accumulator * 2 ^ 8 + b.toNat) / 2 ^ 8 = accumulator := by omega
  have hlower : bits 8 (accumulator * 2 ^ 8 + b.toNat) = bits 8 b.toNat := by
    rw [← bits_mod (by omega), Nat.mul_comm, Nat.mul_add_mod, Nat.mod_eq_of_lt hb]
  refine ⟨rfl, by rw [hshift]; exact hsmall, ?_⟩
  rw [← h.bits, hshift, bits_add hleft, hupper, hlower, bitString_cons, List.append_assoc]

/-- Filling up to 25 bits loses none: bytes are taken while fewer are held. -/
theorem fill_holds {left accumulator : Nat} {bytes : List UInt8} {stream : List Bool}
    (hwidth : width ≤ 25) (hleft : left < width + 8) (henough : width ≤ stream.length)
    (h : Source.Holds ⟨accumulator, .int left, bytes⟩ left stream) :
    ∃ kept, width ≤ kept ∧ kept < width + 8 ∧
      (fill (.int width) accumulator (.int left) bytes).Holds kept stream := by
  induction bytes generalizing left accumulator with
  | nil =>
      have hlength : stream.length = left := by
        have hstream : Equihash.bits left accumulator ++ [] = stream := h.bits
        rw [← hstream, List.append_nil, length_bits]
      have hnot : ¬ Number.int left < Number.int width := by
        rw [Number.int_lt_int]
        omega
      rw [fill, if_neg hnot]
      exact ⟨left, by omega, hleft, h⟩
  | cons b rest ih =>
      by_cases hlt : left < width
      · have hmore : Number.int left < Number.int width := by
          rw [Number.int_lt_int]
          omega
        rw [fill, if_pos hmore, add_byte (by simp only [Number.exactBound]; omega)]
        exact ih (by omega) (shiftIn_holds (by omega) h)
      · have hnot : ¬ Number.int left < Number.int width := by
          rw [Number.int_lt_int]
          omega
        rw [fill, if_neg hnot]
        exact ⟨left, by omega, hleft, h⟩

/-! ## Taking an index -/

theorem signed_of_lt {n : Nat} (h : n < 0x80000000) : signed n = n := if_pos h

/-- The index that the upper held bits write, and the source without them. -/
theorem take_index {source : Source} {left : Nat} {stream : List Bool} (hwidth : width ≤ 25)
    (hlow : width ≤ left) (hhigh : left < width + 8) (h : source.Holds left stream) :
    signed ((source.accumulator >>> (source.held - .int width).whole) &&& mask (.int width)) =
        number (stream.take width) ∧
      Source.Holds ⟨source.accumulator &&& mask (source.held - .int width),
        source.held - .int width, source.bytes⟩ (left - width) (stream.drop width) := by
  obtain ⟨lower, rfl⟩ := Nat.exists_eq_add_of_le hlow
  have hrest : source.held - Number.int width = .int lower := by
    have hdiff : ((width + lower : Nat) : Int) - width = lower := by omega
    rw [h.held, Number.int_sub_exact (by rw [hdiff, Number.exactBound]; omega), hdiff]
  -- the held bits are those of the index, then the lower ones
  have hupper : source.accumulator / 2 ^ lower < 2 ^ width := by
    rw [Nat.div_lt_iff_lt_mul (Nat.two_pow_pos lower), ← pow_add]
    exact h.small
  have hsplit : stream = Equihash.bits width (source.accumulator / 2 ^ lower) ++
      (Equihash.bits lower source.accumulator ++ bitString source.bytes) := by
    rw [← h.bits, bits_add (by omega), List.append_assoc]
  have htake : stream.take width = Equihash.bits width (source.accumulator / 2 ^ lower) := by
    rw [hsplit, List.take_left' (length_bits _ _)]
  have hdrop : stream.drop width = Equihash.bits lower source.accumulator ++
      bitString source.bytes := by
    rw [hsplit, List.drop_left' (length_bits _ _)]
  have hmask : ∀ {n : Nat}, n ≤ 32 → ∀ m, m &&& mask (.int n) = m % 2 ^ n := by
    intro n hn m
    rw [and_mask m hn, Nat.one_shiftLeft]
  constructor
  · have hword : 2 ^ width ≤ 2 ^ 25 := Nat.pow_le_pow_right (by omega) hwidth
    have hwhole : (Number.int lower).whole = lower := Int.toNat_natCast lower
    have hindex : number (stream.take width) = source.accumulator / 2 ^ lower := by
      rw [htake, number_bits (by omega), Nat.mod_eq_of_lt hupper]
    calc signed ((source.accumulator >>> (source.held - .int width).whole) &&& mask (.int width))
        = signed (source.accumulator / 2 ^ lower % 2 ^ width) := by
          rw [hrest, hwhole, Nat.shiftRight_eq_div_pow, hmask (by omega)]
      _ = signed (source.accumulator / 2 ^ lower) := by rw [Nat.mod_eq_of_lt hupper]
      _ = (source.accumulator / 2 ^ lower : Nat) := signed_of_lt (by omega)
      _ = number (stream.take width) := by rw [hindex]
  · rw [hrest, hmask (by omega), Nat.add_sub_cancel_left]
    refine ⟨rfl, Nat.mod_lt _ (Nat.two_pow_pos lower), ?_⟩
    rw [hdrop]
    show Equihash.bits lower (source.accumulator % 2 ^ lower) ++ _ = _
    rw [bits_mod (by omega)]

/-! ## Pieces of a bit string -/

/-- The numbers that successive pieces of a bit string write. -/
def slices (width : Nat) : Nat → List Bool → List Nat
  | 0, _ => []
  | count + 1, stream => number (stream.take width) :: slices width count (stream.drop width)

theorem length_slices (width count : Nat) (stream : List Bool) :
    (slices width count stream).length = count := by
  induction count generalizing stream with
  | zero => rfl
  | succ count ih => rw [slices, List.length_cons, ih]

theorem lt_of_mem_slices {stream : List Bool} {x : Nat} (h : x ∈ slices width count stream) :
    x < 2 ^ width := by
  induction count generalizing stream with
  | zero => cases h
  | succ count ih =>
      rcases List.mem_cons.1 h with rfl | h
      · exact lt_of_lt_of_le (number_lt _)
          (Nat.pow_le_pow_right (by omega) (List.length_take_le _ _))
      · exact ih h

theorem slices_flatMap {xs : List Nat} (hwidth : width ≤ 32) (h : ∀ x ∈ xs, x < 2 ^ width)
    (rest : List Bool) : slices width xs.length (xs.flatMap (bits width) ++ rest) = xs := by
  induction xs with
  | nil => rfl
  | cons x xs ih =>
      have hx : number (bits width x) = x := by
        rw [number_bits hwidth, Nat.mod_eq_of_lt (h x List.mem_cons_self)]
      rw [List.flatMap_cons, List.append_assoc, List.length_cons, slices,
        List.take_left' (length_bits _ _), List.drop_left' (length_bits _ _), hx,
        ih fun y hy => h y (List.mem_cons_of_mem x hy)]

theorem flatMap_slices {stream : List Bool} (hwidth : width ≤ 32)
    (h : count * width ≤ stream.length) :
    (slices width count stream).flatMap (bits width) = stream.take (count * width) := by
  induction count generalizing stream with
  | zero => rw [Nat.zero_mul, List.take_zero]; rfl
  | succ count ih =>
      rw [Nat.succ_mul] at h ⊢
      have hlength : (stream.take width).length = width := List.length_take_of_le (by omega)
      have hfirst : bits width (number (stream.take width)) = stream.take width := by
        have hbits : bits (stream.take width).length (number (stream.take width)) =
            stream.take width := bits_number (by omega)
        rwa [hlength] at hbits
      have hrest : count * width ≤ (stream.drop width).length := by
        rw [List.length_drop]
        omega
      rw [slices, List.flatMap_cons, hfirst, ih hrest, Nat.add_comm, List.take_add]

/-! ## Decoding -/

/-- The decoder gives out the pieces of the bit string that its source holds. -/
theorem indices_eq {source : Source} {left : Nat} {stream : List Bool} (hwidth : width ≤ 25)
    (hleft : left < 8) (henough : count * width ≤ stream.length) (h : source.Holds left stream) :
    indices (.int width) count source = (slices width count stream).map (Nat.cast : Nat → Int) := by
  induction count generalizing source left stream with
  | zero => rfl
  | succ count ih =>
      rw [Nat.succ_mul] at henough
      have hsource : Source.Holds ⟨source.accumulator, .int left, source.bytes⟩ left stream :=
        ⟨rfl, h.small, h.bits⟩
      obtain ⟨kept, hlow, hhigh, hfilled⟩ :=
        fill_holds hwidth (by omega) (by omega : width ≤ stream.length) hsource
      obtain ⟨hindex, hrest⟩ := take_index hwidth hlow hhigh hfilled
      have hlength : count * width ≤ (stream.drop width).length := by
        rw [List.length_drop]
        omega
      rw [indices, slices, List.map_cons, h.held]
      exact congrArg₂ List.cons hindex (ih (by omega) hlength hrest)

/-- A byte string of the right length has a byte for every eight bits, and one for the rest. -/
theorem Sized.length_of (hsized : e.Sized places width) {bytes : List UInt8}
    (hlength : (bytes.length : Number) = e.byteLength) :
    bytes.length = (2 ^ places * width + 7) / 8 := by
  rw [hsized.byteLength, Number.natCast_eq] at hlength
  exact_mod_cast Number.int.inj hlength

/-- A byte string of the right length is decoded when there can be a list of the indices. -/
theorem decode_of_length {bytes : List UInt8} (hbytes : bytes ≠ [])
    (hlength : (bytes.length : Number) = e.byteLength) :
    e.decode bytes = (e.count.toLength.mapError Failure.fault).map fun count =>
      indices e.indexBits count ⟨0, 0, bytes⟩ := by
  have hsame : (bytes.length : Number).same e.byteLength = true := by
    rw [Number.same_iff]
    exact ⟨hlength, by simp⟩
  have hnonempty : ¬ bytes.isEmpty = true := by rwa [List.isEmpty_iff]
  rw [decode, if_neg hnonempty, if_pos hsame]
  rfl

theorem decode_eq_slices (hindex : e.indexBits = .int width) (hcount : e.count = .int count)
    (hwidth : width ≤ 25) (hlist : count < 2 ^ 32) {bytes : List UInt8} (hbytes : bytes ≠ [])
    (hlength : (bytes.length : Number) = e.byteLength)
    (henough : count * width ≤ 8 * bytes.length) :
    e.decode bytes =
      .ok ((slices width count (bitString bytes)).map (Nat.cast : Nat → Int)) := by
  have htoLength : e.count.toLength = .ok count := by
    have hbound : (0 : Int) ≤ count ∧ (count : Int) < 0x100000000 :=
      ⟨Int.natCast_nonneg _, by omega⟩
    rw [hcount, Number.toLength, if_pos hbound, Int.toNat_natCast]
  rw [← length_bitString] at henough
  have hsource : Source.Holds ⟨0, 0, bytes⟩ 0 (bitString bytes) := ⟨rfl, Nat.one_pos, rfl⟩
  rw [decode_of_length hbytes hlength, htoLength, hindex]
  exact congrArg Except.ok (indices_eq hwidth (by omega) henough hsource)

theorem Sized.decode_eq (hsized : e.Sized places width) {bytes : List UInt8}
    (hlength : (bytes.length : Number) = e.byteLength) :
    e.decode bytes =
      .ok ((slices width (2 ^ places) (bitString bytes)).map (Nat.cast : Nat → Int)) := by
  have hbytes := hsized.length_of hlength
  have hsize : 0 < 2 ^ places * width := Nat.mul_pos (Nat.two_pow_pos places) hsized.width_pos
  have hlist : 2 ^ places < 2 ^ 32 := hsized.count_lt.trans (by norm_num)
  have hnonempty : bytes ≠ [] := by
    rw [← List.length_pos_iff]
    omega
  exact decode_eq_slices hsized.indexBits hsized.count hsized.width_le hlist hnonempty hlength
    (by omega)

/-! ## Encoding -/

theorem checkIndex_of_lt {n : Nat} (hwidth : width ≤ 25) (h : n < 2 ^ width) :
    checkIndex (.int width) (.int n) = .ok n := by
  have hpower : Number.power (.int width) = .int (2 ^ width : Nat) := by
    rw [Number.power_natCast (by omega), Nat.one_shiftLeft]
  have hbelow : 0 ≤ (n : Int) ∧ ¬ Number.power (.int width) ≤ .int n := by
    rw [hpower, Number.int_le_int]
    omega
  rw [checkIndex, if_pos hbelow, Int.toNat_natCast]

/-- Encoding as many indices as there are, all in range. -/
theorem Sized.encode_eq (hsized : e.Sized places width) {xs : List Nat}
    (hlength : xs.length = 2 ^ places) (h : ∀ x ∈ xs, x < 2 ^ width) :
    e.encode (xs.map fun x : Nat => Number.int x) =
      .ok (pack ((2 ^ places * width + 7) / 8) (xs.flatMap (bits width))) := by
  have hsame : ¬ ¬ ((xs.map fun x : Nat => Number.int x).length : Number).same e.count = true := by
    rw [not_not, Number.same_iff, List.length_map, hlength, hsized.count]
    exact ⟨rfl, by simp⟩
  have hbytes : e.byteLength.toByteLength = .ok ((2 ^ places * width + 7) / 8) := by
    have hsize := hsized.size_lt
    have hbound : 0 ≤ (((2 ^ places * width + 7) / 8 : Nat) : Int) ∧
        (((2 ^ places * width + 7) / 8 : Nat) : Int) ≤ 0x200000000 :=
      ⟨Int.natCast_nonneg _, by omega⟩
    rw [hsized.byteLength, Number.toByteLength, if_pos hbound, Int.toNat_natCast]
  have hchecked : (xs.map fun x : Nat => Number.int x).mapM (checkIndex e.indexBits) = .ok xs := by
    rw [mapM_eq_ok, List.forall₂_map_left_iff, List.forall₂_same, hsized.indexBits]
    exact fun x hx => checkIndex_of_lt hsized.width_le (h x hx)
  have hwhole : e.indexBits.whole = width := by
    rw [hsized.indexBits]
    exact Int.toNat_natCast width
  rw [encode, if_neg hsame, hbytes, hchecked, hwhole]
  rfl

/-! ## There and back -/

/-- Encoding then decoding. -/
theorem Sized.decode_encode (hsized : e.Sized places width) {xs : List Nat}
    (hlength : xs.length = 2 ^ places) (h : ∀ x ∈ xs, x < 2 ^ width) :
    ∃ bytes, e.encode (xs.map fun x : Nat => Number.int x) = .ok bytes ∧
      (bytes.length : Number) = e.byteLength ∧
      e.decode bytes = .ok (xs.map (Nat.cast : Nat → Int)) := by
  refine ⟨_, hsized.encode_eq hlength h, ?_, ?_⟩
  · rw [length_pack, hsized.byteLength]
    rfl
  · have hbits : (xs.flatMap (bits width)).length = 2 ^ places * width := by
      simp [List.length_flatMap, length_bits, hlength]
    rw [hsized.decode_eq (by rw [length_pack, hsized.byteLength]; rfl), bitString_pack,
      padded_of_ge (by omega), ← hlength, slices_flatMap (by have := hsized.width_le; omega) h]

/-- Decoding then encoding clears the bits behind the last index. -/
theorem Sized.encode_decode (hsized : e.Sized places width) {bytes : List UInt8}
    (hlength : (bytes.length : Number) = e.byteLength) :
    ∃ xs : List Nat, e.decode bytes = .ok (xs.map (Nat.cast : Nat → Int)) ∧
      xs.length = 2 ^ places ∧ (∀ x ∈ xs, x < 2 ^ width) ∧
      ∃ again, e.encode (xs.map fun x : Nat => Number.int x) = .ok again ∧
        again.length = bytes.length ∧
        ∀ i, bitAt again i = (decide (i < 2 ^ places * width) && bitAt bytes i) := by
  have hbytes : bytes.length = (2 ^ places * width + 7) / 8 := hsized.length_of hlength
  have henough : 2 ^ places * width ≤ (bitString bytes).length := by
    rw [length_bitString]
    omega
  refine ⟨_, hsized.decode_eq hlength, length_slices _ _ _, fun x => lt_of_mem_slices, _,
    hsized.encode_eq (length_slices _ _ _) fun x => lt_of_mem_slices, ?_, fun i => ?_⟩
  · rw [length_pack, hbytes]
  · have hwidth : width ≤ 32 := le_trans hsized.width_le (by omega)
    rw [← getD_bitString, ← getD_bitString, bitString_pack, getD_padded, ← hbytes,
      flatMap_slices hwidth henough]
    rw [length_bitString] at henough
    by_cases h : i < 2 ^ places * width
    · have hin : i < 8 * bytes.length := lt_of_lt_of_le h henough
      simp [h, hin]
    · simp [h]

/-- Whole numbers in range are the natural numbers in range. -/
theorem exists_natural {xs : List Int} (h : ∀ x ∈ xs, 0 ≤ x ∧ x < 2 ^ width) :
    ∃ ys : List Nat, ys.map (Nat.cast : Nat → Int) = xs ∧ ys.length = xs.length ∧
      ∀ y ∈ ys, y < 2 ^ width := by
  refine ⟨xs.map Int.toNat, ?_, List.length_map _, ?_⟩
  · calc (xs.map Int.toNat).map (Nat.cast : Nat → Int) = xs.map id := by
          rw [List.map_map]
          exact List.map_congr_left fun x hx => Int.toNat_of_nonneg (h x hx).1
      _ = xs := List.map_id xs
  · intro y hy
    obtain ⟨x, hx, rfl⟩ := List.mem_map.1 hy
    obtain ⟨hlow, hhigh⟩ := h x hx
    zify
    rwa [Int.toNat_of_nonneg hlow]

/-- Byte strings are equal when their bits are. -/
theorem eq_of_bitAt {bytes again : List UInt8} (hlength : again.length = bytes.length)
    (h : ∀ i < 8 * bytes.length, bitAt again i = bitAt bytes i) : again = bytes := by
  have hbits : bitString again = bitString bytes := by
    apply List.ext_getElem
    · rw [length_bitString, length_bitString, hlength]
    · intro i hi hi'
      have hat := h i (by rwa [length_bitString] at hi')
      rw [← getD_bitString, ← getD_bitString] at hat
      rwa [List.getD_eq_getElem _ _ hi, List.getD_eq_getElem _ _ hi'] at hat
  exact bitString_injective hbits

/-- Encoding and decoding are inverse, up to the bits behind the last index, for whole parameters
with whole collisions and indices of at most 25 bits. -/
theorem encode_decode_inverse {n k : Nat} (hn : e.n = n) (hk : e.k = k) (hdvd : k + 1 ∣ n)
    (hwidth : n / (k + 1) + 1 = width) (hbound : width ≤ 25) (hsize : 2 ^ k * width < 2 ^ 31) :
    (∀ xs : List Int, xs.length = 2 ^ k → (∀ x ∈ xs, 0 ≤ x ∧ x < 2 ^ width) →
      ∃ bytes, e.encode (xs.map .int) = .ok bytes ∧ (bytes.length : Number) = e.byteLength ∧
        e.decode bytes = .ok xs) ∧
    ∀ bytes : List UInt8, (bytes.length : Number) = e.byteLength →
      ∃ xs, e.decode bytes = .ok xs ∧ xs.length = 2 ^ k ∧ (∀ x ∈ xs, 0 ≤ x ∧ x < 2 ^ width) ∧
        ∃ again, e.encode (xs.map .int) = .ok again ∧ again.length = bytes.length ∧
          (∀ i, bitAt again i = (decide (i < 2 ^ k * width) && bitAt bytes i)) ∧
          (8 ∣ 2 ^ k * width → again = bytes) := by
  have hsized := sized_of_dvd hn hk hdvd hwidth hbound hsize
  constructor
  · intro xs hlength hrange
    obtain ⟨ys, rfl, hys, hsmall⟩ := exists_natural hrange
    obtain ⟨bytes, hencode, hbytes, hdecode⟩ := hsized.decode_encode (hys.trans hlength) hsmall
    rw [List.map_map]
    exact ⟨bytes, hencode, hbytes, hdecode⟩
  · intro bytes hlength
    obtain ⟨ys, hdecode, hys, hsmall, again, hencode, hagain, hbits⟩ :=
      hsized.encode_decode hlength
    refine ⟨_, hdecode, by rw [List.length_map, hys], ?_, again, by rwa [List.map_map], hagain,
      hbits, ?_⟩
    · intro x hx
      obtain ⟨y, hy, rfl⟩ := List.mem_map.1 hx
      exact ⟨Int.natCast_nonneg y, by exact_mod_cast hsmall y hy⟩
    · intro hwhole
      have hbytes := hsized.length_of hlength
      refine eq_of_bitAt hagain fun i hi => ?_
      rw [hbits i, decide_eq_true (by omega), Bool.true_and]

/-- Two indices of three bits in a byte, where two bits are behind them. -/
theorem encode_decode_inverse_byte :
    ((2 : Nat) ∣ 4 ∧ 4 / 2 + 1 = 3 ∧ 2 ^ 1 * 3 < 2 ^ 31) ∧
      (∃ bytes, (⟨4, 1⟩ : Equihash).encode [5, 6] = .ok bytes ∧
        (⟨4, 1⟩ : Equihash).decode bytes = .ok [5, 6]) ∧
      ∃ again, (⟨4, 1⟩ : Equihash).encode [5, 6] = .ok again ∧
        ∀ i, bitAt again i = (decide (i < 6) && bitAt [0xbb] i) := by
  have hwidth : 4 / (1 + 1) + 1 = 3 := by decide
  have hinverse := encode_decode_inverse (e := ⟨4, 1⟩) (n := 4) (k := 1) rfl rfl (by decide)
    hwidth (by decide) (by decide)
  refine ⟨by decide, ?_, ?_⟩
  · obtain ⟨bytes, hencode, -, hdecode⟩ := hinverse.1 [5, 6] rfl (by decide)
    exact ⟨bytes, hencode, hdecode⟩
  · obtain ⟨xs, hdecode, -, -, again, hencode, -, hbits, -⟩ :=
      hinverse.2 [0xbb] (by decide +kernel)
    have hxs : xs = [5, 6] := Except.ok.inj (hdecode.symm.trans (by decide +kernel))
    rw [hxs] at hencode
    exact ⟨again, hencode, hbits⟩

end ProverInput.Equihash
