import Mathlib
import ProverInput.Equihash
import ProverInput.Proofs.Text.BigEndian

set_option autoImplicit false

/-! # Bit strings

A number of up to 32 bits is written by its bits, most significant first: they give the number back
(`number_bits`), and each bit string of that length is written by its number (`bits_number`). More
bits are written in two pieces (`bits_add`).

Packing a bit string into bytes fills the last one up with zeros (`bitString_pack`), so packing the
bits of a byte string gives the bytes back (`pack_bitString`).
-/

namespace ProverInput.Equihash

/-! ## Bits of a number -/

theorem length_bits (width n : Nat) : (bits width n).length = width := by
  rw [bits, List.length_map, List.length_reverse, List.length_range]

theorem bits_succ {width : Nat} (h : width < 32) (n : Nat) :
    bits (width + 1) n = n.testBit width :: bits width n := by
  rw [bits, List.range_succ, List.reverse_append, List.reverse_singleton, List.singleton_append,
    List.map_cons, Nat.mod_eq_of_lt h]
  rfl

/-- The upper bits of a number are the bits of what is above the lower ones. -/
theorem bits_add {upper lower : Nat} (h : upper + lower ≤ 32) (n : Nat) :
    bits (upper + lower) n = bits upper (n / 2 ^ lower) ++ bits lower n := by
  induction upper with
  | zero =>
      rw [Nat.zero_add]
      rfl
  | succ upper ih =>
      have hbit : (n / 2 ^ lower).testBit upper = n.testBit (upper + lower) := by
        rw [Nat.testBit_div_two_pow, Nat.add_comm]
      rw [Nat.succ_add, Nat.succ_eq_add_one, bits_succ (by omega), ih (by omega),
        bits_succ (by omega), hbit]
      rfl

/-- What is above them does not show in the lower bits. -/
theorem bits_mod {width : Nat} (h : width ≤ 32) (n : Nat) :
    bits width (n % 2 ^ width) = bits width n := by
  unfold bits
  apply List.map_congr_left
  intro place hplace
  have hlt : place < width := List.mem_range.1 (List.mem_reverse.1 hplace)
  rw [Nat.mod_eq_of_lt (by omega : place < 32), Nat.testBit_mod_two_pow, decide_eq_true hlt,
    Bool.true_and]

theorem getElem?_bits {width i : Nat} (hwidth : width ≤ 32) (h : i < width) (n : Nat) :
    (bits width n)[i]? = some (n.testBit (width - 1 - i)) := by
  have hplace : (width - 1 - i) % 32 = width - 1 - i := Nat.mod_eq_of_lt (by omega)
  simp [bits, h, hplace]

/-! ## Numbers of bit strings -/

/-- The number that a bit string writes, most significant bit first. -/
def number (bs : List Bool) : Nat := bs.foldl (fun n b => 2 * n + b.toNat) 0

theorem foldl_number (bs : List Bool) (n : Nat) :
    bs.foldl (fun n b => 2 * n + b.toNat) n = n * 2 ^ bs.length + number bs := by
  induction bs generalizing n with
  | nil => simp [number]
  | cons b bs ih =>
      have hnumber : number (b :: bs) = (2 * 0 + b.toNat) * 2 ^ bs.length + number bs := ih _
      rw [List.foldl_cons, ih, hnumber, List.length_cons, pow_succ]
      ring

theorem number_cons (b : Bool) (bs : List Bool) :
    number (b :: bs) = b.toNat * 2 ^ bs.length + number bs := by
  have hfold : number (b :: bs) = (2 * 0 + b.toNat) * 2 ^ bs.length + number bs :=
    foldl_number bs _
  rw [hfold, Nat.mul_zero, Nat.zero_add]

theorem number_lt (bs : List Bool) : number bs < 2 ^ bs.length := by
  induction bs with
  | nil => exact Nat.one_pos
  | cons b bs ih =>
      have hb : b.toNat ≤ 1 := Bool.toNat_le b
      have hupper : b.toNat * 2 ^ bs.length ≤ 1 * 2 ^ bs.length := Nat.mul_le_mul_right _ hb
      rw [number_cons, List.length_cons, pow_succ]
      omega

theorem number_bits {width : Nat} (h : width ≤ 32) (n : Nat) :
    number (bits width n) = n % 2 ^ width := by
  induction width with
  | zero => rw [pow_zero, Nat.mod_one]; rfl
  | succ width ih =>
      calc number (bits (width + 1) n)
          = (n.testBit width).toNat * 2 ^ width + n % 2 ^ width := by
            rw [bits_succ (by omega), number_cons, length_bits, ih (by omega)]
        _ = n % 2 ^ width + 2 ^ width * (n / 2 ^ width % 2) := by
            rw [Nat.toNat_testBit, Nat.mul_comm, Nat.add_comm]
        _ = n % 2 ^ (width + 1) := Nat.mod_pow_succ.symm

/-- A bit string of at most 32 bits is written by its number. -/
theorem bits_number {bs : List Bool} (h : bs.length ≤ 32) : bits bs.length (number bs) = bs := by
  induction bs with
  | nil => rfl
  | cons b bs ih =>
      rw [List.length_cons] at h
      have hlt := number_lt bs
      have hbit : (number (b :: bs)).testBit bs.length = b := by
        have hdiv : number (b :: bs) / 2 ^ bs.length = b.toNat := by
          rw [number_cons, Nat.mul_comm, Nat.mul_add_div (Nat.two_pow_pos _),
            Nat.div_eq_of_lt hlt, Nat.add_zero]
        rw [Nat.testBit_eq_decide_div_mod_eq, hdiv]
        cases b <;> rfl
      have hrest : bits bs.length (number (b :: bs)) = bs := by
        rw [← bits_mod (by omega), number_cons, Nat.mul_comm, Nat.mul_add_mod,
          Nat.mod_eq_of_lt hlt, ih (by omega)]
      rw [List.length_cons, bits_succ (by omega), hbit, hrest]

/-! ## Bits of bytes -/

/-- The bits of a byte string, the most significant one of each byte first. -/
def bitString (bytes : List UInt8) : List Bool := bytes.flatMap fun b => bits 8 b.toNat

/-- The bit at a place of a byte string; zero behind its end. -/
def bitAt (bytes : List UInt8) (i : Nat) : Bool := (bytes.getD (i / 8) 0).toNat.testBit (7 - i % 8)

theorem bitString_cons (b : UInt8) (bytes : List UInt8) :
    bitString (b :: bytes) = bits 8 b.toNat ++ bitString bytes := List.flatMap_cons

theorem length_bitString (bytes : List UInt8) : (bitString bytes).length = 8 * bytes.length := by
  induction bytes with
  | nil => rfl
  | cons b bytes ih =>
      rw [bitString_cons, List.length_append, length_bits, ih, List.length_cons]
      omega

theorem getD_bitString (bytes : List UInt8) (i : Nat) :
    (bitString bytes).getD i false = bitAt bytes i := by
  induction bytes generalizing i with
  | nil => simp [bitString, bitAt]
  | cons b bytes ih =>
      rw [bitString_cons]
      rcases Nat.lt_or_ge i 8 with hlt | hge
      · -- the bit is one of the first byte
        have hdiv : i / 8 = 0 := Nat.div_eq_of_lt hlt
        have hmod : i % 8 = i := Nat.mod_eq_of_lt hlt
        rw [List.getD_append _ _ _ _ (by rwa [length_bits]), List.getD_eq_getElem?_getD,
          getElem?_bits (by omega) hlt, bitAt, hdiv, hmod]
        rfl
      · obtain ⟨j, rfl⟩ := Nat.exists_eq_add_of_le hge
        have hdiv : (8 + j) / 8 = j / 8 + 1 := by omega
        have hmod : (8 + j) % 8 = j % 8 := by omega
        rw [List.getD_append_right _ _ _ _ (by rwa [length_bits]), length_bits,
          Nat.add_sub_cancel_left, ih, bitAt, bitAt, hdiv, hmod, List.getD_cons_succ]

/-! ## Packing -/

/-- The first `n` bits of a bit string; bits that are missing are zero. -/
def padded (n : Nat) (bs : List Bool) : List Bool := (List.range n).map fun i => bs.getD i false

theorem length_padded (n : Nat) (bs : List Bool) : (padded n bs).length = n := by
  rw [padded, List.length_map, List.length_range]

theorem padded_add (n m : Nat) (bs : List Bool) :
    padded (n + m) bs = padded n bs ++ padded m (bs.drop n) := by
  simp [padded, List.range_add, Function.comp_def]

theorem getD_padded (n : Nat) (bs : List Bool) (i : Nat) :
    (padded n bs).getD i false = (decide (i < n) && bs.getD i false) := by
  by_cases h : i < n
  · simp [padded, h]
  · simp [padded, h]

theorem padded_of_le {n : Nat} {bs : List Bool} (h : n ≤ bs.length) : padded n bs = bs.take n := by
  apply List.ext_getElem
  · rw [length_padded, List.length_take_of_le h]
  · intro i hi hi'
    rw [length_padded] at hi
    have hlt : i < bs.length := lt_of_lt_of_le hi h
    simp [padded, hlt]

theorem padded_of_ge {n : Nat} {bs : List Bool} (h : bs.length ≤ n) :
    padded n bs = bs ++ List.replicate (n - bs.length) false := by
  obtain ⟨missing, rfl⟩ := Nat.exists_eq_add_of_le h
  have hzeros : padded missing [] = List.replicate missing false := by
    simp [padded, List.map_const']
  rw [padded_add, padded_of_le le_rfl, List.take_length, List.drop_length, hzeros,
    Nat.add_sub_cancel_left]

theorem bits_byte (bs : List Bool) : bits 8 (byte bs).toNat = padded 8 bs := by
  have hnumber : byte bs = UInt8.ofNat (number (padded 8 bs)) := by
    rw [byte, number, padded, List.foldl_map]
  have hlt := number_lt (padded 8 bs)
  rw [length_padded] at hlt
  have hvalue : (byte bs).toNat = number (padded 8 bs) := by
    rw [hnumber, UInt8.toNat_ofNat_of_lt' hlt]
  have hbits : bits (padded 8 bs).length (number (padded 8 bs)) = padded 8 bs :=
    bits_number (by rw [length_padded]; omega)
  rwa [length_padded, ← hvalue] at hbits

theorem bitString_pack (count : Nat) (bs : List Bool) :
    bitString (pack count bs) = padded (8 * count) bs := by
  induction count generalizing bs with
  | zero => rfl
  | succ count ih =>
      rw [pack, bitString_cons, bits_byte, ih, Nat.mul_succ, Nat.add_comm, padded_add]

/-- A byte is the one that its bits make. -/
theorem byte_bits (b : UInt8) (rest : List Bool) : byte (bits 8 b.toNat ++ rest) = b := by
  have hbits : bits 8 (byte (bits 8 b.toNat ++ rest)).toNat = bits 8 b.toNat := by
    have hlength : (bits 8 b.toNat).length = 8 := length_bits 8 _
    rw [bits_byte, padded_of_le (by rw [List.length_append, hlength]; omega),
      List.take_append_of_le_length hlength.ge, List.take_of_length_le hlength.le]
  have hnumber := congrArg number hbits
  have hb : b.toNat < 2 ^ 8 := b.toNat_lt
  have hbyte : (byte (bits 8 b.toNat ++ rest)).toNat < 2 ^ 8 := UInt8.toNat_lt _
  rw [number_bits (by omega), number_bits (by omega), Nat.mod_eq_of_lt hb,
    Nat.mod_eq_of_lt hbyte] at hnumber
  exact UInt8.toNat_inj.1 hnumber

theorem pack_bitString (bytes : List UInt8) : pack bytes.length (bitString bytes) = bytes := by
  induction bytes with
  | nil => rfl
  | cons b bytes ih =>
      have hdrop : (bits 8 b.toNat ++ bitString bytes).drop 8 = bitString bytes :=
        List.drop_left' (length_bits 8 _)
      rw [List.length_cons, bitString_cons, pack, byte_bits, hdrop, ih]

theorem bitString_injective {first second : List UInt8}
    (h : bitString first = bitString second) : first = second := by
  have hlength := congrArg List.length h
  rw [length_bitString, length_bitString] at hlength
  rw [← pack_bitString first, h, Nat.eq_of_mul_eq_mul_left (by norm_num) hlength, pack_bitString]

end ProverInput.Equihash
