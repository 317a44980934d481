import Mathlib
import ProverInput.Text.Hex

set_option autoImplicit false

/-! # Big-endian integers

The integer of a byte string is its first byte times a power of 256 plus the integer of the rest
(`bigEndian_cons`), so it lies below `256 ^ n` for `n` bytes (`bigEndian_lt`). The integer forgets
leading zeros, but with the number of bytes it gives the string back (`bigEndianBytes_bigEndian`),
and an integer that fits is that of the bytes it is written in (`bigEndian_bigEndianBytes`). The
bytes in reverse are the base 256 digits of their integer (`bigEndian_reverse`).

Two digits of a body make one byte (`length_of_bytes?`), so the integer of its bytes is the value of
its digits (`bigEndian_of_bytes?`).
-/

namespace ProverInput.Hex

theorem foldl_bigEndian (bytes : List UInt8) (n : Nat) :
    bytes.foldl (fun n b => n * 256 + b.toNat) n = n * 256 ^ bytes.length + bigEndian bytes := by
  induction bytes generalizing n with
  | nil => simp [bigEndian]
  | cons b rest ih =>
    have h0 := ih (0 * 256 + b.toNat)
    simp only [bigEndian, List.foldl_cons, List.length_cons] at h0 ⊢
    rw [ih, h0, Nat.pow_succ]
    simp only [Nat.add_mul, Nat.zero_mul, Nat.zero_add, Nat.mul_assoc, Nat.add_assoc,
      Nat.mul_comm (256 ^ rest.length) 256]
    rfl

theorem bigEndian_cons (b : UInt8) (rest : List UInt8) :
    bigEndian (b :: rest) = b.toNat * 256 ^ rest.length + bigEndian rest := by
  have := foldl_bigEndian rest (0 * 256 + b.toNat)
  simpa [bigEndian] using this

theorem bigEndian_lt (bytes : List UInt8) : bigEndian bytes < 256 ^ bytes.length := by
  induction bytes with
  | nil => simp [bigEndian]
  | cons b rest ih =>
    have hb : b.toNat < 256 := b.toNat_lt
    rw [bigEndian_cons, List.length_cons, Nat.pow_succ]
    have : b.toNat * 256 ^ rest.length + 256 ^ rest.length ≤ 256 ^ rest.length * 256 := by
      rw [← Nat.succ_mul, Nat.mul_comm]
      exact Nat.mul_le_mul_left _ hb
    omega

theorem bigEndian_append (bytes rest : List UInt8) :
    bigEndian (bytes ++ rest) = bigEndian bytes * 256 ^ rest.length + bigEndian rest := by
  unfold bigEndian
  rw [List.foldl_append]
  exact foldl_bigEndian rest _

theorem bigEndian_concat (bytes : List UInt8) (b : UInt8) :
    bigEndian (bytes ++ [b]) = bigEndian bytes * 256 + b.toNat := by
  rw [bigEndian, List.foldl_append]
  rfl

/-- Read backwards, the bytes are the digits of a number in base 256, least significant first. -/
theorem bigEndian_reverse (bytes : List UInt8) :
    bigEndian bytes.reverse = Nat.ofDigits 256 (bytes.map UInt8.toNat) := by
  induction bytes with
  | nil => rfl
  | cons b rest ih =>
      rw [List.reverse_cons, bigEndian_concat, ih, List.map_cons, Nat.ofDigits_cons]
      ring

/-- The last `width` bytes of a number in base 256, most significant first. -/
def bigEndianBytes : Nat → Nat → List UInt8
  | 0, _ => []
  | width + 1, n => bigEndianBytes width (n / 256) ++ [UInt8.ofNat (n % 256)]

theorem bigEndianBytes_bigEndian (bytes : List UInt8) :
    bigEndianBytes bytes.length (bigEndian bytes) = bytes := by
  induction bytes using List.reverseRecOn with
  | nil => rfl
  | append_singleton bytes b ih =>
      have hb : b.toNat < 256 := b.toNat_lt
      have hdiv : (bigEndian bytes * 256 + b.toNat) / 256 = bigEndian bytes := by omega
      have hmod : (bigEndian bytes * 256 + b.toNat) % 256 = b.toNat := by omega
      rw [List.length_append, List.length_singleton, bigEndian_concat, bigEndianBytes, hdiv, hmod,
        ih, UInt8.ofNat_toNat]

theorem length_bigEndianBytes (width n : Nat) : (bigEndianBytes width n).length = width := by
  induction width generalizing n with
  | zero => rfl
  | succ width ih => rw [bigEndianBytes, List.length_append, ih, List.length_singleton]

/-- A number that fits is the integer of its bytes. -/
theorem bigEndian_bigEndianBytes {width n : Nat} (h : n < 256 ^ width) :
    bigEndian (bigEndianBytes width n) = n := by
  induction width generalizing n with
  | zero =>
      rw [pow_zero, Nat.lt_one_iff] at h
      rw [h]
      rfl
  | succ width ih =>
      have hdiv : n / 256 < 256 ^ width := Nat.div_lt_of_lt_mul (by rwa [pow_succ'] at h)
      have hbyte : (UInt8.ofNat (n % 256)).toNat = n % 256 := by
        rw [UInt8.toNat_ofNat']
        omega
      rw [bigEndianBytes, bigEndian_concat, ih hdiv, hbyte]
      omega

/-! ## The bytes of a body -/

theorem length_of_bytes? {text : List Char} {bytes : List UInt8}
    (h : bytes? text = some bytes) : text.length = 2 * bytes.length := by
  fun_induction bytes? text generalizing bytes with
  | case1 =>
      cases h
      rfl
  | case2 => cases h
  | case3 high low rest hi lo more hmore hlo hhi ih =>
      cases h
      have := ih hmore
      simp only [List.length_cons]
      omega
  | case4 => cases h

/-- Two digits fit into a byte. -/
theorem toNat_ofNat_digits {high low : Char} {h l : Nat} (hh : digit? high = some h)
    (hl : digit? low = some l) : (UInt8.ofNat (h * 16 + l)).toNat = h * 16 + l := by
  have hh16 := digit?_lt hh
  have hl16 := digit?_lt hl
  rw [UInt8.toNat_ofNat']
  omega

/-- The integer of the bytes of a body is the value of its digits. -/
theorem bigEndian_of_bytes? {text : List Char} {bytes : List UInt8} (h : bytes? text = some bytes) :
    bigEndian bytes = value text := by
  -- two digits on the one side go with one byte on the other, from any number on
  have hfold : ∀ n, bytes.foldl (fun n b => n * 256 + b.toNat) n =
      text.foldl (fun n c => n * 16 + (digit? c).getD 0) n := by
    fun_induction bytes? text generalizing bytes with
    | case1 =>
        cases h
        exact fun n => rfl
    | case2 => cases h
    | case3 high low rest hi lo more hmore hlo hhi ih =>
        cases h
        intro n
        have hstep : n * 256 + (hi * 16 + lo) = (n * 16 + hi) * 16 + lo := by omega
        simp only [List.foldl_cons, hhi, hlo, Option.getD_some, toNat_ofNat_digits hhi hlo, hstep,
          ih hmore]
    | case4 => cases h
  exact hfold 0

end ProverInput.Hex
