import ProverInput.Failure
import ProverInput.Number.Arithmetic
import ProverInput.Text.Hex

set_option autoImplicit false

/-! # Compact targets and work

A target is written in four bytes: an exponent `e` and a mantissa `m` of three bytes. It stands
for `m` shifted left by `e - 3` bytes, or right where `e` is below three; exponent zero stands for
`m` itself. The sign bit of the mantissa has no meaning of its own.

Encoding keeps the three leading bytes of a target, or two where the third would set the sign bit.
The work of a target is the number of hashes it takes on average to get below it.
-/

namespace ProverInput.Compact

/-! ## Decoding -/

/-- The target with the given exponent and mantissa. -/
def decode (exponent mantissa : Nat) : Nat :=
  if exponent = 0 then mantissa
  else if exponent ≤ 3 then mantissa >>> (8 * (3 - exponent))
  else mantissa <<< (8 * (exponent - 3))

/-- The target of 32 bits. -/
def target (bits : Nat) : Nat := decode (bits / 0x1000000) (bits % 0x1000000)

/-- The target of four big-endian bytes. -/
def targetOfBytes : List UInt8 → Except ConversionError Nat
  | [e, a, b, c] => .ok (decode e.toNat (Hex.bigEndian [a, b, c]))
  | bytes => .error (.compactLength bytes.length)

/-- The target of a number that fits in 32 bits. -/
def targetOf (bits : Number) : Except ConversionError Nat :=
  match bits with
  | .int n =>
    if 0 ≤ n ∧ n < 0x100000000 then .ok (target n.toNat) else .error (.compactNotWord bits)
  | _ => .error (.compactNotWord bits)

/-- The 32 bits written by eight hexadecimal digits behind an optional prefix. -/
def parse (text : String) : Except ConversionError Nat :=
  let body := Hex.dropMark text.toList
  if body.length = 8 ∧ Hex.isBody body then .ok (Hex.value body) else .error (.compactText text)

/-- The target written by eight hexadecimal digits. -/
def targetOfText (text : String) : Except ConversionError Nat := (parse text).map target

theorem targetOf_int {n : Nat} (h : n < 0x100000000) : targetOf (.int n) = .ok (target n) := by
  have h0 : (0 : Int) ≤ n ∧ (n : Int) < 0x100000000 := by omega
  rw [targetOf, if_pos h0]
  rfl

/-! ## Encoding -/

/-- The number of bytes of the shortest notation of `n`; none for zero. -/
def byteLength (n : Nat) : Nat := if n = 0 then 0 else n.log2 / 8 + 1

/-- The compact form of a target of at most 32 bytes. -/
def bits (t : Nat) : Nat :=
  let size := byteLength t
  let mantissa := if size ≤ 3 then t <<< (8 * (3 - size)) else t >>> (8 * (size - 3))
  if 0x800000 ≤ mantissa then (size + 1) * 0x1000000 + mantissa >>> 8
  else size * 0x1000000 + mantissa

/-- `2 ^ 256`, the number of hashes. -/
def hashCount : Nat := 1 <<< 256

/-- The compact form of a target, which must be below `2 ^ 256`. -/
def bitsOf (target : Int) : Except ConversionError Nat :=
  if 0 ≤ target ∧ target < hashCount then .ok (bits target.toNat)
  else .error (.targetOutOfRange target)

/-! ## Work -/

/-- The work of a natural target: `2 ^ 256 / (target + 1)` rounded down, and none for zero. -/
def workOf (t : Nat) : Nat := if t = 0 then 0 else hashCount / (t + 1)

/-- The work of any integer: the quotient is truncated toward zero, and minus one has none. -/
def work (target : Int) : Except Fault Int :=
  if target = 0 then .ok 0
  else if target + 1 = 0 then .error .divisionByZero
  else .ok ((hashCount : Int).tdiv (target + 1))

theorem work_natCast (t : Nat) : work t = .ok (workOf t) := by
  unfold work workOf
  by_cases h : t = 0
  · simp [h]
  · have h1 : ¬ ((t : Int) = 0) := by omega
    have h2 : ¬ ((t : Int) + 1 = 0) := by omega
    rw [if_neg h1, if_neg h2, if_neg h, Int.tdiv_eq_ediv_of_nonneg (Int.natCast_nonneg _)]
    rfl

/-- The easiest target of the main network. -/
def powLimit : Nat := target 0x1d00ffff

end ProverInput.Compact
