import ProverInput.Number.Power
import ProverInput.Text.HexBytes

set_option autoImplicit false

/-! # Equihash solutions

A solution for parameters `n` and `k` is `2 ^ k` indices of `n / (k + 1) + 1` bits each, written
one after the other into a big-endian bit string: the first bit is the most significant one of the
first byte. The last byte is filled up with zeros.

The decoder shifts bytes into an accumulator of 32 bits and takes indices off its upper end. Less
than a byte is left over after each index, so for indices of at most 25 bits nothing is ever shifted
out. Wider indices lose their upper bits, and come out as signed 32-bit integers.

Parameters are any numbers. An index whose width is not whole is cut off by a mask that is not all
ones, the part of `2 ^ width - 1` in front of the point, and is written with the whole bits of its
width.
-/

namespace ProverInput

/-- Equihash parameters. -/
structure Equihash where
  n : Number
  k : Number
deriving DecidableEq, Repr

namespace Equihash

open Number (power)

def mainnet : Equihash := ⟨200, 9⟩

/-! ## Sizes -/

/-- Bits of a collision, `n / (k + 1)`. -/
def collisionBits (e : Equihash) : Number := e.n / (e.k + 1)

/-- Bits of an index, one more than of a collision. -/
def indexBits (e : Equihash) : Number := e.collisionBits + 1

/-- The number of indices. -/
def count (e : Equihash) : Number := power e.k

/-- The number of bytes that hold all indices. -/
def byteLength (e : Equihash) : Number := (e.count * e.indexBits / 8).ceil

example : mainnet.indexBits = 21 ∧ mainnet.count = 512 ∧ mainnet.byteLength = 1344 := by
  decide +kernel

/-! ## Decoding -/

/-- The signed 32-bit integer with the bits of `n`. -/
def signed (n : Nat) : Int := if n < 0x80000000 then n else n - 0x100000000

/-- The bits that `places` binary places keep. -/
def mask (places : Number) : Nat := (power places - 1).lowWord

/-- The decoder's accumulator, the number of bits in it that are not used yet, and the bytes still
to come. -/
structure Source where
  accumulator : Nat
  held : Number
  bytes : List UInt8
deriving DecidableEq, Repr

/-- The accumulator after one more byte. -/
def shiftIn (accumulator byte : Nat) : Nat := (accumulator * 256 + byte) % 0x100000000

/-- Shift in bytes until `width` bits are held. At most one byte is missing at the end, where the
numbers of bits have been rounded; it counts as zero. -/
def fill (width : Number) (accumulator : Nat) (held : Number) : List UInt8 → Source
  | [] =>
    if held < width then ⟨shiftIn accumulator 0, held + 8, []⟩ else ⟨accumulator, held, []⟩
  | b :: rest =>
    if held < width then fill width (shiftIn accumulator b.toNat) (held + 8) rest
    else ⟨accumulator, held, b :: rest⟩

/-- The next `count` indices. -/
def indices (width : Number) : Nat → Source → List Int
  | 0, _ => []
  | count + 1, source =>
    let filled := fill width source.accumulator source.held source.bytes
    let left := filled.held - width
    signed ((filled.accumulator >>> left.whole) &&& mask width) ::
      indices width count ⟨filled.accumulator &&& mask left, left, filled.bytes⟩

/-- The indices of a solution. An empty text has none; any other must have the exact length. -/
def decode (e : Equihash) (bytes : List UInt8) : Except Failure (List Int) :=
  if bytes.isEmpty then .ok []
  else if (bytes.length : Number).same e.byteLength then do
    let count ← e.count.toLength
    return indices e.indexBits count ⟨0, 0, bytes⟩
  else .error (.conversion (.solutionLength e.byteLength bytes.length))

/-- The indices of a solution in hexadecimal text with or without a prefix. -/
def decodeText (e : Equihash) (text : String) : Except Failure (List Int) := do
  let bytes ← Hex.read text
  e.decode bytes

/-! ## Encoding -/

/-- The bits of an index, most significant first. Places repeat after 32. -/
def bits (width n : Nat) : List Bool :=
  (List.range width).reverse.map fun place => n.testBit (place % 32)

/-- The byte whose bits come first in the list; bits that are missing are zero. -/
def byte (bits : List Bool) : UInt8 :=
  UInt8.ofNat ((List.range 8).foldl (fun n i => 2 * n + (bits.getD i false).toNat) 0)

/-- The first `count` bytes of a bit string. Places are counted without a bound. A counter of 32
bits has the same bytes for solutions of less than `2 ^ 31` bits and runs over in longer ones. -/
def pack : Nat → List Bool → List UInt8
  | 0, _ => []
  | count + 1, bits => byte bits :: pack count (bits.drop 8)

/-- An index that fits into `width` bits. -/
def checkIndex (width : Number) (index : Number) : Except ConversionError Nat :=
  match index with
  | .int n =>
    if 0 ≤ n ∧ ¬ power width ≤ index then .ok n.toNat else .error (.indexOutOfRange index width)
  | _ => .error (.indexOutOfRange index width)

/-- The solution with the given indices. -/
def encode (e : Equihash) (indices : List Number) : Except Failure (List UInt8) := do
  if ¬ (indices.length : Number).same e.count then
    throw (.conversion (.solutionCount e.count indices.length))
  let length ← e.byteLength.toByteLength
  let values ← (indices.mapM (checkIndex e.indexBits) : Except ConversionError (List Nat))
  return pack length (values.flatMap (bits e.indexBits.whole))

theorem length_pack (count : Nat) (bits : List Bool) : (pack count bits).length = count := by
  induction count generalizing bits with
  | zero => rfl
  | succ count ih => simp [pack, ih]

/-! ## Whole widths -/

/-- Another byte in a number of bits far from the bound of exact sums. -/
theorem add_byte {held : Nat} (h : held + 8 ≤ Number.exactBound) :
    Number.int held + 8 = .int (held + 8 : Nat) :=
  Number.int_add_exact (a := held) (b := 8) (by omega)

/-- The mask of a whole number of places keeps as many bits. -/
theorem and_mask (n : Nat) {places : Nat} (h : places ≤ 32) :
    n &&& mask (.int places) = n % 1 <<< places := by
  have hpos : 0 < 1 <<< places := by
    rw [Nat.shiftLeft_eq, Nat.one_mul]
    exact Nat.two_pow_pos places
  have hle : 1 <<< places ≤ 0x100000000 := by
    simpa [Nat.shiftLeft_eq] using Nat.pow_le_pow_right (by omega : 0 < 2) h
  have hsub : Number.int ((1 <<< places : Nat) : Int) - 1 =
      .int ((1 <<< places - 1 : Nat) : Int) := by
    have := Number.int_sub_exact (a := ((1 <<< places : Nat) : Int)) (b := 1)
      (by simp only [Number.exactBound]; omega)
    rw [show ((1 <<< places - 1 : Nat) : Int) = ((1 <<< places : Nat) : Int) - 1 by omega]
    exact this
  rw [mask, Number.power_natCast (by omega), hsub, Number.lowWord_natCast,
    Nat.mod_eq_of_lt (by omega), Nat.shiftLeft_eq, Nat.one_mul, Nat.and_two_pow_sub_one_eq_mod]

end Equihash

end ProverInput
