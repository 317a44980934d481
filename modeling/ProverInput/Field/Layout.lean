import ProverInput.Field
import ProverInput.Text.Hex

set_option autoImplicit false

/-! # The layout of field values

Every field value has a layout of integers:

* a truth value is one or zero, a field element is itself, below `2 ^ 252`;
* a 256-bit integer is its lower and its upper half;
* a digest is eight 32-bit words of its bytes in reverse;
* a byte string is its number of 31-byte chunks, the chunks, the rest and the length of the rest;
* an array is its length and its items, a record is its fields;
* an absent value is one, a present one is zero and the value;
* a nested list stays a list.

The only leaves without a layout are integers out of range and texts that are no digest; the
leftmost one is the error.
-/

namespace ProverInput

/-- Integers grouped the way the prover's types are. -/
inductive Layout where
  | scalar (value : Int)
  | digest (words : List Int)
  | wideInt (lo hi : Int)
  | byteChunks (chunkCount : Int) (chunks : List Int) (remainder : Int) (remainderLength : Int)
  | sequence (length : Int) (elements : List Layout)
  | tuple (elements : List Layout)
  | nested (elements : List Layout)
deriving Repr

namespace Layout

/-! ## Leaves -/

/-- Field elements lie below this bound. -/
def feltBound : Nat := 1 <<< 252

def u256Bound : Nat := 1 <<< 256

/-- The halves of a 256-bit integer lie below this bound. -/
def halfBound : Nat := 1 <<< 128

/-- An integer within `[0, bound)`. -/
def inRange (bound : Nat) (value : Int) : Except ConversionError Int :=
  if 0 ≤ value ∧ value < bound then .ok value else .error (.scalarOutOfRange value bound)

def wide (value : Int) : Layout := wideInt (value % halfBound) (value / halfBound)

/-- The big-endian words of four bytes each. -/
def words : List UInt8 → List Int
  | a :: b :: c :: d :: rest => Hex.bigEndian [a, b, c, d] :: words rest
  | _ => []

/-- The bytes of a digest: 64 hexadecimal digits in either case behind an optional prefix. -/
def digestBytes (hex : String) : Except ConversionError (List UInt8) :=
  let body := (Hex.normalize hex).toList
  match Hex.bytes? body with
  | some bytes => if body.length = 64 then .ok bytes else .error (.notDigest hex)
  | none => .error (.notDigest hex)

/-- The text of the digest that is all zeros. -/
def zeroDigest : List Char := List.replicate 64 '0'

/-- The words of a digest in the order in which the prover reads its bytes. The words of the
all-zero digest are known without its bytes. -/
def ofDigest (hex : String) : Except ConversionError Layout := do
  let bytes ← digestBytes hex
  if (Hex.normalize hex).toList = zeroDigest then return digest (List.replicate 8 0)
  return digest (words bytes.reverse)

/-- The words of the all-zero digest are those of its bytes. -/
theorem ofDigest_eq (hex : String) : ofDigest hex = do
    let bytes ← digestBytes hex
    return digest (words bytes.reverse) := by
  by_cases hzero : (Hex.normalize hex).toList = zeroDigest
  · have hbytes : digestBytes hex = .ok (List.replicate 32 0) := by
      simp only [digestBytes, hzero]
      rfl
    simp only [ofDigest, hbytes, if_pos hzero]
    rfl
  · simp only [ofDigest, if_neg hzero]

/-- Bytes of a chunk. -/
def chunkLength : Nat := 31

/-- The big-endian integer of the chunk at position `i`. -/
def chunk (bytes : List UInt8) (i : Nat) : Int :=
  Hex.bigEndian ((bytes.drop (i * chunkLength)).take chunkLength)

def ofBytes (bytes : List UInt8) : Layout :=
  let count := bytes.length / chunkLength
  let rest := bytes.drop (count * chunkLength)
  byteChunks count ((List.range count).map (chunk bytes)) (Hex.bigEndian rest) rest.length

/-! ## Trees -/

mutual

def ofField : Field → Except ConversionError Layout
  | .felt value => scalar <$> inRange feltBound value
  | .bool value => .ok (scalar (if value then 1 else 0))
  | .u256 value => wide <$> inRange u256Bound value
  | .digest hex => ofDigest hex
  | .byteArray bytes => .ok (ofBytes bytes)
  | .array items => do
    let elements ← ofFields items
    return sequence elements.length elements
  | .record entries => tuple <$> ofEntries entries
  | .absent => .ok (scalar 1)
  | .present value => do
    let inner ← ofField value
    return tuple [scalar 0, inner]
  | .nested items => nested <$> ofFields items

def ofFields : List Field → Except ConversionError (List Layout)
  | [] => .ok []
  | item :: rest => do
    let first ← ofField item
    let others ← ofFields rest
    return first :: others

def ofSlot : Slot → Except ConversionError (List Layout)
  | .single value => do
    let layout ← ofField value
    return [layout]
  | .spliced values => ofFields values

def ofEntries : List (String × Slot) → Except ConversionError (List Layout)
  | [] => .ok []
  | (_, slot) :: rest => do
    let first ← ofSlot slot
    let others ← ofEntries rest
    return first ++ others

end

end Layout

end ProverInput
