import ProverInput.Failure
import ProverInput.Text.Hex

set_option autoImplicit false

/-! # Byte strings in hexadecimal text -/

namespace ProverInput.Hex

/-- The bytes of an even run of hexadecimal digits behind an optional prefix. -/
def read (text : String) : Except ConversionError (List UInt8) :=
  match bytes? (dropMark text.toList) with
  | some bytes => .ok bytes
  | none => .error (.notHex text)

theorem read_ok_iff {text : String} {bytes : List UInt8} :
    read text = .ok bytes ↔ bytes? (dropMark text.toList) = some bytes := by
  unfold read
  split <;> simp_all

end ProverInput.Hex
