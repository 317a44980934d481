import ProverInput.Json.Members
import ProverInput.Text.HexBytes

set_option autoImplicit false

/-! # Field values

A field value is a tree whose leaves say what they are, so that nothing has to be guessed when it
is laid out as field elements.
-/

namespace ProverInput

mutual

inductive Field where
  /-- A native field element. -/
  | felt (value : Int)
  | bool (value : Bool)
  /-- A 256-bit integer, laid out as two halves. -/
  | u256 (value : Int)
  /-- A 32-byte hash in display order. -/
  | digest (hex : String)
  | byteArray (bytes : List UInt8)
  /-- A sequence laid out behind its length. -/
  | array (items : List Field)
  /-- Named slots laid out in order. -/
  | record (entries : List (String × Slot))
  | absent
  | present (value : Field)
  /-- A list that stays a list. -/
  | nested (items : List Field)

/-- What stands under a name in a record: one value, or several laid out in its place. -/
inductive Slot where
  | single (value : Field)
  | spliced (values : List Field)

end

namespace Field

/-- The field element a number stands for. -/
def feltOf (x : Number) : Except Fault Field := felt <$> x.toInteger

/-- The 256-bit integer a number stands for. -/
def u256Of (x : Number) : Except Fault Field := u256 <$> x.toInteger

/-- The byte string of a hexadecimal text with or without a prefix. -/
def byteArrayOf (hex : String) : Except ConversionError Field := byteArray <$> Hex.read hex

/-- The record whose fields are assigned one after the other. -/
def ofAssignments (given : List (String × Slot)) : Field := record (Members.assign given)

end Field

end ProverInput
