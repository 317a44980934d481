import ProverInput.Field.Layout
import ProverInput.Json

set_option autoImplicit false

/-! # Arguments

The prover takes a flat list of integers in which only nested lists stay lists:
`(0, (1, 2), nested [(3, 4, nested [5, 6])])` becomes `[0, 1, 2, [3, 4, [5, 6]]]`. On the command
line every integer is a hexadecimal numeral.
-/

namespace ProverInput

/-- An integer or a list that stayed one. -/
inductive Flat where
  | scalar (value : Int)
  | nested (items : List Flat)
deriving Repr

/-- A flat argument with its integers as hexadecimal numerals. -/
inductive HexArg where
  | numeral (text : String)
  | nested (items : List HexArg)
deriving Repr

namespace Layout

mutual

/-- The integers of a layout in order. -/
def flatten : Layout → List Flat
  | .scalar value => [.scalar value]
  | .digest words => words.map .scalar
  | .wideInt lo hi => [.scalar lo, .scalar hi]
  | .byteChunks chunkCount chunks remainder remainderLength =>
    .scalar chunkCount :: (chunks.map .scalar ++ [.scalar remainder, .scalar remainderLength])
  | .sequence length elements => .scalar length :: flattenAll elements
  | .tuple elements => flattenAll elements
  | .nested elements => [.nested (flattenAll elements)]

def flattenAll : List Layout → List Flat
  | [] => []
  | element :: rest => flatten element ++ flattenAll rest

end

end Layout

namespace Flat

mutual

/-- The numerals of an argument; a negative integer has none. -/
def toHex : Flat → Except Fault HexArg
  | .scalar value =>
    if 0 ≤ value then .ok (.numeral (Hex.numeral value.toNat)) else .error .negativeInteger
  | .nested items => .nested <$> toHexAll items

def toHexAll : List Flat → Except Fault (List HexArg)
  | [] => .ok []
  | item :: rest => do
    let first ← toHex item
    let others ← toHexAll rest
    return first :: others

end

end Flat

namespace HexArg

mutual

def toJson : HexArg → Json
  | .numeral text => .string text
  | .nested items => .array (toJsonAll items)

def toJsonAll : List HexArg → List Json
  | [] => []
  | item :: rest => toJson item :: toJsonAll rest

end

/-- The document of a list of arguments. -/
def listToJson (args : List HexArg) : Json := .array (toJsonAll args)

end HexArg

/-- The arguments of a field value. -/
def Field.hexArgs (field : Field) : Except Failure (List HexArg) := do
  let layout ← Layout.ofField field
  Flat.toHexAll layout.flatten

end ProverInput
