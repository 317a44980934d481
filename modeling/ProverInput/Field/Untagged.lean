import ProverInput.Field.Arguments

set_option autoImplicit false

/-! # Untagged values

A document says nothing about the types of its leaves, so they are read off their form. Of the
texts, 64 hexadecimal digits are a digest, decimal digits are a 256-bit integer, and `0x` with
hexadecimal digits is a byte string, in this order: 64 decimal digits are a digest.

A member whose name starts with an underscore holds a raw tuple: integers and lists of raw items.
It is laid out in place of the member, and its inner lists stay lists.
-/

namespace ProverInput

/-- A value without type tags. Besides documents there are big integers, the absence of a value,
and objects that are no plain records. -/
inductive Untagged where
  | null
  | bool (b : Bool)
  | number (x : Number)
  | integer (n : Int)
  | text (s : String)
  | list (items : List Untagged)
  | record (members : List (String × Untagged))
  | missing
  | foreign
deriving Repr, Inhabited

namespace Untagged

mutual

def ofJson : Json → Untagged
  | .null => .null
  | .bool b => .bool b
  | .number x => .number x
  | .string s => .text s
  | .array items => .list (ofJsonItems items)
  | .object members => .record (ofJsonMembers members)

def ofJsonItems : List Json → List Untagged
  | [] => []
  | item :: rest => ofJson item :: ofJsonItems rest

def ofJsonMembers : List (String × Json) → List (String × Untagged)
  | [] => []
  | (name, value) :: rest => (name, ofJson value) :: ofJsonMembers rest

end

/-- The name messages give to the type of a value. -/
def typeName : Untagged → String
  | bool _ => "boolean"
  | number _ => "number"
  | integer _ => "bigint"
  | text _ => "string"
  | missing => "undefined"
  | _ => "object"

def unsupported {α : Type} (value : Untagged) : Except ConversionError α :=
  .error (.unsupportedType value.typeName)

/-! ## Leaves -/

/-- The reading of a text by its form. -/
def textField (s : String) : Except ConversionError Field :=
  let chars := s.toList
  if chars.length = 64 ∧ chars.all Hex.isDigit then .ok (.digest s)
  else if chars ≠ [] ∧ chars.all Char.isDigit then .ok (.u256 (Nat.ofDigitChars 10 chars 0))
  else match chars with
    | '0' :: 'x' :: _ => Field.byteArrayOf s
    | _ => .error (.unexpectedString s)

/-- Whether a member of this name holds a raw tuple. -/
def isRawName (name : String) : Bool := name.toList.head? = some '_'

/-! ## Trees -/

mutual

/-- An item of a raw tuple. -/
def rawField : Untagged → Except ConversionError Field
  | .integer n => .ok (.felt n)
  | .number (.int n) => .ok (.felt n)
  | .list items => .nested <$> rawFields items
  | other => unsupported other

def rawFields : List Untagged → Except ConversionError (List Field)
  | [] => .ok []
  | item :: rest => do
    let first ← rawField item
    let others ← rawFields rest
    return first :: others

end

mutual

def toField : Untagged → Except ConversionError Field
  | .bool b => .ok (.bool b)
  | .integer n => .ok (.felt n)
  | .number (.int n) => .ok (.felt n)
  | .text s => textField s
  | .null => .ok .absent
  | .list items => .array <$> toFields items
  | .record members => Field.ofAssignments <$> toSlots members
  | other => unsupported other

def toFields : List Untagged → Except ConversionError (List Field)
  | [] => .ok []
  | item :: rest => do
    let first ← toField item
    let others ← toFields rest
    return first :: others

/-- What stands under the name of a member. -/
def toSlot (name : String) : Untagged → Except ConversionError Slot
  | value =>
    if isRawName name then
      match value with
      | .list items => .spliced <$> rawFields items
      | other => unsupported other
    else .single <$> toField value

def toSlots : List (String × Untagged) → Except ConversionError (List (String × Slot))
  | [] => .ok []
  | (name, value) :: rest => do
    let slot ← toSlot name value
    let others ← toSlots rest
    return (name, slot) :: others

end

/-- The arguments of an untagged value. -/
def hexArgs (value : Untagged) : Except Failure (List HexArg) := do
  let field ← value.toField
  field.hexArgs

end Untagged

end ProverInput
