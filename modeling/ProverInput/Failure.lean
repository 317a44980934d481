import ProverInput.Number.Notation

set_option autoImplicit false

/-! # Failures

A conversion fails for a cause that concerns the value at hand: that is a `ConversionError`, which
is reported under one of eight kinds and has one wording. A `Fault` is an arithmetic or notational
impossibility that no check stands in front of; it ends the whole operation. `Failure` is either.

Functions that can only meet a cause return `Except ConversionError`; they lift into
`Except Failure`.
-/

namespace ProverInput

/-- The kinds under which conversion errors are reported. -/
inductive ErrorKind where
  /-- An integer outside the range of its field type. -/
  | outOfRangeScalar
  /-- A text that is neither a digest, a decimal nor hexadecimal bytes. -/
  | unsupportedStringShape
  /-- A value with no field-element reading at all. -/
  | unsupportedValueType
  /-- Compact bits that are not four bytes. -/
  | invalidCompactEncoding
  /-- An Equihash solution that is neither empty nor of the expected length. -/
  | invalidSolutionLength
  /-- A header record that breaks its schema or does not extend the chain. -/
  | invalidHeaderRecord
  /-- A checkpoint that breaks its schema or its window capacities. -/
  | invalidChainState
  /-- No block at the requested height or hash. -/
  | headerNotFound
deriving DecidableEq, Repr

namespace ErrorKind

def all : List ErrorKind :=
  [outOfRangeScalar, unsupportedStringShape, unsupportedValueType, invalidCompactEncoding,
   invalidSolutionLength, invalidHeaderRecord, invalidChainState, headerNotFound]

/-- The code a kind is reported under. -/
def code : ErrorKind → String
  | outOfRangeScalar => "out_of_range_scalar"
  | unsupportedStringShape => "unsupported_string_shape"
  | unsupportedValueType => "unsupported_value_type"
  | invalidCompactEncoding => "invalid_compact_encoding"
  | invalidSolutionLength => "invalid_solution_length"
  | invalidHeaderRecord => "invalid_header_record"
  | invalidChainState => "invalid_chain_state"
  | headerNotFound => "header_not_found"

/-- The kind reported under a code. -/
def ofCode? (code : String) : Option ErrorKind := all.find? (·.code = code)

theorem ofCode?_code (kind : ErrorKind) : ofCode? kind.code = some kind := by
  cases kind <;> decide

end ErrorKind

/-- One complaint about a document: the place, as names and positions joined by points, and what
is wrong there. -/
structure Issue where
  path : String
  complaint : String
deriving DecidableEq, Repr

namespace Issue

def text (i : Issue) : String := i.path ++ ": " ++ i.complaint

/-- All complaints in a row. -/
def texts (issues : List Issue) : String := "; ".intercalate (issues.map text)

end Issue

/-- Why a value could not be converted. -/
inductive ConversionError where
  /-- A field element or a 256-bit integer outside `[0, bound)`. -/
  | scalarOutOfRange (value : Int) (bound : Nat)
  | targetOutOfRange (target : Int)
  | indexOutOfRange (index width : Number)
  | notHex (text : String)
  | notDigest (text : String)
  | unexpectedString (text : String)
  | unsupportedType (name : String)
  | compactLength (length : Nat)
  | compactNotWord (bits : Number)
  | compactText (text : String)
  | solutionLength (expected : Number) (actual : Nat)
  | solutionCount (expected : Number) (actual : Nat)
  | headerRecord (issues : List Issue)
  | headerGap (height : Number) (tip : Number)
  | headerFile (path : String)
  | chainState (issues : List Issue)
  | windowsTooLong
  | noBlockAt (height : Number)
  | noBlockWithHash (hash : String)
  | noNextBlock (height : Number)
deriving DecidableEq, Repr

namespace ConversionError

def kind : ConversionError → ErrorKind
  | scalarOutOfRange _ _ => .outOfRangeScalar
  | targetOutOfRange _ => .outOfRangeScalar
  | indexOutOfRange _ _ => .outOfRangeScalar
  | notHex _ => .unsupportedStringShape
  | notDigest _ => .unsupportedStringShape
  | unexpectedString _ => .unsupportedStringShape
  | unsupportedType _ => .unsupportedValueType
  | compactLength _ => .invalidCompactEncoding
  | compactNotWord _ => .invalidCompactEncoding
  | compactText _ => .invalidCompactEncoding
  | solutionLength _ _ => .invalidSolutionLength
  | solutionCount _ _ => .invalidSolutionLength
  | headerRecord _ => .invalidHeaderRecord
  | headerGap _ _ => .invalidHeaderRecord
  | headerFile _ => .invalidHeaderRecord
  | chainState _ => .invalidChainState
  | windowsTooLong => .invalidChainState
  | noBlockAt _ => .headerNotFound
  | noBlockWithHash _ => .headerNotFound
  | noNextBlock _ => .headerNotFound

def message : ConversionError → String
  | scalarOutOfRange value bound => s!"Value {value} outside [0, {bound})"
  | targetOutOfRange target => s!"Target must be in [0, 2^256): {target}"
  | indexOutOfRange index width => s!"Equihash index {index} does not fit in {width} bits"
  | notHex text => s!"Invalid hex string: {text}"
  | notDigest text => s!"Digest must be 64 hex characters: {text}"
  | unexpectedString text => s!"Unexpected string format: {text}"
  | unsupportedType name => s!"Unsupported value type: {name}"
  | compactLength length => s!"Compact bits must be exactly 4 bytes, got {length}"
  | compactNotWord bits => s!"Compact bits must be a u32, got {bits}"
  | compactText text => s!"Compact bits must be 8 hex characters: {text}"
  | solutionLength expected actual =>
    s!"Equihash solution must be {expected} bytes, got {actual}"
  | solutionCount expected actual =>
    s!"Equihash solution must have {expected} indices, got {actual}"
  | headerRecord issues => "Invalid header record: " ++ Issue.texts issues
  | headerGap height tip =>
    s!"Header at height {height} does not extend chain state at height {tip}"
  | headerFile path => s!"Header file must hold a JSON array: {path}"
  | chainState issues => "Invalid chain state: " ++ Issue.texts issues
  | windowsTooLong => "Chain state windows exceed their capacity"
  | noBlockAt height => s!"No block at height {height}"
  | noBlockWithHash hash => s!"No block with hash {hash}"
  | noNextBlock height => s!"No next block hash for block {height}"

end ConversionError

/-- What stops an operation for good. -/
inductive Fault where
  /-- A text that is no hexadecimal integer where one has to be. -/
  | malformedInteger
  /-- A number that is not whole where an integer has to be. -/
  | notInteger
  | divisionByZero
  /-- A negative or fractional number of list entries. -/
  | badLength
  /-- A negative integer where only unsigned ones have a notation. -/
  | negativeInteger
  /-- A value that has no text where one has to be. -/
  | noText
deriving DecidableEq, Repr

def Fault.message : Fault → String
  | malformedInteger => "Not an integer in hexadecimal digits"
  | notInteger => "Not a whole number"
  | divisionByZero => "Division by zero"
  | badLength => "Invalid list length"
  | negativeInteger => "A negative integer has no hexadecimal numeral"
  | noText => "A value without a text"

/-- Why an operation gave no answer. -/
inductive Failure where
  | conversion (error : ConversionError)
  | fault (fault : Fault)
deriving DecidableEq, Repr

instance : MonadLift (Except ConversionError) (Except Failure) :=
  ⟨fun x => x.mapError Failure.conversion⟩

instance : MonadLift (Except Fault) (Except Failure) := ⟨fun x => x.mapError Failure.fault⟩

namespace Number

/-- The integer a number stands for. -/
def toInteger : Number → Except Fault Int
  | int n => .ok n
  | _ => .error .notInteger

/-- The length of a new list: a natural number below `2 ^ 32`. -/
def toLength : Number → Except Fault Nat
  | int n => if 0 ≤ n ∧ n < 0x100000000 then .ok n.toNat else .error .badLength
  | _ => .error .badLength

/-- The length of a new byte string: a natural number up to `2 ^ 33`. No number at all is zero. -/
def toByteLength : Number → Except Fault Nat
  | int n => if 0 ≤ n ∧ n ≤ 0x200000000 then .ok n.toNat else .error .badLength
  | nan => .ok 0
  | _ => .error .badLength

end Number

end ProverInput
