import ProverInput.Number

set_option autoImplicit false

/-! # JSON documents

A document keeps the members of its objects in order. The order is that of `Json.Members`; the
reader never builds an object with two members of one name.
-/

namespace ProverInput

inductive Json where
  | null
  | bool (b : Bool)
  | number (x : Number)
  | string (s : String)
  | array (items : List Json)
  | object (members : List (String × Json))
deriving Repr, Inhabited

namespace Json

/-- The kinds of documents, by the names messages give them. -/
inductive Kind where
  | null
  | boolean
  | number
  | nan
  | string
  | array
  | object
deriving DecidableEq, Repr

def Kind.name : Kind → String
  | null => "null"
  | boolean => "boolean"
  | number => "number"
  | nan => "nan"
  | string => "string"
  | array => "array"
  | object => "object"

def kind : Json → Kind
  | .null => .null
  | .bool _ => .boolean
  | .number .nan => .nan
  | .number _ => .number
  | .string _ => .string
  | .array _ => .array
  | .object _ => .object

/-- The value of the member named `key`. -/
def get? (key : String) : Json → Option Json
  | .object members => members.lookup key
  | _ => none

/-- A text or the absence of one. -/
def ofText? : Option String → Json
  | some s => .string s
  | none => .null

/-- The whole number `n`. -/
def ofInt (n : Int) : Json := .number (.int n)

/-- The decimal text of an integer, as big integers travel. -/
def decimal (n : Int) : Json := .string (toString n)

end Json

end ProverInput
