import ProverInput.Failure
import ProverInput.Json

set_option autoImplicit false

/-! # Caught failures

Running an action that may fail gives either its value or what it failed with. An action may fail
with anything: a conversion error, another error with a message, or a bare value. `call` turns a
bare value into an error with the value's text, and fails itself where the value has none. `settle`
keeps it, except that an empty one counts as success without a value.
-/

namespace ProverInput

/-- A conversion error as it is passed around. Whoever raises one chooses its code, which need not
be that of a kind. -/
structure Report where
  code : String
  message : String
  context : Option Json
deriving Repr

def ConversionError.report (e : ConversionError) : Report := ⟨e.kind.code, e.message, none⟩

/-- What an action can fail with. -/
inductive Caught where
  | conversion (report : Report)
  | error (message : String)
  | value (json : Json)
deriving Repr

namespace Caught

/-- Whether this is a conversion error, with the given code if one is given. -/
def isConversion (c : Caught) (code : Option String) : Bool :=
  match c, code with
  | conversion _, none => true
  | conversion report, some code => report.code = code
  | _, _ => false

theorem isConversion_report (e : ConversionError) (kind : ErrorKind) :
    (conversion e.report).isConversion (some kind.code) = decide (e.kind = kind) := by
  refine decide_eq_decide.2 ⟨fun h => ?_, fun h => congrArg ErrorKind.code h⟩
  have := congrArg ErrorKind.ofCode? h
  simpa only [ConversionError.report, ErrorKind.ofCode?_code, Option.some.injEq] using this

mutual

/-- The text of a bare value: items are joined by commas, and absent ones are empty. An object that
has a member in place of its text has no text. -/
def valueText : Json → Except Fault String
  | .null => .ok "null"
  | .bool b => .ok (if b then "true" else "false")
  | .number x => .ok x.text
  | .string s => .ok s
  | .array items => ",".intercalate <$> itemTexts items
  | .object members =>
    if (members.lookup "toString").isSome then .error .noText else .ok "[object Object]"

def itemTexts : List Json → Except Fault (List String)
  | [] => .ok []
  | .null :: rest => ("" :: ·) <$> itemTexts rest
  | item :: rest => do
    let text ← valueText item
    let texts ← itemTexts rest
    return text :: texts

end

/-- Whether a value counts as nothing. -/
def isEmpty : Json → Bool
  | .null => true
  | .bool b => !b
  | .number x => x = .int 0 ∨ x = .nan
  | .string s => s = ""
  | _ => false

/-- The outcome of an action that has run. A bare value becomes an error with its text. -/
def call (action : Except Caught Json) : Except Fault (Except Caught Json) :=
  match action with
  | .error (value v) => do
    let text ← valueText v
    return .error (error text)
  | outcome => .ok outcome

/-- The outcome of an action that has been waited for. A bare value stays what it is. -/
def settle (action : Except Caught Json) : Except Caught Json :=
  match action with
  | .error (value v) => if isEmpty v then .ok .null else .error (value v)
  | outcome => outcome

end Caught

end ProverInput
