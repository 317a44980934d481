import ProverInput.Journal
import ProverInput.Json
import ProverInput.Json.Members
import ProverInput.Number.Notation
import ProverInput.Text.Lowercase

set_option autoImplicit false

/-! # Loggers

A logger that has not been initialised prints every line on the console. Once initialised it
writes records: those of its level and above go to standard output, if they are at least `debug`,
and errors go to standard error as well. A level can be named at the start, by the environment, and
at every initialisation, where it can also be given by its number. A name that means something on
every object is taken too, but it is no level: such a logger writes nothing.
-/

namespace ProverInput

/-- The levels a logger can be set to. Nothing reaches `silent`. -/
inductive Level where
  | trace
  | debug
  | info
  | warn
  | error
  | fatal
  | silent
deriving DecidableEq, Repr

namespace Level

def all : List Level := [trace, debug, info, warn, error, fatal, silent]

def name : Level → String
  | trace => "trace"
  | debug => "debug"
  | info => "info"
  | warn => "warn"
  | error => "error"
  | fatal => "fatal"
  | silent => "silent"

def ofName? (name : String) : Option Level := all.find? (·.name = name)

/-- The number of a level. -/
def number : Level → Number
  | trace => 10
  | debug => 20
  | info => 30
  | warn => 40
  | error => 50
  | fatal => 60
  | silent => .infinite false

def ofNumber? (x : Number) : Option Level := all.find? (·.number = x)

/-- Names that mean something on every object. -/
def inherited : List String :=
  ["constructor", "hasOwnProperty", "isPrototypeOf", "propertyIsEnumerable", "toLocaleString",
   "toString", "valueOf", "__proto__", "__defineGetter__", "__defineSetter__", "__lookupGetter__",
   "__lookupSetter__"]

/-- What a logger is set to under a name, if it takes the name: a level, or none at all. -/
def setting? (name : String) : Option (Option Level) :=
  match ofName? name with
  | some level => some (some level)
  | none => if inherited.contains name then some none else none

/-- The name at the start in lowercase, if that is a name other than `silent`. -/
def foldName (name : String) : String :=
  let folded := String.ofList (Lowercase.lower name.toList)
  if (setting? folded).isSome ∧ folded ≠ silent.name then folded else name

/-- Whether a logger at this level writes a record of the given severity. -/
def admits : Level → Severity → Bool
  | trace, _ => true
  | debug, _ => true
  | info, s => s ≠ .debug
  | warn, s => s = .warn || s = .error
  | error, s => s = .error
  | fatal, _ => false
  | silent, _ => false

end Level

/-- The number a record carries for its severity. -/
def Severity.number : Severity → Nat
  | debug => 20
  | info => 30
  | warn => 40
  | error => 50

/-- What is passed along with a message. -/
inductive Detail where
  | value (json : Json)
  | error (message : String)
  | missing
deriving Repr

/-- A message as it is given to a logger. -/
structure Message where
  severity : Severity
  text : String
  details : List Detail
deriving Repr

/-! ## Causes -/

/-- What a record says about the cause of an error. -/
inductive Cause where
  /-- The type of the cause, if it has one, and its message. -/
  | error (type : Option Json) (message : String)
  | value (json : Json)
deriving Repr

namespace Cause

/-- The message of a value that carries one, followed by the messages of what caused it. -/
def messages? : Json → Option String
  | .object members =>
    match members.lookup "message" with
    | some (.string message) =>
      match h : members.lookup "cause" with
      | some cause =>
        have := Members.sizeOf_lookup_lt h
        match messages? cause with
        | some rest => some (message ++ ": " ++ rest)
        | none => some message
      | none => some message
    | _ => none
  | _ => none

/-- The type of a value that carries a message. It is a plain object unless it names a constructor
of its own; then it goes by its name, or by its own word for its type. -/
def typeOf (value : Json) : Option Json :=
  match value.get? "constructor" with
  | none => some (.string "Object")
  | some _ => (value.get? "name").or (value.get? "type")

/-- A value as a cause. One that carries a message is taken for an error. -/
def ofJson (value : Json) : Cause :=
  match messages? value with
  | some message => error (typeOf value) message
  | none => .value value

def toJson : Cause → Json
  | error type message =>
    .object ((type.toList.map fun t => ("type", t)) ++ [("message", .string message)])
  | value json => json

end Cause

/-- What a detail says as the cause of an error. -/
def Detail.cause? : Detail → Option Cause
  | value json => some (.ofJson json)
  | error message => some (.error (some (.string "Error")) message)
  | missing => none

/-! ## Records -/

/-- The document of a detail that is no cause. -/
def Detail.toJson : Detail → Json
  | value json => json
  | error _ => .object []
  | missing => .null

/-- A message as it is written once the logger is initialised. -/
structure LogRecord where
  severity : Severity
  text : String
  cause : Option Cause
  details : Option (List Detail)
deriving Repr

/-- The document of a record, with a cause or details only if there are any. -/
def LogRecord.toJson (r : LogRecord) : Json :=
  .object <|
    [("level", .ofInt r.severity.number)] ++
    (r.cause.toList.map fun cause => ("err", cause.toJson)) ++
    (r.details.toList.map fun details => ("args", .array (details.map Detail.toJson))) ++
    [("msg", .string r.text)]

namespace Message

/-- The text behind the time stamp on the console. -/
def consoleText (m : Message) : String := s!"[{m.severity.tag}] {m.text}"

/-- The record of a message. An error's first detail is its cause. -/
def toRecord (m : Message) : LogRecord :=
  match m.severity, m.details with
  | .error, cause :: rest => ⟨.error, m.text, cause.cause?, some rest⟩
  | severity, [] => ⟨severity, m.text, none, none⟩
  | severity, details => ⟨severity, m.text, none, some details⟩

end Message

/-- An error carries a cause even when none is given. -/
def Message.error (text : String) (details : List Detail) : Message :=
  ⟨.error, text, if details.isEmpty then [.missing] else details⟩

structure Logger where
  /-- The level; a logger without one writes nothing. -/
  level : Option Level
  initialized : Bool
deriving DecidableEq, Repr

/-- How a level is given. -/
inductive LevelChoice where
  | name (name : String)
  | number (x : Number)
deriving DecidableEq, Repr

/-- Why a level could not be set. -/
inductive LevelError where
  | unknownDefault (name : String)
  | unknown (name : String)
  | unknownNumber (x : Number)
deriving DecidableEq, Repr

def LevelError.message : LevelError → String
  | unknownDefault name => s!"default level:{name} must be included in custom levels"
  | unknown name => s!"unknown level {name}"
  | unknownNumber x => s!"unknown level value{x}"

/-- What a logger is set to by a choice. -/
def LevelChoice.setting : LevelChoice → Except LevelError (Option Level)
  | name text =>
    match Level.setting? text with
    | some level => .ok level
    | none => .error (.unknown text)
  | number x =>
    match Level.ofNumber? x with
    | some level => .ok (some level)
    | none => .error (.unknownNumber x)

/-- What one call leaves on the console and in the two streams. -/
structure Emission where
  console : List Message
  out : List LogRecord
  err : List LogRecord
deriving Repr

namespace Logger

/-- A new logger at the level the environment names, in any case, and at `info` if it names
none. -/
def start (level : Option String) : Except LevelError Logger :=
  match level.filter (· ≠ "") with
  | none => .ok ⟨some .info, false⟩
  | some name =>
    match Level.setting? (Level.foldName name) with
    | some level => .ok ⟨level, false⟩
    | none => .error (.unknownDefault name)

/-- Whether the logger writes records of a severity. -/
def admits (logger : Logger) (severity : Severity) : Bool :=
  logger.level.any fun level => level.admits severity

/-- Write a record to the streams. -/
def write (logger : Logger) (m : Message) : Emission :=
  if logger.admits m.severity then
    ⟨[], [m.toRecord], if m.severity = .error then [m.toRecord] else []⟩
  else ⟨[], [], []⟩

/-- Initialise, at a level if one is chosen. -/
def init (logger : Logger) (choice : Option LevelChoice) :
    Except LevelError (Logger × Emission) := do
  let level ← match choice with
    | none => .ok logger.level
    | some choice => choice.setting
  let logger : Logger := ⟨level, true⟩
  return (logger, logger.write ⟨.debug, "LoggerProvider initialized", []⟩)

/-- Log a message. -/
def log (logger : Logger) (m : Message) : Emission :=
  if logger.initialized then logger.write m else ⟨[m], [], []⟩

end Logger

end ProverInput
