import ProverInput.CommandLine
import ProverInput.Settings

set_option autoImplicit false

/-! # The tool's commands

`generate` writes the chain state at a height and the blocks after it to a file. `args` does the
same and gives out the prover's arguments. `format-args` reads such arguments off an untagged
document.

A command line is turned into a `Request` or refused. The options of a command are looked at in the
order in which they stand; after them come the mandatory ones that are missing, and last the words
that are no option. `ProverInput.Command.Outcome` says what a request leads to.
-/

namespace ProverInput

open CommandLine (Flag Occurrence Refusal)

namespace Command

/-! ## Values of options -/

/-- Decimal digits for a number that doubles tell apart from its neighbours. -/
def parseBlockNumber (text : String) : Except String Number :=
  let digits := text.toList
  if digits = [] ∨ ¬ digits.all Char.isDigit then .error "Must be a non-negative integer."
  else
    let n := Nat.ofDigitChars 10 digits 0
    if n < Number.exactBound then .ok (.int n) else .error "Must be a safe integer."

/-- Characters that no file path may hold. -/
def forbidden : List Char := ['<', '>', '\x22', '|', '?', '*']

def isValidPath (path : String) : Bool :=
  !path.isEmpty && !path.toList.any forbidden.contains

def parseFilePath (text : String) : Except String String :=
  if isValidPath text then .ok text else .error "Must be a file path."

/-! ## Options -/

def versionFlag : Flag := ⟨"-V, --version", "--version", some "-V", false, false⟩
def heightFlag : Flag := ⟨"--height <number>", "--height", none, true, true⟩
def countFlag : Flag := ⟨"--num-blocks <number>", "--num-blocks", none, true, true⟩
def headersFlag : Flag := ⟨"--headers <file>", "--headers", none, true, false⟩
def outputFlag (mandatory : Bool) : Flag := ⟨"--output <file>", "--output", none, true, mandatory⟩
def inputFlag : Flag := ⟨"--input <file>", "--input", none, true, true⟩

def version : String := "0.1.0"

inductive Name where
  | generate
  | formatArgs
  | args
deriving DecidableEq, Repr

namespace Name

def all : List Name := [generate, formatArgs, args]

def word : Name → String
  | generate => "generate"
  | formatArgs => "format-args"
  | args => "args"

def ofWord? (word : String) : Option Name := all.find? (·.word = word)

def flags : Name → List Flag
  | generate => [heightFlag, countFlag, headersFlag, outputFlag true]
  | formatArgs => [inputFlag]
  | args => [heightFlag, countFlag, headersFlag, outputFlag false]

end Name

/-- The values given so far. -/
structure Values where
  height : Option Number
  count : Option Number
  headers : Option String
  output : Option String
  input : Option String

/-- The values with the one of an occurrence, which must have its form. -/
def Values.take (v : Values) : Occurrence → Except Refusal Values
  | .plain _ => .ok v
  | .valueMissing flag => .error (.missingValue flag)
  | .valued flag text =>
    let refuse (reason : String) : Refusal := .invalidValue flag text reason
    if flag.long = "--height" then
      (fun x => { v with height := some x }) <$> (parseBlockNumber text).mapError refuse
    else if flag.long = "--num-blocks" then
      (fun x => { v with count := some x }) <$> (parseBlockNumber text).mapError refuse
    else if flag.long = "--headers" then
      (fun x => { v with headers := some x }) <$> (parseFilePath text).mapError refuse
    else if flag.long = "--output" then
      (fun x => { v with output := some x }) <$> (parseFilePath text).mapError refuse
    else
      (fun x => { v with input := some x }) <$> (parseFilePath text).mapError refuse

/-! ## Requests -/

/-- A command with the values it works on. -/
inductive Task where
  | generate (height count : Number) (headers : Option String) (output : String)
  | args (height count : Number) (headers : Option String) (output : Option String)
  | formatArgs (input : String)
deriving Repr

/-- The file a task reads. -/
def Task.source : Task → Option String
  | generate _ _ headers _ => headers
  | args _ _ headers _ => headers
  | formatArgs input => some input

/-- What a command line asks for. -/
inductive Request where
  | version
  /-- The usage, of a command if one is named. It fails where a command was expected. -/
  | help (about : Option Name) (failing : Bool)
  | task (task : Task)
deriving Repr

def isHelp (word : String) : Bool := word = "-h" || word = "--help"

/-- The words proposed for a misspelt option of a command. -/
def optionWords (name : Option Name) : List String :=
  ((name.map fun n => n.flags.map Flag.long ++ ["--help"]).getD []) ++ ["--version", "--help"]

/-- The words proposed for a misspelt command. -/
def commandWords : List String := Name.all.map Name.word ++ ["help"]

/-- The value of a mandatory option. -/
def require {α : Type} (flag : Flag) (value : Option α) : Except Refusal α :=
  match value with
  | some v => .ok v
  | none => .error (.missingOption flag)

/-- The task of a command with its values, none of the mandatory ones missing. -/
def Values.toTask (v : Values) (headers : Option String) : Name → Except Refusal Task
  | .generate => do
    let height ← require heightFlag v.height
    let count ← require countFlag v.count
    let output ← require (outputFlag true) v.output
    return .generate height count headers output
  | .args => do
    let height ← require heightFlag v.height
    let count ← require countFlag v.count
    return .args height count headers v.output
  | .formatArgs => do
    let input ← require inputFlag v.input
    return .formatArgs input

/-- The request of a command with the words left over for it. -/
def Request.ofCommand (settings : Settings) (name : Name) (words : List String) :
    Except Refusal Request := do
  let split := CommandLine.scan name.flags words
  let v ← split.occurrences.foldlM Values.take ⟨none, none, none, none, none⟩
  if split.unknown.any isHelp then
    return .help name false
  let task ← v.toTask (v.headers.or settings.headersFile) name
  match split.unknown with
  | word :: _ => throw (.unknownOption word (optionWords name))
  | [] => return .task task

/-- The request of the word `help` with the words behind it. -/
def Request.ofHelp : List String → Request
  | [] => .help none false
  | word :: _ =>
    match Name.ofWord? word with
    | some name => .help name false
    | none => .help none true

/-- The request of a command line. -/
def Request.ofWords (settings : Settings) (words : List String) : Except Refusal Request :=
  let split := CommandLine.scan [versionFlag] words
  if !split.occurrences.isEmpty then .ok .version
  else
    match split.operands, split.unknown with
    | [], [] => .ok (.help none true)
    | [], word :: rest =>
      if (word :: rest).any isHelp then .ok (.help none false)
      else .error (.unknownOption word (optionWords none))
    | word :: operands, unknown =>
      match Name.ofWord? word with
      | some name => Request.ofCommand settings name unknown
      | none =>
        if word = "help" then .ok (Request.ofHelp operands)
        else if unknown.any isHelp then .ok (.help none false)
        else .error (.unknownCommand word commandWords)

end Command

end ProverInput
