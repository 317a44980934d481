import ProverInput.Command.Task
import ProverInput.Command.Usage

set_option autoImplicit false

/-! # What a command line leads to

A task that fails says so in one line and ends with status one; a refused command line does the
same on standard error. A fault ends a run without an outcome.

A `Plan` is a run up to where it writes a file. `run` carries it out on a disk.
-/

namespace ProverInput

namespace Command

/-- What a run leaves behind, apart from files. -/
structure Outcome where
  status : Nat
  stdout : String
  stderr : String
  lines : List Line
  /-- The last line of a failed run, an error with its cause. -/
  failure : Option (String × CommandError)
deriving Repr

namespace Outcome

def printing (text : String) : Outcome := ⟨0, text, "", [], none⟩

/-- A complaint on standard error. -/
def refusing (text : String) : Outcome := ⟨1, "", text, [], none⟩

def failing (lines : List Line) (complaint : String) (error : CommandError) : Outcome :=
  ⟨1, "", "", lines, some (complaint, error)⟩

/-- The outcome once the file is written or not. -/
def saved (lines : List Line) (saving : Saving) : Except FileError Unit → Outcome
  | .ok _ => ⟨0, "", "", lines ++ [⟨.info, saving.notice⟩], none⟩
  | .error e => failing lines saving.complaint (.file e)

end Outcome

/-- A run up to where it writes a file. -/
inductive Plan where
  | finished (outcome : Outcome)
  /-- A file is left to write, and what was said so far. -/
  | unsaved (lines : List Line) (saving : Saving)
deriving Repr

/-- What a task leads to. -/
def Task.plan (settings : Settings) (read : Reader) (task : Task) : Except Fault Plan :=
  let product := task.product settings read
  match product.outcome with
  | .ok (.print text) => .ok (.finished ⟨0, text, "", product.lines, none⟩)
  | .ok (.save saving) => .ok (.unsaved product.lines saving)
  | .error (.fault fault) => .error fault
  | .error e => .ok (.finished (.failing product.lines task.complaint e))

/-- What a request leads to. -/
def Request.plan (settings : Settings) (read : Reader) : Request → Except Fault Plan
  | .version => .ok (.finished (.printing (Command.version ++ "\n")))
  | .help about false => .ok (.finished (.printing (usage about)))
  | .help about true => .ok (.finished (.refusing (usage about)))
  | .task t => t.plan settings read

/-- What a command line leads to. -/
def plan (settings : Settings) (read : Reader) (words : List String) : Except Fault Plan :=
  match Request.ofWords settings words with
  | .ok request => request.plan settings read
  | .error refusal => .ok (.finished (.refusing (refusal.message ++ "\n")))

/-- Run a command line on a disk. -/
def run (settings : Settings) (disk : Disk) (words : List String) :
    Except Fault (Outcome × Disk) := do
  match ← plan settings disk.read words with
  | .finished outcome => return (outcome, disk)
  | .unsaved lines saving =>
    match disk.write saving.path saving.text with
    | .ok written => return (.saved lines saving (.ok ()), written)
    | .error e => return (.saved lines saving (.error e), disk)

end Command

end ProverInput
