import ProverInput.Command.Outcome
import ProverInput.Journal.Logger

set_option autoImplicit false

/-! # The program

Everything that touches the system: the environment, the settings file, the one file a task reads,
the one it writes, and the streams. What is read and written is decided by `Command.plan`. Texts are
held as they come in and plain as they go out.
-/

namespace ProverInput.Program

/-- The variables that the settings look at. -/
def environment : IO Environment := do
  let keys := ["NODE_ENV", "LOG_LEVEL", "ZCL_HEADERS_FILE", "ZCL_OUTPUT_DIR", "DOTENV_KEY"]
  let found ← keys.mapM fun key => do
    let value ← IO.getEnv key
    return value.toList.map fun v => (key, Units.ofPlain v)
  return found.flatten

/-- The cause of an error of the system, and what it is when a directory stands in place of a
file. -/
def fileError (path : String) (onDirectory : FileError) : IO.Error → FileError
  | .noFileOrDirectory .. => .notFound path
  | .inappropriateType _ _ details =>
    if details.toLower = "is a directory" then onDirectory else .notDirectory path
  | e => .refused (toString e)

def readText (path : String) : IO (Except FileError String) := do
  try
    let text ← IO.FS.readFile (Units.toPlain path)
    return .ok (Units.ofPlain text)
  catch e => return .error (fileError path .readsDirectory e)

def writeText (path text : String) : IO (Except FileError Unit) := do
  try
    IO.FS.writeFile (Units.toPlain path) (Units.toPlain text)
    return .ok ()
  catch e => return .error (fileError path (.opensDirectory path) e)

/-- Write the records of one call to the streams. -/
def emit (emission : Emission) : IO Unit := do
  for r in emission.out do
    IO.println (Units.toPlain r.toJson.compactText)
  for r in emission.err do
    IO.eprintln (Units.toPlain r.toJson.compactText)

/-- Give out an outcome. The status is the program's. -/
def report (logger : Logger) (outcome : Command.Outcome) : IO UInt32 := do
  for line in outcome.lines do
    emit (logger.log ⟨line.severity, line.text, []⟩)
  IO.print (Units.toPlain outcome.stdout)
  IO.eprint (Units.toPlain outcome.stderr)
  if let some (complaint, error) := outcome.failure then
    emit (logger.log (.error complaint [.error error.message]))
  return outcome.status.toUInt32

/-- Carry out a plan. -/
def carryOut (logger : Logger) : Except Fault Command.Plan → IO UInt32
  | .ok (.finished outcome) => report logger outcome
  | .ok (.unsaved lines saving) => do
    let written ← writeText saving.path saving.text
    report logger (.saved lines saving written)
  | .error fault => do
    emit (logger.log (.error "Command failed:" [.error fault.message]))
    return 1

/-- The plan of a command line, with the file that its task reads. -/
def planOf (settings : Settings) (words : List String) : IO (Except Fault Command.Plan) := do
  match Command.Request.ofWords settings words with
  | .ok (.task t) =>
    let text ← match t.source with
      | some path => readText path
      | none => pure (.error (.refused ""))
    return Command.plan settings (fun _ => text) words
  | _ => return Command.plan settings (fun path => .error (.notFound path)) words

def run (given : List String) : IO UInt32 := do
  let words := given.map Units.ofPlain
  let env ← environment
  let home := Units.ofPlain ((← IO.getEnv "HOME").getD "/")
  let file ← readText (Settings.filePath none)
  let vault ← readText (Settings.vaultPath none)
  let read (path : String) := if path = Settings.filePath none then file else vault
  match Settings.load read home none env, Logger.start (env.lookup "LOG_LEVEL") with
  | .error refusal, _ =>
    IO.eprintln (Units.toPlain refusal.message)
    return 1
  | .ok (.invalid issues), _ =>
    IO.eprintln (Units.toPlain (Issue.texts issues))
    return 1
  | _, .error e =>
    IO.eprintln (Units.toPlain e.message)
    return 1
  | .ok (.valid settings), .ok logger =>
    match logger.init (some (.name settings.level.name)) with
    | .error e =>
      IO.eprintln (Units.toPlain e.message)
      return 1
    | .ok (logger, emission) =>
      emit emission
      carryOut logger (← planOf settings words)

end ProverInput.Program

def main (words : List String) : IO UInt32 := ProverInput.Program.run words
