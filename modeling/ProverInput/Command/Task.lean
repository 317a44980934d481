import ProverInput.Command
import ProverInput.Field.Untagged
import ProverInput.Json.Printer
import ProverInput.Json.Reader
import ProverInput.ProgramArgs

set_option autoImplicit false

/-! # What a task makes

A task reads one file and makes a product: a text to print or a file to save. The text of the file
comes from a `Reader`, so a task is a function, whether the files are on a `Disk` or elsewhere.

The header records of `generate` and `args` are a list of documents, each of which is checked.
`format-args` takes any document.
-/

namespace ProverInput

/-- Why a request failed. -/
inductive CommandError where
  | conversion (error : ConversionError)
  | fault (fault : Fault)
  | file (error : FileError)
  | invalidJson (path : String)
  | noHeaderFile
deriving DecidableEq, Repr

namespace CommandError

def ofFailure : Failure → CommandError
  | .conversion error => conversion error
  | .fault f => fault f

def message : CommandError → String
  | conversion error => error.message
  | fault f => f.message
  | file error => error.message
  | invalidJson path => s!"Invalid JSON in {path}"
  | noHeaderFile => "No header file: pass --headers or set ZCL_HEADERS_FILE"

instance : MonadLift (Logged Failure) (Logged CommandError) := ⟨Logged.mapError ofFailure⟩

instance : MonadLift (Except Failure) (Except CommandError) := ⟨Except.mapError ofFailure⟩

end CommandError

namespace Command

/-! ## From the text of a file -/

/-- The document in a file. -/
def document (read : Reader) (path : String) : Except CommandError Json := do
  let text ← (read path).mapError .file
  match Json.read text with
  | some doc => return doc
  | none => throw (.invalidJson path)

/-- The header records in a file. -/
def archive (read : Reader) (path : String) : Except CommandError Archive := do
  match ← document read path with
  | .array docs => (Archive.ofDocuments docs).mapError .conversion
  | _ => throw (.conversion (.headerFile path))

/-- The chain data at a height, from a file of header records. -/
def chainData (read : Reader) (headers : Option String) (height count : Number) :
    Logged CommandError ChainData := do
  match headers with
  | none => throw .noHeaderFile
  | some path =>
    let archive ← archive read path
    ChainData.generate archive.source Params.mainnet height count

/-- The prover's arguments for the chain data at a height. -/
def args (read : Reader) (headers : Option String) (height count : Number) :
    Logged CommandError (List HexArg) := do
  let data ← chainData read headers height count
  data.hexArgs

/-- The prover's arguments in a file of untagged values. -/
def formatArgs (read : Reader) (input : String) : Except CommandError (List HexArg) := do
  let doc ← document read input
  (Untagged.ofJson doc).hexArgs

/-- The text of a document as a file holds it. -/
def fileText (doc : Json) : String := doc.indentedText ++ "\n"

/-! ## Products -/

/-- A file to write, what to say when it is written, and what to say when it cannot be. -/
structure Saving where
  path : String
  text : String
  notice : String
  complaint : String
deriving DecidableEq, Repr

/-- What a task makes. -/
inductive Product where
  | print (text : String)
  | save (saving : Saving)
deriving DecidableEq, Repr

/-- The file of chain data that the command `generate` writes. -/
def generate (settings : Settings) (read : Reader) (headers : Option String)
    (height count : Number) (output : String) : Logged CommandError Saving := do
  let data ← chainData read headers height count
  let path := Path.resolve settings.outputDir output
  return {
    path := path
    text := fileText data.toJson
    notice := s!"Chain data written to {path}"
    complaint := "Failed to generate chain data:" }

/-- Arguments on a line of their own. -/
def printed (args : List HexArg) : Product :=
  .print ((HexArg.listToJson args).compactText ++ "\n")

/-- The file the command `args` writes. -/
def savedArgs (settings : Settings) (output : String) (args : List HexArg) : Saving :=
  let path := Path.resolve settings.outputDir output
  { path := path
    text := fileText (HexArg.listToJson args)
    notice := s!"Program arguments written to {path}"
    complaint := "Failed to write program arguments:" }

namespace Task

def product (settings : Settings) (read : Reader) : Task → Logged CommandError Product
  | .generate height count headers output =>
    .save <$> Command.generate settings read headers height count output
  | .args height count headers none => printed <$> Command.args read headers height count
  | .args height count headers (some output) =>
    (fun args => .save (savedArgs settings output args)) <$>
      Command.args read headers height count
  | .formatArgs input => do
    let args ← Command.formatArgs read input
    return printed args

/-- What is said of a task that makes nothing. -/
def complaint : Task → String
  | .generate .. => "Failed to generate chain data:"
  | .args .. => "Failed to build program arguments:"
  | .formatArgs .. => "Failed to format arguments:"

end Task

end Command

end ProverInput
