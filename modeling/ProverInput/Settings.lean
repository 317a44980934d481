import ProverInput.Checked
import ProverInput.Disk
import ProverInput.Journal.Logger
import ProverInput.Settings.File
import ProverInput.Settings.Vault

set_option autoImplicit false

/-! # Settings

The settings of the tool come from environment variables and a settings file. A variable that is
set in the environment, even to nothing, wins over the file. All complaints are reported together,
in the order of the fields of `Settings`.

With a key in the environment and a vault beside the place of the settings file, what the key opens
takes the place of the file.
-/

namespace ProverInput

inductive Mode where
  | development
  | production
  | test
deriving DecidableEq, Repr

namespace Mode

def all : List Mode := [development, production, test]

def name : Mode → String
  | development => "development"
  | production => "production"
  | test => "test"

end Mode

/-- Variables with their values; of several with one name the first counts. -/
abbrev Environment := List (String × String)

structure Settings where
  mode : Mode
  level : Level
  /-- The file of header records to read when none is named. -/
  headersFile : Option String
  /-- The directory from which relative output paths start. -/
  outputDir : String
deriving DecidableEq, Repr

namespace Settings

/-- The levels the settings can name. -/
def levels : List Level := [.trace, .debug, .info, .warn, .error]

/-- A variable that names one of several choices. -/
def choice {α : Type} (choices : List α) (name : α → String) (default : α) (key : String)
    (env : Environment) : Checked α :=
  match env.lookup key with
  | none => .valid default
  | some value =>
    match choices.find? fun c => name c = value with
    | some c => .valid c
    | none =>
      let expected := " | ".intercalate (choices.map fun c => s!"'{name c}'")
      Check.complain key s!"Invalid enum value. Expected {expected}, received '{value}'"

/-- A variable that must not be empty if it is set. -/
def nonempty (key : String) (env : Environment) : Checked (Option String) :=
  match env.lookup key with
  | none => .valid none
  | some value =>
    if value.isEmpty then Check.complain key "String must contain at least 1 character(s)"
    else .valid (some value)

def check (env : Environment) : Checked Settings :=
  Settings.mk <$> choice Mode.all Mode.name .development "NODE_ENV" env
    <*> choice levels Level.name .info "LOG_LEVEL" env
    <*> nonempty "ZCL_HEADERS_FILE" env
    <*> ((·.getD ".") <$> nonempty "ZCL_OUTPUT_DIR" env)

/-! ## Settings files -/

/-- A path that starts with a tilde, from the home directory on. -/
def fromHome (home path : String) : String :=
  match path.toList with
  | '~' :: rest => Path.join home (String.ofList rest)
  | _ => path

/-- The settings file at a path; an empty path or none is the usual place. -/
def filePath (path : Option String) : String := (path.filter (· ≠ "")).getD ".env"

/-- The vault that belongs to a settings file, which may be a vault itself. -/
def vaultPath (path : Option String) : String :=
  let file := filePath path
  if ".vault".toList.isSuffixOf file.toList then file else file ++ ".vault"

/-- Whether something stands at a path. -/
def isThere (read : Reader) (path : String) : Bool :=
  match read path with
  | .ok _ => true
  | .error e => e = .readsDirectory

/-- The assignments in a settings file, the last one first. A missing file sets nothing. -/
def entriesOf (read : Reader) (home path : String) : List (String × String) :=
  match read (fromHome home path) with
  | .ok text => SettingsFile.entries text
  | .error _ => []

/-- The variables of the environment, and behind them those of the settings file or of the vault
and of what the key opens in it. -/
def withFile (read : Reader) (home : String) (path : Option String) (env : Environment) :
    Except Vault.Refusal Environment :=
  let key := ((env.lookup "DOTENV_KEY").getD "").toList
  let vault := vaultPath path
  if key.isEmpty ∨ ¬ isThere read vault then .ok (env ++ entriesOf read home (filePath path))
  else do
    let entries := entriesOf read home vault
    let opened ← Vault.openFirst entries ((key.splitOn ',').map Blank.trim)
    return env ++ entries ++ SettingsFile.entries opened

/-- The settings of a run. -/
def load (read : Reader) (home : String) (path : Option String) (env : Environment) :
    Except Vault.Refusal (Checked Settings) :=
  check <$> withFile read home path env

/-- The settings as variables. -/
def toJson (s : Settings) : Json :=
  .object <|
    [("NODE_ENV", .string s.mode.name), ("LOG_LEVEL", .string s.level.name)] ++
    (s.headersFile.toList.map fun file => ("ZCL_HEADERS_FILE", .string file)) ++
    [("ZCL_OUTPUT_DIR", .string s.outputDir)]

end Settings

end ProverInput
