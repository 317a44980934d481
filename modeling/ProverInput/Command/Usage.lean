import ProverInput.Command

set_option autoImplicit false

/-! # Usage texts

The tool's own usage lists its commands; that of a command lists its options.
-/

namespace ProverInput.Command

def Name.summary : Name → String
  | generate => "Generate the chain state at a height and the blocks that follow it"
  | formatArgs => "Convert an untyped JSON argument file to hex program arguments"
  | args => "Generate chain data and emit it directly as hex program arguments"

/-- A heading with its entries below. -/
def listing (heading : String) (entries : List String) : String :=
  "\n".intercalate (heading :: entries.map ("  " ++ ·)) ++ "\n"

/-- The usage of the tool, or of one of its commands. -/
def usage : Option Name → String
  | none =>
    "Usage: zcl [options] [command]\n\n" ++
    "Prepare Zcash light-client program arguments\n\n" ++
    listing "Options:" [versionFlag.usage, "-h, --help"] ++ "\n" ++
    listing "Commands:" (Name.all.map fun name => s!"{name.word} [options]  {name.summary}")
  | some name =>
    s!"Usage: zcl {name.word} [options]\n\n" ++ name.summary ++ "\n\n" ++
    listing "Options:" (name.flags.map CommandLine.Flag.usage ++ ["-h, --help"])

end ProverInput.Command
