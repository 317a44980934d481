import ProverInput.CommandLine.Suggestion

set_option autoImplicit false

/-! # Command lines

A command takes options, each with its value in the next word or behind an equals sign. Options
may stand anywhere; two dashes alone end them. From the first unknown option on, words that belong
to no option are left over, for a subcommand to read again.

`scan` splits the words without looking at values. Whoever uses the occurrences finds what is
wrong with a value, in their order.
-/

namespace ProverInput.CommandLine

/-- An option of a command. -/
structure Flag where
  /-- The option as messages show it, with the name of its value. -/
  usage : String
  long : String
  short : Option String
  takesValue : Bool
  mandatory : Bool
deriving DecidableEq, Repr

/-- An option as it was found. -/
inductive Occurrence where
  | plain (flag : Flag)
  | valued (flag : Flag) (value : String)
  | valueMissing (flag : Flag)
deriving DecidableEq, Repr

/-- The words of a command line by their role. -/
structure Split where
  occurrences : List Occurrence
  operands : List String
  unknown : List String
deriving Repr

/-- Why a command line is refused. -/
inductive Refusal where
  | invalidValue (flag : Flag) (value : String) (reason : String)
  | missingValue (flag : Flag)
  | missingOption (flag : Flag)
  | unknownOption (word : String) (candidates : List String)
  | unknownCommand (word : String) (candidates : List String)
deriving DecidableEq, Repr

def Refusal.message : Refusal → String
  | invalidValue flag value reason =>
    s!"error: option '{flag.usage}' argument '{value}' is invalid. {reason}"
  | missingValue flag => s!"error: option '{flag.usage}' argument missing"
  | missingOption flag => s!"error: required option '{flag.usage}' not specified"
  | unknownOption word candidates =>
    let proposal := if word.toList.take 2 = ['-', '-'] then Suggestion.propose word candidates
      else ""
    s!"error: unknown option '{word}'{proposal}"
  | unknownCommand word candidates =>
    s!"error: unknown command '{word}'{Suggestion.propose word candidates}"

/-! ## Splitting -/

/-- Whether a word looks like an option. -/
def isOptionLike (word : String) : Bool :=
  match word.toList with
  | '-' :: _ :: _ => true
  | _ => false

/-- The option a word names. -/
def find? (flags : List Flag) (word : String) : Option Flag :=
  flags.find? fun f => f.long = word || f.short = some word

/-- A known short option at the front of a longer word, and what follows its letter. -/
def cluster? (flags : List Flag) (word : String) : Option (Flag × List Char) :=
  match word.toList with
  | '-' :: letter :: next :: rest =>
    if letter = '-' then none
    else (find? flags (String.ofList ['-', letter])).map fun f => (f, next :: rest)
  | _ => none

/-- A known long option with a value behind an equals sign. -/
def assigned? (flags : List Flag) (word : String) : Option (Flag × String) :=
  match word.toList with
  | '-' :: '-' :: rest =>
    let name := rest.takeWhile (· ≠ '=')
    match rest.dropWhile (· ≠ '=') with
    | '=' :: value =>
      if name.isEmpty then none
      else match find? flags (String.ofList ('-' :: '-' :: name)) with
        | some f => if f.takesValue then some (f, String.ofList value) else none
        | none => none
    | _ => none
  | _ => none

namespace Split

def occur (s : Split) (o : Occurrence) : Split :=
  { s with occurrences := s.occurrences ++ [o] }

/-- Leave a word over, among the operands as long as no unknown option was met. -/
def leave (s : Split) (word : String) : Split :=
  if s.unknown.isEmpty ∧ ¬ isOptionLike word then { s with operands := s.operands ++ [word] }
  else { s with unknown := s.unknown ++ [word] }

end Split

/-- Take the words one after the other. A short option without a value is taken off the front of
its word, and the other letters are read as a word of their own. -/
def scanFrom (flags : List Flag) : Nat → Split → List String → Split
  | 0, s, _ => s
  | _, s, [] => s
  | fuel + 1, s, word :: rest =>
    if word = "--" then
      if s.unknown.isEmpty then { s with operands := s.operands ++ rest }
      else { s with unknown := s.unknown ++ word :: rest }
    else match (if isOptionLike word then find? flags word else none) with
      | some flag =>
        if flag.takesValue then
          match rest with
          | value :: rest => scanFrom flags fuel (s.occur (.valued flag value)) rest
          | [] => s.occur (.valueMissing flag)
        else scanFrom flags fuel (s.occur (.plain flag)) rest
      | none =>
        match cluster? flags word with
        | some (flag, letters) =>
          if flag.takesValue then
            scanFrom flags fuel (s.occur (.valued flag (String.ofList letters))) rest
          else
            scanFrom flags fuel (s.occur (.plain flag)) (String.ofList ('-' :: letters) :: rest)
        | none =>
          match assigned? flags word with
          | some (flag, value) => scanFrom flags fuel (s.occur (.valued flag value)) rest
          | none => scanFrom flags fuel (s.leave word) rest

/-- The words of a command line by their role. Every step takes a character or a word. -/
def scan (flags : List Flag) (words : List String) : Split :=
  scanFrom flags (words.foldl (fun n word => n + word.length + 1) 1) ⟨[], [], []⟩ words

end ProverInput.CommandLine
