set_option autoImplicit false

/-! # Journals

Long operations say what they do, line by line. `Logged` is an operation that leaves lines behind
whether it succeeds or fails. Its outcome does not depend on the lines: the outcome of a sequence
is the sequence of the outcomes (`outcome_bind`).
-/

namespace ProverInput

/-- How important a line is. -/
inductive Severity where
  | debug
  | info
  | warn
  | error
deriving DecidableEq, Repr

/-- The tag a line is printed with. -/
def Severity.tag : Severity → String
  | debug => "DEBUG"
  | info => "INFO"
  | warn => "WARN"
  | error => "ERROR"

structure Line where
  severity : Severity
  text : String
deriving DecidableEq, Repr

/-- An operation that leaves a journal. -/
structure Logged (ε α : Type) where
  lines : List Line
  outcome : Except ε α

namespace Logged

variable {ε α β : Type}

def bind (x : Logged ε α) (f : α → Logged ε β) : Logged ε β :=
  match x.outcome with
  | .ok a => ⟨x.lines ++ (f a).lines, (f a).outcome⟩
  | .error e => ⟨x.lines, .error e⟩

instance : Monad (Logged ε) where
  pure a := ⟨[], .ok a⟩
  bind := bind

instance : MonadExceptOf ε (Logged ε) where
  throw e := ⟨[], .error e⟩
  tryCatch x handle :=
    match x.outcome with
    | .ok _ => x
    | .error e => ⟨x.lines ++ (handle e).lines, (handle e).outcome⟩

instance : MonadLift (Except ε) (Logged ε) := ⟨fun x => ⟨[], x⟩⟩

/-- The same operation with its error seen as another. -/
def mapError {ε' : Type} (f : ε → ε') (x : Logged ε α) : Logged ε' α :=
  ⟨x.lines, x.outcome.mapError f⟩

/-- Write one line. -/
def say (severity : Severity) (text : String) : Logged ε Unit := ⟨[⟨severity, text⟩], .ok ()⟩

@[simp] theorem outcome_pure (a : α) : (pure a : Logged ε α).outcome = .ok a := rfl

@[simp] theorem outcome_say (severity : Severity) (text : String) :
    (say severity text : Logged ε Unit).outcome = .ok () := rfl

@[simp] theorem outcome_throw (e : ε) : (throw e : Logged ε α).outcome = .error e := rfl

@[simp] theorem outcome_bind (x : Logged ε α) (f : α → Logged ε β) :
    (x >>= f).outcome = x.outcome >>= fun a => (f a).outcome := by
  show (bind x f).outcome = _
  unfold bind
  cases x.outcome <;> rfl

end Logged

end ProverInput
