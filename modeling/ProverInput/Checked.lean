import ProverInput.Failure
import ProverInput.Json
import ProverInput.Number.Arithmetic

set_option autoImplicit false

/-! # Checking documents

A check looks at a document and gives either a typed value or every complaint there is, in order:
it does not stop at the first. Checks of the parts of a document are put together with `<*>`,
which keeps the complaints of both sides (`seq_valid_iff`).
-/

namespace ProverInput

/-- The outcome of a check: a value, or all complaints. -/
inductive Checked (α : Type) where
  | valid (a : α)
  | invalid (issues : List Issue)
deriving Repr

namespace Checked

variable {α β : Type}

def issues : Checked α → List Issue
  | valid _ => []
  | invalid issues => issues

def map (f : α → β) : Checked α → Checked β
  | valid a => valid (f a)
  | invalid issues => invalid issues

def seq (f : Checked (α → β)) (a : Checked α) : Checked β :=
  match f, a with
  | valid f, valid a => valid (f a)
  | valid _, invalid issues => invalid issues
  | invalid issues, a => invalid (issues ++ a.issues)

instance : Functor Checked := ⟨map, fun a => map fun _ => a⟩
instance : Pure Checked := ⟨valid⟩
instance : Seq Checked := ⟨fun f a => seq f (a ())⟩

@[simp] theorem map_valid (f : α → β) (a : α) : f <$> valid a = valid (f a) := rfl

@[simp] theorem map_invalid (f : α → β) (issues : List Issue) :
    f <$> (invalid issues : Checked α) = invalid issues := rfl

theorem seq_valid_iff {f : Checked (α → β)} {a : Checked α} {b : β} :
    f <*> a = valid b ↔ ∃ g x, f = valid g ∧ a = valid x ∧ g x = b := by
  show seq f a = valid b ↔ _
  cases f <;> cases a <;> simp [seq]

@[simp] theorem issues_seq (f : Checked (α → β)) (a : Checked α) :
    (f <*> a).issues = f.issues ++ a.issues := by
  show (seq f a).issues = _
  cases f <;> cases a <;> simp [seq, issues]

@[simp] theorem issues_map (f : α → β) (a : Checked α) : (f <$> a).issues = a.issues := by
  cases a <;> rfl

/-- The value, or the complaints wrapped into one error. -/
def orElse {ε : Type} (wrap : List Issue → ε) : Checked α → Except ε α
  | valid a => .ok a
  | invalid issues => .error (wrap issues)

end Checked

/-- A check of the value at a place in a document. -/
abbrev Check (α : Type) := String → Json → Checked α

namespace Check

variable {α : Type}

def complain (path complaint : String) : Checked α := .invalid [⟨path, complaint⟩]

def wrongKind (path : String) (expected : Json.Kind) (found : Json) : Checked α :=
  complain path s!"Expected {expected.name}, received {found.kind.name}"

/-! ## Numbers -/

/-- A condition on a number and the complaint when it is broken. -/
structure Rule where
  holds : Number → Bool
  complaint : String

def whole : Rule := ⟨Number.isInteger, "Expected integer, received float"⟩

def atLeastZero : Rule := ⟨fun x => 0 ≤ x, "Number must be greater than or equal to 0"⟩

def atMostWord : Rule :=
  ⟨fun x => x ≤ 4294967295, "Number must be less than or equal to 4294967295"⟩

/-- A number that keeps all rules; each broken one is a complaint of its own. What is no number at
all is of the wrong kind. -/
def number (rules : List Rule) : Check Number
  | path, .number .nan => wrongKind path .number (.number .nan)
  | path, .number x =>
    match rules.filter fun r => !r.holds x with
    | [] => .valid x
    | broken => .invalid (broken.map fun r => ⟨path, r.complaint⟩)
  | path, other => wrongKind path .number other

/-- A whole number from zero up. -/
def natural : Check Number := number [whole, atLeastZero]

/-- A whole number that fits in 32 bits. -/
def word : Check Number := number [whole, atLeastZero, atMostWord]

/-! ## Texts and lists -/

/-- A text of the given form. -/
def text (form : List Char → Bool) (complaint : String) : Check String
  | path, .string s => if form s.toList then .valid s else complain path complaint
  | path, other => wrongKind path .string other

/-- The items of a list from position `i` on, each checked at its own place. -/
def itemsFrom (check : Check α) (path : String) (i : Nat) : List Json → Checked (List α)
  | [] => .valid []
  | item :: rest =>
    List.cons <$> check s!"{path}.{i}" item <*> itemsFrom check path (i + 1) rest

def list (check : Check α) : Check (List α)
  | path, .array items => itemsFrom check path 0 items
  | path, other => wrongKind path .array other

/-! ## Members -/

/-- The member `key`, which must be there. -/
def member (check : Check α) (key : String) (doc : Json) : Checked α :=
  match doc.get? key with
  | some value => check key value
  | none => complain key "Required"

/-- The member `key`, if it is there. -/
def optionalMember (check : Check α) (key : String) (doc : Json) : Checked (Option α) :=
  match doc.get? key with
  | some value => some <$> check key value
  | none => .valid none

/-- A check of an object as a whole; any other document is one complaint. -/
def object (members : Json → Checked α) (doc : Json) : Checked α :=
  match doc with
  | .object _ => members doc
  | other => wrongKind "" .object other

end Check

end ProverInput
