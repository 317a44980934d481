import Mathlib
import ProverInput.Field.Arguments

set_option autoImplicit false

/-! # Reading arguments

A reading takes a value off the front of a list of arguments. That it `Reads` some items as a value
means that it takes exactly these, whatever stands behind them; one reading after the other reads
the items one after the other (`Reads.bind`). What a reading reads is no beginning of anything else
that it reads (`Reads.unique`).
-/

namespace ProverInput

/-- Taking a value off the front of a list of arguments. -/
abbrev Reading (α : Type) := StateT (List Flat) Option α

namespace Reading

variable {α β : Type}

def integer : Reading Int := fun input =>
  match input with
  | .scalar value :: rest => some (value, rest)
  | _ => none

/-- Reading all of a nested list. -/
def within (reading : Reading α) : Reading α := fun input =>
  match input with
  | .nested items :: rest =>
    match reading.run items with
    | some (a, []) => some (a, rest)
    | _ => none
  | _ => none

def times (reading : Reading α) : Nat → Reading (List α)
  | 0 => pure []
  | n + 1 => do
    let first ← reading
    let others ← times reading n
    return first :: others

/-- Taking exactly `items` off the front, whatever stands behind them. -/
def Reads (reading : Reading α) (items : List Flat) (a : α) : Prop :=
  ∀ rest, reading.run (items ++ rest) = some (a, rest)

theorem Reads.pure (a : α) : Reads (Pure.pure a) [] a := fun _ => rfl

theorem Reads.bind {reading : Reading α} {next : α → Reading β} {items items' : List Flat} {a : α}
    {b : β} (h : Reads reading items a) (h' : Reads (next a) items' b) :
    Reads (reading >>= next) (items ++ items') b := by
  intro rest
  rw [List.append_assoc, StateT.run_bind, h]
  exact h' rest

theorem Reads.map {reading : Reading α} {items : List Flat} {a : α} (h : Reads reading items a)
    (f : α → β) : Reads (f <$> reading) items (f a) := by
  intro rest
  rw [StateT.run_map, h]
  rfl

theorem reads_integer (value : Int) : Reads integer [.scalar value] value := fun _ => rfl

theorem reads_integers (values : List Int) :
    Reads (times integer values.length) (values.map .scalar) values := by
  induction values with
  | nil => exact Reads.pure []
  | cons v values ih => exact (reads_integer v).bind (ih.map (v :: ·))

theorem Reads.within {reading : Reading α} {items : List Flat} {a : α} (h : Reads reading items a) :
    Reads (within reading) [.nested items] a := by
  have hall := h []
  rw [List.append_nil] at hall
  intro rest
  show (match reading.run items with
    | some (a, []) => some (a, rest)
    | _ => none) = some (a, rest)
  rw [hall]

/-- What is read is no beginning of anything else that is read. -/
theorem Reads.unique {reading : Reading α} {items items' rest : List Flat} {a b : α}
    (h : Reads reading items a) (h' : Reads reading items' b) (heq : items ++ rest = items') :
    a = b ∧ rest = [] := by
  have hshort := h rest
  rw [heq] at hshort
  have hlong := h' []
  rw [List.append_nil, hshort] at hlong
  simpa using hlong

end Reading

end ProverInput
