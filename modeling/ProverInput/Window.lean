import ProverInput.Failure
import ProverInput.Number.Arithmetic

set_option autoImplicit false

/-! # Rolling windows

A window holds the newest entries of a history, oldest first, up to its capacity. For a capacity
that is a natural number it is the last entries of the history (`newest_natCast`); appending to a
full window pushes out the oldest entry, and windowing a history step by step is windowing it at
once (`newest_newest_append`).
-/

namespace ProverInput

variable {α : Type}

structure Window (α : Type) where
  entries : List α
  capacity : Number
deriving Repr

namespace Window

/-- How many of `length` entries are beyond a capacity. Nothing fits a negative one. The distance
from a fractional capacity is a number again, so a fraction too small to show in it is lost. -/
def excess (length : Nat) : Number → Nat
  | .int capacity => length - capacity.toNat
  | capacity => ((length : Number) - capacity).whole

/-- The last values, as many as fit the capacity. -/
def newest (capacity : Number) (values : List α) : List α :=
  values.drop (excess values.length capacity)

/-- The window over the newest of the values. -/
def ofList (values : List α) (capacity : Number) : Window α := ⟨newest capacity values, capacity⟩

def empty (capacity : Number) : Window α := ⟨[], capacity⟩

def length (w : Window α) : Nat := w.entries.length

def isEmpty (w : Window α) : Bool := w.entries.isEmpty

def isFull (w : Window α) : Bool := (w.length : Number).same w.capacity

def append (w : Window α) (value : α) : Window α := ofList (w.entries ++ [value]) w.capacity

/-- The window over the same entries with another capacity. -/
def resize (w : Window α) (capacity : Number) : Window α := ofList w.entries capacity

/-- Put copies of `value` in front until the window is full. No number of copies fills a fractional
capacity. -/
def fill (w : Window α) (value : α) : Except Fault (Window α) := do
  let capacity ← w.capacity.toInteger.mapError fun _ => .badLength
  let missing ← (Number.int (capacity - w.length)).toLength
  return { w with entries := List.replicate missing value ++ w.entries }

/-! ## Natural capacities -/

theorem newest_natCast (capacity : Nat) (values : List α) :
    newest capacity values = values.drop (values.length - capacity) := rfl

theorem length_newest (capacity : Nat) (values : List α) :
    (newest capacity values).length = min capacity values.length := by
  rw [newest_natCast, List.length_drop]
  omega

/-- The newest of what is newest in a history that grows is the newest of the whole history. -/
theorem newest_newest_append (capacity : Nat) (old new : List α) :
    newest capacity (newest capacity old ++ new) = newest capacity (old ++ new) := by
  simp only [newest_natCast, List.length_append, List.length_drop]
  rw [List.drop_append, List.drop_append, List.drop_drop, List.length_drop]
  congr 2 <;> omega

end Window

end ProverInput
