import ProverInput.Text.Hex

set_option autoImplicit false

/-! # Tables of code points

A table says something about runs of code points. It is written as words with blanks or line
breaks between them, each for one run: its first code point, behind a hyphen its last one unless
they are the same, and behind an equals sign its values with points between them, all of them
hexadecimal. A run may have no values, or an empty list of them.
-/

namespace ProverInput.CodePoints

structure Run where
  first : Nat
  last : Nat
  values : Option (List Nat)
deriving DecidableEq, Repr

namespace Run

/-- The values behind an equals sign. -/
def valuesOf (text : List Char) : List Nat :=
  if text.isEmpty then [] else (text.splitOn '.').map Hex.value

/-- The run a word is written for. -/
def ofWord (word : List Char) : Run :=
  let range := (word.takeWhile (· ≠ '=')).splitOn '-'
  let first := Hex.value (range.headD [])
  let last := Hex.value (range.getLastD [])
  ⟨first, last, (word.dropWhile (· ≠ '=')).tail?.map valuesOf⟩

def has (r : Run) (n : Nat) : Bool := r.first ≤ n && n ≤ r.last

end Run

/-- The runs of a table. -/
def table (text : String) : Array Run :=
  let words := (text.toList.map fun c => if c = '\n' then ' ' else c).splitOn ' '
  ((words.filter (!·.isEmpty)).map Run.ofWord).toArray

/-- The run of a character. -/
def find? (runs : Array Run) (c : Char) : Option Run := runs.find? (·.has c.toNat)

/-- The first value of a character's run, or zero. -/
def valueOf (runs : Array Run) (c : Char) : Nat :=
  (((find? runs c).bind Run.values).bind List.head?).getD 0

example : Run.ofWord "41-5a=61".toList = ⟨0x41, 0x5a, some [0x61]⟩ := by decide +kernel
example : Run.ofWord "ad=".toList = ⟨0xad, 0xad, some []⟩ := by decide +kernel

end ProverInput.CodePoints
