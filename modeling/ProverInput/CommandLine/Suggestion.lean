import ProverInput.Text.Units

set_option autoImplicit false

/-! # Suggestions for misspelt words

The distance of two words is the least number of letters to insert, drop, replace or swap with
their neighbour, where no letter takes part twice. The letters are UTF-16 units. Words at the least
distance, at most three, are suggested if more than two fifths of the longer word are right.
-/

namespace ProverInput.Suggestion

variable {α : Type} [DecidableEq α]

/-- The distances of `b`'s next prefix from the prefixes of `a`, given those of its last two
prefixes, the letter between these two, the new letter and the length of the prefix. -/
def nextRow (a : List α) (beforeLast last : List Nat) (previous : Option α) (c : α)
    (length : Nat) : List Nat :=
  (List.range a.length).foldl (fun row i =>
    let edit := min (min (row.getD i 0 + 1) (last.getD (i + 1) 0 + 1))
      (last.getD i 0 + if a[i]? = some c then 0 else 1)
    let swaps := 0 < i ∧ previous.isSome ∧ a[i]? = previous ∧ a[i - 1]? = some c
    row ++ [if swaps then min edit (beforeLast.getD (i - 1) 0 + 1) else edit]) [length]

/-- The last row of distances, from the prefixes of `a` to the whole of a word. -/
def rows (a : List α) : List Nat → List Nat → Option α → Nat → List α → List Nat
  | _, last, _, _, [] => last
  | beforeLast, last, previous, length, c :: rest =>
    rows a last (nextRow a beforeLast last previous c (length + 1)) (some c) (length + 1) rest

/-- The distance of two words. Lengths that differ by more than three count as all wrong. -/
def distance (a b : List α) : Nat :=
  if a.length > b.length + 3 ∨ b.length > a.length + 3 then max a.length b.length
  else (rows a [] (List.range (a.length + 1)) none 0 b).getD a.length 0

/-- The best candidates so far and their distance. -/
structure Best where
  distance : Nat
  words : List String

def consider (word : List Nat) (best : Best) (candidate : String) : Best :=
  let letters := Units.ofText candidate.toList
  let d := distance word letters
  let longer := max word.length letters.length
  if letters.length ≤ 1 ∨ ¬ 2 * longer < 5 * (longer - d) then best
  else if d < best.distance then ⟨d, [candidate]⟩
  else if d = best.distance then ⟨d, best.words ++ [candidate]⟩
  else best

/-- The candidates close to a word, in alphabetical order. -/
def similar (word : List Char) (candidates : List String) : List String :=
  let best := candidates.eraseDups.foldl (consider (Units.ofText word)) ⟨3, []⟩
  best.words.mergeSort (· ≤ ·)

/-- The line that proposes candidates, behind the message; empty if there are none. -/
def line : List String → String
  | [] => ""
  | [word] => s!"\n(Did you mean {word}?)"
  | words => "\n(Did you mean one of " ++ ", ".intercalate words ++ "?)"

/-- The proposal for a word. Long options are compared without their dashes. -/
def propose (word : String) (candidates : List String) : String :=
  match word.toList with
  | '-' :: '-' :: rest =>
    line ((similar rest (candidates.map fun c => String.ofList (c.toList.drop 2))).map ("--" ++ ·))
  | chars => line (similar chars candidates)

example : distance "arg".toList "args".toList = 1 := by decide +kernel
example : distance "hieght".toList "height".toList = 1 := by decide +kernel
example : distance "nope".toList "help".toList = 4 := by decide +kernel

end ProverInput.Suggestion
