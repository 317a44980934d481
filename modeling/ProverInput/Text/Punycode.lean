set_option autoImplicit false

/-! # Punycode

A label of a domain name that is not ASCII is written as its ASCII characters, a hyphen, and
digits for the other characters in ascending order. Each of these is told by a number: how far to
go on from the previous one, where one round through all places of the label so far counts for one
code point. Numbers are written in digits of falling weight, the first digit below its threshold
ends a number, and the thresholds adapt to the sizes seen so far.
-/

namespace ProverInput.Punycode

/-- The value of a digit. -/
def digit? (c : Char) : Option Nat :=
  if 'a' ≤ c ∧ c ≤ 'z' then some (c.toNat - 97)
  else if '0' ≤ c ∧ c ≤ '9' then some (c.toNat - 22)
  else none

/-- The threshold of the digit at position `k / 36`. -/
def threshold (k bias : Nat) : Nat := min 26 (max 1 (k - bias))

/-- The bias of large numbers: a step for every division by 35. -/
def biasOf (delta : Nat) : Nat :=
  if 455 < delta then 36 + biasOf (delta / 35) else 36 * delta / (delta + 38)
termination_by delta
decreasing_by exact Nat.div_lt_self (by omega) (by omega)

/-- The bias behind a number, for a label that has grown to `count` characters. -/
def adapt (delta count : Nat) (first : Bool) : Nat :=
  let damped := if first then delta / 700 else delta / 2
  biasOf (damped + damped / count)

/-- The number at the front and the text behind it. -/
def readNumber (bias k weight sum : Nat) : List Char → Option (Nat × List Char)
  | [] => none
  | c :: rest =>
    match digit? c with
    | none => none
    | some d =>
      if d < threshold k bias then some (sum + d * weight, rest)
      else readNumber bias (k + 36) (weight * (36 - threshold k bias)) (sum + d * weight) rest

theorem readNumber_length {bias k weight sum : Nat} {text : List Char} {n : Nat}
    {rest : List Char} (h : readNumber bias k weight sum text = some (n, rest)) :
    rest.length < text.length := by
  induction text generalizing k weight sum with
  | nil => cases h
  | cons c more ih =>
    rw [readNumber] at h
    split at h
    · cases h
    · split at h
      · cases h
        exact Nat.lt_succ_self _
      · exact Nat.lt_succ_of_lt (ih h)

/-- A label in the making: its characters, and the code point and the place at which the next
number starts to count. -/
structure Draft where
  chars : List Char
  code : Nat
  place : Nat
  bias : Nat

/-- The label with the character that a number tells of. -/
def Draft.step? (d : Draft) (number : Nat) : Option Draft :=
  let count := d.chars.length + 1
  let sum := d.place + number
  let code := d.code + sum / count
  let place := sum % count
  if code.isValidChar then
    some ⟨d.chars.take place ++ Char.ofNat code :: d.chars.drop place, code, place + 1,
      adapt number count (d.place = 0)⟩
  else none

/-- The label with the characters that digits tell of. -/
def extend (d : Draft) (text : List Char) : Option (List Char) :=
  if text.isEmpty then some d.chars
  else match h : readNumber d.bias 36 1 0 text with
    | none => none
    | some (number, rest) =>
      have := readNumber_length h
      match d.step? number with
      | none => none
      | some next => extend next rest
termination_by text.length

/-- What stands in front of the last hyphen, if there is one, and what stands behind it. -/
def atLastHyphen (text : List Char) : List Char × List Char :=
  let behind := text.reverse.takeWhile (· ≠ '-')
  ((text.reverse.dropWhile (· ≠ '-')).tail.reverse, behind.reverse)

/-- The label that a text is written for. -/
def decode (text : List Char) : Option (List Char) :=
  let (basic, digits) := atLastHyphen text
  if basic.all fun c => c.toNat < 0x80 then extend ⟨basic, 0x80, 0, 72⟩ digits else none

example : decode "mnchen-3ya".toList = some "münchen".toList := by decide +kernel
example : decode "r8jz45g".toList = some "例え".toList := by decide +kernel

end ProverInput.Punycode
