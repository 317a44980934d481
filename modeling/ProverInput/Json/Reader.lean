import ProverInput.Json
import ProverInput.Json.Members
import ProverInput.Number.Notation
import ProverInput.Text.Hex
import ProverInput.Text.Units

set_option autoImplicit false

/-! # Reading JSON text

The reader takes strict JSON: four blank characters, no trailing commas, no control characters
inside strings, one document and nothing after it. Numbers are taken to the nearest
double-precision number, so `1e400` is infinite and `-0` is zero. Escapes name UTF-16 units; two
that form a surrogate pair are one character, whether they are escaped or stand alone in the text,
and half a pair stays alone, in the way of `Units.Piece.written`.

A parser takes the text to its front and returns what it read with the rest of the text. Fuel
bounds the nesting; `read` gives more than any text can use.
-/

namespace ProverInput.Json

/-! ## Blanks and numbers -/

def isBlank (c : Char) : Bool := c = ' ' || c = '\t' || c = '\n' || c = '\r'

def skipBlanks : List Char → List Char
  | [] => []
  | c :: rest => if isBlank c then skipBlanks rest else c :: rest

/-- The digits at the front, of which there must be one. -/
def readDigits (text : List Char) : Option (List Char × List Char) :=
  match text.takeWhile Char.isDigit with
  | [] => none
  | digits => some (digits, text.dropWhile Char.isDigit)

/-- The digits behind a decimal point; none where there is no point. -/
def readFraction : List Char → Option (List Char × List Char)
  | '.' :: rest => readDigits rest
  | rest => some ([], rest)

/-- The signed digits behind an exponent mark. -/
def readSigned : List Char → Option (Int × List Char)
  | '-' :: rest => (readDigits rest).map fun (ds, rest) => (-(Nat.ofDigitChars 10 ds 0 : Int), rest)
  | '+' :: rest => (readDigits rest).map fun (ds, rest) => ((Nat.ofDigitChars 10 ds 0 : Int), rest)
  | rest => (readDigits rest).map fun (ds, rest) => ((Nat.ofDigitChars 10 ds 0 : Int), rest)

/-- The exponent; zero where there is no mark. -/
def readExponent : List Char → Option (Int × List Char)
  | 'e' :: rest => readSigned rest
  | 'E' :: rest => readSigned rest
  | rest => some (0, rest)

/-- A number without its sign. The whole part is a single zero or starts with another digit. -/
def readMagnitude (negative : Bool) (text : List Char) : Option (Number × List Char) :=
  match readDigits text with
  | none => none
  | some (whole, rest) =>
    if whole.head? = some '0' ∧ whole.length ≠ 1 then none
    else match readFraction rest with
      | none => none
      | some (fraction, rest) =>
        match readExponent rest with
        | none => none
        | some (exponent, rest) =>
          some (Number.ofDecimal negative
            ⟨Nat.ofDigitChars 10 (whole ++ fraction) 0, exponent - fraction.length⟩, rest)

def readNumber : List Char → Option (Number × List Char)
  | '-' :: rest => readMagnitude true rest
  | rest => readMagnitude false rest

/-! ## Strings -/

/-- The value of four hexadecimal digits. -/
def unit? (a b c d : Char) : Option Nat :=
  match Hex.digit? a, Hex.digit? b, Hex.digit? c, Hex.digit? d with
  | some a, some b, some c, some d => some (((a * 16 + b) * 16 + c) * 16 + d)
  | _, _, _, _ => none

/-- What a string reader has so far: its characters, last first, and the first half of a
surrogate pair that waits for the second. -/
structure Draft where
  chars : List Char
  half : Option Nat

namespace Draft

/-- The characters with another piece behind them. -/
def add (chars : List Char) (piece : Units.Piece) : List Char := piece.written.reverse ++ chars

/-- A waiting half turns out to be alone. -/
def settle (d : Draft) : List Char :=
  match d.half with
  | some h => add d.chars (.lone h)
  | none => d.chars

def push (d : Draft) (piece : Units.Piece) : Draft := ⟨add d.settle piece, none⟩

/-- Add one UTF-16 unit. -/
def pushUnit (d : Draft) (u : Nat) : Draft :=
  if 0xd800 ≤ u ∧ u < 0xdc00 then ⟨d.settle, some u⟩
  else if 0xdc00 ≤ u ∧ u < 0xe000 then
    match d.half with
    | some h => ⟨add d.chars (.char (Units.pair h u)), none⟩
    | none => d.push (.lone u)
  else d.push (.char (Char.ofNat u))

end Draft

/-- The character a letter behind a backslash stands for. -/
def escape? : Char → Option Char
  | '\x22' => some '\x22'
  | '\\' => some '\\'
  | '/' => some '/'
  | 'b' => some '\x08'
  | 'f' => some '\x0c'
  | 'n' => some '\n'
  | 'r' => some '\r'
  | 't' => some '\t'
  | _ => none

/-- The rest of a string whose opening quote is read. -/
def readString (draft : Draft) : List Char → Option (String × List Char)
  | [] => none
  | '\x22' :: rest => some (String.ofList draft.settle.reverse, rest)
  | '\\' :: 'u' :: a :: b :: c :: d :: rest =>
    match unit? a b c d with
    | some u => readString (draft.pushUnit u) rest
    | none => none
  | '\\' :: e :: rest =>
    match escape? e with
    | some c => readString (draft.push (.char c)) rest
    | none => none
  | '\ufdd0' :: d :: rest =>
    match Units.surrogate? d with
    | some u => readString (draft.pushUnit u) rest
    | none => readString (draft.push (.char d)) rest
  | c :: rest => if c.toNat < 32 ∨ c = '\\' then none else readString (draft.push (.char c)) rest

/-! ## Documents -/

mutual

def readValue : Nat → List Char → Option (Json × List Char)
  | 0, _ => none
  | fuel + 1, text =>
    match skipBlanks text with
    | 'n' :: 'u' :: 'l' :: 'l' :: rest => some (.null, rest)
    | 't' :: 'r' :: 'u' :: 'e' :: rest => some (.bool true, rest)
    | 'f' :: 'a' :: 'l' :: 's' :: 'e' :: rest => some (.bool false, rest)
    | '\x22' :: rest => (readString ⟨[], none⟩ rest).map fun (s, rest) => (.string s, rest)
    | '[' :: rest =>
      match skipBlanks rest with
      | ']' :: rest => some (.array [], rest)
      | rest => (readItems fuel rest).map fun (items, rest) => (.array items, rest)
    | '\x7b' :: rest =>
      match skipBlanks rest with
      | '\x7d' :: rest => some (.object [], rest)
      | rest => (readMembers fuel rest).map fun (given, rest) =>
          (.object (Members.ofList given), rest)
    | rest => (readNumber rest).map fun (x, rest) => (.number x, rest)

/-- The items of an array up to its closing bracket, one at least. -/
def readItems : Nat → List Char → Option (List Json × List Char)
  | 0, _ => none
  | fuel + 1, text =>
    match readValue fuel text with
    | none => none
    | some (item, rest) =>
      match skipBlanks rest with
      | ',' :: rest => (readItems fuel rest).map fun (items, rest) => (item :: items, rest)
      | ']' :: rest => some ([item], rest)
      | _ => none

/-- The members of an object up to its closing brace as given, one at least. -/
def readMembers : Nat → List Char → Option (List (String × Json) × List Char)
  | 0, _ => none
  | fuel + 1, text =>
    match skipBlanks text with
    | '\x22' :: rest =>
      match readString ⟨[], none⟩ rest with
      | none => none
      | some (name, rest) =>
        match skipBlanks rest with
        | ':' :: rest =>
          match readValue fuel rest with
          | none => none
          | some (value, rest) =>
            match skipBlanks rest with
            | ',' :: rest =>
              (readMembers fuel rest).map fun (given, rest) => ((name, value) :: given, rest)
            | '\x7d' :: rest => some ([(name, value)], rest)
            | _ => none
        | _ => none
    | _ => none

end

/-- The document a text holds, if it holds exactly one. -/
def read (text : String) : Option Json :=
  let chars := text.toList
  match readValue (2 * chars.length + 2) chars with
  | some (json, rest) => if (skipBlanks rest).isEmpty then some json else none
  | none => none

end ProverInput.Json
