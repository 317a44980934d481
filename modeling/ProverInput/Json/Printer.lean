import ProverInput.Json
import ProverInput.Number.Notation
import ProverInput.Text.Units

set_option autoImplicit false

/-! # Writing JSON text

A document is written either on one line without blanks (`compact`) or with every item and
member on a line of its own, two blanks deeper than its container (`indented`). Quotes,
backslashes, control characters and surrogates without a partner are escaped, and every other
character stands for itself. A number that is not finite is written as `null`.
-/

namespace ProverInput.Json

/-- A unit of 16 bits by its four hexadecimal digits. -/
def code (unit : Nat) : List Char :=
  '\\' :: 'u' :: [unit / 4096, unit / 256 % 16, unit / 16 % 16, unit % 16].map Nat.digitChar

/-- A character inside a string. -/
def escaped (c : Char) : List Char :=
  if c = '\x22' then ['\\', '\x22']
  else if c = '\\' then ['\\', '\\']
  else if c = '\x08' then ['\\', 'b']
  else if c = '\x0c' then ['\\', 'f']
  else if c = '\n' then ['\\', 'n']
  else if c = '\r' then ['\\', 'r']
  else if c = '\t' then ['\\', 't']
  else if c.toNat < 32 then code c.toNat
  else (Units.Piece.char c).written

/-- A piece of a text inside a string. -/
def pieceText : Units.Piece → List Char
  | .char c => escaped c
  | .lone u => code u

def quoted (s : String) : List Char :=
  '\x22' :: ((Units.pieces s.toList).flatMap pieceText ++ ['\x22'])

def numberText : Number → List Char
  | .infinite _ => "null".toList
  | .nan => "null".toList
  | x => x.text.toList

mutual

/-- A document on one line. -/
def compact : Json → List Char
  | .null => "null".toList
  | .bool b => (if b then "true" else "false").toList
  | .number x => numberText x
  | .string s => quoted s
  | .array items => '[' :: compactItems items
  | .object members => '\x7b' :: compactMembers members

/-- The items behind an opening bracket, and the closing one. -/
def compactItems : List Json → List Char
  | [] => [']']
  | [item] => compact item ++ [']']
  | item :: rest => compact item ++ ',' :: compactItems rest

/-- The members behind an opening brace, and the closing one. -/
def compactMembers : List (String × Json) → List Char
  | [] => ['\x7d']
  | [(name, value)] => quoted name ++ ':' :: (compact value ++ ['\x7d'])
  | (name, value) :: rest => quoted name ++ ':' :: (compact value ++ ',' :: compactMembers rest)

end

/-! ## Long documents -/

mutual

/-- A document on one line in front of a text. Every character is put in its place once, however
deep the document is. -/
def compactOnto : Json → List Char → List Char
  | .array items, text => '[' :: compactItemsOnto items text
  | .object members, text => '\x7b' :: compactMembersOnto members text
  | leaf, text => compact leaf ++ text

def compactItemsOnto : List Json → List Char → List Char
  | [], text => ']' :: text
  | [item], text => compactOnto item (']' :: text)
  | item :: rest, text => compactOnto item (',' :: compactItemsOnto rest text)

def compactMembersOnto : List (String × Json) → List Char → List Char
  | [], text => '\x7d' :: text
  | [(name, value)], text => quoted name ++ ':' :: compactOnto value ('\x7d' :: text)
  | (name, value) :: rest, text =>
    quoted name ++ ':' :: compactOnto value (',' :: compactMembersOnto rest text)

end

mutual

theorem compactOnto_eq (json : Json) (text : List Char) :
    compactOnto json text = compact json ++ text := by
  match json with
  | .array items => simp [compactOnto, compact, compactItemsOnto_eq items]
  | .object members => simp [compactOnto, compact, compactMembersOnto_eq members]
  | .null => rfl
  | .bool _ => rfl
  | .number _ => rfl
  | .string _ => rfl

theorem compactItemsOnto_eq (items : List Json) (text : List Char) :
    compactItemsOnto items text = compactItems items ++ text := by
  match items with
  | [] => rfl
  | [item] => simp [compactItemsOnto, compactItems, compactOnto_eq item]
  | item :: next :: rest =>
    simp [compactItemsOnto, compactItems, compactOnto_eq item, compactItemsOnto_eq (next :: rest)]

theorem compactMembersOnto_eq (members : List (String × Json)) (text : List Char) :
    compactMembersOnto members text = compactMembers members ++ text := by
  match members with
  | [] => rfl
  | [(name, value)] => simp [compactMembersOnto, compactMembers, compactOnto_eq value]
  | (name, value) :: next :: rest =>
    simp [compactMembersOnto, compactMembers, compactOnto_eq value,
      compactMembersOnto_eq (next :: rest)]

end

/-! ## Documents over several lines -/

/-- A new line at the given depth. -/
def newLine (depth : Nat) : List Char := '\n' :: List.replicate (2 * depth) ' '

mutual

/-- A document over several lines whose first one is already at `depth`. -/
def indentedAt (depth : Nat) : Json → List Char
  | .array [] => ['[', ']']
  | .array items => '[' :: indentedItems (depth + 1) items ++ newLine depth ++ [']']
  | .object [] => ['\x7b', '\x7d']
  | .object members => '\x7b' :: indentedMembers (depth + 1) members ++ newLine depth ++ ['\x7d']
  | .null => "null".toList
  | .bool b => (if b then "true" else "false").toList
  | .number x => numberText x
  | .string s => quoted s

def indentedItems (depth : Nat) : List Json → List Char
  | [] => []
  | [item] => newLine depth ++ indentedAt depth item
  | item :: rest => newLine depth ++ indentedAt depth item ++ ',' :: indentedItems depth rest

def indentedMembers (depth : Nat) : List (String × Json) → List Char
  | [] => []
  | [(name, value)] => newLine depth ++ quoted name ++ ':' :: ' ' :: indentedAt depth value
  | (name, value) :: rest =>
    newLine depth ++ quoted name ++ ':' :: ' ' ::
      (indentedAt depth value ++ ',' :: indentedMembers depth rest)

end

/-- The text of a document on one line. -/
def compactText (json : Json) : String := String.ofList (json.compactOnto [])

theorem compactText_eq (json : Json) : json.compactText = String.ofList json.compact := by
  rw [compactText, compactOnto_eq, List.append_nil]

/-- The text of a document over several lines. -/
def indentedText (json : Json) : String := String.ofList (json.indentedAt 0)

end ProverInput.Json
