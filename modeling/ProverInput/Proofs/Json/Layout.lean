import ProverInput.Json.Printer
import ProverInput.Json.Reader

set_option autoImplicit false

/-! # Layouts of documents

The two ways of writing a document differ only in the blanks they put around its parts. `spread`
takes the blanks as a parameter, with a proof that they are blank, and both printers are instances
of it (`compact_eq_spread`, `indentedAt_eq_spread`). What holds of all layouts is proved of
`spread`.
-/

namespace ProverInput.Json

/-- The blanks of a layout. -/
structure Spacing where
  /-- What stands before an item, a member or a closing bracket at a depth. -/
  before : Nat → List Char
  /-- What stands between a colon and a value. -/
  behind : List Char
  before_blank : ∀ depth, (before depth).all isBlank = true
  behind_blank : behind.all isBlank = true

namespace Spacing

/-- No blanks at all. -/
def compact : Spacing := ⟨fun _ => [], [], fun _ => rfl, rfl⟩

/-- Every part on a line of its own. -/
def indented : Spacing where
  before := newLine
  behind := [' ']
  before_blank depth := by simp [newLine, isBlank]
  behind_blank := rfl

end Spacing

mutual

/-- A document with the given blanks, its first line at `depth`. -/
def spread (s : Spacing) (depth : Nat) : Json → List Char
  | .array [] => ['[', ']']
  | .array items => '[' :: (spreadItems s (depth + 1) items ++ (s.before depth ++ [']']))
  | .object [] => ['\x7b', '\x7d']
  | .object members =>
    '\x7b' :: (spreadMembers s (depth + 1) members ++ (s.before depth ++ ['\x7d']))
  | .null => "null".toList
  | .bool b => (if b then "true" else "false").toList
  | .number x => numberText x
  | .string text => quoted text

def spreadItems (s : Spacing) (depth : Nat) : List Json → List Char
  | [] => []
  | [item] => s.before depth ++ spread s depth item
  | item :: rest => s.before depth ++ (spread s depth item ++ ',' :: spreadItems s depth rest)

def spreadMembers (s : Spacing) (depth : Nat) : List (String × Json) → List Char
  | [] => []
  | [(name, value)] =>
    s.before depth ++ (quoted name ++ ':' :: (s.behind ++ spread s depth value))
  | (name, value) :: rest =>
    s.before depth ++ (quoted name ++ ':' ::
      (s.behind ++ (spread s depth value ++ ',' :: spreadMembers s depth rest)))

end

theorem spreadItems_next (s : Spacing) (depth : Nat) (item next : Json) (rest : List Json) :
    spreadItems s depth (item :: next :: rest) =
      s.before depth ++ (spread s depth item ++ ',' :: spreadItems s depth (next :: rest)) := rfl

/-! ## The two printers -/

mutual

theorem indentedAt_eq_spread (depth : Nat) (doc : Json) :
    doc.indentedAt depth = spread .indented depth doc := by
  match doc with
  | .null => rfl
  | .bool _ => rfl
  | .number _ => rfl
  | .string _ => rfl
  | .array [] => rfl
  | .array (item :: rest) =>
      simp [indentedAt, spread, indentedItems_eq_spread (depth + 1) (item :: rest),
        Spacing.indented]
  | .object [] => rfl
  | .object (member :: rest) =>
      simp [indentedAt, spread, indentedMembers_eq_spread (depth + 1) (member :: rest),
        Spacing.indented]

theorem indentedItems_eq_spread (depth : Nat) (items : List Json) :
    indentedItems depth items = spreadItems .indented depth items := by
  match items with
  | [] => rfl
  | [item] => simp [indentedItems, spreadItems, indentedAt_eq_spread depth item, Spacing.indented]
  | item :: next :: rest =>
      simp [indentedItems, spreadItems, indentedAt_eq_spread depth item,
        indentedItems_eq_spread depth (next :: rest), Spacing.indented]

theorem indentedMembers_eq_spread (depth : Nat) (members : List (String × Json)) :
    indentedMembers depth members = spreadMembers .indented depth members := by
  match members with
  | [] => rfl
  | [(name, value)] =>
      simp [indentedMembers, spreadMembers, indentedAt_eq_spread depth value, Spacing.indented]
  | (name, value) :: next :: rest =>
      simp [indentedMembers, spreadMembers, indentedAt_eq_spread depth value,
        indentedMembers_eq_spread depth (next :: rest), Spacing.indented]

end

mutual

theorem compact_eq_spread (depth : Nat) (doc : Json) : doc.compact = spread .compact depth doc := by
  match doc with
  | .null => rfl
  | .bool _ => rfl
  | .number _ => rfl
  | .string _ => rfl
  | .array [] => rfl
  | .array (item :: rest) =>
      simp [compact, spread, compactItems_eq_spread (depth + 1) (item :: rest), Spacing.compact]
  | .object [] => rfl
  | .object (member :: rest) =>
      simp [compact, spread, compactMembers_eq_spread (depth + 1) (member :: rest), Spacing.compact]

/-- The closing bracket belongs to the items here and to the array there. -/
theorem compactItems_eq_spread (depth : Nat) (items : List Json) (h : items ≠ []) :
    compactItems items = spreadItems .compact depth items ++ [']'] := by
  match items with
  | [] => exact absurd rfl h
  | [item] => simp [compactItems, spreadItems, compact_eq_spread depth item, Spacing.compact]
  | item :: next :: rest =>
      simp [compactItems, spreadItems, compact_eq_spread depth item,
        compactItems_eq_spread depth (next :: rest), Spacing.compact]

theorem compactMembers_eq_spread (depth : Nat) (members : List (String × Json))
    (h : members ≠ []) :
    compactMembers members = spreadMembers .compact depth members ++ ['\x7d'] := by
  match members with
  | [] => exact absurd rfl h
  | [(name, value)] =>
      simp [compactMembers, spreadMembers, compact_eq_spread depth value, Spacing.compact]
  | (name, value) :: next :: rest =>
      simp [compactMembers, spreadMembers, compact_eq_spread depth value,
        compactMembers_eq_spread depth (next :: rest), Spacing.compact]

end

end ProverInput.Json
