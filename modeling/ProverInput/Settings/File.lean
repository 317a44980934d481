import ProverInput.Text.Blank

set_option autoImplicit false

/-! # Settings files

A settings file gives variables their values, one assignment to a line:

    KEY=value          # a remark
    export KEY = 'a value, # and all'
    KEY: "two
    lines"

A value in single, double or back quotes may go over several lines; it ends at the first quote of
its kind without a backslash in front behind which the line holds nothing but a remark. Without
such a quote, and without quotes at all, a value goes up to a remark or the end of the line.
Blanks around a value do not count. In double quotes `\n` and `\r` are line breaks. Lines that
assign nothing are passed over, and of several values for a key the last one counts.
-/

namespace ProverInput.SettingsFile

open Blank (isBlank endsLine trim)

/-- Line ends of any kind become line feeds. -/
def unifyLines : List Char → List Char
  | '\r' :: '\n' :: rest => '\n' :: unifyLines rest
  | '\r' :: rest => '\n' :: unifyLines rest
  | c :: rest => c :: unifyLines rest
  | [] => []

/-- The text behind the end of the current line. -/
def nextLine : List Char → List Char
  | [] => []
  | c :: rest => if endsLine c then rest else nextLine rest

/-! ## Keys -/

def isKeyChar (c : Char) : Bool := c.isAlphanum || c = '_' || c = '.' || c = '-'

/-- The text behind an equals sign, which may have blanks in front, or behind a colon and a
blank. -/
def separator? (text : List Char) : Option (List Char) :=
  match text.dropWhile isBlank with
  | '=' :: rest => some rest
  | _ =>
    match text with
    | ':' :: c :: rest => if isBlank c then some rest else none
    | _ => none

/-- The key at the front and the text of its value. -/
def key? (text : List Char) : Option (List Char × List Char) :=
  match text.takeWhile isKeyChar with
  | [] => none
  | key => (separator? (text.dropWhile isKeyChar)).map fun rest => (key, rest)

/-- The text behind the word `export` and blanks. -/
def afterExport? : List Char → Option (List Char)
  | 'e' :: 'x' :: 'p' :: 'o' :: 'r' :: 't' :: c :: rest =>
    if isBlank c then some (rest.dropWhile isBlank) else none
  | _ => none

/-- The key of the assignment at the front and the text of its value. -/
def assignment? (text : List Char) : Option (List Char × List Char) :=
  let text := text.dropWhile isBlank
  match (afterExport? text).bind key? with
  | some found => some found
  | none => key? text

/-! ## Values -/

def isQuote (c : Char) : Bool := c = '\x27' || c = '\x22' || c = '\x60'

/-- Whether the rest of the line is blank or a remark. -/
def closes (text : List Char) : Bool :=
  let blanks := text.takeWhile isBlank
  blanks.any endsLine ||
    match text.dropWhile isBlank with
    | [] => true
    | c :: _ => c = '#'

/-- The ways to end a quoted value: the characters inside and the text behind, at each quote of its
kind up to the first one without a backslash in front. The last one comes first. -/
def endings (quote : Char) (inside : List Char) :
    List Char → List (List Char × List Char) → List (List Char × List Char)
  | [], found => found
  | c :: rest, found =>
    if c = quote then
      let found := (inside.reverse, rest) :: found
      if inside.head? = some '\\' then endings quote (c :: inside) rest found else found
    else endings quote (c :: inside) rest found

/-- The value in quotes at the front, if it ends its line. -/
def quoted? (text : List Char) : Option (Char × List Char × List Char) :=
  match text.dropWhile isBlank with
  | [] => none
  | quote :: rest =>
    if isQuote quote then
      ((endings quote [] rest []).find? fun e => closes e.2).map fun e => (quote, e.1, e.2)
    else none

/-- Line breaks written with a backslash. -/
def breakLines : List Char → List Char
  | '\\' :: 'n' :: rest => '\n' :: breakLines rest
  | '\\' :: 'r' :: rest => '\r' :: breakLines rest
  | c :: rest => c :: breakLines rest
  | [] => []

/-- Whether a text starts with the end of a line. -/
def isLineEnd : List Char → Bool
  | [] => true
  | c :: _ => endsLine c

/-- What stands in front of the last quote of a kind that ends a line, and the text behind it. -/
def lastClosing (quote : Char) : List Char → Option (List Char × List Char)
  | [] => none
  | c :: rest =>
    match lastClosing quote rest with
    | some (inside, behind) => some (c :: inside, behind)
    | none => if c = quote ∧ isLineEnd rest then some ([], rest) else none

/-- A text without pairs of quotes of which the first starts a line and the second ends one. Each
step takes at least one character. -/
def unquoteFrom : Nat → Bool → List Char → List Char
  | 0, _, text => text
  | _, _, [] => []
  | fuel + 1, atStart, c :: rest =>
    match (if atStart ∧ isQuote c then lastClosing c rest else none) with
    | some (inside, behind) => inside ++ unquoteFrom fuel false behind
    | none => c :: unquoteFrom fuel (endsLine c) rest

/-- A value without the quotes around it or around some of its lines. -/
def unquote (text : List Char) : List Char := unquoteFrom text.length true text

/-- Whether a character goes on a value that no quote closes. -/
def continues (c : Char) : Bool := c ≠ '#' && c ≠ '\n'

/-- A value that no quote closes: up to a remark or the end of the line. -/
def bare (text : List Char) : List Char :=
  let value := trim (text.takeWhile continues)
  if value.head? = some '\x22' then breakLines (unquote value) else unquote value

/-- The value at the front and the text behind it. -/
def value (text : List Char) : List Char × List Char :=
  match quoted? text with
  | some (quote, inside, rest) => (if quote = '\x22' then breakLines inside else inside, rest)
  | none => (bare text, text.dropWhile continues)

/-! ## Files -/

/-- The assignments of a text, the last one first. Each step takes at least one character. -/
def scan : Nat → List Char → List (String × String) → List (String × String)
  | 0, _, found => found
  | _, [], found => found
  | fuel + 1, text, found =>
    match assignment? text with
    | some (key, rest) =>
      let (inside, behind) := value rest
      scan fuel (nextLine behind) ((String.ofList key, String.ofList inside) :: found)
    | none => scan fuel (nextLine text) found

/-- The variables a settings file sets, the last assignment first. -/
def entries (text : String) : List (String × String) :=
  let text := unifyLines text.toList
  scan text.length text []

end ProverInput.SettingsFile
