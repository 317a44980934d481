import ProverInput.Text.Domain
import ProverInput.Text.PercentCode

set_option autoImplicit false

/-! # Hosts

The host of a URI is an address of eight 16-bit numbers in brackets, or a name. Some characters
are in no name. The names of the web are domain names, which may have percent codes, and one whose
last label is a number is an address of 32 bits.
-/

namespace ProverInput.Host

/-! ## Addresses of 32 bits -/

/-- The value of digits in a base. -/
def ofDigits? (base : Nat) (digits : List Char) : Option Nat :=
  let values := digits.filterMap Hex.digit?
  if values.length = digits.length ∧ values.all (· < base) then
    some (values.foldl (fun n d => n * base + d) 0)
  else none

/-- The number a label is: hexadecimal behind `0x`, octal behind `0`, otherwise decimal. -/
def number? : List Char → Option Nat
  | [] => none
  | '0' :: 'x' :: digits => ofDigits? 16 digits
  | '0' :: d :: digits => ofDigits? 8 (d :: digits)
  | digits => ofDigits? 10 digits

/-- The labels without an empty one at the end. -/
def withoutRoot (labels : List (List Char)) : List (List Char) :=
  if 1 < labels.length ∧ labels.getLast? = some [] then labels.dropLast else labels

/-- Whether the last label is made to be a number. -/
def endsInNumber (labels : List (List Char)) : Bool :=
  match (withoutRoot labels).getLast? with
  | none => false
  | some last =>
    (!last.isEmpty && last.all Char.isDigit) ||
      match last with
      | '0' :: 'x' :: digits => digits.all Hex.isDigit
      | _ => false

/-- Whether numbers make up 32 bits: a byte each, and the last one what is left. -/
def fillWord (numbers : List Nat) : Bool :=
  numbers.length ≤ 4 && numbers.dropLast.all (· < 0x100) &&
    numbers.getLastD 0 < 1 <<< (8 * (5 - numbers.length))

def isShortAddress (labels : List (List Char)) : Bool :=
  ((withoutRoot labels).mapM number?).any fillWord

/-! ## Addresses of 128 bits -/

/-- Whether a text is a decimal byte without leading zeros. -/
def isByte : List Char → Bool
  | ['0'] => true
  | '0' :: _ => false
  | digits => !digits.isEmpty && digits.all Char.isDigit && Nat.ofDigitChars 10 digits 0 < 0x100

/-- How many 16-bit numbers a group is: one of up to four hexadecimal digits, and two of four
bytes, which stand only at the end. -/
def groupSize? (atEnd : Bool) (group : List Char) : Option Nat :=
  let bytes := group.splitOn '.'
  if !group.isEmpty ∧ group.length ≤ 4 ∧ group.all Hex.isDigit then some 1
  else if atEnd ∧ bytes.length = 4 ∧ bytes.all isByte then some 2
  else none

/-- How many 16-bit numbers there are in groups with colons between them. -/
def size? (atEnd : Bool) (text : List Char) : Option Nat :=
  if text.isEmpty then some 0
  else
    let groups := text.splitOn ':'
    let last := (groups.getLast?).bind (groupSize? atEnd)
    groups.dropLast.foldr (fun group size => (· + ·) <$> groupSize? false group <*> size) last

/-- What stands in front of the first two colons, and what stands behind them. -/
def atGap? : List Char → Option (List Char × List Char)
  | ':' :: ':' :: rest => some ([], rest)
  | c :: rest => (atGap? rest).map fun (front, behind) => (c :: front, behind)
  | [] => none

/-- Whether a text is an address: eight numbers, or fewer with a gap for the others. -/
def isLongAddress (text : List Char) : Bool :=
  match atGap? text with
  | none => size? true text = some 8
  | some (front, behind) =>
    match size? false front, size? true behind with
    | some m, some n => m + n < 8
    | _, _ => false

/-! ## Names -/

/-- Characters that are in no name. -/
def forbidden : List Char :=
  ['\x00', '\t', '\n', '\r', ' ', '#', '/', ':', '<', '>', '?', '@', '[', '\\', ']', '^', '|']

/-- Whether a character is in no domain name. -/
def isForbidden (c : Char) : Bool :=
  c.toNat < 0x20 || c = '%' || c = '\x7f' || forbidden.contains c

/-- Whether labels make up a name that leads somewhere. -/
def isDomain (labels : List (List Char)) : Bool :=
  labels ≠ [[]] && !labels.any (·.any isForbidden) &&
    (!endsInNumber labels || isShortAddress labels)

/-- Whether a text is a host, by the rules of the web or by those of other schemes. -/
def isHost (web : Bool) (text : List Char) : Bool :=
  match text with
  | '[' :: rest => rest.getLast? = some ']' && isLongAddress rest.dropLast
  | name =>
    if web then (Domain.labels? (PercentCode.decode name)).any isDomain
    else !name.any forbidden.contains

example : isLongAddress "1::8:127.0.0.1".toList = true := by decide +kernel
example : isLongAddress "1:2:3:4:5:6:7::8".toList = false := by decide +kernel
example : isShortAddress ["0x7f".toList, "1".toList, []] = true := by decide +kernel
example : isShortAddress ["256".toList, "1".toList] = false := by decide +kernel

end ProverInput.Host
