set_option autoImplicit false

/-! # The AES-256 block cipher

A block of 16 bytes goes through 14 rounds under a key of 32 bytes. Bytes are polynomials over the
field of two elements modulo `x ^ 8 + x ^ 4 + x ^ 3 + x + 1`, and a block is four columns of four
bytes, one after the other.
-/

namespace ProverInput.Aes

/-! ## Bytes as polynomials -/

/-- Multiplication by `x`. -/
def double (b : UInt8) : UInt8 := if b < 128 then b <<< 1 else (b <<< 1) ^^^ 0x1b

/-- The product of `a` and the polynomial with the lowest `count` coefficients of `b`. -/
def multiplyLow (a : UInt8) : Nat → UInt8 → UInt8
  | 0, _ => 0
  | count + 1, b => (if b % 2 = 1 then a else 0) ^^^ double (multiplyLow a count (b >>> 1))

def multiply (a b : UInt8) : UInt8 := multiplyLow a 8 b

/-- The inverse, which is the power with the exponent 254; zero stays. -/
def inverse (b : UInt8) : UInt8 :=
  (List.range 6).foldl (fun p _ => multiply (multiply p p) b) b |> fun p => multiply p p

/-- The byte that takes the place of another one. -/
def substituteByte (b : UInt8) : UInt8 :=
  let i := inverse b
  let turn (n : UInt8) : UInt8 := (i <<< n) ||| (i >>> (8 - n))
  i ^^^ turn 1 ^^^ turn 2 ^^^ turn 3 ^^^ turn 4 ^^^ 0x63

/-- All substitutes, by the byte whose place they take. -/
def substitutes : Array UInt8 := (Array.range 256).map fun n => substituteByte n.toUInt8

def substitute (b : UInt8) : UInt8 := substitutes.getD b.toNat 0

example : multiply 0x57 0x83 = 0xc1 := by decide
example : substituteByte 0x53 = 0xed := by decide +kernel

/-! ## Keys -/

/-- The sum of two byte strings, byte by byte. -/
def add (a b : List UInt8) : List UInt8 := a.zipWith (· ^^^ ·) b

/-- The words of four bytes of a byte string. -/
def words : List UInt8 → List (List UInt8)
  | a :: b :: c :: d :: rest => [a, b, c, d] :: words rest
  | _ => []

/-- What is added to the word eight places before a new word: the last word, which is turned and
substituted at the start of every eight words and substituted in their middle. -/
def addend (position : Nat) (constant : UInt8) (last : List UInt8) : List UInt8 :=
  if position % 8 = 0 then add ((last.rotateLeft 1).map substitute) [constant, 0, 0, 0]
  else if position % 8 = 4 then last.map substitute
  else last

/-- The words of the schedule from a position on. The last eight words stand in `recent`. -/
def extend : Nat → Nat → UInt8 → List (List UInt8) → List (List UInt8)
  | 0, _, _, _ => []
  | count + 1, position, constant, recent =>
    let word := add (recent.headD []) (addend position constant (recent.getLastD []))
    word :: extend count (position + 1) (if position % 8 = 0 then double constant else constant)
      (recent.drop 1 ++ [word])

/-- Byte strings of four words each. -/
def blocks : List (List UInt8) → List (List UInt8)
  | a :: b :: c :: d :: rest => (a ++ b ++ c ++ d) :: blocks rest
  | _ => []

/-- The fifteen round keys of a key of 32 bytes. -/
def schedule (key : List UInt8) : List (List UInt8) :=
  blocks (words key ++ extend 52 8 1 (words key))

/-! ## Rounds -/

/-- Each row of a block moves to the left by its position. -/
def shiftRows (block : List UInt8) : List UInt8 :=
  (List.range 16).map fun i => block.getD ((i + 4 * (i % 4)) % 16) 0

/-- The product of a column with the fixed polynomial of the cipher. -/
def mixColumn (column : List UInt8) : List UInt8 :=
  match column with
  | [a, b, c, d] =>
    [double a ^^^ double b ^^^ b ^^^ c ^^^ d, a ^^^ double b ^^^ double c ^^^ c ^^^ d,
     a ^^^ b ^^^ double c ^^^ double d ^^^ d, double a ^^^ a ^^^ b ^^^ c ^^^ double d]
  | other => other

/-- The rounds behind the first key; the last one does not mix. -/
def rounds : List (List UInt8) → List UInt8 → List UInt8
  | [], block => block
  | [key], block => add (shiftRows (block.map substitute)) key
  | key :: rest, block =>
    rounds rest (add ((words (shiftRows (block.map substitute))).flatMap mixColumn) key)

/-- The cipher of a block under round keys. -/
def encrypt (keys : List (List UInt8)) (block : List UInt8) : List UInt8 :=
  rounds (keys.drop 1) (add block (keys.headD []))

end ProverInput.Aes
