import ProverInput.Cipher.Aes

set_option autoImplicit false

/-! # Authenticated decryption

Galois counter mode over a block cipher. A text is deciphered by adding the ciphers of successive
counters to it, and it counts only if its tag is right. The tag is made from the sealed text by a
polynomial over the field with `2 ^ 128` elements, at a point that only the key gives away.

Blocks are integers of 128 bits, the first bit of a block being its most significant one. A sealed
text of any length is opened to a text of that length (`length_stream`).
-/

namespace ProverInput.Gcm

/-- The cipher of a block. -/
abbrev Cipher := List UInt8 → List UInt8

/-! ## Blocks -/

/-- The integer of a block; a shorter one is filled up with zeros. -/
def toBlock (bytes : List UInt8) : Nat :=
  (List.range 16).foldl (fun n i => n * 256 + (bytes.getD i 0).toNat) 0

def ofBlock (block : Nat) : List UInt8 :=
  (List.range 16).map fun i => (block >>> (8 * (15 - i))).toUInt8

/-- The blocks of a byte string, the last one filled up with zeros. -/
def toBlocks (bytes : List UInt8) : List Nat :=
  (List.range ((bytes.length + 15) / 16)).map fun i => toBlock ((bytes.drop (16 * i)).take 16)

/-! ## The field -/

/-- A block times the variable of the polynomials. Its coefficients run from the first bit on. -/
def shift (v : Nat) : Nat := if v % 2 = 1 then (v >>> 1) ^^^ (0xe1 <<< 120) else v >>> 1

/-- The sum of the multiples of `v` that the `count` lowest bits of `x` ask for, the highest one
first. -/
def multiplyFrom (x : Nat) : Nat → Nat → Nat → Nat
  | 0, sum, _ => sum
  | count + 1, sum, v => multiplyFrom x count (if x.testBit count then sum ^^^ v else sum) (shift v)

def multiply (x y : Nat) : Nat := multiplyFrom x 128 0 y

/-- The polynomial with the given coefficients at the point `h`. -/
def hash (h : Nat) (blocks : List Nat) : Nat := blocks.foldl (fun sum b => multiply (sum ^^^ b) h) 0

/-! ## Opening -/

/-- A block that tells the length of a text in bits. -/
def lengthBlock (bytes : List UInt8) : Nat := 8 * bytes.length

/-- The counter a text starts from. -/
def start (h : Nat) (nonce : List UInt8) : Nat :=
  if nonce.length = 12 then toBlock nonce + 1 else hash h (toBlocks nonce ++ [lengthBlock nonce])

/-- The counter `i` steps on; only its lower 32 bits count. -/
def counter (first i : Nat) : Nat :=
  (first >>> 32) <<< 32 ||| (first % 0x100000000 + i) % 0x100000000

/-- A text with the ciphers of the counters after the first one added to it. -/
def stream (cipher : Cipher) (first : Nat) (text : List UInt8) : List UInt8 :=
  let pads := (List.range ((text.length + 15) / 16)).flatMap fun i =>
    cipher (ofBlock (counter first (i + 1)))
  (List.range text.length).map fun i => text.getD i 0 ^^^ pads.getD i 0

/-- The tag of a sealed text. -/
def tag (cipher : Cipher) (h first : Nat) (text : List UInt8) : List UInt8 :=
  ofBlock (hash h (toBlocks text ++ [lengthBlock text]) ^^^ toBlock (cipher (ofBlock first)))

/-- The text that was sealed, if the first bytes of its tag are right. -/
def open? (cipher : Cipher) (nonce text given : List UInt8) : Option (List UInt8) :=
  let h := toBlock (cipher (ofBlock 0))
  let first := start h nonce
  if (tag cipher h first text).take given.length = given then some (stream cipher first text)
  else none

theorem length_stream (cipher : Cipher) (first : Nat) (text : List UInt8) :
    (stream cipher first text).length = text.length := by
  simp [stream]

end ProverInput.Gcm
