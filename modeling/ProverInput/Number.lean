set_option autoImplicit false

/-! # Numbers

Documents, parameters and block headers carry double-precision numbers: an integer of at most
53 bits times a power of two between `2 ^ -1074` and `2 ^ 971`, or an infinity, or no number at
all. A whole number is held as an integer and any other finite number as an odd numerator over a
power of two, so two equal numbers are the same term and zero has no sign.

`nearest` takes a quotient of integers to the number closest to it; of two numbers equally close
it takes the one whose last bit is zero. Every integer up to `2 ^ 53` is a number itself
(`nearest_one`), so arithmetic on block heights and times is exact there.
-/

namespace ProverInput

inductive Number where
  /-- A whole number. -/
  | int (n : Int)
  /-- The number `m / 2 ^ (k + 1)`. -/
  | fraction (m : Int) (k : Nat) (odd : m % 2 = 1)
  | infinite (negative : Bool)
  /-- The outcome of an operation that has no answer, such as `0 / 0`. -/
  | nan
deriving DecidableEq, Repr

namespace Number

instance : Inhabited Number := ⟨int 0⟩
instance : IntCast Number := ⟨int⟩
instance : NatCast Number := ⟨fun n => int n⟩
instance (n : Nat) : OfNat Number n := ⟨int n⟩

@[simp] theorem natCast_eq (n : Nat) : (n : Number) = int n := rfl

@[simp] theorem ofNat_eq (n : Nat) : (OfNat.ofNat n : Number) = int n := rfl

/-- The integer a whole number is. -/
def toInt? : Number → Option Int
  | int n => some n
  | _ => none

/-- Whether the number is whole. -/
def isInteger (x : Number) : Bool := x.toInt?.isSome

@[simp] theorem toInt?_int (n : Int) : (int n).toInt? = some n := rfl

theorem neg_odd {m : Int} (odd : m % 2 = 1) : -m % 2 = 1 := by omega

/-! ## Rounding -/

/-- The number `m / 2 ^ k`, with twos cancelled. -/
def dyadic (m : Int) : Nat → Number
  | 0 => int m
  | k + 1 => if h : m % 2 = 1 then fraction m k h else dyadic (m / 2) k

/-- The integer closest to `p / q`, of two equally close ones the even one. -/
def roundHalfEven (p q : Nat) : Nat :=
  if 2 * (p % q) < q then p / q
  else if q < 2 * (p % q) then p / q + 1
  else p / q + p / q % 2

/-- The largest `e` with `2 ^ e ≤ p / q`, for positive `p` and `q`. -/
def binaryExponent (p q : Nat) : Int :=
  let e : Int := (p.log2 : Int) - q.log2
  if q <<< e.toNat ≤ p <<< (-e).toNat then e else e - 1

/-- The double-precision number closest to `p / q` for natural `p` and positive `q`; a quotient
of `2 ^ 1024` or more after rounding is infinite. -/
def nearestMagnitude (negative : Bool) (p q : Nat) : Number :=
  let e := max (binaryExponent p q - 52) (-1074)
  let m := roundHalfEven (p <<< (-e).toNat) (q <<< e.toNat)
  if 1024 ≤ (m.log2 : Int) + e then infinite negative
  else
    let magnitude : Int := (m <<< e.toNat : Nat)
    dyadic (if negative then -magnitude else magnitude) (-e).toNat

/-- Every integer up to this one, which is `2 ^ 53`, is a number. -/
def exactBound : Nat := 0x20000000000000

/-- The double-precision number closest to `p / q`. Whole quotients up to `2 ^ 53` are kept. -/
def nearest (p : Int) (q : Nat) : Number :=
  if p % q = 0 ∧ (p / q).natAbs ≤ exactBound then int (p / q)
  else nearestMagnitude (p < 0) p.natAbs q

theorem nearest_one {n : Int} (h : n.natAbs ≤ exactBound) : nearest n 1 = int n := by
  have h1 : n % ((1 : Nat) : Int) = 0 := Int.emod_one n
  have h2 : n / ((1 : Nat) : Int) = n := Int.ediv_one n
  rw [nearest, h1, h2, if_pos ⟨rfl, h⟩]

/-- Halves, quarters and so on of small integers are numbers. -/
example : nearest 3 2 = fraction 3 0 rfl := by decide

/-- `2 ^ 53 + 1` lies halfway between two numbers; the one with the even last bit is taken. -/
example : nearest (exactBound + 1) 1 = int exactBound := by decide +kernel

end Number

end ProverInput
