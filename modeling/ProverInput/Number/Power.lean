import ProverInput.Number.Arithmetic

set_option autoImplicit false

/-! # Powers of two

`power x` is two to the power of `x`. For a whole `x` that is exact: `2 ^ x` itself from zero up
(`power_natCast`), as long as it stays below `2 ^ 1024`. Any other `x` is a whole part and a rest
of about one half at most, and the rest goes through an approximation of the exponential function
whose every step is rounded to a number. Its outcome is a number next to the exact power, if not
the closest one, so the steps are part of what the power is.
-/

namespace ProverInput.Number

/-! ## The exponential function near zero -/

/-- The natural logarithm of two. -/
def logTwo : Number := dyadic 0x162e42fefa39ef 53

/-- The leading digits of the logarithm, so few that a product with them is exact. -/
def logTwoHead : Number := dyadic 0x162e43 21

/-- What the leading digits leave over. -/
def logTwoTail : Number := dyadic (-0x105c610ca86c39) 81

/-- A number with all but the first 21 of its binary digits dropped. -/
def leading (x : Number) : Number :=
  let m := x.numerator
  let places := m.natAbs.log2 - 20
  dyadic (m.sign * (m.natAbs >>> places <<< places : Nat)) x.scale

/-- The series `s / 6 - s ^ 2 / 360 + …` of five terms, with the coefficients that fit best. -/
def correction (s : Number) : Number :=
  s * (dyadic 0xaaaaaaaaaaa9f 54 + s * (dyadic (-0x16c16c16bebd93) 61 +
    s * (dyadic 0x4559aabc9778b 64 + s * (dyadic (-0x1bbd41c5d26bf1) 72 +
    s * dyadic 0x16376972bea4d 73))))

/-- The exponential of `z`: `1 + z + z * c / (2 - c)` with `c = z - correction (z ^ 2)`. The
rounding error `w` of `z` goes into the divisor. -/
def exponential (z w : Number) : Number :=
  let c := z - correction (z * z)
  1 - (z * c / (c - 2 - (w + z * w)) - z)

/-- Two to the power of `head + tail`, where `tail` is small beside `head`. The product with the
logarithm of two is a number and its rounding error. -/
def powerNearOne (head tail : Number) : Number :=
  let front := leading (tail + head)
  let product := front * logTwoHead
  let rest := (tail - (front - head)) * logTwo + front * logTwoTail
  let z := product + rest
  exponential z (rest - (z - product))

/-! ## Powers -/

/-- The whole number next to the head of an exponent; none is taken off up to one half. -/
def nearestWhole (head : Number) : Int :=
  let half := dyadic 1 1
  let n := if head < 0 then half - head else head + half
  if n ≤ 1 then 0 else if head < 0 then -n.whole else n.whole

/-- A number times the power of two with a whole exponent, rounded once. -/
def timesPower (x : Number) (n : Int) : Number :=
  nearest (x.numerator <<< n.toNat) (1 <<< (x.scale + (-n).toNat))

/-- The square root of two. -/
def rootTwo : Number := dyadic 0x16a09e667f3bcd 52

/-- Two to the power of a number that is not whole. -/
def powerOfFraction (x : Number) : Number :=
  if 1024 ≤ x then infinite false
  else if x ≤ -1075 then int 0
  else if x = dyadic 1 1 then rootTwo
  else
    let head := leading x
    let n := nearestWhole head
    timesPower (powerNearOne (head - int n) (x - head)) n

/-- Two to the power of a number. -/
def power : Number → Number
  | int n =>
    if 1024 ≤ n then infinite false
    else if 0 ≤ n then int (1 <<< n.toNat)
    else if -1074 ≤ n then dyadic 1 (-n).toNat
    else int 0
  | fraction m k odd => powerOfFraction (fraction m k odd)
  | infinite false => infinite false
  | infinite true => int 0
  | nan => nan

theorem power_natCast {n : Nat} (h : n < 1024) : power (int n) = int (1 <<< n) := by
  have h1 : ¬ (1024 ≤ (n : Int)) := by omega
  have h2 : (0 : Int) ≤ n := by omega
  rw [power, if_neg h1, if_pos h2, Int.toNat_natCast]

/-- The lower 32 bits of the whole part of a number, which is rounded toward zero. -/
def lowWord : Number → Nat
  | int n => (n % 0x100000000).toNat
  | fraction m k _ => (m.tdiv (1 <<< (k + 1)) % 0x100000000).toNat
  | _ => 0

theorem lowWord_natCast (n : Nat) : lowWord (int n) = n % 0x100000000 := by
  show ((n : Int) % 0x100000000).toNat = _
  omega

/-- The fourth root of two. -/
example : power (dyadic 1 2) = dyadic 0x1306fe0a31b715 52 := by decide +kernel

end ProverInput.Number
