import ProverInput.Number

set_option autoImplicit false

/-! # Decimal notation of numbers

A decimal is read as the number closest to it (`ofDecimal`). A number is written with the fewest
significant digits that read back as it; of two such decimals the closer one is written. Values
from `10 ^ -6` to below `10 ^ 21` are written positionally, the others as digits with a power of
ten (`text`).
-/

namespace ProverInput.Number

/-- The value `digits * 10 ^ exponent`. -/
structure Decimal where
  digits : Nat
  exponent : Int
deriving DecidableEq, Repr

/-- The number of decimal digits of `n`. -/
def digitCount (n : Nat) : Nat := (Nat.toDigits 10 n).length

/-- `10 ^ k`, or one for a negative `k`. -/
def tens (k : Int) : Nat := Nat.pow 10 k.toNat

/-- The number closest to a decimal. A decimal of more than 310 digits before the point is
infinite, one that starts more than 400 places behind it is zero. -/
def ofDecimal (negative : Bool) (d : Decimal) : Number :=
  let magnitude : Int := digitCount d.digits + d.exponent
  if d.digits = 0 ∨ magnitude < -400 then int 0
  else if 310 < magnitude then infinite negative
  else
    let digits : Int := if negative then -d.digits else d.digits
    nearest (digits * tens d.exponent) (tens (-d.exponent))

/-! ## Fewest digits -/

/-- The `e` with `10 ^ (e - 1) ≤ p / q < 10 ^ e`, for positive `p` and `q`. -/
def decimalExponent (p q : Nat) : Int :=
  if q ≤ p then digitCount (p / q) else 1 - digitCount ((q - 1) / p)

/-- The decimal with unit `10 ^ exponent` that is closest to `p / q` among those that read back
as `x`. Only the two neighbours of `p / q` on that grid can. -/
def onGrid? (x : Number) (p q : Nat) (exponent : Int) : Option Decimal :=
  let p := p * tens (-exponent)
  let q := q * tens exponent
  let below : Decimal := ⟨p / q, exponent⟩
  let above : Decimal := ⟨p / q + 1, exponent⟩
  match decide (ofDecimal false below = x), decide (ofDecimal false above = x) with
  | true, true => if roundHalfEven p q = p / q then some below else some above
  | true, false => some below
  | false, true => some above
  | false, false => none

/-- The decimal with the fewest significant digits that reads back as `x = p / q`. Seventeen
digits always do. -/
def shortest (x : Number) (p q : Nat) : Decimal :=
  let e := decimalExponent p q
  ((List.range 17).findSome? fun n : Nat => onGrid? x p q (e - n - 1)).getD ⟨p / q, 0⟩

/-! ## Layout -/

/-- Digits of a positive decimal without trailing zeros, and the place of its point: the value is
`0.digits * 10 ^ point`. -/
def significant (d : Decimal) : List Char × Int :=
  let digits := Nat.toDigits 10 d.digits
  let kept := (digits.reverse.dropWhile (· == '0')).reverse
  (kept, digits.length + d.exponent)

/-- The text of a positive decimal: positional while the point lies at most 21 places behind the
first digit and at most six zeros stand before it, otherwise with a power of ten. -/
def layout (d : Decimal) : List Char :=
  let (digits, point) := significant d
  if (digits.length : Int) ≤ point ∧ point ≤ 21 then
    digits ++ List.replicate (point - digits.length).toNat '0'
  else if 0 < point ∧ point ≤ 21 then
    digits.take point.toNat ++ '.' :: digits.drop point.toNat
  else if -6 < point ∧ point ≤ 0 then
    '0' :: '.' :: (List.replicate (-point).toNat '0' ++ digits)
  else
    let exponent := point - 1
    let sign := if exponent < 0 then '-' else '+'
    let mantissa := match digits with
      | [d] => [d]
      | d :: rest => d :: '.' :: rest
      | [] => []
    mantissa ++ 'e' :: sign :: Nat.toDigits 10 exponent.natAbs

/-- The text of the positive number `x = p / q`. -/
def magnitudeText (x : Number) (p q : Nat) : List Char :=
  if p % q = 0 ∧ p / q ≤ exactBound then Nat.toDigits 10 (p / q) else layout (shortest x p q)

/-- The text of a number. -/
def text : Number → String
  | int n =>
    if n < 0 then String.ofList ('-' :: magnitudeText (int (-n)) n.natAbs 1)
    else String.ofList (magnitudeText (int n) n.natAbs 1)
  | fraction m k odd =>
    if m < 0 then
      String.ofList ('-' :: magnitudeText (fraction (-m) k (neg_odd odd)) m.natAbs (1 <<< (k + 1)))
    else String.ofList (magnitudeText (fraction m k odd) m.natAbs (1 <<< (k + 1)))
  | infinite negative => if negative then "-Infinity" else "Infinity"
  | nan => "NaN"

instance : ToString Number := ⟨text⟩

theorem text_int {n : Nat} (h : n ≤ exactBound) :
    text (int n) = String.ofList (Nat.toDigits 10 n) := by
  have h0 : ¬ ((n : Int) < 0) := by omega
  have h1 : n % 1 = 0 ∧ n / 1 ≤ exactBound := ⟨Nat.mod_one n, by rwa [Nat.div_one]⟩
  have h2 : magnitudeText (int n) n 1 = Nat.toDigits 10 n := by
    rw [magnitudeText, if_pos h1, Nat.div_one]
  rw [text, if_neg h0, Int.natAbs_natCast, h2]

example : text (ofDecimal false ⟨15, -1⟩) = "1.5" := by decide +kernel
example : text (ofDecimal true ⟨1, 21⟩) = "-1e+21" := by decide +kernel
example : text (ofDecimal false ⟨1, -7⟩) = "1e-7" := by decide +kernel
example : text (ofDecimal false ⟨123456, -9⟩) = "0.000123456" := by decide +kernel
example : text (ofDecimal false ⟨2, 20⟩) = "200000000000000000000" := by decide +kernel

end ProverInput.Number
