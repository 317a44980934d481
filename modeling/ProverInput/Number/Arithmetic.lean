import ProverInput.Number

set_option autoImplicit false

/-! # Arithmetic and order of numbers

Sums, products, quotients and remainders are the exact result taken to the nearest number.
Remainders take the sign of the dividend. A comparison with `nan` fails.

On whole numbers up to `2 ^ 53` everything is integer arithmetic (`int_add_int`, `int_sub_int`,
`int_rem_int`, `int_lt_int`).
-/

namespace ProverInput.Number

/-- The numerator over `2 ^ scale`; zero for a number that is not finite. -/
def numerator : Number → Int
  | int n => n
  | fraction m _ _ => m
  | _ => 0

/-- The power of two under the numerator. -/
def scale : Number → Nat
  | fraction _ k _ => k + 1
  | _ => 0

/-! ## Order -/

/-- Strictly smaller; never true of `nan`. -/
def lt : Number → Number → Bool
  | nan, _ => false
  | _, nan => false
  | infinite s, infinite t => s && !t
  | infinite s, _ => s
  | _, infinite t => !t
  | a, b => decide (a.numerator <<< b.scale < b.numerator <<< a.scale)

/-- The same number; never true of `nan`. -/
def same (a b : Number) : Bool := decide (a = b) && decide (a ≠ nan)

theorem same_iff {a b : Number} : a.same b = true ↔ a = b ∧ a ≠ nan := by simp [same]

/-- Smaller or the same. -/
def le (a b : Number) : Bool := a.lt b || a.same b

instance : LT Number := ⟨fun a b => a.lt b = true⟩
instance : LE Number := ⟨fun a b => a.le b = true⟩
instance (a b : Number) : Decidable (a < b) := inferInstanceAs (Decidable (_ = true))
instance (a b : Number) : Decidable (a ≤ b) := inferInstanceAs (Decidable (_ = true))

@[simp] theorem int_lt_int {a b : Int} : int a < int b ↔ a < b := by
  show lt (int a) (int b) = true ↔ _
  simp [lt, numerator, scale]

@[simp] theorem int_le_int {a b : Int} : int a ≤ int b ↔ a ≤ b := by
  show le (int a) (int b) = true ↔ _
  simp [le, lt, same, numerator, scale]
  omega

/-- The smaller of two numbers. -/
def lower : Number → Number → Number
  | nan, _ => nan
  | _, nan => nan
  | a, b => if a < b then a else b

/-- The larger of two numbers. -/
def upper : Number → Number → Number
  | nan, _ => nan
  | _, nan => nan
  | a, b => if a < b then b else a

theorem lower_int_int (a b : Int) : lower (int a) (int b) = int (min a b) := by
  simp only [lower, int_lt_int]
  split <;> congr 1 <;> omega

theorem upper_int_int (a b : Int) : upper (int a) (int b) = int (max a b) := by
  simp only [upper, int_lt_int]
  split <;> congr 1 <;> omega

/-! ## Operations -/

def neg : Number → Number
  | int n => int (-n)
  | fraction m k odd => fraction (-m) k (neg_odd odd)
  | infinite s => infinite !s
  | nan => nan

def add : Number → Number → Number
  | nan, _ => nan
  | _, nan => nan
  | infinite s, infinite t => if s = t then infinite s else nan
  | infinite s, _ => infinite s
  | _, infinite t => infinite t
  | a, b => nearest (a.numerator <<< b.scale + b.numerator <<< a.scale)
      (1 <<< (a.scale + b.scale))

def sub (a b : Number) : Number := a.add b.neg

def mul : Number → Number → Number
  | nan, _ => nan
  | _, nan => nan
  | infinite s, infinite t => infinite (s != t)
  | infinite s, b => if b = int 0 then nan else infinite (s != decide (b.numerator < 0))
  | a, infinite t => if a = int 0 then nan else infinite (t != decide (a.numerator < 0))
  | a, b => nearest (a.numerator * b.numerator) (1 <<< (a.scale + b.scale))

def div : Number → Number → Number
  | nan, _ => nan
  | _, nan => nan
  | infinite _, infinite _ => nan
  | infinite s, b => infinite (s != decide (b.numerator < 0))
  | _, infinite _ => int 0
  | a, b =>
    if b = int 0 then
      if a = int 0 then nan else infinite (decide (a.numerator < 0))
    else nearest ((a.numerator <<< b.scale) * b.numerator.sign)
      (b.numerator.natAbs <<< a.scale)

/-- The remainder of a division that truncates toward zero. -/
def rem : Number → Number → Number
  | nan, _ => nan
  | _, nan => nan
  | infinite _, _ => nan
  | a, infinite _ => a
  | a, b =>
    if b = int 0 then nan
    else dyadic (Int.tmod (a.numerator <<< b.scale) (b.numerator <<< a.scale))
      (a.scale + b.scale)

/-- The largest whole number not above. -/
def floor : Number → Number
  | fraction m k _ => int (m >>> (k + 1))
  | x => x

/-- The smallest whole number not below. -/
def ceil : Number → Number
  | fraction m k _ => int (m >>> (k + 1) + 1)
  | x => x

instance : Neg Number := ⟨neg⟩
instance : Add Number := ⟨add⟩
instance : Sub Number := ⟨sub⟩
instance : Mul Number := ⟨mul⟩
instance : Div Number := ⟨div⟩
instance : Mod Number := ⟨rem⟩

theorem int_add_int (a b : Int) : int a + int b = nearest (a + b) 1 := by
  show add (int a) (int b) = _
  simp [add, numerator, scale]

theorem int_sub_int (a b : Int) : int a - int b = nearest (a - b) 1 := by
  show add (int a) (int (-b)) = _
  simp [add, numerator, scale, Int.sub_eq_add_neg]

/-- A sum that is no larger than `2 ^ 53` is exact. -/
theorem int_add_exact {a b : Int} (h : (a + b).natAbs ≤ exactBound) :
    int a + int b = int (a + b) := by
  rw [int_add_int, nearest_one h]

/-- A difference that is no larger than `2 ^ 53` is exact. -/
theorem int_sub_exact {a b : Int} (h : (a - b).natAbs ≤ exactBound) :
    int a - int b = int (a - b) := by
  rw [int_sub_int, nearest_one h]

theorem int_mul_int (a b : Int) : int a * int b = nearest (a * b) 1 := by
  show mul (int a) (int b) = _
  simp [mul, numerator, scale]

theorem int_rem_int (a : Int) {b : Int} (h : b ≠ 0) : int a % int b = int (a.tmod b) := by
  show rem (int a) (int b) = _
  simp [rem, numerator, scale, h, dyadic]

/-- `2 ^ 1024`, which every finite number lies below. It stands for the count of all naturals. -/
def beyond : Nat := 1 <<< 1024

/-- How many of `0, 1, 2, …` lie below. -/
def count : Number → Nat
  | int n => n.toNat
  | fraction m k _ => (m >>> (k + 1) + 1).toNat
  | infinite false => beyond
  | _ => 0

/-- The whole part of a number from zero up; zero for every other. -/
def whole : Number → Nat
  | int n => n.toNat
  | fraction m k _ => (m >>> (k + 1)).toNat
  | infinite false => beyond
  | _ => 0

@[simp] theorem count_int (n : Int) : (int n).count = n.toNat := rfl

@[simp] theorem whole_int (n : Int) : (int n).whole = n.toNat := rfl

end ProverInput.Number
