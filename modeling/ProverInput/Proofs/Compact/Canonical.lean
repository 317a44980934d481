import Mathlib
import ProverInput.Compact

set_option autoImplicit false

/-! # The best compact form

Up to rounding down, a compact form with exponent `e` and mantissa `m` stands for `m * 256 ^ e`
over `256 ^ 3` (`decode_eq`). The form that is chosen for a target `t` has the one exponent for
which the mantissa `t * 256 ^ 3 / 256 ^ e` lies between `2 ^ 15` and `2 ^ 23` (`bits_eq`,
`mantissa_lt`, `le_mantissa`): with another byte the sign bit would be set or the leading byte
empty. That both branches of the encoding and the correction for the sign bit come down to this is
what makes the rest short.

No other form without the sign bit comes closer to the target from below (`le_target_bits`). One of
the same or a greater exponent stands for a multiple of the same power of 256, and one of a smaller
exponent stands for less than any form that is chosen with this exponent.
-/

namespace ProverInput.Compact

/-! ## Shifts by whole bytes -/

theorem shiftLeft_bytes (n k : Nat) : n <<< (8 * k) = n * 256 ^ k := by
  rw [Nat.shiftLeft_eq, pow_mul]
  norm_num

theorem shiftRight_bytes (n k : Nat) : n >>> (8 * k) = n / 256 ^ k := by
  rw [Nat.shiftRight_eq_div_pow, pow_mul]
  norm_num

/-- Going from one place in base 256 to a higher one. -/
theorem mul_pow_div_pow_of_le (n : Nat) {a b : Nat} (h : a ≤ b) :
    n * 256 ^ b / 256 ^ a = n * 256 ^ (b - a) := by
  have hpos : 0 < 256 ^ a := by positivity
  calc n * 256 ^ b / 256 ^ a = n * 256 ^ (b - a) * 256 ^ a / 256 ^ a := by
        rw [mul_assoc, ← pow_add, Nat.sub_add_cancel h]
    _ = n * 256 ^ (b - a) := Nat.mul_div_cancel _ hpos

/-- Going from one place in base 256 to a lower one. -/
theorem mul_pow_div_pow_of_ge (n : Nat) {a b : Nat} (h : b ≤ a) :
    n * 256 ^ b / 256 ^ a = n / 256 ^ (a - b) := by
  have hpos : 0 < 256 ^ b := by positivity
  calc n * 256 ^ b / 256 ^ a = n * 256 ^ b / (256 ^ (a - b) * 256 ^ b) := by
        rw [← pow_add, Nat.sub_add_cancel h]
    _ = n / 256 ^ (a - b) := Nat.mul_div_mul_right _ _ hpos

/-! ## Decoding -/

theorem decode_eq {e : Nat} (he : e ≠ 0) (m : Nat) : decode e m = m * 256 ^ e / 256 ^ 3 := by
  rw [decode, if_neg he]
  by_cases h : e ≤ 3
  · rw [if_pos h, shiftRight_bytes, mul_pow_div_pow_of_ge m h]
  · rw [if_neg h, shiftLeft_bytes, mul_pow_div_pow_of_le m (by omega)]

theorem decode_of_le {e : Nat} (h : 3 ≤ e) (m : Nat) : decode e m = m * 256 ^ (e - 3) := by
  rw [decode_eq (by omega), mul_pow_div_pow_of_le m h]

theorem decode_le (e m : Nat) : decode e m ≤ m * 256 ^ (e - 3) := by
  by_cases h : 3 ≤ e
  · exact (decode_of_le h m).le
  · have hzero : e - 3 = 0 := by omega
    rw [hzero, pow_zero, mul_one, decode]
    split
    · exact le_rfl
    · rw [if_pos (by omega), shiftRight_bytes]
      exact Nat.div_le_self m _

/-! ## Encoding -/

/-- The exponent for which the mantissa of a positive target has its leading byte and no sign
bit. -/
def exponent (t : Nat) : Nat := Nat.log 256 (512 * t)

/-- The leading bytes of a target. -/
def mantissa (t : Nat) : Nat := t * 256 ^ 3 / 256 ^ exponent t

theorem exponent_eq_zero_iff {t : Nat} : exponent t = 0 ↔ t = 0 := by
  rw [exponent, Nat.log_eq_zero_iff]
  omega

theorem pow_exponent_le {t : Nat} (ht : t ≠ 0) : 256 ^ exponent t ≤ 512 * t :=
  Nat.pow_log_le_self 256 (by omega)

theorem lt_pow_exponent (t : Nat) : 512 * t < 256 * 256 ^ exponent t := by
  have h : 512 * t < 256 ^ (exponent t + 1) := Nat.lt_pow_succ_log_self (by norm_num) (512 * t)
  rwa [pow_succ, mul_comm (256 ^ _)] at h

theorem exponent_le {t : Nat} (h : t < 2 ^ 256) : exponent t ≤ 33 := by
  have hlt : exponent t < 34 := Nat.log_lt_of_lt_pow' (by norm_num) (by omega)
  omega

theorem mantissa_lt (t : Nat) : mantissa t < 2 ^ 23 := by
  have h := lt_pow_exponent t
  refine Nat.div_lt_of_lt_mul ?_
  generalize 256 ^ exponent t = place at h ⊢
  omega

theorem le_mantissa {t : Nat} (ht : t ≠ 0) : 2 ^ 15 ≤ mantissa t := by
  have h := pow_exponent_le ht
  have hpos : 0 < 256 ^ exponent t := by positivity
  rw [mantissa, Nat.le_div_iff_mul_le hpos]
  generalize 256 ^ exponent t = place at h ⊢
  omega

theorem byteLength_eq {t : Nat} (ht : t ≠ 0) : byteLength t = Nat.log 256 t + 1 := by
  have hlog : Nat.log 256 t = Nat.log 2 t / 8 := Nat.log_pow_left 2 8 t
  rw [byteLength, if_neg ht, Nat.log2_eq_log_two, hlog]

theorem pow_byteLength_le {t : Nat} (ht : t ≠ 0) : 256 ^ byteLength t ≤ 256 * t := by
  have h := Nat.pow_log_le_self 256 ht
  rw [byteLength_eq ht, pow_succ]
  omega

theorem lt_pow_byteLength {t : Nat} (ht : t ≠ 0) : t < 256 ^ byteLength t := by
  rw [byteLength_eq ht]
  exact Nat.lt_pow_succ_log_self (by norm_num) t

/-- The mantissa before the sign bit is looked at. -/
theorem leading_eq (t size : Nat) :
    (if size ≤ 3 then t <<< (8 * (3 - size)) else t >>> (8 * (size - 3))) =
      t * 256 ^ 3 / 256 ^ size := by
  by_cases h : size ≤ 3
  · rw [if_pos h, shiftLeft_bytes, mul_pow_div_pow_of_le t h]
  · rw [if_neg h, shiftRight_bytes, mul_pow_div_pow_of_ge t (by omega)]

/-- With a sign bit in the three leading bytes the exponent is one more than the number of bytes,
and otherwise it is that number. -/
theorem exponent_eq {t : Nat} (ht : t ≠ 0) :
    exponent t =
      if 2 ^ 23 ≤ t * 256 ^ 3 / 256 ^ byteLength t then byteLength t + 1 else byteLength t := by
  have hlow := pow_byteLength_le ht
  have hhigh := lt_pow_byteLength ht
  have hpos : 0 < 256 ^ byteLength t := by positivity
  by_cases hsign : 2 ^ 23 ≤ t * 256 ^ 3 / 256 ^ byteLength t
  · rw [if_pos hsign, exponent, Nat.log_eq_iff (.inl (Nat.succ_ne_zero _)), pow_succ 256 (_ + 1),
      pow_succ]
    rw [Nat.le_div_iff_mul_le hpos] at hsign
    generalize 256 ^ byteLength t = place at *
    omega
  · rw [if_neg hsign, exponent, Nat.log_eq_iff (.inr ⟨by norm_num, by omega⟩), pow_succ]
    rw [Nat.le_div_iff_mul_le hpos] at hsign
    generalize 256 ^ byteLength t = place at *
    omega

theorem bits_eq (t : Nat) : bits t = exponent t * 2 ^ 24 + mantissa t := by
  by_cases ht : t = 0
  · subst ht
    decide
  · rw [bits, leading_eq, mantissa, exponent_eq ht]
    simp only [show (0x800000 : Nat) = 2 ^ 23 from rfl]
    split
    · -- the third byte is dropped to make room for the sign bit
      rw [Nat.shiftRight_eq_div_pow, Nat.div_div_eq_div_mul, pow_succ 256 (byteLength t)]
      norm_num
    · norm_num

theorem bits_lt {t : Nat} (h : t < 2 ^ 256) : bits t < 2 ^ 32 := by
  have he := exponent_le h
  have hm := mantissa_lt t
  rw [bits_eq]
  omega

/-- A greater target never has a smaller compact form. -/
theorem bits_mono {t t' : Nat} (h : t ≤ t') : bits t ≤ bits t' := by
  have hexponent : exponent t ≤ exponent t' := Nat.log_mono_right (Nat.mul_le_mul_left 512 h)
  rw [bits_eq, bits_eq]
  rcases hexponent.eq_or_lt with heq | hlt
  · have hmantissa : mantissa t ≤ mantissa t' := by
      rw [mantissa, mantissa, heq]
      exact Nat.div_le_div_right (Nat.mul_le_mul_right _ h)
    omega
  · -- the mantissa never carries over into the exponent
    have hm := mantissa_lt t
    omega

/-! ## The target of a compact form -/

/-- The sign bit of the mantissa is clear. -/
def SignClear (b : Nat) : Prop := b.testBit 23 = false

instance (b : Nat) : Decidable (SignClear b) := inferInstanceAs (Decidable (_ = false))

theorem signClear_iff {b : Nat} : SignClear b ↔ b % 2 ^ 24 < 2 ^ 23 := by
  rw [SignClear, Nat.testBit_eq_decide_div_mod_eq, decide_eq_false_iff_not]
  omega

theorem signClear_bits (t : Nat) : SignClear (bits t) := by
  have hm := mantissa_lt t
  rw [signClear_iff, bits_eq]
  omega

theorem target_bits (t : Nat) : target (bits t) = decode (exponent t) (mantissa t) := by
  have hm := mantissa_lt t
  have hdiv : bits t / 0x1000000 = exponent t := by
    rw [bits_eq]
    omega
  have hmod : bits t % 0x1000000 = mantissa t := by
    rw [bits_eq]
    omega
  rw [target, hdiv, hmod]

/-- A target that fits its three bytes is kept. -/
theorem target_bits_of_small {t : Nat} (h : exponent t ≤ 3) : target (bits t) = t := by
  rw [target_bits]
  by_cases ht : t = 0
  · subst ht
    rfl
  · have he : exponent t ≠ 0 := exponent_eq_zero_iff.not.2 ht
    rw [decode_eq he, mantissa, mul_pow_div_pow_of_le t h, mul_assoc, ← pow_add,
      Nat.sub_add_cancel h, Nat.mul_div_cancel _ (by norm_num)]

/-- Of any other target the bytes behind the mantissa are dropped. -/
theorem target_bits_of_large {t : Nat} (h : 3 ≤ exponent t) :
    target (bits t) = t / 256 ^ (exponent t - 3) * 256 ^ (exponent t - 3) := by
  rw [target_bits, decode_of_le h, mantissa, mul_pow_div_pow_of_ge t h]

theorem target_bits_le (t : Nat) : target (bits t) ≤ t := by
  rcases le_total (exponent t) 3 with h | h
  · exact (target_bits_of_small h).le
  · rw [target_bits_of_large h]
    exact Nat.div_mul_le_self t _

/-- No form without the sign bit comes closer from below. -/
theorem le_target_bits {t e m : Nat} (hm : m < 2 ^ 23) (h : decode e m ≤ t) :
    decode e m ≤ target (bits t) := by
  by_cases hsmall : exponent t ≤ 3
  · rwa [target_bits_of_small hsmall]
  · have hlarge : 3 ≤ exponent t := by omega
    have htarget : target (bits t) = mantissa t * 256 ^ (exponent t - 3) := by
      rw [target_bits, decode_of_le hlarge]
    by_cases he : exponent t ≤ e
    · -- a multiple of the place at which the target is cut off
      have hdvd : 256 ^ (exponent t - 3) ∣ decode e m := by
        rw [decode_of_le (by omega)]
        exact Dvd.dvd.mul_left (pow_dvd_pow 256 (by omega)) m
      rw [target_bits_of_large hlarge, ← Nat.div_mul_cancel hdvd]
      exact Nat.mul_le_mul_right _ (Nat.div_le_div_right h)
    · -- one byte less, which the leading byte of the target makes up for
      have hne : t ≠ 0 := by
        rintro rfl
        exact hsmall (by decide)
      have hleading := le_mantissa hne
      have hstep : 256 ^ (exponent t - 3) = 256 ^ (exponent t - 4) * 256 := by
        rw [← pow_succ]
        congr 1
        omega
      calc decode e m ≤ m * 256 ^ (e - 3) := decode_le e m
        _ ≤ 2 ^ 23 * 256 ^ (exponent t - 4) :=
            Nat.mul_le_mul hm.le (Nat.pow_le_pow_right (by norm_num) (by omega))
        _ = 2 ^ 15 * 256 ^ (exponent t - 3) := by
            rw [hstep]
            ring
        _ ≤ target (bits t) := by
            rw [htarget]
            exact Nat.mul_le_mul_right _ hleading

/-! ## Encoding and decoding -/

/-- The target of some 32 bits without the sign bit. -/
def IsClearTarget (w : Nat) : Prop := ∃ b < 2 ^ 32, SignClear b ∧ targetOf (.int b) = .ok w

theorem isClearTarget_iff {w : Nat} :
    IsClearTarget w ↔ ∃ b < 2 ^ 32, SignClear b ∧ target b = w := by
  refine exists_congr fun b => and_congr_right fun hb => and_congr_right fun _ => ?_
  rw [targetOf_int (by omega), Except.ok.injEq]

theorem bitsOf_natCast {t : Nat} (h : t < 2 ^ 256) : bitsOf t = .ok (bits t) := by
  have hcount : hashCount = 2 ^ 256 := by decide +kernel
  rw [bitsOf, if_pos ⟨Int.natCast_nonneg t, by rw [hcount]; exact_mod_cast h⟩, Int.toNat_natCast]

theorem isGreatest_target_bits {t : Nat} (h : t < 2 ^ 256) :
    IsGreatest {w | w ≤ t ∧ IsClearTarget w} (target (bits t)) := by
  constructor
  · exact ⟨target_bits_le t, isClearTarget_iff.2 ⟨bits t, bits_lt h, signClear_bits t, rfl⟩⟩
  · rintro w ⟨hle, hw⟩
    obtain ⟨b, -, hclear, rfl⟩ := isClearTarget_iff.1 hw
    exact le_target_bits (signClear_iff.1 hclear) hle

/-- A target below `2 ^ 256` has a compact form of 32 bits without the sign bit, and the target of
this form is the greatest below of any form without the sign bit. So a target that has such a form
comes back, and greater targets have greater forms. -/
theorem bitsOf_best :
    (∀ t : Int, 0 ≤ t → t < 2 ^ 256 → ∃ b v : Nat, bitsOf t = .ok b ∧ b < 2 ^ 32 ∧ SignClear b ∧
      targetOf (.int b) = .ok v ∧ IsGreatest {w : Nat | (w : Int) ≤ t ∧ IsClearTarget w} v) ∧
    (∀ b v : Nat, b < 2 ^ 32 → SignClear b → targetOf (.int b) = .ok v → v < 2 ^ 256 →
      ∃ b' : Nat, bitsOf v = .ok b' ∧ targetOf (.int b') = .ok v) ∧
    ∀ t t' : Int, 0 ≤ t → t ≤ t' → t' < 2 ^ 256 →
      ∃ b b' : Nat, bitsOf t = .ok b ∧ bitsOf t' = .ok b' ∧ b ≤ b' := by
  refine ⟨fun t ht hlt => ?_, fun b v hb hclear hv hlt => ?_, fun t t' ht hle hlt => ?_⟩
  · obtain ⟨n, rfl⟩ := Int.eq_ofNat_of_zero_le ht
    have hn : n < 2 ^ 256 := by exact_mod_cast hlt
    refine ⟨bits n, target (bits n), bitsOf_natCast hn, bits_lt hn, signClear_bits n,
      targetOf_int (bits_lt hn), ?_⟩
    simp only [Nat.cast_le]
    exact isGreatest_target_bits hn
  · -- what has a form of its own is the greatest one below itself
    have hgreatest := isGreatest_target_bits hlt
    have hsame : target (bits v) = v :=
      le_antisymm (target_bits_le v) (hgreatest.2 ⟨le_rfl, b, hb, hclear, hv⟩)
    refine ⟨bits v, bitsOf_natCast hlt, ?_⟩
    rw [targetOf_int (bits_lt hlt), hsame]
  · obtain ⟨n, rfl⟩ := Int.eq_ofNat_of_zero_le ht
    obtain ⟨m, rfl⟩ := Int.eq_ofNat_of_zero_le (le_trans ht hle)
    have hm : m < 2 ^ 256 := by exact_mod_cast hlt
    have hnm : n ≤ m := by exact_mod_cast hle
    exact ⟨bits n, bits m, bitsOf_natCast (by omega), bitsOf_natCast hm, bits_mono hnm⟩

/-- The leading byte of `0x80ffff7f` would set the sign bit, so only two of its bytes are kept. -/
theorem bitsOf_best_corrected :
    (∃ v : Nat, bitsOf 0x80ffff7f = .ok 0x050080ff ∧ targetOf (.int 0x050080ff) = .ok v ∧
      v = 0x80ff0000 ∧ IsGreatest {w : Nat | (w : Int) ≤ 0x80ffff7f ∧ IsClearTarget w} v) ∧
    (∃ b : Nat, bitsOf 0x80ff0000 = .ok b ∧ targetOf (.int b) = .ok 0x80ff0000) ∧
    ∃ b b' : Nat, bitsOf 0x7fffff = .ok b ∧ bitsOf 0x800000 = .ok b' ∧ b ≤ b' := by
  obtain ⟨hgreatest, hround, hmono⟩ := bitsOf_best
  have hbits : bitsOf 0x80ffff7f = .ok 0x050080ff := by decide +kernel
  have htarget : targetOf (.int 0x050080ff) = .ok 0x80ff0000 := by decide +kernel
  refine ⟨?_, ?_, ?_⟩
  · obtain ⟨b, v, hb, -, -, hv, hbest⟩ := hgreatest 0x80ffff7f (by norm_num) (by norm_num)
    cases hbits.symm.trans hb
    cases htarget.symm.trans hv
    exact ⟨_, hbits, htarget, rfl, hbest⟩
  · exact hround 0x050080ff 0x80ff0000 (by norm_num) (by decide) htarget (by norm_num)
  · exact hmono 0x7fffff 0x800000 (by norm_num) (by norm_num) (by norm_num)

end ProverInput.Compact
