import ProverInput.Json.Printer
import ProverInput.Json.Reader
import ProverInput.Proofs.Number.Notation

set_option autoImplicit false

/-! # Numerals of documents

A numeral is read part by part: digits, a fraction, an exponent (`readMagnitude_parts`). Each of the
forms a decimal is laid out in has the parts of that decimal (`readMagnitude_layout`), so the text of
a finite number is read to its end, whatever stands behind it, as long as that does not go on like a
number (`exists_readNumber`). A whole double reads back as itself (`readNumber_text`).
-/

namespace ProverInput.Json

open Number (Decimal layout ofDecimal significant)

/-- What may stand behind a number without being read as part of it. -/
def endsNumber : List Char → Bool
  | [] => true
  | c :: _ => !(c.isDigit || c = '.' || c = 'e' || c = 'E')

theorem readDigits_append {digits rest : List Char} (hne : digits ≠ [])
    (hdigits : digits.all Char.isDigit = true) (hrest : rest.head?.all (!·.isDigit) = true) :
    readDigits (digits ++ rest) = some (digits, rest) := by
  have hall : ∀ c ∈ digits, c.isDigit = true := List.all_eq_true.1 hdigits
  have htake : (digits ++ rest).takeWhile Char.isDigit = digits := by
    rw [List.takeWhile_append_of_pos hall]
    cases rest with
    | nil => simp
    | cons c rest =>
        have hc : c.isDigit = false := by simpa using hrest
        simp [hc]
  have hdrop : (digits ++ rest).dropWhile Char.isDigit = rest := by
    rw [List.dropWhile_append_of_pos hall]
    cases rest with
    | nil => simp
    | cons c rest =>
        have hc : c.isDigit = false := by simpa using hrest
        simp [hc]
  cases digits with
  | nil => exact absurd rfl hne
  | cons c digits =>
      rw [readDigits, htake, hdrop]

theorem readFraction_none {rest : List Char} (h : rest.head? ≠ some '.') :
    readFraction rest = some ([], rest) := by
  unfold readFraction
  split
  · simp at h
  · rfl

theorem readExponent_none {rest : List Char} (h : endsNumber rest = true) :
    readExponent rest = some (0, rest) := by
  unfold readExponent
  split
  · simp [endsNumber] at h
  · simp [endsNumber] at h
  · rfl

/-- A number is read part by part: its whole part, its fraction and its exponent. -/
theorem readMagnitude_parts (negative : Bool) (whole : List Char)
    {fraction text text' rest : List Char} {exponent : Int} (hne : whole ≠ [])
    (hwhole : whole.all Char.isDigit = true)
    (hzero : whole.head? = some '0' → whole.length = 1)
    (hstop : text.head?.all (!·.isDigit) = true)
    (hfraction : readFraction text = some (fraction, text'))
    (hexponent : readExponent text' = some (exponent, rest)) :
    readMagnitude negative (whole ++ text) = some (ofDecimal negative
      ⟨Nat.ofDigitChars 10 (whole ++ fraction) 0, exponent - fraction.length⟩, rest) := by
  have hlead : ¬ (whole.head? = some '0' ∧ whole.length ≠ 1) := fun h => h.2 (hzero h.1)
  rw [readMagnitude, readDigits_append hne hwhole hstop]
  simp only [if_neg hlead, hfraction, hexponent]

theorem head?_append_stop {c : Char} {text rest : List Char} (hc : c.isDigit = false) :
    (c :: text ++ rest).head?.all (!·.isDigit) = true := by
  simp [hc]

theorem endsNumber_stop {rest : List Char} (h : endsNumber rest = true) :
    rest.head?.all (!·.isDigit) = true := by
  cases rest with
  | nil => rfl
  | cons c rest =>
      simp only [endsNumber, Bool.not_eq_true', Bool.or_eq_false_iff] at h
      simp [h.1.1.1]

theorem endsNumber_point {rest : List Char} (h : endsNumber rest = true) :
    rest.head? ≠ some '.' := by
  cases rest with
  | nil => simp
  | cons c rest =>
      simp only [endsNumber, Bool.not_eq_true', Bool.or_eq_false_iff, decide_eq_false_iff_not] at h
      simpa using h.1.1.2

theorem readSigned_digits {n : Int} {rest : List Char} (h : endsNumber rest = true) :
    readSigned ((if n < 0 then '-' else '+') :: Nat.toDigits 10 n.natAbs ++ rest) =
      some (n, rest) := by
  have hread := readDigits_append (Nat.toDigits_ne_nil (n := n.natAbs) (b := 10))
    (Number.all_isDigit_toDigits n.natAbs) (endsNumber_stop h)
  by_cases hn : n < 0
  · simp only [if_pos hn, List.cons_append, readSigned, hread, Option.map_some,
      Nat.ofDigitChars_ten_toDigits]
    have : -(n.natAbs : Int) = n := by omega
    rw [this]
  · simp only [if_neg hn, List.cons_append, readSigned, hread, Option.map_some,
      Nat.ofDigitChars_ten_toDigits]
    have : (n.natAbs : Int) = n := by omega
    rw [this]

/-! ## Forms of a decimal -/

/-- The digits of a decimal without the zeros at their end, and how far behind the first of them its
point lies. -/
structure Significant (d : Decimal) (kept : List Char) (point : Int) : Prop where
  digits : kept.all Char.isDigit = true
  head : kept.head? ≠ some '0'
  pos : 0 < Nat.ofDigitChars 10 kept 0
  value : ∀ negative, ofDecimal negative d =
    ofDecimal negative ⟨Nat.ofDigitChars 10 kept 0, point - kept.length⟩

namespace Significant

variable {d : Decimal} {kept : List Char} {point : Int} {rest : List Char}

theorem of_pos (hd : 0 < d.digits) :
    ∃ kept point, significant d = (kept, point) ∧ Significant d kept point := by
  obtain ⟨kept, zeros, hsig, hdigits⟩ := Number.significant_spec d
  have hvalue : d.digits = Nat.ofDigitChars 10 kept 0 * 10 ^ zeros := by
    rw [← Nat.ofDigitChars_ten_toDigits (n := d.digits), hdigits, Nat.ofDigitChars_append,
      Nat.ofDigitChars_replicate_zero, Nat.mul_comm]
  have hpos : 0 < Nat.ofDigitChars 10 kept 0 := by
    rcases Nat.eq_zero_or_pos (Nat.ofDigitChars 10 kept 0) with h0 | h0
    · rw [h0] at hvalue
      omega
    · exact h0
  have hkept : kept ≠ [] := by
    rintro rfl
    simp at hpos
  refine ⟨kept, _, hsig, ?_, ?_, hpos, ?_⟩
  · have := Number.all_isDigit_toDigits d.digits
    rw [hdigits, List.all_append, Bool.and_eq_true] at this
    exact this.1
  · have := Number.head?_toDigits hd
    rwa [hdigits, List.head?_append_of_ne_nil _ hkept] at this
  · intro negative
    have hexp : (kept.length + zeros + d.exponent : Int) - kept.length - zeros = d.exponent := by
      omega
    rw [← Number.ofDecimal_shift negative hpos zeros, ← hvalue, hexp]

theorem ne_nil (h : Significant d kept point) : kept ≠ [] := by
  rintro rfl
  exact absurd h.pos (by simp)

/-- All digits, and zeros up to the point. -/
theorem readMagnitude_whole (h : Significant d kept point) (negative : Bool)
    (hrest : endsNumber rest = true) (hpoint : kept.length ≤ point) :
    readMagnitude negative (kept ++ List.replicate (point - kept.length).toNat '0' ++ rest) =
      some (ofDecimal negative d, rest) := by
  obtain ⟨k, hk⟩ : ∃ k : Nat, point - kept.length = k := ⟨(point - kept.length).toNat, by omega⟩
  have hparts := readMagnitude_parts negative (kept ++ List.replicate k '0')
    (by simp [h.ne_nil]) (by simp [h.digits])
    (by simp [List.head?_append_of_ne_nil _ h.ne_nil, h.head]) (endsNumber_stop hrest)
    (readFraction_none (endsNumber_point hrest)) (readExponent_none hrest)
  rw [hk, Int.toNat_natCast, hparts, h.value, hk, ← Number.ofDecimal_shift negative h.pos k]
  simp [Nat.ofDigitChars_append, Nat.mul_comm]

/-- The point among the digits. -/
theorem readMagnitude_among (h : Significant d kept point) (negative : Bool)
    (hrest : endsNumber rest = true) (hpos : 0 < point) (hpoint : point < kept.length) :
    readMagnitude negative (kept.take point.toNat ++ '.' :: kept.drop point.toNat ++ rest) =
      some (ofDecimal negative d, rest) := by
  obtain ⟨k, hk⟩ : ∃ k : Nat, point = k := ⟨point.toNat, by omega⟩
  have hlen : k < kept.length := by omega
  have hall := List.all_eq_true.1 h.digits
  have hfraction : readFraction ('.' :: kept.drop k ++ rest) = some (kept.drop k, rest) :=
    readDigits_append (by simpa using hlen)
      (List.all_eq_true.2 fun c hc => hall c (List.mem_of_mem_drop hc)) (endsNumber_stop hrest)
  have hhead : (kept.take k).head? = some '0' → (kept.take k).length = 1 := by
    rw [List.head?_take, if_neg (by omega)]
    exact fun hzero => absurd hzero h.head
  have hparts := readMagnitude_parts negative (kept.take k) (by simp [h.ne_nil]; omega)
    (List.all_eq_true.2 fun c hc => hall c (List.mem_of_mem_take hc)) hhead
    (head?_append_stop (by decide)) hfraction (readExponent_none hrest)
  rw [hk, Int.toNat_natCast, List.append_assoc, hparts, h.value, List.take_append_drop,
    List.length_drop]
  congr 4
  omega

/-- Zeros between the point and the digits. -/
theorem readMagnitude_below (h : Significant d kept point) (negative : Bool)
    (hrest : endsNumber rest = true) (hpoint : point ≤ 0) :
    readMagnitude negative
        ('0' :: '.' :: (List.replicate (-point).toNat '0' ++ kept) ++ rest) =
      some (ofDecimal negative d, rest) := by
  obtain ⟨k, hk⟩ : ∃ k : Nat, -point = k := ⟨(-point).toNat, by omega⟩
  have hfraction : readFraction ('.' :: (List.replicate k '0' ++ kept) ++ rest) =
      some (List.replicate k '0' ++ kept, rest) :=
    readDigits_append (by simp [h.ne_nil]) (by simp [h.digits]) (endsNumber_stop hrest)
  have hparts := readMagnitude_parts negative ['0'] (by simp) (by decide) (fun _ => rfl)
    (head?_append_stop (by decide)) hfraction (readExponent_none hrest)
  have hdigits : Nat.ofDigitChars 10 (['0'] ++ (List.replicate k '0' ++ kept)) 0 =
      Nat.ofDigitChars 10 kept 0 := by
    rw [Nat.ofDigitChars_append, Nat.ofDigitChars_append, Nat.ofDigitChars_replicate_zero]
    simp [Nat.ofDigitChars_cons]
  rw [hk, Int.toNat_natCast]
  refine Eq.trans hparts ?_
  rw [h.value, hdigits, List.length_append, List.length_replicate]
  congr 4
  push_cast
  omega

/-- A power of ten behind a single digit. -/
theorem readMagnitude_powerOne {c : Char} (h : Significant d [c] point) (negative : Bool)
    {tail : List Char} (hstop : tail.head?.all (!·.isDigit) = true) (hnext : tail.head? ≠ some '.')
    (hexponent : readExponent tail = some (point - 1, rest)) :
    readMagnitude negative ([c] ++ tail) = some (ofDecimal negative d, rest) := by
  have hparts := readMagnitude_parts negative [c] (by simp) h.digits (fun _ => rfl) hstop
    (readFraction_none hnext) hexponent
  rw [hparts, h.value]
  simp

/-- A power of ten behind several digits, with a point behind the first. -/
theorem readMagnitude_power {c c' : Char} {more : List Char}
    (h : Significant d (c :: c' :: more) point) (negative : Bool) {tail : List Char}
    (hstop : tail.head?.all (!·.isDigit) = true)
    (hexponent : readExponent tail = some (point - 1, rest)) :
    readMagnitude negative ([c] ++ ('.' :: (c' :: more) ++ tail)) =
      some (ofDecimal negative d, rest) := by
  have hdigits := h.digits
  rw [List.all_cons, Bool.and_eq_true] at hdigits
  have hfraction : readFraction ('.' :: (c' :: more) ++ tail) = some (c' :: more, tail) :=
    readDigits_append (by simp) hdigits.2 hstop
  have hparts := readMagnitude_parts negative [c] (by simp) (by simp [hdigits.1])
    (fun _ => rfl) (head?_append_stop (by decide)) hfraction hexponent
  have hexp : point - 1 - (c' :: more).length = point - (c :: c' :: more).length := by
    simp only [List.length_cons]
    push_cast
    ring
  rw [hparts, h.value, hexp, List.singleton_append]

end Significant

/-- The layout of a decimal reads as its number, in each of the four forms. -/
theorem readMagnitude_layout (negative : Bool) {d : Decimal} (hd : 0 < d.digits)
    {rest : List Char} (hrest : endsNumber rest = true) :
    readMagnitude negative (layout d ++ rest) = some (ofDecimal negative d, rest) := by
  obtain ⟨kept, point, hsig, h⟩ := Significant.of_pos hd
  unfold layout
  simp only [hsig]
  split
  · rename_i hform
    exact h.readMagnitude_whole negative hrest hform.1
  · rename_i hwhole
    split
    · rename_i hform
      exact h.readMagnitude_among negative hrest hform.1 (by omega)
    · split
      · rename_i hform
        exact h.readMagnitude_below negative hrest hform.2
      · set tail := 'e' :: (if point - 1 < 0 then '-' else '+') ::
          Nat.toDigits 10 (point - 1).natAbs ++ rest with htail
        have hexponent : readExponent tail = some (point - 1, rest) := readSigned_digits hrest
        have hstop : tail.head?.all (!·.isDigit) = true := head?_append_stop (by decide)
        have hpoint : tail.head? ≠ some '.' := by simp [htail]
        rcases kept with _ | ⟨c, _ | ⟨c', more⟩⟩
        · exact absurd rfl h.ne_nil
        · exact h.readMagnitude_powerOne negative hstop hpoint hexponent
        · refine Eq.trans ?_ (h.readMagnitude_power negative hstop hexponent)
          simp [htail]

theorem readMagnitude_digits (negative : Bool) (n : Nat) {rest : List Char}
    (hrest : endsNumber rest = true) :
    readMagnitude negative (Nat.toDigits 10 n ++ rest) =
      some (ofDecimal negative ⟨n, 0⟩, rest) := by
  have hzero : (Nat.toDigits 10 n).head? = some '0' → (Nat.toDigits 10 n).length = 1 := by
    intro h
    rcases Nat.eq_zero_or_pos n with rfl | hn
    · rfl
    · exact absurd h (Number.head?_toDigits hn)
  have hparts := readMagnitude_parts negative (Nat.toDigits 10 n) Nat.toDigits_ne_nil
    (Number.all_isDigit_toDigits n) hzero (endsNumber_stop hrest)
    (readFraction_none (endsNumber_point hrest)) (readExponent_none hrest)
  rw [hparts, List.append_nil, Nat.ofDigitChars_ten_toDigits]
  rfl

/-- The digits of a whole double read back as it, and so does the shortest decimal that stands for
a long one. -/
theorem readMagnitude_text {n : Nat} (hdouble : Number.IsDouble (.int n)) {rest : List Char}
    (hrest : endsNumber rest = true) (negative : Bool) :
    readMagnitude negative (Number.magnitudeText (.int n) n 1 ++ rest) =
      some (if negative then .int (-n) else .int n, rest) := by
  have hsign : ∀ d : Decimal, ofDecimal false d = .int n →
      ofDecimal negative d = if negative then .int (-n) else .int n := by
    intro d hd
    cases negative
    · exact hd
    · rw [Number.ofDecimal_true, hd]
      rfl
  unfold Number.magnitudeText
  split
  · rw [Nat.div_one, readMagnitude_digits negative n hrest,
      hsign _ (Number.ofDecimal_natCast hdouble)]
  · rename_i hbig
    have hshort := Number.ofDecimal_shortest hdouble
    have hpos : 0 < (Number.shortest (.int n) n 1).digits := by
      by_contra hcon
      rw [ofDecimal, if_pos (Or.inl (by omega))] at hshort
      cases n with
      | zero => simp at hbig
      | succ n => cases hshort
    rw [readMagnitude_layout negative hpos hrest, hsign _ hshort]

theorem readNumber_of_magnitude {text : List Char} {r : Number × List Char}
    (h : readMagnitude false text = some r) : readNumber text = some r := by
  unfold readNumber
  split
  · simp [readMagnitude, readDigits] at h
  · exact h

/-- The text of any magnitude is read to its end, as the number itself or another one. -/
theorem exists_readMagnitude {x : Number} {p : Nat} (h : x = .int 0 → p = 0) (q : Nat)
    (negative : Bool) : ∃ y, ∀ rest, endsNumber rest = true →
      readMagnitude negative (Number.magnitudeText x p q ++ rest) = some (y, rest) := by
  unfold Number.magnitudeText
  split
  · exact ⟨_, fun rest => readMagnitude_digits negative (p / q)⟩
  · rename_i hlong
    have hx : x ≠ .int 0 := by
      intro hzero
      rw [h hzero] at hlong
      simp at hlong
    rcases Number.shortest_cases hx p q with hpos | hzero
    · exact ⟨_, fun rest => readMagnitude_layout negative hpos⟩
    · rw [hzero]
      exact ⟨_, fun rest => readMagnitude_digits negative 0⟩

/-- So is the text of any number, unless the number is not finite. -/
theorem exists_readNumber (x : Number) : numberText x = "null".toList ∨
    ∃ y, ∀ rest, endsNumber rest = true → readNumber (numberText x ++ rest) = some (y, rest) := by
  cases x with
  | infinite negative => exact .inl rfl
  | nan => exact .inl rfl
  | int n =>
      right
      unfold numberText Number.text
      by_cases hn : n < 0
      · have hzero : Number.int (-n) = .int 0 → n.natAbs = 0 := by
          intro h
          have := Number.int.inj h
          omega
        obtain ⟨y, hy⟩ := exists_readMagnitude hzero 1 true
        simp only [if_pos hn, String.toList_ofList, List.cons_append]
        exact ⟨y, hy⟩
      · have hzero : Number.int n = .int 0 → n.natAbs = 0 := by
          rintro ⟨⟩
          rfl
        obtain ⟨y, hy⟩ := exists_readMagnitude hzero 1 false
        simp only [if_neg hn, String.toList_ofList]
        exact ⟨y, fun rest hrest => readNumber_of_magnitude (hy rest hrest)⟩
  | fraction m k odd =>
      right
      unfold numberText Number.text
      by_cases hm : m < 0
      · obtain ⟨y, hy⟩ := exists_readMagnitude (x := .fraction (-m) k (Number.neg_odd odd))
          (p := m.natAbs) (by simp) (1 <<< (k + 1)) true
        simp only [if_pos hm, String.toList_ofList, List.cons_append]
        exact ⟨y, hy⟩
      · obtain ⟨y, hy⟩ := exists_readMagnitude (x := .fraction m k odd) (p := m.natAbs) (by simp)
          (1 <<< (k + 1)) false
        simp only [if_neg hm, String.toList_ofList]
        exact ⟨y, fun rest hrest => readNumber_of_magnitude (hy rest hrest)⟩

/-- Whole doubles read back from their text. -/
theorem readNumber_text {n : Int} (hdouble : Number.IsDouble (.int n)) {rest : List Char}
    (hrest : endsNumber rest = true) :
    readNumber (numberText (.int n) ++ rest) = some (.int n, rest) := by
  unfold numberText Number.text
  by_cases hn : n < 0
  · obtain ⟨m, rfl⟩ : ∃ m : Nat, n = -m := ⟨n.natAbs, by omega⟩
    have hm : Number.IsDouble (.int m) := by simpa using hdouble.neg_int
    have hread := readMagnitude_text hm hrest true
    simp only [if_pos hn, String.toList_ofList, Int.neg_neg, Int.natAbs_neg, Int.natAbs_natCast,
      List.cons_append]
    exact hread
  · obtain ⟨m, rfl⟩ : ∃ m : Nat, n = m := ⟨n.natAbs, by omega⟩
    have hread := readMagnitude_text hdouble hrest false
    simp only [if_neg hn, String.toList_ofList, Int.natAbs_natCast]
    exact readNumber_of_magnitude hread

end ProverInput.Json
