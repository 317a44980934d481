import ProverInput.Proofs.Compact.Readers
import ProverInput.Proofs.Text.Body

set_option autoImplicit false

/-! # Reading and writing bytes

A text is read as bytes when it is a body behind an optional prefix (`exists_bytes?_iff`). The bytes
of a body are those that write its digits in lowercase (`bytes?_eq_some_iff`). So what is read
writes the normal form of the text, and what is written is read again, behind any prefix and in
either case. The integer of the bytes is the number whose digits in base 16 are those of the body
(`value_eq_ofDigits`).
-/

namespace ProverInput.Hex

open ProverInput.Compact (marks dropMark_append)

/-! ## Bodies -/

/-- An even number of hexadecimal digits of either case. -/
def IsBody (text : List Char) : Prop :=
  Even text.length ∧
    ∀ c ∈ text, '0' ≤ c ∧ c ≤ '9' ∨ 'a' ≤ c ∧ c ≤ 'f' ∨ 'A' ≤ c ∧ c ≤ 'F'

theorem isBody_iff {text : List Char} : isBody text = true ↔ IsBody text := by
  simp only [isBody, Bool.and_eq_true, beq_iff_eq, ← Nat.even_iff, List.all_eq_true, isDigit_iff,
    IsBody]

theorem exists_bytes?_iff {text : List Char} :
    (∃ bytes, bytes? text = some bytes) ↔ IsBody text := by
  rw [← Option.ne_none_iff_exists', ne_eq, bytes?_eq_none_iff, Bool.not_eq_false, isBody_iff]

/-- The bytes of a body are those that write its digits, whatever their case. -/
theorem bytes?_eq_some_iff {text : List Char} {bytes : List UInt8} :
    bytes? text = some bytes ↔ text.map Char.toLower = ofBytes bytes := by
  constructor
  · exact fun h => (ofBytes_of_bytes? h).symm
  · intro h
    rw [← bytes?_map_toLower, h, bytes?_ofBytes]

/-- The digits of a number, most significant first. -/
theorem value_eq_ofDigits (text : List Char) :
    value text = Nat.ofDigits 16 (text.reverse.map fun c => (digit? c).getD 0) := by
  induction text using List.reverseRecOn with
  | nil => rfl
  | append_singleton text c ih =>
      rw [value_concat, List.reverse_concat, List.map_cons, Nat.ofDigits_cons, ← ih]
      ring

/-! ## Texts -/

theorem exists_read_iff {text : String} :
    (∃ bytes, read text = .ok bytes) ↔ IsBody (dropMark text.toList) := by
  simp only [read_ok_iff, exists_bytes?_iff]

theorem read_of_not_isBody {text : String} (h : ¬ IsBody (dropMark text.toList)) :
    read text = .error (.notHex text) := by
  unfold read
  split
  · rename_i bytes hbytes
    exact absurd (exists_bytes?_iff.1 ⟨bytes, hbytes⟩) h
  · rfl

/-- What is read writes the normal form. -/
theorem ofBytes_of_read {text : String} {bytes : List UInt8} (h : read text = .ok bytes) :
    String.ofList (ofBytes bytes) = normalize text := by
  have hbytes := read_ok_iff.1 h
  rw [normalize, lower_digits (all_isDigit_of_bytes? hbytes), ofBytes_of_bytes? hbytes]

/-- What is written is read. -/
theorem read_append {mark digits : String} {bytes : List UInt8} (hmark : mark ∈ marks)
    (hdigits : digits.toList.map Char.toLower = ofBytes bytes) :
    read (mark ++ digits) = .ok bytes := by
  have hbytes := bytes?_eq_some_iff.2 hdigits
  rw [read_ok_iff, dropMark_append hmark (all_isDigit_of_bytes? hbytes), hbytes]

/-- Reading and writing bytes undo each other, up to the prefix and the case of the digits. The
texts that are read are the bodies behind a prefix or behind none, and their bytes write the same
number as their digits. -/
theorem read_writes :
    (∀ text, (∃ bytes, read text = .ok bytes) ↔ IsBody (dropMark text.toList)) ∧
    (∀ text, ¬ IsBody (dropMark text.toList) → read text = .error (.notHex text)) ∧
    (∀ text bytes, read text = .ok bytes →
      String.ofList (ofBytes bytes) = normalize text ∧
      bigEndian bytes =
        Nat.ofDigits 16 ((dropMark text.toList).reverse.map fun c => (digit? c).getD 0)) ∧
    ∀ bytes, ∀ mark ∈ marks, ∀ digits : String,
      digits.toList.map Char.toLower = ofBytes bytes → read (mark ++ digits) = .ok bytes := by
  refine ⟨fun text => exists_read_iff, fun text => read_of_not_isBody, fun text bytes h => ?_, ?_⟩
  · refine ⟨ofBytes_of_read h, ?_⟩
    rw [bigEndian_of_bytes? (read_ok_iff.1 h), value_eq_ofDigits]
  · exact fun bytes mark hmark digits hdigits => read_append hmark hdigits

/-- A leading zero byte and letters of both cases, and a prefix that is there twice. -/
theorem read_writes_spelled :
    read "0X00aBfF" = .ok [0, 0xab, 0xff] ∧ normalize "0X00aBfF" = "00abff" ∧
      bigEndian [0, 0xab, 0xff] = 0xabff ∧ read "0x0X00" = .error (.notHex "0x0X00") := by
  have hread : read "0X00aBfF" = .ok [0, 0xab, 0xff] :=
    read_writes.2.2.2 [0, 0xab, 0xff] "0X" (by decide) "00aBfF" (by decide)
  obtain ⟨hnormal, hvalue⟩ := read_writes.2.2.1 "0X00aBfF" [0, 0xab, 0xff] hread
  refine ⟨hread, hnormal.symm, hvalue.trans (by decide), read_writes.2.1 "0x0X00" ?_⟩
  rw [← isBody_iff]
  decide

end ProverInput.Hex
