import ProverInput.Proofs.Header.Check
import ProverInput.Proofs.Text.BigEndian
import ProverInput.Text.HexBytes

set_option autoImplicit false

/-! # The readers of compact targets

Four readers meet a compact target. The schema of a header looks at the form of its text, one reader
turns the text into 32 bits, and two make a target, of the bits or of the four bytes of the text.

The schema and the first reader accept the same texts (`isCompact_iff`), which are eight digits
behind a prefix or behind none. No digit is the `x` of a prefix, so such a text loses just its
prefix (`dropMark_append`). Its bytes write the same integer as its digits
(`Hex.bigEndian_of_bytes?`), and four bytes are decoded like the integer they write
(`targetOfBytes_eq`). So the two targets are the same (`readers_agree`).
-/

namespace ProverInput.Compact

/-! ## Texts -/

/-- The prefixes that a hexadecimal text may have, and none. -/
def marks : List String := ["", "0x", "0X"]

/-- Eight hexadecimal digits of either case behind a prefix or behind none. -/
def Form (text : String) : Prop :=
  ∃ mark ∈ marks, ∃ digits : String, text = mark ++ digits ∧ digits.toList.length = 8 ∧
    ∀ c ∈ digits.toList, '0' ≤ c ∧ c ≤ '9' ∨ 'a' ≤ c ∧ c ≤ 'f' ∨ 'A' ≤ c ∧ c ≤ 'F'

theorem dropMark_append {mark digits : String} (hmark : mark ∈ marks)
    (hdigits : digits.toList.all Hex.isDigit = true) :
    Hex.dropMark (mark ++ digits).toList = digits.toList := by
  have hcases : mark = "" ∨ mark = "0x" ∨ mark = "0X" := by simpa [marks] using hmark
  rw [String.toList_append]
  rcases hcases with rfl | rfl | rfl
  · exact Hex.dropMark_digits hdigits
  · rfl
  · rfl

/-- A text is a prefix and what stands behind it. -/
theorem exists_mark (text : List Char) :
    ∃ mark ∈ marks, text = mark.toList ++ Hex.dropMark text := by
  unfold Hex.dropMark
  split
  · exact ⟨"0x", by decide, rfl⟩
  · exact ⟨"0X", by decide, rfl⟩
  · exact ⟨"", by decide, rfl⟩

theorem isCompact_iff {text : String} : Check.isCompact text.toList = true ↔ Form text := by
  simp only [Check.isCompact, Bool.and_eq_true, beq_iff_eq]
  constructor
  · rintro ⟨hlen, hall⟩
    obtain ⟨mark, hmark, htext⟩ := exists_mark text.toList
    refine ⟨mark, hmark, String.ofList (Hex.dropMark text.toList), ?_, ?_, fun c hc => ?_⟩
    · apply String.toList_injective
      rw [String.toList_append, String.toList_ofList, ← htext]
    · rwa [String.toList_ofList]
    · rw [String.toList_ofList] at hc
      exact Hex.isDigit_iff.1 (List.all_eq_true.1 hall c hc)
  · rintro ⟨mark, hmark, digits, rfl, hlen, hdigits⟩
    have hall : digits.toList.all Hex.isDigit = true :=
      List.all_eq_true.2 fun c hc => Hex.isDigit_iff.2 (hdigits c hc)
    rw [dropMark_append hmark hall]
    exact ⟨hlen, hall⟩

/-! ## Targets -/

/-- Four bytes are decoded like the integer they write. -/
theorem targetOfBytes_eq {bytes : List UInt8} (h : bytes.length = 4) :
    targetOfBytes bytes = .ok (target (Hex.bigEndian bytes)) := by
  obtain ⟨e, a, b, c, rfl⟩ : ∃ e a b c, bytes = [e, a, b, c] := by
    match bytes, h with
    | [e, a, b, c], _ => exact ⟨e, a, b, c, rfl⟩
  have hpow : 256 ^ [a, b, c].length = 0x1000000 := by norm_num
  have hlt := Hex.bigEndian_lt [a, b, c]
  have hcons := Hex.bigEndian_cons e [a, b, c]
  rw [hpow] at hlt hcons
  have hexponent : Hex.bigEndian [e, a, b, c] / 0x1000000 = e.toNat := by omega
  have hmantissa : Hex.bigEndian [e, a, b, c] % 0x1000000 = Hex.bigEndian [a, b, c] := by omega
  rw [target, hexponent, hmantissa]
  rfl

/-- What is read of a text has four bytes, which write the integer that is read. -/
theorem exists_read_of_parse {text : String} {bits : Nat} (h : parse text = .ok bits) :
    ∃ bytes, Hex.read text = .ok bytes ∧ bytes.length = 4 ∧ Hex.bigEndian bytes = bits := by
  obtain ⟨hform, rfl⟩ := parse_eq_ok.1 h
  rw [Check.isCompact, Bool.and_eq_true, beq_iff_eq] at hform
  obtain ⟨hlen, hall⟩ := hform
  have hbody : Hex.isBody (Hex.dropMark text.toList) = true := by
    rw [Hex.isBody, hlen, hall]
    rfl
  cases hbytes : Hex.bytes? (Hex.dropMark text.toList) with
  | none =>
      rw [Hex.bytes?_eq_none_iff, hbody] at hbytes
      cases hbytes
  | some bytes =>
      have hlength := Hex.length_of_bytes? hbytes
      exact ⟨bytes, Hex.read_ok_iff.2 hbytes, by omega, Hex.bigEndian_of_bytes? hbytes⟩

/-! ## Numerals -/

/-- The eight lowercase digits of 32 bits. -/
def numeral (bits : Nat) : List Char := (Nat.toDigits 16 bits).leftpad 8 '0'

theorem all_isDigit_numeral (bits : Nat) : (numeral bits).all Hex.isDigit = true := by
  rw [numeral, List.leftpad, List.all_append, Hex.all_isDigit_toDigits, Bool.and_true,
    List.all_replicate]
  split <;> rfl

theorem length_numeral {bits : Nat} (h : bits < 2 ^ 32) : (numeral bits).length = 8 := by
  have hle : (Nat.toDigits 16 bits).length ≤ 8 :=
    (Nat.length_toDigits_le_iff (by norm_num) (by norm_num)).2 (lt_of_lt_of_le h (by norm_num))
  rw [numeral, List.length_leftpad]
  omega

/-- The eight digits of 32 bits are read in any case and behind any prefix. -/
theorem parse_numeral {bits : Nat} (h : bits < 2 ^ 32) {mark digits : String} (hmark : mark ∈ marks)
    (hdigits : digits.toList.map Char.toLower = numeral bits) :
    parse (mark ++ digits) = .ok bits := by
  have hall : digits.toList.all Hex.isDigit = true := by
    rw [← Hex.all_isDigit_map_toLower, hdigits]
    exact all_isDigit_numeral bits
  have hlen : digits.toList.length = 8 := by
    rw [← List.length_map Char.toLower, hdigits, length_numeral h]
  have hvalue : Hex.value digits.toList = bits := by
    rw [← Hex.value_map_toLower, hdigits, numeral, List.leftpad, Hex.value_replicate_append,
      Hex.value_toDigits]
  refine parse_eq_ok.2 ⟨?_, ?_⟩
  · rw [Check.isCompact, dropMark_append hmark hall, hlen, hall]
    rfl
  · rw [dropMark_append hmark hall, hvalue]

/-! ## The four readers -/

/-- The schema accepts the texts that are read, which are eight digits behind an optional prefix.
Such a text has 32 bits and four bytes, and both have the same target. All 32 bits are read from
their digits. -/
theorem readers_agree :
    (∀ text, (∀ path, (∃ s, Check.compact path (.string text) = .valid s) ↔
        ∃ bits, parse text = .ok bits) ∧
      ((∃ bits, parse text = .ok bits) ↔ Form text)) ∧
    (∀ text bits, parse text = .ok bits → bits < 2 ^ 32 ∧
      ∃ bytes target, Hex.read text = .ok bytes ∧ bytes.length = 4 ∧
        targetOf (.int bits) = .ok target ∧ targetOfBytes bytes = .ok target) ∧
    ∀ bits < 2 ^ 32, ∀ mark ∈ marks, ∀ digits : String,
      digits.toList.map Char.toLower = numeral bits → parse (mark ++ digits) = .ok bits := by
  have hread : ∀ text, (∃ bits, parse text = .ok bits) ↔ Form text := by
    intro text
    rw [← isCompact_iff]
    exact ⟨fun ⟨_, h⟩ => (parse_eq_ok.1 h).1, exists_parse⟩
  refine ⟨fun text => ⟨fun path => ?_, hread text⟩, ?_, ?_⟩
  · rw [hread, ← isCompact_iff, Check.compact]
    simp only [(Check.accepts_text Check.isCompact _) path (.string text), Json.string.injEq]
    exact ⟨fun ⟨_, htext, h⟩ => htext ▸ h, fun h => ⟨text, rfl, h⟩⟩
  · intro text bits h
    obtain ⟨bytes, hbytes, hlen, hbits⟩ := exists_read_of_parse h
    have hlt := parse_lt h
    exact ⟨hlt, bytes, target bits, hbytes, hlen, targetOf_int hlt,
      by rw [targetOfBytes_eq hlen, hbits]⟩
  · intro bits h mark hmark digits hdigits
    exact parse_numeral h hmark hdigits

/-- The sign bit and capitals do no harm. -/
theorem readers_agree_capitals :
    parse "0X8aBcDeF0" = .ok 0x8abcdef0 ∧
      ∃ bytes target, Hex.read "0X8aBcDeF0" = .ok bytes ∧ bytes.length = 4 ∧
        targetOf (.int 0x8abcdef0) = .ok target ∧ targetOfBytes bytes = .ok target := by
  have hparse : parse "0X8aBcDeF0" = .ok 0x8abcdef0 :=
    readers_agree.2.2 0x8abcdef0 (by norm_num) "0X" (by decide) "8aBcDeF0" (by decide)
  exact ⟨hparse, (readers_agree.2.1 "0X8aBcDeF0" 0x8abcdef0 hparse).2⟩

/-- The prefix is not made of digits: six digits behind it are too few. -/
example : parse "0x123456" = .error (.compactText "0x123456") := by rfl

end ProverInput.Compact
