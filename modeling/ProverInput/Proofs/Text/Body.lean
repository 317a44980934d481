import Mathlib
import ProverInput.Proofs.Text.BigEndian
import ProverInput.Proofs.Text.Digits

set_option autoImplicit false

/-! # Bodies

The capitals outside ASCII go to characters that are no hexadecimal digits, and the others go to
small letters. So lowercasing makes digits of digits only (`all_isDigit_lower_iff`), a text that is
hexadecimal after lowercasing has no capitals left (`map_toLower_lower`), and a normal form of
digits is its own normal form (`normalize_normalize`).

Two digits make a byte, whatever their case (`bytes?_map_toLower`), and the byte writes the same two
digits in lowercase (`ofBytes_of_bytes?`). Together they say that the normal form of a body is what
its bytes write (`normalize_eq_ofBytes`), so bodies of the same bytes share it.
-/

namespace ProverInput

namespace Lowercase

open Hex (isDigit)

theorem Run.image?_ge {r : Run} (hr : r ∈ runs) {n m : Nat} (h : r.image? n = some m) :
    103 ≤ m := by
  unfold Run.image? at h
  split at h
  · rename_i hin
    have hge := Run.small_ge r hr
    cases h
    omega
  · cases h

/-- No character from `g` on is a digit. -/
theorem isDigit_ofNat {m : Nat} (h : 103 ≤ m) : isDigit (Char.ofNat m) = false := by
  by_contra hdigit
  rw [Bool.not_eq_false] at hdigit
  have hlt : (Char.ofNat m).toNat < 103 :=
    Hex.forall_isDigit (fun c => c.toNat < 103) (by decide) hdigit
  -- a code point that is no character gives the null character
  by_cases hvalid : m.isValidChar
  · rw [Char.toNat_ofNat, if_pos hvalid] at hlt
    omega
  · rw [Char.ofNat, dif_neg hvalid] at hdigit
    exact absurd hdigit (by decide)

/-- No digit that lowercasing leads to is a capital. -/
theorem toLower_of_mem_lowerChar {a c : Char} (hmem : c ∈ lowerChar a) (hc : isDigit c = true) :
    c.toLower = c := by
  unfold lowerChar at hmem
  split at hmem
  · rename_i hascii
    rw [List.mem_singleton] at hmem
    have hall : ∀ n < 128, (Char.ofNat n).toLower.toLower = (Char.ofNat n).toLower := by decide
    have ha := hall a.toNat hascii
    rw [Char.ofNat_toNat] at ha
    rw [hmem, ha]
  · rename_i hascii
    split at hmem
    · -- the dotted capital becomes two characters that are no digits
      rcases List.mem_cons.1 hmem with rfl | hmem
      · exact absurd hc (by decide)
      · rw [List.mem_singleton.1 hmem] at hc
        exact absurd hc (by decide)
    · rw [List.mem_singleton] at hmem
      cases himage : runs.findSome? (·.image? a.toNat) with
      | none =>
          rw [himage] at hmem
          have hlt := Hex.toNat_lt_of_isDigit hc
          rw [hmem] at hlt
          exact absurd hlt hascii
      | some m =>
          obtain ⟨r, hr, hm⟩ := List.exists_of_findSome?_eq_some himage
          rw [hmem, himage, Option.map_some, Option.getD_some,
            isDigit_ofNat (Run.image?_ge hr hm)] at hc
          cases hc

theorem toLower_of_mem_lowerFrom {before text : List Char} {c : Char}
    (hmem : c ∈ lowerFrom before text) (hc : isDigit c = true) : c.toLower = c := by
  induction text generalizing before with
  | nil => cases hmem
  | cons a rest ih =>
      rw [lowerFrom, List.mem_append] at hmem
      rcases hmem with hmem | hmem
      · split at hmem
        · -- the sigma at the end of a word
          rw [List.mem_singleton.1 hmem] at hc
          exact absurd hc (by decide)
        · exact toLower_of_mem_lowerChar hmem hc
      · exact ih hmem

/-- A character that becomes digits is a digit. -/
theorem isDigit_of_lowerChar {a : Char} (h : (lowerChar a).all isDigit = true) :
    isDigit a = true := by
  unfold lowerChar at h
  split at h
  · simpa [Hex.isDigit_toLower] using h
  · split at h
    · -- the dotted capital becomes two characters that are no digits
      exact absurd h (by decide)
    · cases himage : runs.findSome? (·.image? a.toNat) with
      | none => simpa [himage] using h
      | some m =>
          obtain ⟨r, hr, hm⟩ := List.exists_of_findSome?_eq_some himage
          simp [himage, isDigit_ofNat (Run.image?_ge hr hm)] at h

theorem all_isDigit_of_lowerFrom {before text : List Char}
    (h : (lowerFrom before text).all isDigit = true) : text.all isDigit = true := by
  induction text generalizing before with
  | nil => rfl
  | cons a rest ih =>
      rw [lowerFrom, List.all_append, Bool.and_eq_true] at h
      rw [List.all_cons, ih h.2, Bool.and_true]
      have hfirst := h.1
      split at hfirst
      · -- the sigma at the end of a word
        exact absurd hfirst (by decide)
      · exact isDigit_of_lowerChar hfirst

/-- A text that is hexadecimal after lowercasing was hexadecimal before. -/
theorem all_isDigit_lower_iff {text : List Char} :
    (lower text).all isDigit = true ↔ text.all isDigit = true := by
  constructor
  · exact all_isDigit_of_lowerFrom
  · intro h
    rwa [Hex.lower_digits h, Hex.all_isDigit_map_toLower]

/-- A text that is hexadecimal after lowercasing has no capitals. -/
theorem map_toLower_lower {text : List Char} (h : (lower text).all isDigit = true) :
    (lower text).map Char.toLower = lower text := by
  conv_rhs => rw [← List.map_id (lower text)]
  apply List.map_congr_left
  intro c hc
  exact toLower_of_mem_lowerFrom hc (List.all_eq_true.1 h c hc)

end Lowercase

namespace Hex

/-- A digit is the one its value writes, in lowercase. -/
theorem digitChar_of_digit? {c : Char} {d : Nat} (h : digit? c = some d) :
    d.digitChar = c.toLower := by
  have hvalue : ((digit? c).getD 0).digitChar = c.toLower :=
    forall_isDigit (fun c => ((digit? c).getD 0).digitChar = c.toLower) (by decide)
      (by rw [isDigit, h]; rfl)
  rwa [h] at hvalue

theorem ofBytes_of_bytes? {text : List Char} {bytes : List UInt8} (h : bytes? text = some bytes) :
    ofBytes bytes = text.map Char.toLower := by
  fun_induction bytes? text generalizing bytes with
  | case1 =>
      cases h
      rfl
  | case2 => cases h
  | case3 high low rest hi lo more hmore hlo hhi ih =>
      cases h
      have hlo16 := digit?_lt hlo
      have hdiv : (hi * 16 + lo) / 16 = hi := by omega
      have hmod : (hi * 16 + lo) % 16 = lo := by omega
      rw [ofBytes, List.flatMap_cons, toNat_ofNat_digits hhi hlo, hdiv, hmod, ← ofBytes, ih hmore,
        digitChar_of_digit? hhi, digitChar_of_digit? hlo]
      rfl
  | case4 => cases h

/-- The case of the digits does not matter to the bytes. -/
theorem bytes?_map_toLower (text : List Char) : bytes? (text.map Char.toLower) = bytes? text := by
  fun_induction bytes? text with
  | case1 => rfl
  | case2 c => rfl
  | case3 high low rest hi lo more hmore hlo hhi ih =>
      simp only [List.map_cons, bytes?, digit?_toLower, hhi, hlo, ih, hmore]
  | case4 high low rest hnot ih =>
      simp only [List.map_cons, bytes?, digit?_toLower, ih]

theorem all_isDigit_of_bytes? {text : List Char} {bytes : List UInt8}
    (h : bytes? text = some bytes) : text.all isDigit = true := by
  have hbody : isBody text ≠ false := fun hno => by
    rw [(bytes?_eq_none_iff text).2 hno] at h
    cases h
  rw [Bool.ne_false_iff, isBody, Bool.and_eq_true] at hbody
  exact hbody.2

/-- The normal form of a body is what its bytes write. -/
theorem normalize_eq_ofBytes {hex : String} {bytes : List UInt8}
    (h : bytes? (normalize hex).toList = some bytes) :
    normalize hex = String.ofList (ofBytes bytes) := by
  have hall := all_isDigit_of_bytes? h
  apply String.toList_injective
  rw [String.toList_ofList, ofBytes_of_bytes? h]
  rw [normalize, String.toList_ofList] at hall ⊢
  exact (Lowercase.map_toLower_lower hall).symm

/-- A normal form is a hash when the text behind the prefix is one. -/
theorem isHash_normalize_iff {hex : String} :
    Check.isHash (normalize hex).toList = true ↔ Check.isHash (dropMark hex.toList) = true := by
  rw [isHash_iff, isHash_iff, normalize, String.toList_ofList, Lowercase.all_isDigit_lower_iff]
  refine and_congr_left fun hall => ?_
  rw [lower_digits hall, List.length_map]

/-- A normal form of digits is its own normal form. -/
theorem normalize_normalize {hex : String} (h : (normalize hex).toList.all isDigit = true) :
    normalize (normalize hex) = normalize hex := by
  apply String.toList_injective
  rw [toList_normalize h]
  rw [normalize, String.toList_ofList] at h ⊢
  exact Lowercase.map_toLower_lower h

end Hex

end ProverInput
