import ProverInput.Json.Printer
import ProverInput.Json.Reader

set_option autoImplicit false

/-! # Texts of documents

A text whose characters need no escape is written between quotes as it is (`quoted_of_plain`), and
the reader takes it back character by character (`readString_plain`). Hexadecimal and decimal digits
and the names of all fields are of this kind.
-/

namespace ProverInput.Json

/-- A character that a text in a document holds as it is. -/
def isPlain (c : Char) : Bool := 32 ≤ c.toNat && c ≠ '\x22' && c ≠ '\\' && c ≠ Units.mark

theorem isPlain_iff {c : Char} :
    isPlain c = true ↔ 32 ≤ c.toNat ∧ c ≠ '\x22' ∧ c ≠ '\\' ∧ c ≠ Units.mark := by
  simp [isPlain, and_assoc]

/-! ## Writing -/

theorem pieces_of_plain {text : List Char} (h : text.all isPlain = true) :
    Units.pieces text = text.map .char := by
  induction text with
  | nil => rfl
  | cons c rest ih =>
      rw [List.all_cons, Bool.and_eq_true] at h
      have hc := (isPlain_iff.1 h.1).2.2.2
      cases rest with
      | nil => rfl
      | cons d rest =>
          rw [Units.pieces, if_neg hc, ih h.2]
          rfl

theorem escaped_of_plain {c : Char} (h : isPlain c = true) : escaped c = [c] := by
  obtain ⟨hc, hquote, hslash, hmark⟩ := isPlain_iff.1 h
  have hcontrol : ∀ d : Char, d.toNat < 32 → c ≠ d := by
    rintro d hd rfl
    omega
  simp only [escaped, hquote, hslash, hcontrol '\x08' (by decide), hcontrol '\x0c' (by decide),
    hcontrol '\n' (by decide), hcontrol '\r' (by decide), hcontrol '\t' (by decide), if_false,
    if_neg (Nat.not_lt.2 hc), Units.Piece.written, if_neg hmark]

theorem flatMap_pieceText {text : List Char} (h : text.all isPlain = true) :
    (text.map Units.Piece.char).flatMap pieceText = text := by
  induction text with
  | nil => rfl
  | cons c rest ih =>
      rw [List.all_cons, Bool.and_eq_true] at h
      rw [List.map_cons, List.flatMap_cons, pieceText, escaped_of_plain h.1, ih h.2]
      rfl

theorem quoted_of_plain {s : String} (h : s.toList.all isPlain = true) :
    quoted s = '\x22' :: (s.toList ++ ['\x22']) := by
  rw [quoted, pieces_of_plain h, flatMap_pieceText h]

/-! ## Reading -/

theorem push_plain {c : Char} (h : isPlain c = true) (chars : List Char) :
    Draft.push ⟨chars, none⟩ (.char c) = ⟨c :: chars, none⟩ := by
  simp [Draft.push, Draft.add, Draft.settle, Units.Piece.written, (isPlain_iff.1 h).2.2.2]

/-- A plain character goes into the draft as it is. -/
theorem readString_step {c : Char} (h : isPlain c = true) (chars rest : List Char) :
    readString ⟨chars, none⟩ (c :: rest) = readString ⟨c :: chars, none⟩ rest := by
  obtain ⟨hc, hquote, hslash, hmark⟩ := isPlain_iff.1 h
  -- all cases but the last are for a character that is not plain
  rw [readString.eq_def]
  split
  case h_1 heq => cases heq
  case h_2 heq => exact absurd (List.cons.inj heq).1 hquote
  case h_3 heq => exact absurd (List.cons.inj heq).1 hslash
  case h_4 heq => exact absurd (List.cons.inj heq).1 hslash
  case h_5 heq => exact absurd (List.cons.inj heq).1 hmark
  case h_6 heq =>
    cases heq
    rw [if_neg (by simp [hslash, Nat.not_lt.2 hc]), push_plain h]

theorem readString_plain {text : List Char} (h : text.all isPlain = true) (chars rest : List Char) :
    readString ⟨chars, none⟩ (text ++ '\x22' :: rest) =
      some (String.ofList (chars.reverse ++ text), rest) := by
  induction text generalizing chars with
  | nil => simp [readString, Draft.settle]
  | cons c text ih =>
      rw [List.all_cons, Bool.and_eq_true] at h
      rw [List.cons_append, readString_step h.1, ih h.2]
      simp

/-- A plain text reads back from between its quotes. -/
theorem readString_quoted {s : String} (h : s.toList.all isPlain = true) (rest : List Char) :
    ∃ text, quoted s ++ rest = '\x22' :: text ∧
      readString ⟨[], none⟩ text = some (s, rest) := by
  refine ⟨s.toList ++ '\x22' :: rest, by simp [quoted_of_plain h], ?_⟩
  rw [readString_plain h]
  simp

end ProverInput.Json
