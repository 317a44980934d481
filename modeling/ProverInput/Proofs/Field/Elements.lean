import Mathlib
import ProverInput.Proofs.Field.Natural
import ProverInput.Proofs.Text.Digits

set_option autoImplicit false

/-! # Arguments are field elements

Numerals read back as the integers they stand for, inside nested lists as well
(`readAll?_of_toHexAll`). Together with the ranges of a layout: as long as lists and byte strings
are shorter than `2 ^ 32`, everything that is laid out is made of field elements, has numerals, and
is what the numerals say (`Layout.ofField_elements`).
-/

namespace ProverInput

/-! ## Reading numerals -/

namespace HexArg

mutual

/-- The argument whose integers are the ones that the numerals stand for. -/
def read? : HexArg → Option Flat
  | .numeral text => (fun n : Nat => .scalar n) <$> Hex.integer? text
  | .nested items => .nested <$> readAll? items

def readAll? : List HexArg → Option (List Flat)
  | [] => some []
  | arg :: rest => do
    let item ← read? arg
    let items ← readAll? rest
    return item :: items

end

end HexArg

namespace Flat

open HexArg (read? readAll?)

mutual

theorem read?_of_toHex {item : Flat} {arg : HexArg} (h : item.toHex = .ok arg) :
    read? arg = some item := by
  match item with
  | .scalar value =>
      rw [toHex] at h
      split at h
      · rename_i hnonneg
        cases h
        rw [read?, Hex.integer?_numeral]
        exact congrArg (some ∘ Flat.scalar) (Int.toNat_of_nonneg hnonneg)
      · cases h
  | .nested items =>
      obtain ⟨args, hargs, rfl⟩ := map_eq_ok.1 h
      rw [read?, readAll?_of_toHexAll hargs]
      rfl

/-- Numerals read back, with the same nesting. -/
theorem readAll?_of_toHexAll {items : List Flat} {args : List HexArg}
    (h : toHexAll items = .ok args) : readAll? args = some items := by
  match items with
  | [] =>
      cases h
      rfl
  | item :: rest =>
      obtain ⟨arg, others, harg, hothers, rfl⟩ := toHexAll_cons_eq_ok.1 h
      rw [readAll?, read?_of_toHex harg, readAll?_of_toHexAll hothers]
      rfl

end

end Flat

/-! ## Field elements -/

/-- Everything in the layout of a field value is in the range of its place and below `2 ^ 252`, and
has numerals that read back as it. -/
theorem Layout.ofField_elements {field : Field} {l : Layout} (hshort : field.longest < 2 ^ 32)
    (h : Layout.ofField field = .ok l) :
    l.Bounded (2 ^ 32) ∧ (∀ v ∈ Flat.integersAll l.flatten, v ∈ Set.Ico 0 (2 ^ 252)) ∧
      ∃ args, Flat.toHexAll l.flatten = .ok args ∧ HexArg.readAll? args = some l.flatten := by
  have hbounded := bounded_ofField hshort h
  refine ⟨hbounded, ?_, ?_⟩
  · intro v hv
    have hmem := hbounded.integers v hv
    -- lengths are field elements too
    have hmax : max (2 ^ 252 : Int) ((2 ^ 32 : Nat) : Int) = 2 ^ 252 := by norm_num
    rwa [hmax] at hmem
  · obtain ⟨args, hargs, -⟩ := Flat.toHexAll_of_natural (natural_ofField h)
    exact ⟨args, hargs, Flat.readAll?_of_toHexAll hargs⟩

/-- A value with a part of every kind, nested lists in nested lists and a byte string of two chunks
and a remainder of zeros. -/
def Field.sampler : Field :=
  .record
    [("hash", .single (.digest ("0X" ++ String.ofList (List.replicate 64 'A')))),
      ("work", .single (.array [.u256 (2 ^ 256 - 1), .u256 0])),
      ("parts", .spliced [.felt (2 ^ 252 - 1), .bool true, .absent]),
      ("solution", .single (.present (.byteArray (List.replicate 62 255 ++ [0, 0])))),
      ("proof", .single (.nested [.felt 0, .nested [.bool false, .array []]]))]

theorem Field.sampler_elements :
    ∃ l, Layout.ofField Field.sampler = .ok l ∧ l.Bounded (2 ^ 32) ∧
      (∀ v ∈ Flat.integersAll l.flatten, v ∈ Set.Ico 0 (2 ^ 252)) ∧
      ∃ args, Flat.toHexAll l.flatten = .ok args ∧ HexArg.readAll? args = some l.flatten := by
  obtain ⟨l, hl⟩ := exists_of_isSome (x := Layout.ofField Field.sampler) (by decide +kernel)
  exact ⟨l, hl, Layout.ofField_elements (by decide +kernel) hl⟩

end ProverInput
