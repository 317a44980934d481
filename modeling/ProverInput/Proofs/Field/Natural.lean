import Mathlib
import ProverInput.Proofs.Field.Bounds

set_option autoImplicit false

/-! # Every integer of a layout has a numeral

A field value that has a layout at all is laid out in natural numbers only (`natural_ofField`),
since every integer lies in the range of its place. So arguments fail only where the layout does,
and otherwise there is one argument for every integer or list on the top level
(`Field.hexArgs_of_layout`).
-/

namespace ProverInput

namespace Flat

theorem toHexAll_cons_eq_ok {item : Flat} {rest : List Flat} {args : List HexArg} :
    toHexAll (item :: rest) = .ok args ↔ ∃ first others, item.toHex = .ok first ∧
      toHexAll rest = .ok others ∧ args = first :: others := by
  rw [toHexAll]
  exact both_eq_ok

mutual

/-- No integer in an argument is negative. -/
def Natural : Flat → Prop
  | .scalar value => 0 ≤ value
  | .nested items => NaturalAll items

def NaturalAll : List Flat → Prop
  | [] => True
  | item :: rest => item.Natural ∧ NaturalAll rest

end

mutual

theorem natural_iff {item : Flat} : item.Natural ↔ ∀ v ∈ item.integers, 0 ≤ v := by
  match item with
  | .scalar value => rw [integers, List.forall_mem_singleton, Natural]
  | .nested items => rw [integers, Natural, naturalAll_iff]

theorem naturalAll_iff {items : List Flat} :
    NaturalAll items ↔ ∀ v ∈ integersAll items, 0 ≤ v := by
  match items with
  | [] => exact ⟨fun _ v hv => absurd hv List.not_mem_nil, fun _ => trivial⟩
  | item :: rest =>
      rw [NaturalAll, natural_iff, naturalAll_iff, integersAll, List.forall_mem_append]

end

mutual

theorem toHex_of_natural {item : Flat} (h : item.Natural) : ∃ arg, item.toHex = .ok arg := by
  match item with
  | .scalar value => exact ⟨_, if_pos h⟩
  | .nested items =>
      obtain ⟨args, hargs, -⟩ := toHexAll_of_natural h
      exact ⟨.nested args, by rw [toHex, hargs]; rfl⟩

theorem toHexAll_of_natural {items : List Flat} (h : NaturalAll items) :
    ∃ args, toHexAll items = .ok args ∧ args.length = items.length := by
  match items with
  | [] => exact ⟨[], rfl, rfl⟩
  | item :: rest =>
      obtain ⟨arg, harg⟩ := toHex_of_natural h.1
      obtain ⟨args, hargs, hlen⟩ := toHexAll_of_natural h.2
      refine ⟨arg :: args, ?_, by simp [hlen]⟩
      rw [toHexAll, harg, hargs]
      rfl

end

end Flat

/-- A field value with a layout is laid out in natural numbers. -/
theorem Layout.natural_ofField {field : Field} {l : Layout} (h : ofField field = .ok l) :
    Flat.NaturalAll l.flatten := by
  have hbounded := bounded_ofField (Nat.lt_succ_self field.longest) h
  exact Flat.naturalAll_iff.2 fun v hv => (hbounded.integers v hv).1

/-! ## Arguments -/

/-- A field value has arguments when it has a layout: one for every integer on the top level. -/
theorem Field.hexArgs_of_layout {field : Field} {l : Layout} (h : Layout.ofField field = .ok l) :
    ∃ args, field.hexArgs = .ok args ∧ args.length = l.flatten.length := by
  obtain ⟨args, hargs, hlen⟩ := Flat.toHexAll_of_natural (Layout.natural_ofField h)
  refine ⟨args, ?_, hlen⟩
  rw [Field.hexArgs, h]
  show (Flat.toHexAll l.flatten).mapError Failure.fault = _
  rw [hargs]
  rfl

theorem Field.hexArgs_of_error {field : Field} {e : ConversionError}
    (h : Layout.ofField field = .error e) : field.hexArgs = .error (.conversion e) := by
  rw [Field.hexArgs, h]
  rfl

/-- Arguments are the numerals of a layout. -/
theorem Field.hexArgs_eq_ok {field : Field} {args : List HexArg} :
    field.hexArgs = .ok args ↔
      ∃ l, Layout.ofField field = .ok l ∧ Flat.toHexAll l.flatten = .ok args := by
  cases hl : Layout.ofField field with
  | error e => simp [hexArgs_of_error hl]
  | ok l =>
      have hargs : field.hexArgs = (Flat.toHexAll l.flatten).mapError .fault := by
        rw [hexArgs, hl]
        rfl
      simp [hargs, mapError_eq_ok]

end ProverInput
