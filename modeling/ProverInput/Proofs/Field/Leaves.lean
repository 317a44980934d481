import ProverInput.Proofs.Field.Guess
import ProverInput.Proofs.Text.Body

set_option autoImplicit false

/-! # The first leaf without a layout

The leaves of a field value are gone through from the left, however they are nested, and the layout
fails with the error of the first leaf that has none (`error?_ofField`). Nothing but a leaf ever
fails: a list fails only where one of its items does, and the error of an item is that of the list.

So a value is laid out when each of its leaves is (`LeafSound`): integers in range and digests of 64
digits. A value with another leaf has no layout at all (`ofField_leftmost`).
-/

namespace ProverInput

namespace Field

/-! ## Leaves -/

mutual

/-- The leaves of a field value in order. -/
def leaves : Field → List Field
  | .array items => leavesAll items
  | .record entries => leavesEntries entries
  | .present value => leaves value
  | .nested items => leavesAll items
  | leaf => [leaf]

def leavesAll : List Field → List Field
  | [] => []
  | item :: rest => leaves item ++ leavesAll rest

def leavesSlot : Slot → List Field
  | .single value => leaves value
  | .spliced values => leavesAll values

def leavesEntries : List (String × Slot) → List Field
  | [] => []
  | (_, slot) :: rest => leavesSlot slot ++ leavesEntries rest

end

/-- Whether a field value has no parts. -/
def isLeaf : Field → Bool
  | .array _ => false
  | .record _ => false
  | .present _ => false
  | .nested _ => false
  | _ => true

/-- What a leaf has to be like for it to have a layout. -/
def LeafSound : Field → Prop
  | .felt value => 0 ≤ value ∧ value < 2 ^ 252
  | .u256 value => 0 ≤ value ∧ value < 2 ^ 256
  | .digest hex => Check.isHash (Hex.dropMark hex.toList) = true
  | _ => True

mutual

theorem isLeaf_of_mem {field leaf : Field} (h : leaf ∈ field.leaves) : leaf.isLeaf = true := by
  match field with
  | .array items => exact isLeaf_of_memAll h
  | .record entries => exact isLeaf_of_memEntries h
  | .present value =>
      rw [leaves] at h
      exact isLeaf_of_mem h
  | .nested items => exact isLeaf_of_memAll h
  | .felt _ => exact List.mem_singleton.1 h ▸ rfl
  | .bool _ => exact List.mem_singleton.1 h ▸ rfl
  | .u256 _ => exact List.mem_singleton.1 h ▸ rfl
  | .digest _ => exact List.mem_singleton.1 h ▸ rfl
  | .byteArray _ => exact List.mem_singleton.1 h ▸ rfl
  | .absent => exact List.mem_singleton.1 h ▸ rfl

theorem isLeaf_of_memAll {items : List Field} {leaf : Field} (h : leaf ∈ leavesAll items) :
    leaf.isLeaf = true := by
  match items with
  | [] => exact absurd h List.not_mem_nil
  | item :: rest =>
      rcases List.mem_append.1 h with h | h
      · exact isLeaf_of_mem h
      · exact isLeaf_of_memAll h

theorem isLeaf_of_memSlot {slot : Slot} {leaf : Field} (h : leaf ∈ leavesSlot slot) :
    leaf.isLeaf = true := by
  match slot with
  | .single value =>
      rw [leavesSlot] at h
      exact isLeaf_of_mem h
  | .spliced values => exact isLeaf_of_memAll h

theorem isLeaf_of_memEntries {entries : List (String × Slot)} {leaf : Field}
    (h : leaf ∈ leavesEntries entries) : leaf.isLeaf = true := by
  match entries with
  | [] => exact absurd h List.not_mem_nil
  | (name, slot) :: rest =>
      rcases List.mem_append.1 h with h | h
      · exact isLeaf_of_memSlot h
      · exact isLeaf_of_memEntries h

end

end Field

namespace Layout

open ProverInput.Field (leavesAll leavesSlot leavesEntries LeafSound)

/-! ## Errors -/

/-- The error of the layout of a leaf. -/
def leafError? (leaf : Field) : Option ConversionError := error? (ofField leaf)

mutual

/-- The layout of a value fails with the error of its first leaf that has none. -/
theorem error?_ofField (field : Field) :
    error? (ofField field) = field.leaves.findSome? leafError? := by
  match field with
  | .array items => rw [ofField, error?_bind_pure, error?_ofFields, Field.leaves]
  | .record entries => rw [ofField, error?_map, error?_ofEntries, Field.leaves]
  | .present value => rw [ofField, error?_bind_pure, error?_ofField value, Field.leaves]
  | .nested items => rw [ofField, error?_map, error?_ofFields, Field.leaves]
  | .felt _ => exact List.findSome?_singleton.symm
  | .bool _ => exact List.findSome?_singleton.symm
  | .u256 _ => exact List.findSome?_singleton.symm
  | .digest _ => exact List.findSome?_singleton.symm
  | .byteArray _ => exact List.findSome?_singleton.symm
  | .absent => exact List.findSome?_singleton.symm

theorem error?_ofFields (items : List Field) :
    error? (ofFields items) = (leavesAll items).findSome? leafError? := by
  match items with
  | [] => rfl
  | item :: rest =>
      rw [ofFields, error?_both, error?_ofField item, error?_ofFields rest, leavesAll,
        List.findSome?_append]

theorem error?_ofSlot (slot : Slot) :
    error? (ofSlot slot) = (leavesSlot slot).findSome? leafError? := by
  match slot with
  | .single value => rw [ofSlot, error?_bind_pure, error?_ofField value, leavesSlot]
  | .spliced values => rw [ofSlot, error?_ofFields values, leavesSlot]

theorem error?_ofEntries (entries : List (String × Slot)) :
    error? (ofEntries entries) = (leavesEntries entries).findSome? leafError? := by
  match entries with
  | [] => rfl
  | (name, slot) :: rest =>
      rw [ofEntries, error?_both, error?_ofSlot slot, error?_ofEntries rest, leavesEntries,
        List.findSome?_append]

end

/-! ## Single leaves -/

theorem exists_inRange_iff {bound : Nat} {value : Int} :
    (∃ v, inRange bound value = .ok v) ↔ 0 ≤ value ∧ value < bound := by
  simp only [inRange_eq_ok, Set.mem_Ico]
  constructor
  · rintro ⟨v, rfl, hrange⟩
    exact hrange
  · intro hrange
    exact ⟨value, rfl, hrange⟩

/-- A digest has a layout when 64 digits stand behind its optional prefix. -/
theorem exists_ofDigest_iff {hex : String} :
    (∃ l, ofDigest hex = .ok l) ↔ Check.isHash (Hex.dropMark hex.toList) = true := by
  rw [← Hex.isHash_normalize_iff]
  constructor
  · rintro ⟨l, hl⟩
    obtain ⟨bytes, hbytes, hlen, -⟩ := ofDigest_eq_ok hl
    have htext := Hex.length_of_bytes? hbytes
    exact Hex.isHash_iff.2 ⟨by omega, Hex.all_isDigit_of_bytes? hbytes⟩
  · intro h
    obtain ⟨l, hl, -⟩ := ofDigest_of_isHash h
    exact ⟨l, hl⟩

theorem leafError?_eq_none_iff {leaf : Field} (h : leaf.isLeaf = true) :
    leafError? leaf = none ↔ leaf.LeafSound := by
  have hfelt : (feltBound : Int) = 2 ^ 252 := feltBound_eq
  have hu256 : (u256Bound : Int) = 2 ^ 256 := by rw [u256Bound_eq]; norm_num
  cases leaf with
  | felt value =>
      rw [leafError?, ofField, error?_map, error?_eq_none_iff, exists_inRange_iff, hfelt, LeafSound]
  | u256 value =>
      rw [leafError?, ofField, error?_map, error?_eq_none_iff, exists_inRange_iff, hu256, LeafSound]
  | digest hex => rw [leafError?, ofField, error?_eq_none_iff, exists_ofDigest_iff, LeafSound]
  | bool value => exact iff_of_true rfl trivial
  | byteArray bytes => exact iff_of_true rfl trivial
  | absent => exact iff_of_true rfl trivial
  | array items => cases h
  | record entries => cases h
  | present value => cases h
  | nested items => cases h

/-! ## Whole values -/

/-- A value has a layout exactly when all its leaves are sound. Otherwise it has none, and the error
is that of its leftmost leaf that is not sound. -/
theorem ofField_leftmost (field : Field) :
    ((∃ l, ofField field = .ok l) ↔ ∀ leaf ∈ field.leaves, leaf.LeafSound) ∧
    ∀ e, ofField field = .error e → ∃ before leaf after,
      field.leaves = before ++ leaf :: after ∧ (∀ x ∈ before, x.LeafSound) ∧ ¬ leaf.LeafSound ∧
        ofField leaf = .error e := by
  have hsound : ∀ leaf ∈ field.leaves, (leafError? leaf = none ↔ leaf.LeafSound) :=
    fun leaf hleaf => leafError?_eq_none_iff (Field.isLeaf_of_mem hleaf)
  constructor
  · rw [← error?_eq_none_iff, error?_ofField, List.findSome?_eq_none_iff]
    exact forall₂_congr hsound
  · intro e he
    rw [← error?_eq_some_iff, error?_ofField, List.findSome?_eq_some_iff] at he
    obtain ⟨before, leaf, after, hleaves, hleaf, hbefore⟩ := he
    rw [hleaves] at hsound
    refine ⟨before, leaf, after, hleaves, fun x hx => ?_, fun h => ?_, error?_eq_some_iff.1 hleaf⟩
    · exact (hsound x (List.mem_append_left _ hx)).1 (hbefore x hx)
    · rw [(hsound leaf (by simp)).2 h] at hleaf
      cases hleaf

/-- Behind a sound digest, the integer inside the array comes before the text that is no digest,
which stands on a higher level. -/
theorem ofField_leftmost_deep :
    let zeros := Field.digest ("0X" ++ String.ofList (List.replicate 64 '0'))
    let field := Field.record [("hash", .single zeros),
      ("works", .single (.present (.array [.nested [.u256 1, .u256 (2 ^ 256)]]))),
      ("rest", .spliced [.digest "0x00", .felt (-1)])]
    let e := ConversionError.scalarOutOfRange (2 ^ 256) u256Bound
    ofField field = .error e ∧ ∃ before leaf after,
      field.leaves = before ++ leaf :: after ∧ (∀ x ∈ before, x.LeafSound) ∧ ¬ leaf.LeafSound ∧
        ofField leaf = .error e := by
  intro zeros field e
  have he : ofField field = .error e := error?_eq_some_iff.1 (by decide +kernel)
  exact ⟨he, (ofField_leftmost field).2 e he⟩

end Layout

end ProverInput
