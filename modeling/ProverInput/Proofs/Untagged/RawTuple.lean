import ProverInput.Proofs.Field.Leaves
import ProverInput.Proofs.Json.Members

set_option autoImplicit false

/-! # Raw tuples come out as they went in

A raw tuple is a list of integers and further lists (`Raw`). It is read, laid out, flattened and
rendered, and each of the four goes into the inner lists by itself. None of them adds a length or
moves anything, so what comes out is the tuple with a numeral for each integer (`mirror`).

Only the layout can fail. Its leaves are the integers of the tuple in order, and the first one that
is no field element is the error (`hexArgs_tuple`).
-/

namespace ProverInput

/-- An item of a raw tuple: an integer, given as a number or as a big integer, or a list. -/
inductive Raw where
  | number (n : Int)
  | integer (n : Int)
  | list (items : List Raw)

namespace Raw

/-! ## What is made of an item -/

mutual

/-- The untagged value that an item is. -/
def value : Raw → Untagged
  | .number n => .number (.int n)
  | .integer n => .integer n
  | .list items => .list (values items)

def values : List Raw → List Untagged
  | [] => []
  | item :: rest => value item :: values rest

end

mutual

/-- The integers of an item in order. -/
def integers : Raw → List Int
  | .number n => [n]
  | .integer n => [n]
  | .list items => integersAll items

def integersAll : List Raw → List Int
  | [] => []
  | item :: rest => integers item ++ integersAll rest

end

mutual

/-- The argument that mirrors an item: numerals for its integers and lists for its lists. -/
def mirror : Raw → HexArg
  | .number n => .numeral (Hex.numeral n.toNat)
  | .integer n => .numeral (Hex.numeral n.toNat)
  | .list items => .nested (mirrors items)

def mirrors : List Raw → List HexArg
  | [] => []
  | item :: rest => mirror item :: mirrors rest

end

/-- The mirror of a list has an argument for each item. -/
theorem mirrors_eq_map (items : List Raw) : mirrors items = items.map mirror := by
  induction items with
  | nil => rfl
  | cons item rest ih => rw [mirrors, ih, List.map_cons]

mutual

/-- The field value that an item is read as. -/
def field : Raw → Field
  | .number n => .felt n
  | .integer n => .felt n
  | .list items => .nested (fields items)

def fields : List Raw → List Field
  | [] => []
  | item :: rest => field item :: fields rest

end

mutual

def layout : Raw → Layout
  | .number n => .scalar n
  | .integer n => .scalar n
  | .list items => .nested (layouts items)

def layouts : List Raw → List Layout
  | [] => []
  | item :: rest => layout item :: layouts rest

end

/-! ## Reading -/

mutual

theorem rawField_value (item : Raw) : Untagged.rawField item.value = .ok item.field := by
  match item with
  | .number n => rfl
  | .integer n => rfl
  | .list items =>
      rw [value, Untagged.rawField, rawFields_values items]
      rfl

theorem rawFields_values (items : List Raw) :
    Untagged.rawFields (values items) = .ok (fields items) := by
  match items with
  | [] => rfl
  | item :: rest =>
      rw [values, Untagged.rawFields, rawField_value item, rawFields_values rest]
      rfl

end

/-! ## Layout -/

mutual

/-- The integers of an item are the leaves of what it is read as. -/
theorem leaves_field (item : Raw) : item.field.leaves = item.integers.map .felt := by
  match item with
  | .number n => rfl
  | .integer n => rfl
  | .list items => exact leavesAll_fields items

theorem leavesAll_fields (items : List Raw) :
    Field.leavesAll (fields items) = (integersAll items).map .felt := by
  match items with
  | [] => rfl
  | item :: rest =>
      rw [fields, Field.leavesAll, leaves_field item, leavesAll_fields rest, integersAll,
        List.map_append]

end

/-- Whether an integer is no field element. -/
def outside (n : Int) : Bool := n < 0 ∨ 2 ^ 252 ≤ n

theorem inRange_felt (n : Int) : Layout.inRange Layout.feltBound n =
    if outside n then .error (.scalarOutOfRange n Layout.feltBound) else .ok n := by
  rw [Layout.inRange, Layout.feltBound_eq]
  by_cases h : outside n = true
  · have hrange : n < 0 ∨ 2 ^ 252 ≤ n := by simpa [outside] using h
    rw [if_pos h, if_neg (by omega)]
  · have hrange : 0 ≤ n ∧ n < 2 ^ 252 := by simpa [outside] using h
    rw [if_neg h, if_pos hrange]

/-- The layout of items fails at the first integer that is no field element. -/
theorem error?_ofFields (items : List Raw) : error? (Layout.ofFields (fields items)) =
    ((integersAll items).find? outside).map fun n => .scalarOutOfRange n Layout.feltBound := by
  rw [Layout.error?_ofFields, leavesAll_fields]
  induction integersAll items with
  | nil => rfl
  | cons n rest ih =>
      rw [List.map_cons, List.findSome?_cons, ih, Layout.leafError?, Layout.ofField, error?_map,
        inRange_felt, List.find?_cons]
      cases outside n with
      | false => rfl
      | true => rfl

theorem ofField_felt {n : Int} (h : outside n = false) :
    Layout.ofField (.felt n) = .ok (.scalar n) := by
  rw [Layout.ofField, inRange_felt, h]
  rfl

mutual

theorem ofField_field {item : Raw} (h : ∀ n ∈ item.integers, outside n = false) :
    Layout.ofField item.field = .ok item.layout := by
  match item with
  | .number n => exact ofField_felt (h n (List.mem_singleton_self n))
  | .integer n => exact ofField_felt (h n (List.mem_singleton_self n))
  | .list items =>
      rw [integers] at h
      rw [field, Layout.ofField, ofFields_fields h]
      rfl

theorem ofFields_fields {items : List Raw} (h : ∀ n ∈ integersAll items, outside n = false) :
    Layout.ofFields (fields items) = .ok (layouts items) := by
  match items with
  | [] => rfl
  | item :: rest =>
      obtain ⟨hitem, hrest⟩ := List.forall_mem_append.1 h
      rw [fields, Layout.ofFields, ofField_field hitem, ofFields_fields hrest]
      rfl

end

/-! ## Numerals -/

theorem toHexAll_scalar {n : Int} (h : outside n = false) (rest : List Flat) :
    Flat.toHexAll (.scalar n :: rest) =
      (.numeral (Hex.numeral n.toNat) :: ·) <$> Flat.toHexAll rest := by
  have hnatural : 0 ≤ n := by
    by_contra hneg
    simp [outside, Int.not_le.1 hneg] at h
  rw [Flat.toHexAll, Flat.toHex, if_pos hnatural]
  rfl

mutual

/-- An item comes out as one argument. -/
theorem toHexAll_flatten {item : Raw} (h : ∀ n ∈ item.integers, outside n = false)
    (rest : List Flat) : Flat.toHexAll (item.layout.flatten ++ rest) =
      (item.mirror :: ·) <$> Flat.toHexAll rest := by
  match item with
  | .number n => exact toHexAll_scalar (h n (List.mem_singleton_self n)) rest
  | .integer n => exact toHexAll_scalar (h n (List.mem_singleton_self n)) rest
  | .list items =>
      rw [integers] at h
      rw [layout, Layout.flatten, List.singleton_append, Flat.toHexAll, Flat.toHex,
        toHexAll_flattenAll h]
      rfl

theorem toHexAll_flattenAll {items : List Raw} (h : ∀ n ∈ integersAll items, outside n = false) :
    Flat.toHexAll (Layout.flattenAll (layouts items)) = .ok (mirrors items) := by
  match items with
  | [] => rfl
  | item :: rest =>
      obtain ⟨hitem, hrest⟩ := List.forall_mem_append.1 h
      rw [layouts, Layout.flattenAll, toHexAll_flatten hitem, toHexAll_flattenAll hrest]
      rfl

end

end Raw

namespace Untagged

theorem toField_tuple {name : String} (hraw : isRawName name = true)
    (hname : name ≠ Members.reserved) (items : List Raw) :
    toField (.record [(name, .list (Raw.values items))]) =
      .ok (.record [(name, .spliced (Raw.fields items))]) := by
  have hslot : toSlot name (.list (Raw.values items)) = .ok (.spliced (Raw.fields items)) := by
    rw [toSlot, if_pos hraw]
    show Slot.spliced <$> rawFields (Raw.values items) = _
    rw [Raw.rawFields_values]
    rfl
  have hassign : Field.ofAssignments [(name, .spliced (Raw.fields items))] =
      .record [(name, .spliced (Raw.fields items))] := by
    rw [Field.ofAssignments, Members.assign_of_arranged (by simp [Members.Arranged]),
      Members.filter_ne_reserved (by simpa using hname.symm)]
  rw [toField, toSlots, hslot, toSlots, ← hassign]
  rfl

/-- A raw tuple that is the one member of a record comes out as its mirror, unless one of its
integers is no field element. Then the first one is the error. -/
theorem hexArgs_tuple {name : String} (hraw : isRawName name = true)
    (hname : name ≠ Members.reserved) (items : List Raw) :
    (Untagged.record [(name, .list (Raw.values items))]).hexArgs =
      match (Raw.integersAll items).find? Raw.outside with
      | none => .ok (items.map Raw.mirror)
      | some n => .error (.conversion (.scalarOutOfRange n Layout.feltBound)) := by
  have hargs : (Untagged.record [(name, .list (Raw.values items))]).hexArgs =
      (Field.record [(name, .spliced (Raw.fields items))]).hexArgs := by
    rw [hexArgs, toField_tuple hraw hname]
    rfl
  rw [hargs]
  cases hfind : (Raw.integersAll items).find? Raw.outside with
  | none =>
      have hinside : ∀ n ∈ Raw.integersAll items, Raw.outside n = false := by
        simpa using hfind
      refine Field.hexArgs_eq_ok.2 ⟨.tuple (Raw.layouts items), ?_, ?_⟩
      · rw [Layout.ofField, Layout.ofEntries, Layout.ofSlot, Raw.ofFields_fields hinside]
        show Except.ok (Layout.tuple (Raw.layouts items ++ [])) = _
        rw [List.append_nil]
      · rw [← Raw.mirrors_eq_map]
        exact Raw.toHexAll_flattenAll hinside
  | some n =>
      refine Field.hexArgs_of_error (error?_eq_some_iff.1 ?_)
      rw [Layout.ofField, error?_map, Layout.ofEntries, error?_both, Layout.ofSlot,
        Raw.error?_ofFields, hfind]
      rfl

/-- Inner lists stay, the empty one too. Of two integers out of range the first one is the error,
though the second one is not as deep. -/
theorem hexArgs_tuple_deep :
    let sound : List Raw := [.number 1, .list [], .list [.integer 31, .list [.number 0]]]
    let faulty : List Raw := [.list [.list [.number 5, .integer (2 ^ 252)]], .number (-1)]
    (isRawName "_pair" = true ∧ "_pair" ≠ Members.reserved) ∧
      (Untagged.record [("_pair", .list (Raw.values sound))]).hexArgs =
        .ok [.numeral "0x1", .nested [], .nested [.numeral "0x1f", .nested [.numeral "0x0"]]] ∧
      (Untagged.record [("_pair", .list (Raw.values faulty))]).hexArgs =
        .error (.conversion (.scalarOutOfRange (2 ^ 252) Layout.feltBound)) := by
  intro sound faulty
  have hraw : isRawName "_pair" = true := by decide
  have hname : "_pair" ≠ Members.reserved := by decide
  have hfind : (Raw.integersAll faulty).find? Raw.outside = some (2 ^ 252) := by decide +kernel
  refine ⟨⟨hraw, hname⟩, hexArgs_tuple hraw hname sound, ?_⟩
  rw [hexArgs_tuple hraw hname faulty, hfind]

end Untagged

end ProverInput
