import ProverInput.Proofs.Field.Guess
import ProverInput.Proofs.Json.Throughout
import ProverInput.Proofs.Untagged.Texts

set_option autoImplicit false

/-! # The first complaint about an untagged document

A document is gone through twice, each value before its parts and the members of an object in their
order (`visits`). The first time looks for a value that has no reading where it stands
(`unreadable?`), the second time, if there was none, for an integer that is out of range
(`outOfRange?`). What is found first is the error, and if nothing is found there are arguments
(`error?_hexArgs`).

The second time goes through the field value that was read. It has the items and members of the
document in the same order as long as the members of objects are arranged and none has the reserved
name, which is dropped.
-/

namespace ProverInput.Untagged

open Json (Arranged Unreserved ThroughoutItems ThroughoutMembers HasNames)

/-! ## Visits -/

/-- Where a value stands: among the ordinary ones, under the name of a raw tuple or inside one. -/
inductive Place where
  | ordinary
  | tuple
  | item

/-- Where the items of an array stand. -/
def Place.inside : Place → Place
  | .ordinary => .ordinary
  | _ => .item

/-- Where the value of a member stands. -/
def Place.ofName (name : String) : Place := if isRawName name then .tuple else .ordinary

mutual

/-- The values of a document with their places, each before its parts. -/
def visits (place : Place) : Json → List (Place × Json)
  | .array items => (place, .array items) :: visitsItems place.inside items
  | .object members => (place, .object members) :: visitsMembers members
  | doc => [(place, doc)]

def visitsItems (place : Place) : List Json → List (Place × Json)
  | [] => []
  | item :: rest => visits place item ++ visitsItems place rest

def visitsMembers : List (String × Json) → List (Place × Json)
  | [] => []
  | (name, value) :: rest => visits (.ofName name) value ++ visitsMembers rest

end

/-! ## Complaints -/

/-- The complaint about a value that has no reading where it stands, whatever its parts. -/
def unreadable? : Place × Json → Option ConversionError
  | (_, .array _) => none
  | (.ordinary, .null) => none
  | (.ordinary, .bool _) => none
  | (.ordinary, .object _) => none
  | (.ordinary, .string s) => badText? s
  | (.ordinary, .number (.int _)) => none
  | (.item, .number (.int _)) => none
  | (_, doc) => some (.unsupportedType (ofJson doc).typeName)

/-- The complaint about an integer outside `[0, bound)`. -/
def beyond? (bound : Nat) (value : Int) : Option ConversionError :=
  if 0 ≤ value ∧ value < bound then none else some (.scalarOutOfRange value bound)

/-- The complaint about an integer that is out of range: a number that is no field element or a
decimal text that is no 256-bit integer. -/
def outOfRange? : Place × Json → Option ConversionError
  | (_, .number (.int n)) => beyond? Layout.feltBound n
  | (_, .string s) =>
    if ReadsAsInteger s then beyond? Layout.u256Bound (Nat.ofDigitChars 10 s.toList 0) else none
  | _ => none

/-! ## Reading -/

mutual

/-- A raw item is read unless a value in it cannot be. -/
theorem error?_rawField (doc : Json) :
    error? (rawField (ofJson doc)) = (visits .item doc).findSome? unreadable? := by
  match doc with
  | .null => rfl
  | .bool _ => rfl
  | .number x =>
      cases x
      all_goals rfl
  | .string _ => rfl
  | .array items =>
      rw [ofJson, rawField, error?_map, error?_rawFields, visits, List.findSome?_cons]
      rfl
  | .object _ => rfl

theorem error?_rawFields (items : List Json) :
    error? (rawFields (ofJsonItems items)) = (visitsItems .item items).findSome? unreadable? := by
  match items with
  | [] => rfl
  | item :: rest =>
      rw [ofJsonItems, rawFields, error?_both, error?_rawField, error?_rawFields, visitsItems,
        List.findSome?_append]

end

mutual

theorem error?_toField (doc : Json) :
    error? (ofJson doc).toField = (visits .ordinary doc).findSome? unreadable? := by
  match doc with
  | .null => simp [ofJson, toField, visits, unreadable?]
  | .bool _ => simp [ofJson, toField, visits, unreadable?]
  | .number x =>
      cases x
      all_goals simp [ofJson, toField, visits, unreadable?, unsupported]
  | .string s => simp [ofJson, toField, visits, unreadable?, error?_textField]
  | .array items =>
      rw [ofJson, toField, error?_map, error?_toFields, visits, List.findSome?_cons]
      rfl
  | .object members =>
      rw [ofJson, toField, error?_map, error?_toSlots, visits, List.findSome?_cons]
      rfl

theorem error?_toFields (items : List Json) :
    error? (toFields (ofJsonItems items)) =
      (visitsItems .ordinary items).findSome? unreadable? := by
  match items with
  | [] => simp [ofJsonItems, toFields, visitsItems]
  | item :: rest =>
      rw [ofJsonItems, toFields, error?_both, error?_toField, error?_toFields, visitsItems,
        List.findSome?_append]

theorem error?_toSlot (name : String) (doc : Json) :
    error? (toSlot name (ofJson doc)) = (visits (.ofName name) doc).findSome? unreadable? := by
  rw [toSlot.eq_def, Place.ofName]
  by_cases hname : isRawName name = true
  · rw [if_pos hname, if_pos hname]
    cases doc with
    | array items =>
        rw [ofJson]
        show error? (Slot.spliced <$> rawFields (ofJsonItems items)) = _
        rw [error?_map, error?_rawFields, visits, List.findSome?_cons]
        rfl
    | _ => simp [ofJson, visits, unreadable?, unsupported, List.findSome?_cons]
  · rw [if_neg hname, if_neg hname, error?_map, error?_toField]

theorem error?_toSlots (members : List (String × Json)) :
    error? (toSlots (ofJsonMembers members)) =
      (visitsMembers members).findSome? unreadable? := by
  match members with
  | [] => simp [ofJsonMembers, toSlots, visitsMembers]
  | (name, value) :: rest =>
      rw [ofJsonMembers, toSlots, error?_both, error?_toSlot, error?_toSlots, visitsMembers,
        List.findSome?_append]

end

/-! ## Layouts -/

theorem error?_inRange (bound : Nat) (value : Int) :
    error? (Layout.inRange bound value) = beyond? bound value := by
  rw [Layout.inRange, beyond?]
  split
  · rfl
  · rfl

/-- A text that was read is laid out unless it is an integer out of range. -/
theorem error?_ofField_text {s : String} {field : Field} (h : textField s = .ok field) (p : Place) :
    error? (Layout.ofField field) = outOfRange? (p, .string s) := by
  rw [outOfRange?]
  by_cases hinteger : ReadsAsInteger s
  · rw [textField_integer hinteger] at h
    cases h
    rw [if_pos hinteger, Layout.ofField, error?_map, error?_inRange]
  · rw [if_neg hinteger]
    by_cases hhash : Check.isHash s.toList = true
    · rw [textField_hash hhash] at h
      cases h
      obtain ⟨layout, hlayout, -⟩ := Layout.ofDigest_hash hhash
      rw [Layout.ofField, hlayout, error?_ok]
    · rw [textField_other (not_or.2 ⟨hhash, hinteger⟩)] at h
      split at h
      · obtain ⟨bytes, -, rfl⟩ := map_eq_ok.1 h
        rfl
      · cases h

mutual

theorem error?_ofField_raw {doc : Json} {field : Field} (h : rawField (ofJson doc) = .ok field) :
    error? (Layout.ofField field) = (visits .item doc).findSome? outOfRange? := by
  match doc with
  | .null => cases h
  | .bool _ => cases h
  | .number x =>
      cases x
      all_goals cases h
      simp [Layout.ofField, error?_inRange, visits, outOfRange?]
  | .string _ => cases h
  | .array items =>
      rw [ofJson, rawField] at h
      obtain ⟨fields, hfields, rfl⟩ := map_eq_ok.1 h
      rw [Layout.ofField, error?_map, error?_ofFields_raw hfields, visits, List.findSome?_cons]
      rfl
  | .object _ => cases h

theorem error?_ofFields_raw {items : List Json} {fields : List Field}
    (h : rawFields (ofJsonItems items) = .ok fields) :
    error? (Layout.ofFields fields) = (visitsItems .item items).findSome? outOfRange? := by
  match items with
  | [] =>
      cases h
      rfl
  | item :: rest =>
      rw [ofJsonItems] at h
      obtain ⟨first, others, hfirst, hothers, rfl⟩ := rawFields_cons_eq_ok.1 h
      rw [Layout.ofFields, error?_both, error?_ofField_raw hfirst, error?_ofFields_raw hothers,
        visitsItems, List.findSome?_append]

end

mutual

theorem error?_ofField {doc : Json} (harranged : doc.Arranged) (hunreserved : doc.Unreserved)
    {field : Field} (h : (ofJson doc).toField = .ok field) :
    error? (Layout.ofField field) = (visits .ordinary doc).findSome? outOfRange? := by
  match doc with
  | .null =>
      rw [ofJson, toField] at h
      cases h
      rfl
  | .bool b =>
      rw [ofJson, toField] at h
      cases h
      rfl
  | .number x =>
      cases x with
      | int n =>
          rw [ofJson, toField] at h
          cases h
          simp [Layout.ofField, error?_inRange, visits, outOfRange?]
      | _ => simp [ofJson, toField, unsupported] at h
  | .string s =>
      rw [ofJson, toField] at h
      simp [error?_ofField_text h .ordinary, visits]
  | .array items =>
      rw [ofJson, toField] at h
      obtain ⟨fields, hfields, rfl⟩ := map_eq_ok.1 h
      rw [Layout.ofField, error?_bind_pure, error?_ofFields harranged.2 hunreserved.2 hfields,
        visits, List.findSome?_cons]
      rfl
  | .object members =>
      rw [ofJson, toField] at h
      obtain ⟨slots, hslots, rfl⟩ := map_eq_ok.1 h
      have hnames := map_fst_toSlots hslots
      have hassign : Members.assign slots = slots := by
        rw [Members.assign_of_arranged (hnames ▸ harranged.1),
          Members.filter_ne_reserved (hnames ▸ hunreserved.1)]
      rw [Field.ofAssignments, hassign, Layout.ofField, error?_map,
        error?_ofEntries harranged.2 hunreserved.2 hslots, visits, List.findSome?_cons]
      rfl

theorem error?_ofFields {items : List Json}
    (harranged : ThroughoutItems (HasNames Members.Arranged) items)
    (hunreserved : ThroughoutItems (HasNames fun names => Members.reserved ∉ names) items)
    {fields : List Field} (h : toFields (ofJsonItems items) = .ok fields) :
    error? (Layout.ofFields fields) = (visitsItems .ordinary items).findSome? outOfRange? := by
  match items with
  | [] =>
      rw [ofJsonItems, toFields] at h
      cases h
      rfl
  | item :: rest =>
      rw [ofJsonItems] at h
      obtain ⟨first, others, hfirst, hothers, rfl⟩ := toFields_cons_eq_ok.1 h
      rw [Layout.ofFields, error?_both, error?_ofField harranged.1 hunreserved.1 hfirst,
        error?_ofFields harranged.2 hunreserved.2 hothers, visitsItems, List.findSome?_append]

theorem error?_ofEntries {members : List (String × Json)}
    (harranged : ThroughoutMembers (HasNames Members.Arranged) members)
    (hunreserved : ThroughoutMembers (HasNames fun names => Members.reserved ∉ names) members)
    {slots : List (String × Slot)} (h : toSlots (ofJsonMembers members) = .ok slots) :
    error? (Layout.ofEntries slots) = (visitsMembers members).findSome? outOfRange? := by
  match members with
  | [] =>
      rw [ofJsonMembers, toSlots] at h
      cases h
      rfl
  | (name, value) :: rest =>
      rw [ofJsonMembers] at h
      obtain ⟨slot, others, hslot, hothers, rfl⟩ := toSlots_cons_eq_ok.1 h
      rw [Layout.ofEntries, error?_both, error?_ofEntries harranged.2 hunreserved.2 hothers,
        visitsMembers, List.findSome?_append]
      congr 1
      rcases toSlot_eq_ok.1 hslot with ⟨hname, field, hfield, rfl⟩ |
        ⟨hname, items, fields, rfl, hfields, rfl⟩
      · rw [Place.ofName, if_neg (by simp [hname]), Layout.ofSlot, error?_bind_pure,
          error?_ofField harranged.1 hunreserved.1 hfield]
      · rw [Place.ofName, if_pos hname, Layout.ofSlot, error?_ofFields_raw hfields]
        rfl

end

/-! ## Arguments -/

/-- The arguments of a document without reserved names fail with the first complaint: about a value
without a reading if there is any, or else about an integer out of range. -/
theorem error?_hexArgs {doc : Json} (harranged : doc.Arranged) (hunreserved : doc.Unreserved) :
    error? (ofJson doc).hexArgs =
      (((visits .ordinary doc).findSome? unreadable?).or
        ((visits .ordinary doc).findSome? outOfRange?)).map .conversion := by
  rw [← error?_toField]
  cases hfield : (ofJson doc).toField with
  | error e =>
      rw [hexArgs, hfield]
      rfl
  | ok field =>
      have hargs : (ofJson doc).hexArgs = field.hexArgs := by
        rw [hexArgs, hfield]
        rfl
      rw [hargs, ← error?_ofField harranged hunreserved hfield, error?_ok, Option.none_or]
      cases hlayout : Layout.ofField field with
      | error e => rw [Field.hexArgs_of_error hlayout, error?_error, error?_error, Option.map_some]
      | ok layout =>
          obtain ⟨args, hok, -⟩ := Field.hexArgs_of_layout hlayout
          rw [hok, error?_ok, error?_ok, Option.map_none]

end ProverInput.Untagged
