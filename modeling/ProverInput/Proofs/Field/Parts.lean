import ProverInput.Field.Untagged
import ProverInput.Proofs.Outcome

set_option autoImplicit false

/-! # Parts of field values

A value is laid out, or guessed from an untagged one, part by part. It has an outcome only if each
of its parts has, and the outcome is made of theirs.
-/

namespace ProverInput

namespace Layout

/-! ## Layouts of parts -/

theorem ofField_array_eq_ok {items : List Field} {l : Layout} :
    ofField (.array items) = .ok l ↔
      ∃ elements, ofFields items = .ok elements ∧ l = .sequence elements.length elements := by
  rw [ofField]
  exact bind_pure_eq_ok

theorem ofField_present_eq_ok {value : Field} {l : Layout} :
    ofField (.present value) = .ok l ↔
      ∃ inner, ofField value = .ok inner ∧ l = .tuple [.scalar 0, inner] := by
  rw [ofField]
  exact bind_pure_eq_ok

theorem ofFields_cons_eq_ok {item : Field} {rest : List Field} {layouts : List Layout} :
    ofFields (item :: rest) = .ok layouts ↔
      ∃ first others, ofField item = .ok first ∧ ofFields rest = .ok others ∧
        layouts = first :: others := by
  rw [ofFields]
  exact both_eq_ok

theorem ofSlot_single_eq_ok {value : Field} {layouts : List Layout} :
    ofSlot (.single value) = .ok layouts ↔ ∃ l, ofField value = .ok l ∧ layouts = [l] := by
  rw [ofSlot]
  exact bind_pure_eq_ok

theorem ofEntries_cons_eq_ok {name : String} {slot : Slot} {rest : List (String × Slot)}
    {layouts : List Layout} :
    ofEntries ((name, slot) :: rest) = .ok layouts ↔
      ∃ first others, ofSlot slot = .ok first ∧ ofEntries rest = .ok others ∧
        layouts = first ++ others := by
  rw [ofEntries]
  exact both_eq_ok

theorem length_ofFields {items : List Field} {layouts : List Layout}
    (h : ofFields items = .ok layouts) : layouts.length = items.length := by
  induction items generalizing layouts with
  | nil =>
      cases h
      rfl
  | cons item items ih =>
      obtain ⟨first, others, -, hothers, rfl⟩ := ofFields_cons_eq_ok.1 h
      rw [List.length_cons, List.length_cons, ih hothers]

/-! ## Parts of what has a layout -/

theorem exists_of_mem_items {items : List Field} {layouts : List Layout}
    (h : ofFields items = .ok layouts) {item : Field} (hitem : item ∈ items) :
    ∃ layout, ofField item = .ok layout := by
  induction items generalizing layouts with
  | nil => cases hitem
  | cons first items ih =>
      obtain ⟨layout, others, hfirst, hothers, -⟩ := ofFields_cons_eq_ok.1 h
      rcases List.mem_cons.1 hitem with rfl | hitem
      · exact ⟨layout, hfirst⟩
      · exact ih hothers hitem

theorem exists_of_mem_entries {entries : List (String × Slot)} {layouts : List Layout}
    (h : ofEntries entries = .ok layouts) {name : String} {value : Field}
    (hentry : (name, .single value) ∈ entries) : ∃ layout, ofField value = .ok layout := by
  induction entries generalizing layouts with
  | nil => cases hentry
  | cons first entries ih =>
      obtain ⟨layout, others, hfirst, hothers, -⟩ := ofEntries_cons_eq_ok.1 h
      rcases List.mem_cons.1 hentry with rfl | hentry
      · obtain ⟨layout, hvalue, -⟩ := ofSlot_single_eq_ok.1 hfirst
        exact ⟨layout, hvalue⟩
      · exact ih hothers hentry

theorem exists_of_mem_array {items : List Field} {layout : Layout}
    (h : ofField (.array items) = .ok layout) {item : Field} (hitem : item ∈ items) :
    ∃ layout, ofField item = .ok layout := by
  obtain ⟨layouts, hitems, -⟩ := ofField_array_eq_ok.1 h
  exact exists_of_mem_items hitems hitem

theorem exists_of_mem_record {entries : List (String × Slot)} {layout : Layout}
    (h : ofField (.record entries) = .ok layout) {name : String} {value : Field}
    (hentry : (name, .single value) ∈ entries) : ∃ layout, ofField value = .ok layout := by
  rw [ofField] at h
  obtain ⟨layouts, hentries, -⟩ := map_eq_ok.1 h
  exact exists_of_mem_entries hentries hentry

end Layout

namespace Untagged

/-! ## Readings of parts -/

theorem rawFields_cons_eq_ok {item : Untagged} {rest : List Untagged} {fields : List Field} :
    rawFields (item :: rest) = .ok fields ↔ ∃ first others, rawField item = .ok first ∧
      rawFields rest = .ok others ∧ fields = first :: others := by
  rw [rawFields]
  exact both_eq_ok

theorem toFields_cons_eq_ok {item : Untagged} {rest : List Untagged} {fields : List Field} :
    toFields (item :: rest) = .ok fields ↔ ∃ first others, item.toField = .ok first ∧
      toFields rest = .ok others ∧ fields = first :: others := by
  rw [toFields]
  exact both_eq_ok

theorem toSlots_cons_eq_ok {name : String} {value : Untagged} {rest : List (String × Untagged)}
    {slots : List (String × Slot)} :
    toSlots ((name, value) :: rest) = .ok slots ↔ ∃ slot others, toSlot name value = .ok slot ∧
      toSlots rest = .ok others ∧ slots = (name, slot) :: others := by
  rw [toSlots]
  exact both_eq_ok

theorem toSlot_eq_ok {name : String} {doc : Json} {slot : Slot} :
    toSlot name (ofJson doc) = .ok slot ↔
      (isRawName name = false ∧ ∃ field, (ofJson doc).toField = .ok field ∧ slot = .single field) ∨
      (isRawName name = true ∧ ∃ items fields, doc = .array items ∧
        rawFields (ofJsonItems items) = .ok fields ∧ slot = .spliced fields) := by
  rw [toSlot.eq_def]
  by_cases hname : isRawName name = true
  · rw [if_pos hname]
    cases doc with
    | array items =>
        rw [ofJson]
        simp only [hname, map_eq_ok]
        simp [eq_comm]
    | _ => simp [ofJson, unsupported, hname]
  · rw [if_neg hname, map_eq_ok]
    simp [hname, eq_comm]

/-- The slots of an object have the names of its members. -/
theorem map_fst_toSlots {members : List (String × Json)} {slots : List (String × Slot)}
    (h : toSlots (ofJsonMembers members) = .ok slots) :
    slots.map Prod.fst = members.map Prod.fst := by
  induction members generalizing slots with
  | nil =>
      rw [ofJsonMembers, toSlots] at h
      cases h
      rfl
  | cons m members ih =>
      obtain ⟨name, value⟩ := m
      rw [ofJsonMembers] at h
      obtain ⟨slot, others, -, hothers, rfl⟩ := toSlots_cons_eq_ok.1 h
      rw [List.map_cons, List.map_cons, ih hothers]

/-! ## Parts of what has a reading -/

theorem exists_of_mem_array {docs : List Json} {field : Field}
    (h : (ofJson (.array docs)).toField = .ok field) {doc : Json} (hdoc : doc ∈ docs) :
    ∃ field, (ofJson doc).toField = .ok field := by
  rw [ofJson, toField] at h
  obtain ⟨fields, hfields, -⟩ := map_eq_ok.1 h
  clear h
  induction docs generalizing fields with
  | nil => cases hdoc
  | cons first docs ih =>
      rw [ofJsonItems] at hfields
      obtain ⟨field, others, hfirst, hothers, -⟩ := toFields_cons_eq_ok.1 hfields
      rcases List.mem_cons.1 hdoc with rfl | hdoc
      · exact ⟨field, hfirst⟩
      · exact ih hdoc others hothers

theorem exists_of_mem_object {members : List (String × Json)} {field : Field}
    (h : (ofJson (.object members)).toField = .ok field) {name : String} {doc : Json}
    (hmember : (name, doc) ∈ members) (hname : isRawName name = false) :
    ∃ field, (ofJson doc).toField = .ok field := by
  rw [ofJson, toField] at h
  obtain ⟨slots, hslots, -⟩ := map_eq_ok.1 h
  clear h
  induction members generalizing slots with
  | nil => cases hmember
  | cons first members ih =>
      obtain ⟨other, value⟩ := first
      rw [ofJsonMembers] at hslots
      obtain ⟨slot, others, hfirst, hothers, -⟩ := toSlots_cons_eq_ok.1 hslots
      rcases List.mem_cons.1 hmember with heq | hmember
      · cases heq
        rcases toSlot_eq_ok.1 hfirst with ⟨-, field, hfield, -⟩ | ⟨hraw, -⟩
        · exact ⟨field, hfield⟩
        · rw [hname] at hraw
          cases hraw
      · exact ih hmember others hothers

end Untagged

end ProverInput
