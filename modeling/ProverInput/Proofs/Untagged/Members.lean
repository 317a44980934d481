import ProverInput.Proofs.Field.Natural
import ProverInput.Proofs.Json.RoundTrip
import ProverInput.Proofs.Json.Throughout

set_option autoImplicit false

/-! # The arguments of an object's members

The arguments of an object should be those of its members one after the other (`membersArgs?`): of
an ordinary member those of its value, of a raw tuple the numerals of its integers, with lists for
its lists (`mirror?`). The members are assigned to a record, which loses the one with the reserved
name. So it is the members of other names whose arguments are the arguments of the object, and these
are the arguments of all members only if none has the reserved name or its value is an empty tuple
(`hexArgs_members`).
-/

namespace ProverInput

namespace Flat

theorem toHexAll_append_eq_ok {front back : List Flat} {args : List HexArg} :
    toHexAll (front ++ back) = .ok args ↔ ∃ first second, toHexAll front = .ok first ∧
      toHexAll back = .ok second ∧ args = first ++ second := by
  induction front generalizing args with
  | nil => simp [toHexAll]
  | cons item front ih =>
      rw [List.cons_append, toHexAll_cons_eq_ok]
      constructor
      · rintro ⟨arg, others, harg, hothers, rfl⟩
        obtain ⟨first, second, hfirst, hsecond, rfl⟩ := ih.1 hothers
        exact ⟨arg :: first, second, toHexAll_cons_eq_ok.2 ⟨arg, first, harg, hfirst, rfl⟩, hsecond,
          rfl⟩
      · rintro ⟨first, second, hfirst, hsecond, rfl⟩
        obtain ⟨arg, others, harg, hothers, rfl⟩ := toHexAll_cons_eq_ok.1 hfirst
        exact ⟨arg, others ++ second, harg, ih.2 ⟨others, second, hothers, hsecond, rfl⟩, rfl⟩

end Flat

namespace Untagged

/-! ## Raw tuples -/

mutual

/-- The argument that a raw item is: the numeral of an integer or the list of what its items are. -/
def mirror? : Json → Option HexArg
  | .number (.int n) => if 0 ≤ n then some (.numeral (Hex.numeral n.toNat)) else none
  | .array items => .nested <$> mirrorAll? items
  | _ => none

def mirrorAll? : List Json → Option (List HexArg)
  | [] => some []
  | item :: rest => do
    let first ← mirror? item
    let others ← mirrorAll? rest
    return first :: others

end

mutual

theorem mirror?_of_toHex {doc : Json} {field : Field} {layout : Layout} {args : List HexArg}
    (hfield : rawField (ofJson doc) = .ok field) (hlayout : Layout.ofField field = .ok layout)
    (hargs : Flat.toHexAll layout.flatten = .ok args) : ∃ arg, mirror? doc = some arg ∧
      args = [arg] := by
  match doc with
  | .null => cases hfield
  | .bool _ => cases hfield
  | .number x =>
      cases x
      all_goals cases hfield
      obtain ⟨value, hvalue, rfl⟩ := map_eq_ok.1 hlayout
      obtain ⟨rfl, hrange⟩ := Layout.inRange_eq_ok.1 hvalue
      obtain ⟨arg, others, harg, hothers, rfl⟩ := Flat.toHexAll_cons_eq_ok.1 hargs
      cases hothers
      rw [Flat.toHex, if_pos hrange.1] at harg
      cases harg
      exact ⟨_, if_pos hrange.1, rfl⟩
  | .string _ => cases hfield
  | .array items =>
      obtain ⟨fields, hfields, rfl⟩ := map_eq_ok.1 hfield
      obtain ⟨layouts, hlayouts, rfl⟩ := map_eq_ok.1 hlayout
      obtain ⟨arg, others, harg, hothers, rfl⟩ := Flat.toHexAll_cons_eq_ok.1 hargs
      cases hothers
      obtain ⟨mirrors, hmirrors, rfl⟩ := map_eq_ok.1 harg
      refine ⟨.nested mirrors, ?_, rfl⟩
      rw [mirror?, mirrorAll?_of_toHexAll hfields hlayouts hmirrors]
      rfl
  | .object _ => cases hfield

theorem mirrorAll?_of_toHexAll {items : List Json} {fields : List Field} {layouts : List Layout}
    {args : List HexArg} (hfields : rawFields (ofJsonItems items) = .ok fields)
    (hlayouts : Layout.ofFields fields = .ok layouts)
    (hargs : Flat.toHexAll (Layout.flattenAll layouts) = .ok args) :
    mirrorAll? items = some args := by
  match items with
  | [] =>
      cases hfields
      cases hlayouts
      cases hargs
      rfl
  | item :: rest =>
      obtain ⟨field, others, hfield, hothers, rfl⟩ := rawFields_cons_eq_ok.1 hfields
      obtain ⟨layout, more, hlayout, hmore, rfl⟩ := Layout.ofFields_cons_eq_ok.1 hlayouts
      obtain ⟨first, second, hfirst, hsecond, rfl⟩ := Flat.toHexAll_append_eq_ok.1 hargs
      obtain ⟨arg, harg, rfl⟩ := mirror?_of_toHex hfield hlayout hfirst
      rw [mirrorAll?, harg, mirrorAll?_of_toHexAll hothers hmore hsecond]
      rfl

end

/-! ## Members -/

/-- The arguments of a member of this name. -/
def memberArgs? (name : String) (value : Json) : Option (List HexArg) :=
  if isRawName name then
    match value with
    | .array items => mirrorAll? items
    | _ => none
  else (ofJson value).hexArgs.toOption

/-- The arguments of members one after the other. -/
def membersArgs? : List (String × Json) → Option (List HexArg)
  | [] => some []
  | (name, value) :: rest => do
    let first ← memberArgs? name value
    let others ← membersArgs? rest
    return first ++ others

theorem memberArgs?_of_toHexAll {name : String} {value : Json} {slot : Slot}
    {layouts : List Layout} {args : List HexArg} (hslot : toSlot name (ofJson value) = .ok slot)
    (hlayouts : Layout.ofSlot slot = .ok layouts)
    (hargs : Flat.toHexAll (Layout.flattenAll layouts) = .ok args) :
    memberArgs? name value = some args := by
  rcases toSlot_eq_ok.1 hslot with ⟨hname, field, hfield, rfl⟩ |
    ⟨hname, items, fields, rfl, hfields, rfl⟩
  · obtain ⟨layout, hlayout, rfl⟩ := Layout.ofSlot_single_eq_ok.1 hlayouts
    rw [Layout.flattenAll, Layout.flattenAll, List.append_nil] at hargs
    have hhex : (ofJson value).hexArgs = .ok args := by
      rw [hexArgs, hfield]
      exact Field.hexArgs_eq_ok.2 ⟨layout, hlayout, hargs⟩
    rw [memberArgs?.eq_def, if_neg (by simp [hname]), hhex]
    rfl
  · rw [memberArgs?, if_pos hname]
    exact mirrorAll?_of_toHexAll hfields hlayouts hargs

/-- The members whose names are kept have the arguments of the slots that are kept. -/
theorem membersArgs?_of_toHexAll (keep : String → Bool) {members : List (String × Json)}
    {slots : List (String × Slot)} {layouts : List Layout} {args : List HexArg}
    (hslots : toSlots (ofJsonMembers members) = .ok slots)
    (hlayouts : Layout.ofEntries (slots.filter fun slot => keep slot.1) = .ok layouts)
    (hargs : Flat.toHexAll (Layout.flattenAll layouts) = .ok args) :
    membersArgs? (members.filter fun m => keep m.1) = some args := by
  induction members generalizing slots layouts args with
  | nil =>
      rw [ofJsonMembers, toSlots] at hslots
      cases hslots
      cases hlayouts
      cases hargs
      rfl
  | cons m members ih =>
      obtain ⟨name, value⟩ := m
      rw [ofJsonMembers] at hslots
      obtain ⟨slot, others, hslot, hothers, rfl⟩ := toSlots_cons_eq_ok.1 hslots
      by_cases hkeep : keep name = true
      · simp only [List.filter_cons, hkeep, if_true] at hlayouts ⊢
        obtain ⟨front, back, hfront, hback, rfl⟩ := Layout.ofEntries_cons_eq_ok.1 hlayouts
        rw [Layout.flattenAll_append] at hargs
        obtain ⟨first, second, hfirst, hsecond, rfl⟩ := Flat.toHexAll_append_eq_ok.1 hargs
        rw [membersArgs?, memberArgs?_of_toHexAll hslot hfront hfirst, ih hothers hback hsecond]
        rfl
      · simp only [List.filter_cons, hkeep] at hlayouts ⊢
        exact ih hothers hlayouts hargs

theorem membersArgs?_cons_eq_some {name : String} {value : Json} {rest : List (String × Json)}
    {args : List HexArg} :
    membersArgs? ((name, value) :: rest) = some args ↔ ∃ first others,
      memberArgs? name value = some first ∧ membersArgs? rest = some others ∧
        args = first ++ others := by
  simp only [membersArgs?, bind, pure, Option.bind_eq_some_iff, Option.some.injEq]
  constructor
  · rintro ⟨first, hfirst, others, hothers, rfl⟩
    exact ⟨first, others, hfirst, hothers, rfl⟩
  · rintro ⟨first, others, hfirst, hothers, rfl⟩
    exact ⟨first, hfirst, others, hothers, rfl⟩

theorem length_le_of_filter {keep : String → Bool} {members : List (String × Json)}
    {kept all : List HexArg} (hkept : membersArgs? (members.filter fun m => keep m.1) = some kept)
    (hall : membersArgs? members = some all) : kept.length ≤ all.length := by
  induction members generalizing kept all with
  | nil =>
      cases hkept
      exact Nat.zero_le _
  | cons m members ih =>
      obtain ⟨name, value⟩ := m
      obtain ⟨first, others, hfirst, hothers, rfl⟩ := membersArgs?_cons_eq_some.1 hall
      rw [List.length_append]
      by_cases hkeep : keep name = true
      · simp only [List.filter_cons, hkeep, if_true] at hkept
        obtain ⟨first', others', hfirst', hothers', rfl⟩ := membersArgs?_cons_eq_some.1 hkept
        have hsame : first' = first := Option.some.inj (hfirst'.symm.trans hfirst)
        have hle := ih hothers' hothers
        rw [List.length_append, hsame]
        omega
      · simp only [List.filter_cons, hkeep] at hkept
        exact le_add_of_le_right (ih hkept hothers)

/-- All members have the arguments of those that are kept only if the others have none. -/
theorem membersArgs?_eq_filter_iff (keep : String → Bool) {members : List (String × Json)}
    {args : List HexArg} (h : membersArgs? (members.filter fun m => keep m.1) = some args) :
    membersArgs? members = some args ↔
      ∀ m ∈ members, keep m.1 = false → memberArgs? m.1 m.2 = some [] := by
  induction members generalizing args with
  | nil => simpa using h
  | cons m members ih =>
      obtain ⟨name, value⟩ := m
      rw [List.forall_mem_cons, membersArgs?_cons_eq_some]
      by_cases hkeep : keep name = true
      · simp only [List.filter_cons, hkeep, if_true] at h
        obtain ⟨first, others, hfirst, hothers, rfl⟩ := membersArgs?_cons_eq_some.1 h
        simp [hfirst, ih hothers, hkeep]
      · simp only [List.filter_cons, hkeep] at h
        rw [← ih h]
        constructor
        · -- what is dropped cannot be made up for
          rintro ⟨first, others, hfirst, hothers, rfl⟩
          have hle := length_le_of_filter h hothers
          obtain rfl : first = [] := by
            rw [List.length_append] at hle
            exact List.eq_nil_of_length_eq_zero (by omega)
          exact ⟨fun _ => hfirst, hothers⟩
        · rintro ⟨hfirst, hothers⟩
          exact ⟨[], args, hfirst (Bool.eq_false_iff.2 hkeep), hothers, rfl⟩

/-- The reserved name is one of a raw tuple. -/
theorem memberArgs?_reserved {value : Json} :
    memberArgs? Members.reserved value = some [] ↔ value = .array [] := by
  have hname : isRawName Members.reserved = true := by decide
  rw [memberArgs?.eq_def, if_pos hname]
  constructor
  · intro h
    split at h
    case h_1 items =>
      cases items with
      | nil => rfl
      | cons item rest =>
          simp only [mirrorAll?, bind, pure, Option.bind_eq_some_iff] at h
          obtain ⟨first, -, others, -, hcons⟩ := h
          cases hcons
    case h_2 => cases h
  · rintro rfl
    rfl

/-- The arguments of an object that is read are those of its members one after the other, but for
the one of the reserved name. They are those of all its members only if that one has none. -/
theorem hexArgs_members {text : String} {members : List (String × Json)} {args : List HexArg}
    (hread : Json.read text = some (.object members))
    (h : (ofJson (.object members)).hexArgs = .ok args) :
    membersArgs? (members.filter fun m => m.1 ≠ Members.reserved) = some args ∧
      (membersArgs? members = some args ↔
        ∀ value, (Members.reserved, value) ∈ members → value = .array []) := by
  have harranged : Members.Arranged (members.map Prod.fst) := (Json.arranged_read hread).1
  obtain ⟨field, hfield, hargs⟩ := bind_eq_ok.1 h
  obtain ⟨slots, hslots, rfl⟩ : ∃ slots, toSlots (ofJsonMembers members) = .ok slots ∧
      Field.ofAssignments slots = field := by
    rw [ofJson, toField] at hfield
    exact map_eq_ok.1 (mapError_eq_ok.1 hfield)
  obtain ⟨layout, hlayout, hhex⟩ := Field.hexArgs_eq_ok.1 hargs
  -- the slots are assigned in the order of the members
  rw [Field.ofAssignments, Members.assign_of_arranged (map_fst_toSlots hslots ▸ harranged),
    Layout.ofField] at hlayout
  obtain ⟨layouts, hlayouts, rfl⟩ := map_eq_ok.1 hlayout
  have hkept := membersArgs?_of_toHexAll (· ≠ Members.reserved) hslots hlayouts hhex
  refine ⟨hkept, ?_⟩
  rw [membersArgs?_eq_filter_iff (· ≠ Members.reserved) hkept]
  constructor
  · intro hnone value hmem
    exact memberArgs?_reserved.1 (hnone _ hmem (by simp))
  · rintro hvalue ⟨name, value⟩ hmem hname
    obtain rfl : name = Members.reserved := by simpa using hname
    exact memberArgs?_reserved.2 (hvalue value hmem)

/-- A document of a truth value and a raw tuple with an inner list. -/
theorem hexArgs_members_tuple :
    let members : List (String × Json) :=
      [("a", .bool true), ("_", .array [.number (.int 1), .array [.number (.int 2)]])]
    let args := [.numeral "0x1", .numeral "0x1", .nested [.numeral "0x2"]]
    (Json.read (Json.object members).compactText = some (.object members) ∧
      (ofJson (.object members)).hexArgs = .ok args) ∧ membersArgs? members = some args := by
  intro members args
  have hplain : (Json.object members).Plain := by
    refine ⟨by decide, by decide, trivial, by decide, ⟨?_, ⟨?_, trivial⟩, trivial⟩, trivial⟩
    · exact Number.isWhole_of_le (by decide)
    · exact Number.isWhole_of_le (by decide)
  have hread := Json.read_compactText hplain
  have hargs : (ofJson (.object members)).hexArgs = .ok args := by cbv
  refine ⟨⟨hread, hargs⟩, (hexArgs_members hread hargs).2.2 fun value hmem => ?_⟩
  simp [members, Members.reserved] at hmem

/-- A member of the reserved name is dropped: the integer of its tuple is in no argument. -/
theorem hexArgs_members_reserved :
    let members : List (String × Json) := [("__proto__", .array [.number (.int 1)])]
    Json.read (Json.object members).compactText = some (.object members) ∧
      (ofJson (.object members)).hexArgs = .ok [] ∧
      membersArgs? members = some [.numeral "0x1"] := by
  intro members
  have hplain : (Json.object members).Plain :=
    ⟨by decide, by decide, ⟨Number.isWhole_of_le (by decide), trivial⟩, trivial⟩
  refine ⟨Json.read_compactText hplain, ?_, rfl⟩
  cbv

end Untagged

end ProverInput
