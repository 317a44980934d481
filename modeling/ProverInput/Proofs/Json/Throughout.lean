import ProverInput.Json.Reader
import ProverInput.Proofs.Json.Members

set_option autoImplicit false

/-! # Documents that are read

What the reader builds, it builds from the parts that it read before. So a property of documents
that holds however the parts of a document look, as long as its members were put together by
`Members.ofList` and its numbers come from decimals, holds throughout a document that was read
(`throughout_read`). The three readers take turns, so this is proved by induction on their fuel.

One such property is that the members of objects are arranged (`arranged_read`).
-/

namespace ProverInput.Json

/-! ## Properties of all parts -/

variable {P Q : Json → Prop}

mutual

/-- A property of a document and all its parts. -/
def Throughout (P : Json → Prop) : Json → Prop
  | .array items => P (.array items) ∧ ThroughoutItems P items
  | .object members => P (.object members) ∧ ThroughoutMembers P members
  | doc => P doc

def ThroughoutItems (P : Json → Prop) : List Json → Prop
  | [] => True
  | item :: rest => item.Throughout P ∧ ThroughoutItems P rest

def ThroughoutMembers (P : Json → Prop) : List (String × Json) → Prop
  | [] => True
  | (_, value) :: rest => value.Throughout P ∧ ThroughoutMembers P rest

end

/-! ## Members -/

theorem throughoutMembers_putAt {index : Option Nat} {name : String} {v : Json}
    (hv : v.Throughout P) {members : List (String × Json)} (h : ThroughoutMembers P members) :
    ThroughoutMembers P (Members.putAt index name v members) := by
  induction members with
  | nil => exact ⟨hv, trivial⟩
  | cons m members ih =>
      obtain ⟨other, w⟩ := m
      obtain ⟨hw, hrest⟩ := h
      rw [Members.putAt]
      split
      · exact ⟨hv, hrest⟩
      · split
        · exact ⟨hv, hw, hrest⟩
        · exact ⟨hw, ih hrest⟩

theorem throughoutMembers_ofList {given : List (String × Json)} (h : ThroughoutMembers P given) :
    ThroughoutMembers P (Members.ofList given) := by
  have hfold : ∀ members, ThroughoutMembers P members →
      ThroughoutMembers P (given.foldl (fun members m => Members.put m.1 m.2 members) members) := by
    induction given with
    | nil => exact fun members hmembers => hmembers
    | cons m given ih =>
        obtain ⟨name, v⟩ := m
        intro members hmembers
        exact ih h.2 _ (throughoutMembers_putAt h.1 hmembers)
  exact hfold [] trivial

/-! ## The readers -/

/-- A property that every document has when the reader builds it, whatever the parts. -/
structure Built (P : Json → Prop) : Prop where
  null : P .null
  bool : ∀ b, P (.bool b)
  number : ∀ negative decimal, P (.number (Number.ofDecimal negative decimal))
  string : ∀ s, P (.string s)
  array : ∀ items, P (.array items)
  object : ∀ given, P (.object (Members.ofList given))

theorem Built.readNumber (h : Built P) {text rest : List Char} {x : Number}
    (hread : readNumber text = some (x, rest)) : P (.number x) := by
  have hmagnitude : ∀ negative text, readMagnitude negative text = some (x, rest) →
      P (.number x) := by
    intro negative text hread
    rw [readMagnitude] at hread
    split at hread
    · cases hread
    · split at hread
      · cases hread
      · split at hread
        · cases hread
        · split at hread
          · cases hread
          · cases hread
            exact h.number _ _
  unfold Json.readNumber at hread
  split at hread
  · exact hmagnitude true _ hread
  · exact hmagnitude false _ hread

/-- What the readers return with so much fuel has the property throughout. -/
structure ReadsThroughout (P : Json → Prop) (fuel : Nat) : Prop where
  value : ∀ {text doc rest}, readValue fuel text = some (doc, rest) → doc.Throughout P
  items : ∀ {text items rest}, readItems fuel text = some (items, rest) → ThroughoutItems P items
  members : ∀ {text given rest}, readMembers fuel text = some (given, rest) →
    ThroughoutMembers P given

section

variable (hbuilt : Built P) {fuel : Nat} {text rest : List Char}

include hbuilt

theorem ReadsThroughout.readValue_succ (h : ReadsThroughout P fuel) {doc : Json}
    (hread : readValue (fuel + 1) text = some (doc, rest)) : doc.Throughout P := by
  rw [readValue] at hread
  split at hread
  case h_1 => cases hread; exact hbuilt.null
  case h_2 => cases hread; exact hbuilt.bool true
  case h_3 => cases hread; exact hbuilt.bool false
  case h_4 =>
    obtain ⟨_, -, heq⟩ := Option.map_eq_some_iff.1 hread
    cases heq
    exact hbuilt.string _
  case h_5 =>
    split at hread
    · cases hread
      exact ⟨hbuilt.array [], trivial⟩
    · obtain ⟨_, hitems, heq⟩ := Option.map_eq_some_iff.1 hread
      cases heq
      exact ⟨hbuilt.array _, h.items hitems⟩
  case h_6 =>
    split at hread
    · cases hread
      exact ⟨hbuilt.object [], trivial⟩
    · obtain ⟨_, hmembers, heq⟩ := Option.map_eq_some_iff.1 hread
      cases heq
      exact ⟨hbuilt.object _, throughoutMembers_ofList (h.members hmembers)⟩
  case h_7 =>
    obtain ⟨_, hnumber, heq⟩ := Option.map_eq_some_iff.1 hread
    cases heq
    exact hbuilt.readNumber hnumber

omit hbuilt in
theorem ReadsThroughout.readItems_succ (h : ReadsThroughout P fuel) {items : List Json}
    (hread : readItems (fuel + 1) text = some (items, rest)) : ThroughoutItems P items := by
  rw [readItems] at hread
  split at hread
  · cases hread
  · rename_i item _ hitem
    split at hread
    · obtain ⟨_, hitems, heq⟩ := Option.map_eq_some_iff.1 hread
      cases heq
      exact ⟨h.value hitem, h.items hitems⟩
    · cases hread
      exact ⟨h.value hitem, trivial⟩
    · cases hread

omit hbuilt in
theorem ReadsThroughout.readMembers_succ (h : ReadsThroughout P fuel)
    {given : List (String × Json)} (hread : readMembers (fuel + 1) text = some (given, rest)) :
    ThroughoutMembers P given := by
  rw [readMembers] at hread
  split at hread
  · split at hread
    · cases hread
    · split at hread
      · split at hread
        · cases hread
        · rename_i value _ hvalue
          split at hread
          · obtain ⟨_, hmembers, heq⟩ := Option.map_eq_some_iff.1 hread
            cases heq
            exact ⟨h.value hvalue, h.members hmembers⟩
          · cases hread
            exact ⟨h.value hvalue, trivial⟩
          · cases hread
      · cases hread
  · cases hread

theorem readsThroughout (fuel : Nat) : ReadsThroughout P fuel := by
  induction fuel with
  | zero =>
      refine ⟨?_, ?_, ?_⟩
      · intro text doc rest h
        rw [readValue] at h
        cases h
      · intro text items rest h
        rw [readItems] at h
        cases h
      · intro text given rest h
        rw [readMembers] at h
        cases h
  | succ fuel ih => exact ⟨ih.readValue_succ hbuilt, ih.readItems_succ, ih.readMembers_succ⟩

/-- A property of all that the reader builds holds throughout a document that is read. -/
theorem throughout_read {text : String} {doc : Json} (h : read text = some doc) :
    doc.Throughout P := by
  rw [read] at h
  split at h
  · rename_i found _ hvalue
    split at h
    · cases h
      exact (readsThroughout hbuilt _).value hvalue
    · cases h
  · cases h

end

/-! ## Names -/

/-- The names of an object's members have the property. -/
def HasNames (P : List String → Prop) : Json → Prop
  | .object members => P (members.map Prod.fst)
  | _ => True

/-- Throughout the document, the members of objects are in their order. -/
def Arranged (doc : Json) : Prop := doc.Throughout (HasNames Members.Arranged)

/-- No object in the document has a member of the reserved name. -/
def Unreserved (doc : Json) : Prop :=
  doc.Throughout (HasNames fun names => Members.reserved ∉ names)

theorem arranged_read {text : String} {doc : Json} (h : read text = some doc) : doc.Arranged :=
  throughout_read ⟨trivial, fun _ => trivial, fun _ _ => trivial, fun _ => trivial,
    fun _ => trivial, Members.arranged_ofList⟩ h

end ProverInput.Json
