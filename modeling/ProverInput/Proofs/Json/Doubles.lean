import ProverInput.Proofs.Json.Throughout
import ProverInput.Proofs.Number.Notation

set_option autoImplicit false

/-! # Numbers of documents that are read

The reader takes every number to the nearest one of double precision, so the whole numbers of a
document that was read are doubles, however large they are (`rounded_read`).
-/

namespace ProverInput

namespace Json

mutual

/-- A document whose numbers are rounded. -/
def Rounded : Json → Prop
  | .number x => x.Rounded
  | .array items => RoundedItems items
  | .object members => RoundedMembers members
  | _ => True

def RoundedItems : List Json → Prop
  | [] => True
  | item :: rest => item.Rounded ∧ RoundedItems rest

def RoundedMembers : List (String × Json) → Prop
  | [] => True
  | (_, value) :: rest => value.Rounded ∧ RoundedMembers rest

end

theorem roundedItems_iff {items : List Json} :
    RoundedItems items ↔ ∀ item ∈ items, item.Rounded := by
  induction items with
  | nil => simp [RoundedItems]
  | cons item items ih => rw [RoundedItems, ih, List.forall_mem_cons]

theorem roundedMembers_iff {members : List (String × Json)} :
    RoundedMembers members ↔ ∀ m ∈ members, m.2.Rounded := by
  induction members with
  | nil => simp [RoundedMembers]
  | cons m members ih =>
      obtain ⟨name, value⟩ := m
      rw [RoundedMembers, ih, List.forall_mem_cons]

/-! ## Parts -/

/-- A number that is rounded, or any other document. -/
def RoundedNumber : Json → Prop
  | .number x => x.Rounded
  | _ => True

theorem Rounded.get? {doc value : Json} (h : doc.Rounded) {key : String}
    (hvalue : doc.get? key = some value) : value.Rounded := by
  cases doc with
  | object members =>
      obtain ⟨before, after, heq, -⟩ := List.lookup_eq_some_iff.1 hvalue
      have hmem : (key, value) ∈ members := by simp [heq]
      exact roundedMembers_iff.1 h _ hmem
  | _ => cases hvalue

mutual

theorem rounded_of_throughout {doc : Json}
    (h : doc.Throughout RoundedNumber) : doc.Rounded := by
  match doc with
  | .null => trivial
  | .bool _ => trivial
  | .number _ => exact h
  | .string _ => trivial
  | .array items => exact roundedItems_of_throughout h.2
  | .object members => exact roundedMembers_of_throughout h.2

theorem roundedItems_of_throughout {items : List Json}
    (h : ThroughoutItems RoundedNumber items) :
    RoundedItems items := by
  match items with
  | [] => trivial
  | item :: rest => exact ⟨rounded_of_throughout h.1, roundedItems_of_throughout h.2⟩

theorem roundedMembers_of_throughout {members : List (String × Json)}
    (h : ThroughoutMembers RoundedNumber members) :
    RoundedMembers members := by
  match members with
  | [] => trivial
  | (name, value) :: rest => exact ⟨rounded_of_throughout h.1, roundedMembers_of_throughout h.2⟩

end

/-- The numbers of a document that is read are rounded. -/
theorem rounded_read {text : String} {doc : Json} (h : read text = some doc) : doc.Rounded :=
  rounded_of_throughout <| throughout_read ⟨trivial, fun _ => trivial, Number.rounded_ofDecimal,
    fun _ => trivial, fun _ => trivial, fun _ => trivial⟩ h

end Json

end ProverInput
