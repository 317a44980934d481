import Mathlib
import ProverInput.Json.Members

set_option autoImplicit false

/-! # Members in the order they are given

The names of an object's members are `Arranged`: they are different, and none stands behind one that
it precedes. Building an object arranges them (`arranged_ofList`), and members whose names are
arranged already stay as they are given (`ofList_of_arranged`). So when the members of an object are
assigned to a record one after the other, all of them but the one with the reserved name are there
in the same order (`assign_of_arranged`).

Different names none of which is an index are arranged. The names of every record the program writes
are `Ordered` in this way.
-/

namespace ProverInput.Members

variable {α : Type}

/-! ## Precedence -/

theorem precedes_eq_true_iff {index : Option Nat} {other : String} :
    precedes index other = true ↔ ∃ i, index = some i ∧ ∀ j, index? other = some j → i < j := by
  cases index with
  | none => simp [precedes]
  | some i =>
      cases hother : index? other with
      | none => simp [precedes, hother]
      | some j => simp [precedes, hother]

theorem precedes_trans {a b c : String} (hab : precedes (index? a) b = true)
    (hbc : precedes (index? b) c = true) : precedes (index? a) c = true := by
  rw [precedes_eq_true_iff] at *
  obtain ⟨i, ha, hi⟩ := hab
  obtain ⟨j, hb, hj⟩ := hbc
  exact ⟨i, ha, fun k hk => lt_trans (hi j hb) (hj k hk)⟩

theorem not_precedes_of_precedes {a b : String} (hab : precedes (index? a) b = true) :
    ¬ precedes (index? b) a = true := by
  intro hba
  rw [precedes_eq_true_iff] at *
  obtain ⟨i, ha, hi⟩ := hab
  obtain ⟨j, hb, hj⟩ := hba
  exact lt_asymm (hi j hb) (hj i ha)

/-! ## Arranged names -/

/-- Different names in the order of an object's members. -/
def Arranged (names : List String) : Prop :=
  names.Pairwise fun a b => a ≠ b ∧ ¬ precedes (index? b) a = true

theorem arranged_append_singleton {names : List String} {name : String} :
    Arranged (names ++ [name]) ↔
      Arranged names ∧ ∀ other ∈ names, other ≠ name ∧ ¬ precedes (index? name) other = true := by
  simp [Arranged, List.pairwise_append]

/-- A new name that precedes no other goes to the end. -/
theorem putAt_last {index : Option Nat} {name : String} (v : α) {members : List (String × α)}
    (h : ∀ other ∈ members.map Prod.fst, other ≠ name ∧ ¬ precedes index other = true) :
    putAt index name v members = members ++ [(name, v)] := by
  induction members with
  | nil => rfl
  | cons m members ih =>
      obtain ⟨other, w⟩ := m
      rw [List.map_cons, List.forall_mem_cons] at h
      rw [putAt, if_neg h.1.1, if_neg h.1.2, ih h.2, List.cons_append]

theorem foldl_put_arranged (given members : List (String × α))
    (h : Arranged ((members ++ given).map Prod.fst)) :
    given.foldl (fun members m => put m.1 m.2 members) members = members ++ given := by
  induction given generalizing members with
  | nil => simp
  | cons m given ih =>
      have hsplit : members ++ m :: given = (members ++ [m]) ++ given := by simp
      rw [hsplit] at h ⊢
      have hfront : Arranged (members.map Prod.fst ++ [m.1]) := by
        rw [List.map_append, List.map_append] at h
        exact h.sublist (List.sublist_append_left _ _)
      have hput : put m.1 m.2 members = members ++ [m] :=
        putAt_last m.2 (arranged_append_singleton.1 hfront).2
      rw [List.foldl_cons, hput, ih _ h]

theorem ofList_of_arranged {given : List (String × α)} (h : Arranged (given.map Prod.fst)) :
    ofList given = given := foldl_put_arranged given [] h

/-- All members but the one with the reserved name are assigned. -/
theorem assign_of_arranged {given : List (String × α)} (h : Arranged (given.map Prod.fst)) :
    assign given = given.filter fun m => m.1 ≠ reserved :=
  ofList_of_arranged (h.sublist (List.filter_sublist.map Prod.fst))

theorem filter_ne_reserved {given : List (String × α)}
    (hreserved : reserved ∉ given.map Prod.fst) :
    given.filter (fun m => m.1 ≠ reserved) = given := by
  rw [List.filter_eq_self]
  intro m hm
  rw [decide_eq_true_eq]
  rintro heq
  exact hreserved (heq ▸ List.mem_map_of_mem hm)

/-! ## Objects -/

theorem mem_putAt_names {index : Option Nat} {name : String} {v : α} {members : List (String × α)}
    {other : String} (h : other ∈ (putAt index name v members).map Prod.fst) :
    other = name ∨ other ∈ members.map Prod.fst := by
  induction members with
  | nil => simpa [putAt] using h
  | cons m members ih =>
      obtain ⟨first, w⟩ := m
      rw [putAt] at h
      rw [List.map_cons, List.mem_cons]
      split at h
      · rw [List.map_cons, List.mem_cons] at h
        exact h.imp_right .inr
      · split at h
        · simpa using h
        · rw [List.map_cons, List.mem_cons] at h
          rcases h with h | h
          · exact .inr (.inl h)
          · exact (ih h).imp_right .inr

theorem arranged_put {name : String} {v : α} {members : List (String × α)}
    (h : Arranged (members.map Prod.fst)) : Arranged ((put name v members).map Prod.fst) := by
  rw [put]
  induction members with
  | nil => exact List.pairwise_singleton _ _
  | cons m members ih =>
      obtain ⟨other, w⟩ := m
      have hcons := h
      rw [List.map_cons, Arranged, List.pairwise_cons] at hcons
      obtain ⟨hother, hrest⟩ := hcons
      rw [putAt]
      split
      case isTrue heq =>
        rw [← heq]
        exact h
      case isFalse hne =>
        split
        case isTrue hbefore =>
          -- what the name precedes keeps all that comes later behind it
          rw [List.map_cons, Arranged, List.pairwise_cons]
          refine ⟨fun b hb => ?_, h⟩
          rcases List.mem_cons.1 hb with rfl | hb
          · exact ⟨fun heq => hne heq.symm, not_precedes_of_precedes hbefore⟩
          · obtain ⟨-, hlater⟩ := hother b hb
            refine ⟨fun heq => hlater (heq ▸ hbefore), fun hearlier => hlater ?_⟩
            exact precedes_trans hearlier hbefore
        case isFalse hafter =>
          rw [List.map_cons, Arranged, List.pairwise_cons]
          refine ⟨fun b hb => ?_, ih hrest⟩
          rcases mem_putAt_names hb with rfl | hb
          · exact ⟨hne, hafter⟩
          · exact hother b hb

theorem arranged_ofList (given : List (String × α)) : Arranged ((ofList given).map Prod.fst) := by
  have hfold : ∀ members : List (String × α), Arranged (members.map Prod.fst) →
      Arranged ((given.foldl (fun members m => put m.1 m.2 members) members).map Prod.fst) := by
    induction given with
    | nil => exact fun members h => h
    | cons m given ih => exact fun members h => ih _ (arranged_put h)
  exact hfold [] List.Pairwise.nil

/-! ## Ordered names -/

/-- Different names none of which denotes an index. -/
def Ordered (names : List String) : Prop := names.Nodup ∧ ∀ name ∈ names, index? name = none

instance (names : List String) : Decidable (Ordered names) :=
  inferInstanceAs (Decidable (names.Nodup ∧ ∀ name ∈ names, index? name = none))

theorem Ordered.arranged {names : List String} (h : Ordered names) : Arranged names := by
  refine h.1.imp_of_mem fun {a b} _ hb hne => ⟨hne, ?_⟩
  rw [h.2 b hb]
  simp [precedes]

theorem Ordered.sublist {names names' : List String} (h : Ordered names)
    (hsub : names'.Sublist names) : Ordered names' :=
  ⟨h.1.sublist hsub, fun name hname => h.2 name (hsub.subset hname)⟩

theorem ofList_of_ordered {given : List (String × α)} (h : Ordered (given.map Prod.fst)) :
    ofList given = given := ofList_of_arranged h.arranged

theorem assign_of_ordered {given : List (String × α)} (h : Ordered (given.map Prod.fst))
    (hreserved : reserved ∉ given.map Prod.fst) : assign given = given := by
  rw [assign_of_arranged h.arranged, filter_ne_reserved hreserved]

end ProverInput.Members
