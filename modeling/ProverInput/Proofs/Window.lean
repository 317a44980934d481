import ProverInput.Proofs.Number.Capacity
import ProverInput.Proofs.Outcome
import ProverInput.Window

set_option autoImplicit false

/-! # What windows hold

A window only ever holds values that were put into it (`mem_newest`, `fill_eq_ok`), and one whose
capacity is a natural number never holds more than that.

A capacity need not be whole. One that is at least one holds as many values as there are natural
numbers below it: a window of at most one value more is cut down to that many (`newest_eq_rtake`).
The distance from the capacity is exact there, so nothing is lost in rounding.
-/

namespace ProverInput

namespace Window

variable {α : Type}

theorem mem_newest {capacity : Number} {values : List α} {x : α}
    (h : x ∈ newest capacity values) : x ∈ values := List.mem_of_mem_drop h

theorem length_newest_le (capacity : Nat) (values : List α) :
    (newest (.int capacity) values).length ≤ capacity := by
  have h := length_newest capacity values
  rw [Number.natCast_eq] at h
  omega

/-- Filling puts some copies of the value in front. -/
theorem fill_eq_ok {w filled : Window α} {value : α} (h : w.fill value = .ok filled) :
    ∃ n, filled = { w with entries := List.replicate n value ++ w.entries } := by
  obtain ⟨capacity, -, h⟩ := bind_eq_ok.1 h
  obtain ⟨missing, -, h⟩ := bind_eq_ok.1 h
  exact ⟨missing, (Except.ok.inj h).symm⟩

theorem fill_int {w : Window α} {capacity : Int} (h : w.capacity = .int capacity) (value : α) :
    w.fill value = (Number.int (capacity - w.length)).toLength.map fun missing =>
      { w with entries := List.replicate missing value ++ w.entries } := by
  rw [fill, h]
  rfl

/-- An empty window of a whole capacity is filled with copies when a list can hold so many. -/
theorem fill_empty (capacity : Nat) (value : α) :
    (empty (.int capacity)).fill value =
      if capacity < 2 ^ 32 then .ok ⟨List.replicate capacity value, .int capacity⟩
      else .error .badLength := by
  have hlength : (empty (.int capacity) : Window α).length = 0 := rfl
  rw [fill_int rfl, hlength, Nat.cast_zero, sub_zero, Number.toLength]
  by_cases hlist : capacity < 2 ^ 32
  · rw [if_pos (by omega), if_pos hlist, Int.toNat_natCast, Except.map, empty, List.append_nil]
  · rw [if_neg (by omega), if_neg hlist]
    rfl

/-- Only a whole capacity can be filled from nothing, and one that a list can hold. -/
theorem exists_of_fill_empty {capacity : Number} {value : α} {filled : Window α}
    (h : (empty capacity).fill value = .ok filled) : ∃ n : Nat, capacity = .int n ∧ n < 2 ^ 32 := by
  cases capacity with
  | int n =>
      have hlength : (empty (.int n) : Window α).length = 0 := rfl
      rw [fill_int rfl, hlength, Nat.cast_zero, sub_zero, Number.toLength] at h
      split at h
      · rename_i hrange
        exact ⟨n.toNat, by rw [Int.toNat_of_nonneg hrange.1], by omega⟩
      · cases h
  | _ => cases h

/-- The distance of a length from a fractional capacity is rounded, but the part of it that counts
is kept: its numerator has at most 53 bits. -/
theorem excess_fraction {m : Int} {k : Nat} {odd : m % 2 = 1} (h : (1 : Number) ≤ .fraction m k odd)
    (hdouble : Number.IsDouble (.fraction m k odd)) {length : Nat}
    (hlength : length ≤ (Number.fraction m k odd).count + 1) :
    excess length (.fraction m k odd) = length - (Number.fraction m k odd).count := by
  obtain ⟨n, rfl, hlow, hhigh⟩ := Number.numerator_of_one_le h hdouble
  have hrest := Number.mod_pos_of_odd odd k
  rw [Number.count_fraction] at hlength ⊢
  have hexcess : excess length (.fraction (n : Int) k odd) =
      (Number.nearest (length * (2 ^ (k + 1) : Nat) - n) (2 ^ (k + 1))).whole := by
    show (Number.int length - .fraction (n : Int) k odd).whole = _
    rw [Number.int_sub_fraction]
    norm_cast
  rw [hexcess]
  rcases Nat.lt_or_ge n (length * 2 ^ (k + 1)) with hlt | hge
  · exact Number.whole_above hrest hlow hhigh hlt hlength
  · exact Number.whole_below (by positivity) hhigh hge

/-- How much a window that is at most one value too long has to give away. -/
theorem excess_eq {capacity : Number} (h : 1 ≤ capacity) (hdouble : capacity.IsDouble)
    {length : Nat} (hlength : length ≤ capacity.count + 1) (hbeyond : length ≤ Number.beyond) :
    excess length capacity = length - capacity.count := by
  cases capacity with
  | int n => rfl
  | fraction m k odd => exact excess_fraction h hdouble hlength
  | infinite negative =>
      cases negative with
      | false =>
          show 0 = length - Number.beyond
          omega
      | true => cases h
  | nan => cases h

/-- A window of at most one value too many keeps the last ones. -/
theorem newest_eq_rtake {capacity : Number} (h : 1 ≤ capacity) (hdouble : capacity.IsDouble)
    {values : List α} (hlength : values.length ≤ capacity.count + 1)
    (hbeyond : values.length ≤ Number.beyond) :
    newest capacity values = values.rtake capacity.count := by
  rw [newest, excess_eq h hdouble hlength hbeyond, List.rtake]

theorem length_rtake (values : List α) (n : Nat) :
    (values.rtake n).length = min n values.length := by
  rw [List.rtake, List.length_drop]
  omega

/-- The last values leave room exactly when there are not enough of them. -/
theorem length_rtake_lt {values : List α} {n : Nat} :
    (values.rtake n).length < n ↔ values.length < n := by
  rw [length_rtake]
  omega

theorem map_rtake {β : Type} (f : α → β) (values : List α) (n : Nat) :
    (values.rtake n).map f = (values.map f).rtake n := by
  rw [List.rtake, List.rtake, List.map_drop, List.length_map]

theorem rtake_cons (x : α) (values : List α) (n : Nat) :
    (x :: values).rtake n = if values.length < n then x :: values.rtake n else values.rtake n := by
  simp only [List.rtake, List.length_cons]
  split
  · rw [show values.length + 1 - n = 0 by omega, show values.length - n = 0 by omega]
    rfl
  · rw [show values.length + 1 - n = values.length - n + 1 by omega]
    rfl

/-- The last of the last values are the last values. -/
theorem rtake_rtake {values : List α} {n m : Nat} (h : n ≤ m ∨ values.length ≤ m) :
    (values.rtake m).rtake n = values.rtake n := by
  simp only [List.rtake, List.length_drop, List.drop_drop]
  congr 1
  omega

theorem rtake_rtake_concat {values : List α} (x : α) {n m : Nat}
    (h : n ≤ m + 1 ∨ values.length ≤ m) :
    (values.rtake m ++ [x]).rtake n = (values ++ [x]).rtake n := by
  cases n with
  | zero => simp
  | succ n =>
      have hlast : n ≤ m ∨ values.length ≤ m := h.imp_left (by omega)
      rw [List.rtake_concat_succ, List.rtake_concat_succ, rtake_rtake hlast]

/-- A window of a whole capacity holds the last values. -/
theorem newest_int (capacity : Nat) (values : List α) :
    newest (.int capacity) values = values.rtake capacity := rfl

/-- Of a history that grows, only its last values tell in the last values of all. -/
theorem rtake_append_rtake (capacity : Nat) (old new : List α) :
    (old.rtake capacity ++ new).rtake capacity = (old ++ new).rtake capacity :=
  newest_newest_append capacity old new

/-- A window over the last values holds just these. -/
theorem entries_rtake {capacity : Number} (h : 1 ≤ capacity) (hdouble : capacity.IsDouble)
    {values : List α} (hbeyond : values.length < Number.beyond) :
    (ofList (values.rtake capacity.count) capacity).entries = values.rtake capacity.count := by
  have hlength := length_rtake values capacity.count
  show newest capacity _ = _
  rw [newest_eq_rtake h hdouble (by omega) (by omega), rtake_rtake (.inl le_rfl)]

/-- One more value takes a window over the last values of a history to one over the last values of
the longer history. -/
theorem entries_append_rtake {capacity : Number} (h : 1 ≤ capacity) (hdouble : capacity.IsDouble)
    {values : List α} (hbeyond : values.length < Number.beyond) (x : α) :
    ((ofList (values.rtake capacity.count) capacity).append x).entries =
      (values ++ [x]).rtake capacity.count := by
  have hlength : (values.rtake capacity.count ++ [x]).length =
      min capacity.count values.length + 1 := by
    rw [List.length_append, length_rtake, List.length_singleton]
  show newest capacity ((ofList (values.rtake capacity.count) capacity).entries ++ [x]) = _
  rw [entries_rtake h hdouble hbeyond, newest_eq_rtake h hdouble (by omega) (by omega),
    rtake_rtake_concat x (.inl (Nat.le_succ _))]

end Window

end ProverInput
