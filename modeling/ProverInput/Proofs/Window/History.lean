import ProverInput.Proofs.Window

set_option autoImplicit false

/-! # Windows over a history

A window is appended to, filled and resized in any order (`Operation`, `run`). What it holds at any
time are the last values of a history, as many as its capacity allows (`History.window`): appending
makes the history longer behind, filling makes a history that is too short longer in front, and
resizing forgets the values that are out of view.

One operation on the window is the same operation on the history (`after_window`), unless a window
is to be filled that misses more entries than a list can hold, which takes a capacity of `2 ^ 32` or
more. So a sequence of operations is the same sequence on the history (`run_window`), and every
window behaves as one over a history does (`rolls_window`).
-/

namespace ProverInput.Window

variable {α : Type}

/-! ## Operations -/

inductive Operation (α : Type) where
  | append (value : α)
  | fill (value : α)
  | resize (capacity : Nat)

def after (w : Window α) : Operation α → Except Fault (Window α)
  | .append value => .ok (w.append value)
  | .fill value => w.fill value
  | .resize capacity => .ok (w.resize (.int capacity))

/-- The window after operations, each on the window that the one before it leaves. -/
def run (w : Window α) (operations : List (Operation α)) : Except Fault (Window α) :=
  operations.foldlM after w

/-! ## Histories -/

/-- Values, oldest first, and the capacity of a window over them. -/
structure History (α : Type) where
  values : List α
  capacity : Nat

namespace History

/-- The window over a history shows its last values. -/
def window (h : History α) : Window α := ⟨h.values.rtake h.capacity, .int h.capacity⟩

def missing (h : History α) : Nat := h.capacity - h.values.length

/-- Appending adds a value behind and filling adds those that are missing in front. Values that are
out of view do not come into view again when the capacity grows. -/
def after (h : History α) : Operation α → History α
  | .append value => { h with values := h.values ++ [value] }
  | .fill value => { h with values := List.replicate h.missing value ++ h.values }
  | .resize capacity => ⟨h.values.rtake h.capacity, capacity⟩

end History

theorem length_window (h : History α) : h.window.length = min h.capacity h.values.length :=
  length_rtake h.values h.capacity

/-- What a history misses is what its window misses. -/
theorem missing_eq (h : History α) : h.missing = h.capacity - h.window.length := by
  rw [length_window, History.missing]
  omega

/-! ## One operation -/

theorem append_window (h : History α) (value : α) :
    h.window.append value = (h.after (.append value)).window :=
  congrArg (Window.mk · _) (rtake_append_rtake h.capacity h.values [value])

theorem resize_window (h : History α) (capacity : Nat) :
    h.window.resize (.int capacity) = (h.after (.resize capacity)).window := rfl

/-- Copies for all that is missing leave the last values where they are. -/
theorem rtake_fill (h : History α) (value : α) :
    (List.replicate h.missing value ++ h.values).rtake h.capacity =
      List.replicate h.missing value ++ h.values.rtake h.capacity := by
  rcases Nat.le_total h.capacity h.values.length with hle | hle
  · -- nothing is missing
    rw [History.missing, Nat.sub_eq_zero_of_le hle]
    rfl
  · -- nothing is out of view
    have hlength : (List.replicate h.missing value ++ h.values).length - h.capacity = 0 := by
      rw [List.length_append, List.length_replicate, History.missing]
      omega
    rw [List.rtake, List.rtake, hlength, Nat.sub_eq_zero_of_le hle]
    rfl

theorem fill_window (h : History α) (value : α) :
    h.window.fill value =
      if h.missing < 2 ^ 32 then .ok (h.after (.fill value)).window else .error .badLength := by
  have hmissing : (h.capacity : Int) - h.window.length = h.missing := by
    have hlength := length_window h
    rw [missing_eq]
    omega
  rw [fill_int rfl, hmissing, Number.toLength]
  by_cases hlist : h.missing < 2 ^ 32
  · rw [if_pos (by omega), if_pos hlist, Int.toNat_natCast]
    exact congrArg (fun entries => Except.ok (Window.mk entries _)) (rtake_fill h value).symm
  · rw [if_neg (by omega), if_neg hlist]
    rfl

/-- An operation on a window is the operation on the history, if no list would get too long. -/
theorem after_window (h : History α) (operation : Operation α) :
    h.window.after operation = .ok (h.after operation).window ∨
      h.window.after operation = .error .badLength ∧ 2 ^ 32 ≤ h.capacity := by
  cases operation with
  | append value => exact .inl (congrArg Except.ok (append_window h value))
  | resize capacity => exact .inl (congrArg Except.ok (resize_window h capacity))
  | fill value =>
      have hfill := fill_window h value
      split at hfill
      · exact .inl hfill
      · refine .inr ⟨hfill, ?_⟩
        rename_i hlong
        rw [History.missing] at hlong
        omega

/-! ## Any operations -/

theorem run_cons (w : Window α) (operation : Operation α) (operations : List (Operation α)) :
    w.run (operation :: operations) = w.after operation >>= (·.run operations) := rfl

/-- The capacity of a history after an operation is the one that it was resized to. -/
theorem capacity_after (h : History α) (operation : Operation α) :
    (h.after operation).capacity = h.capacity ∨
      operation = .resize (h.after operation).capacity := by
  cases operation with
  | append value => exact .inl rfl
  | fill value => exact .inl rfl
  | resize capacity => exact .inr rfl

/-- Operations on a window are the operations on the history, if all capacities are lengths that a
list can have. -/
theorem run_window (h : History α) (operations : List (Operation α)) :
    h.window.run operations = .ok (operations.foldl History.after h).window ∨
      h.window.run operations = .error .badLength ∧
        (2 ^ 32 ≤ h.capacity ∨ ∃ c, .resize c ∈ operations ∧ 2 ^ 32 ≤ c) := by
  induction operations generalizing h with
  | nil => exact .inl rfl
  | cons operation operations ih =>
      rw [run_cons, List.foldl_cons]
      rcases after_window h operation with hok | ⟨herror, hlong⟩
      · rw [hok]
        refine (ih (h.after operation)).imp_right (And.imp_right ?_)
        rintro (hlong | ⟨c, hmem, hlong⟩)
        · rcases capacity_after h operation with hkept | hresize
          · exact .inl (hkept ▸ hlong)
          · exact .inr ⟨_, hresize ▸ List.mem_cons_self, hlong⟩
        · exact .inr ⟨c, List.mem_cons_of_mem _ hmem, hlong⟩
      · rw [herror]
        exact .inr ⟨rfl, .inl hlong⟩

theorem run_append_window (h : History α) (values : List α) :
    h.window.run (values.map .append) = .ok (History.window ⟨h.values ++ values, h.capacity⟩) := by
  induction values generalizing h with
  | nil =>
      rw [List.append_nil]
      rfl
  | cons value values ih =>
      have hstep : h.window.after (.append value) = .ok (h.after (.append value)).window :=
        congrArg Except.ok (append_window h value)
      rw [List.map_cons, run_cons, hstep, List.append_cons]
      exact ih (h.after (.append value))

/-! ## Windows of whole capacities -/

/-- What a window of a whole capacity holds after each of the operations. It holds the last values
that fit, filling it makes it full, and only a list that would get too long keeps it from being
filled. -/
structure Rolls (capacity : Nat) (w : Window α) : Prop where
  capacity_eq : w.capacity = .int capacity
  length_le : w.length ≤ capacity
  run_append : ∀ values, w.run (values.map .append) =
    .ok ⟨(w.entries ++ values).rtake capacity, .int capacity⟩
  resize_eq : ∀ next : Nat, w.resize (.int next) = ⟨w.entries.rtake (min next w.length), .int next⟩
  fill_eq : ∀ value filled, w.fill value = .ok filled →
    filled = ⟨List.replicate (capacity - w.length) value ++ w.entries, .int capacity⟩
  isFull_fill : ∀ value filled, w.fill value = .ok filled → filled.isFull = true
  fill_fill : ∀ value filled, w.fill value = .ok filled → ∀ next, filled.fill next = .ok filled
  exists_fill : capacity < 2 ^ 32 → ∀ value, ∃ filled, w.fill value = .ok filled
  fill_refused : 2 ^ 32 ≤ capacity - w.length → ∀ value, w.fill value = .error .badLength

theorem eq_of_fill_window {h : History α} {value : α} {filled : Window α}
    (hfilled : h.window.fill value = .ok filled) : filled = (h.after (.fill value)).window := by
  rw [fill_window] at hfilled
  split at hfilled
  · exact (Except.ok.inj hfilled).symm
  · cases hfilled

/-- After filling, nothing is missing. -/
theorem missing_fill (h : History α) (value : α) : (h.after (.fill value)).missing = 0 := by
  show h.capacity - (List.replicate h.missing value ++ h.values).length = 0
  rw [List.length_append, List.length_replicate, History.missing]
  omega

theorem fill_window_of_missing {h : History α} (hmissing : h.missing = 0) (value : α) :
    h.window.fill value = .ok h.window := by
  rw [fill_window, hmissing, if_pos (by norm_num), History.after, hmissing]
  rfl

theorem isFull_of_missing {h : History α} (hmissing : h.missing = 0) : h.window.isFull = true := by
  have hlength : h.window.length = h.capacity := by
    rw [missing_eq] at hmissing
    have hle := length_window h
    omega
  rw [isFull, Number.same_iff, hlength]
  exact ⟨rfl, by simp⟩

theorem rolls_window (h : History α) : Rolls h.capacity h.window where
  capacity_eq := rfl
  length_le := by
    rw [length_window]
    exact Nat.min_le_left _ _
  run_append values := by
    rw [run_append_window]
    exact congrArg (fun entries => Except.ok (Window.mk entries _))
      (rtake_append_rtake h.capacity h.values values).symm
  resize_eq next := by
    -- the last of all are no more than there are
    have hmin : h.window.entries.length - min next h.window.length =
        h.window.entries.length - next := by
      rw [length]
      omega
    rw [List.rtake, hmin]
    rfl
  fill_eq value filled hfilled := by
    rw [eq_of_fill_window hfilled, ← missing_eq, History.window, History.after, rtake_fill]
    rfl
  isFull_fill value filled hfilled := by
    rw [eq_of_fill_window hfilled]
    exact isFull_of_missing (missing_fill h value)
  fill_fill value filled hfilled next := by
    rw [eq_of_fill_window hfilled]
    exact fill_window_of_missing (missing_fill h value) next
  exists_fill hlist value := by
    have hmissing : h.missing < 2 ^ 32 := lt_of_le_of_lt (Nat.sub_le _ _) hlist
    exact ⟨_, (fill_window h value).trans (if_pos hmissing)⟩
  fill_refused hlong value := by
    rw [← missing_eq] at hlong
    exact (fill_window h value).trans (if_neg hlong.not_gt)

/-- Whatever is done to a window, it holds the last values of its history, never more than its
capacity, and goes on to do so. No operation fails as long as lists can be as long as the capacities
say. -/
theorem run_keeps_newest (values : List α) (capacity : Nat) (operations : List (Operation α)) :
    (∀ w, (ofList values (.int capacity)).run operations = .ok w →
      w = (operations.foldl History.after ⟨values, capacity⟩).window ∧
        Rolls (operations.foldl History.after ⟨values, capacity⟩).capacity w) ∧
    ((capacity < 2 ^ 32 ∧ ∀ c, .resize c ∈ operations → c < 2 ^ 32) →
      ∃ w, (ofList values (.int capacity)).run operations = .ok w) := by
  have hstart : ofList values (.int capacity) = History.window ⟨values, capacity⟩ := rfl
  rw [hstart]
  rcases run_window ⟨values, capacity⟩ operations with hok | ⟨herror, hlong⟩
  · rw [hok]
    refine ⟨fun w hw => ?_, fun _ => ⟨_, rfl⟩⟩
    obtain rfl := Except.ok.inj hw
    exact ⟨rfl, rolls_window _⟩
  · rw [herror]
    refine ⟨fun w hw => (nomatch hw), fun ⟨hcapacity, hresizes⟩ => ?_⟩
    rcases hlong with hlong | ⟨c, hmem, hlong⟩
    · exact absurd hcapacity hlong.not_gt
    · exact absurd (hresizes c hmem) hlong.not_gt

/-- What is out of view stays so when the window gets wider, and a window without room takes
nothing in. -/
theorem run_keeps_newest_interleaved :
    let operations : List (Operation Nat) :=
      [.append 5, .resize 5, .fill 9, .append 6, .resize 0, .append 7, .resize 2, .append 8]
    ∃ w, (ofList [1, 2, 3, 4] (.int (3 : Nat))).run operations = .ok w ∧
      w.entries = [8] ∧ w.run [.append 6, .append 7] = .ok ⟨[6, 7], .int 2⟩ ∧
      w.fill 0 = .ok ⟨[0, 8], .int 2⟩ := by
  intro operations
  obtain ⟨w, hw⟩ := (run_keeps_newest [1, 2, 3, 4] 3 operations).2
    ⟨by norm_num, by simp [operations]⟩
  obtain ⟨rfl, hrolls⟩ := (run_keeps_newest [1, 2, 3, 4] 3 operations).1 w hw
  refine ⟨_, hw, rfl, hrolls.run_append [6, 7], ?_⟩
  obtain ⟨filled, hfilled⟩ := hrolls.exists_fill (by decide) 0
  rw [hfilled, hrolls.fill_eq 0 filled hfilled]
  rfl

/-- No list has `2 ^ 32` entries, so a window of this capacity cannot be filled. -/
theorem run_fill_beyond_lists :
    (ofList ([] : List Nat) (.int (4294967296 : Nat))).run [.fill 7] = .error .badLength ∧
      ¬ ∃ w, (ofList ([] : List Nat) (.int (4294967296 : Nat))).run [.fill 7] = .ok w := by
  have hfill : (ofList ([] : List Nat) (.int (4294967296 : Nat))).run [.fill 7] =
      .error .badLength := rfl
  refine ⟨hfill, ?_⟩
  rintro ⟨w, hw⟩
  rw [hfill] at hw
  cases hw

end ProverInput.Window
