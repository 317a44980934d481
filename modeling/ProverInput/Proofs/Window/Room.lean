import ProverInput.Proofs.Window

set_option autoImplicit false

/-! # Room in a window

A window has room for as many entries as its capacity says, rounded up (`Number.room`). What fits is
kept as it is (`newest_of_fits`), and one more entry goes in at the end and pushes out the oldest
one when there is no room for both (`length_newest_concat`, `getLast?_newest_concat`).
-/

namespace ProverInput

namespace Window

variable {α : Type} {capacity : Number} {values : List α}

/-- Of at most one entry more than fits, as many are kept as fit. -/
theorem length_newest_room (h : 1 ≤ capacity) (hdouble : capacity.IsDouble)
    (hfits : (values.length : ℕ∞) ≤ capacity.room + 1) :
    ((newest capacity values).length : ℕ∞) = min capacity.room values.length := by
  rw [newest, List.length_drop]
  rcases Number.room_cases h with ⟨rfl, hroom⟩ | ⟨p, hp, -, hroom⟩
  · rw [hroom, top_inf_eq]
    rfl
  · rw [hroom] at hfits ⊢
    have hlength : values.length ≤ capacity.count + 1 := by exact_mod_cast hfits
    have hexcess : excess values.length capacity = values.length - capacity.count := by
      cases capacity with
      | int n => rfl
      | fraction m k odd => exact excess_fraction h hdouble hlength
      | infinite negative => cases hp
      | nan => cases hp
    rw [hexcess]
    rcases le_total capacity.count values.length with hle | hle
    · rw [min_eq_left (by exact_mod_cast hle), Nat.sub_sub_self hle]
    · rw [min_eq_right (by exact_mod_cast hle), Nat.sub_eq_zero_of_le hle, Nat.sub_zero]

theorem newest_of_fits (h : 1 ≤ capacity) (hdouble : capacity.IsDouble)
    (hfits : (values.length : ℕ∞) ≤ capacity.room) : newest capacity values = values := by
  have hlength := length_newest_room h hdouble (le_trans hfits le_self_add)
  rw [min_eq_right hfits] at hlength
  exact (List.drop_suffix _ _).eq_of_length (by exact_mod_cast hlength)

theorem length_newest_concat (h : 1 ≤ capacity) (hdouble : capacity.IsDouble)
    (hfits : (values.length : ℕ∞) ≤ capacity.room) (x : α) :
    ((newest capacity (values ++ [x])).length : ℕ∞) = min capacity.room (values.length + 1) := by
  have hlength : ((values ++ [x]).length : ℕ∞) = values.length + 1 := by simp
  rw [length_newest_room h hdouble (by rw [hlength]; exact add_le_add_left hfits 1), hlength]

theorem getLast?_newest_concat (h : 1 ≤ capacity) (hdouble : capacity.IsDouble)
    (hfits : (values.length : ℕ∞) ≤ capacity.room) (x : α) :
    (newest capacity (values ++ [x])).getLast? = some x := by
  have hlength := length_newest_concat h hdouble hfits x
  have hpos : (1 : ℕ∞) ≤ (newest capacity (values ++ [x])).length := by
    rw [hlength]
    exact le_min (Number.one_le_room h) le_add_self
  have hne : 1 ≤ (newest capacity (values ++ [x])).length := by exact_mod_cast hpos
  rw [newest, List.length_drop] at hne
  rw [newest, List.getLast?_drop, if_neg (by omega), List.getLast?_concat]

end Window

end ProverInput
