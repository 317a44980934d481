import ProverInput.Proofs.Number.Order
import ProverInput.Upgrade

set_option autoImplicit false

/-! # The newest active upgrade

The newest active upgrade is found by a walk that stops at the first inactive one, while the spacing
of blocks and the commitment field ask for a single upgrade each. When the activation heights do not
fall along the order of the upgrades, the walk does not stop too early: every upgrade before an
active one is active. So an upgrade is active exactly when the newest active one stands at or after
it (`isActive_iff_reaches`), and what hangs on one upgrade can be read off the newest one. An upgrade
stays active at all greater heights (`isActive_mono`), so nothing is ever switched back
(`newestActive_governs`).
-/

namespace ProverInput

namespace Upgrade

/-- An upgrade stands at the place of `u` or after it in the order of activation. -/
def AtOrAfter (v u : Upgrade) : Prop := order.idxOf u ≤ order.idxOf v

instance (v u : Upgrade) : Decidable (v.AtOrAfter u) :=
  inferInstanceAs (Decidable (order.idxOf u ≤ order.idxOf v))

theorem mem_order (u : Upgrade) : u ∈ order := by cases u <;> decide

theorem nodup_order : order.Nodup := by decide

end Upgrade

/-- The last entry of a walk that stops before the first entry without `p` is at or after exactly
the entries with `p`, as long as no entry with `p` stands behind one without. -/
theorem iff_getLast?_takeWhile {α : Type} [DecidableEq α] {p : α → Bool} {order : List α}
    (hnodup : order.Nodup) (hdown : order.Pairwise fun a b => p b = true → p a = true) {u : α}
    (hu : u ∈ order) :
    p u = true ↔ ∃ v, (order.takeWhile p).getLast? = some v ∧ order.idxOf u ≤ order.idxOf v := by
  induction order with
  | nil => cases hu
  | cons a rest ih =>
      obtain ⟨ha, hrest⟩ := List.nodup_cons.1 hnodup
      obtain ⟨hbefore, hdown⟩ := List.pairwise_cons.1 hdown
      by_cases hp : p a = true
      · rw [List.takeWhile_cons_of_pos hp, List.getLast?_cons]
        by_cases hua : u = a
        · subst hua
          refine iff_of_true hp ⟨_, rfl, ?_⟩
          rw [List.idxOf_cons_self]
          exact Nat.zero_le _
        · -- positions behind `a` are those in the rest, moved by one
          have hmem : u ∈ rest := (List.mem_cons.1 hu).resolve_left hua
          have hau : a ≠ u := Ne.symm hua
          rw [ih hrest hdown hmem, List.idxOf_cons_ne rest hau]
          cases hlast : (rest.takeWhile p).getLast? with
          | none => simp
          | some v =>
              have hv : v ∈ rest :=
                (List.takeWhile_sublist p).subset (List.mem_of_getLast? hlast)
              have hav : a ≠ v := fun h => ha (h ▸ hv)
              simp [List.idxOf_cons_ne rest hav]
      · -- the walk is empty, and nothing behind `a` has `p`
        rw [List.takeWhile_cons_of_neg hp]
        refine iff_of_false (fun h => ?_) (by simp)
        rcases List.mem_cons.1 hu with rfl | hmem
        · exact hp h
        · exact hp (hbefore u hmem h)

namespace Params

variable {params : Params}

/-- The activation heights do not fall along the order of the upgrades; several upgrades may
activate at one height. -/
def Ordered (params : Params) : Prop :=
  (Upgrade.order.map params.activationHeight).IsChain (· ≤ ·)

instance (params : Params) : Decidable params.Ordered :=
  inferInstanceAs (Decidable ((Upgrade.order.map params.activationHeight).IsChain (· ≤ ·)))

/-- There is a newest active upgrade, and it stands at or after `u`. -/
def Reaches (params : Params) (height : Number) (u : Upgrade) : Prop :=
  ∃ v, params.newestActive height = some v ∧ v.AtOrAfter u

instance (params : Params) (height : Number) (u : Upgrade) :
    Decidable (params.Reaches height u) :=
  decidable_of_iff ((params.newestActive height).any fun v => v.AtOrAfter u) <| by
    unfold Reaches
    cases params.newestActive height <;> simp

theorem isActive_iff {u : Upgrade} {height : Number} :
    params.isActive u height = true ↔ params.activationHeight u ≤ height := by
  rw [isActive, decide_eq_true_eq]

/-- An active upgrade stays active at all greater heights. -/
theorem isActive_mono {u : Upgrade} {height height' : Number} (hle : height ≤ height')
    (h : params.isActive u height = true) : params.isActive u height' = true :=
  isActive_iff.2 (Number.le_trans (isActive_iff.1 h) hle)

/-- Every upgrade before an active one is active. -/
theorem Ordered.pairwise_isActive (h : params.Ordered) (height : Number) :
    Upgrade.order.Pairwise fun u v =>
      params.isActive v height = true → params.isActive u height = true := by
  have hheights : Upgrade.order.Pairwise fun u v =>
      params.activationHeight u ≤ params.activationHeight v := List.pairwise_map.1 h.pairwise
  refine hheights.imp fun hle hactive => ?_
  exact isActive_iff.2 (Number.le_trans hle (isActive_iff.1 hactive))

theorem isActive_iff_reaches (h : params.Ordered) (u : Upgrade) (height : Number) :
    params.isActive u height = true ↔ params.Reaches height u :=
  iff_getLast?_takeWhile Upgrade.nodup_order (h.pairwise_isActive height) (Upgrade.mem_order u)

theorem reaches_newestActive {u : Upgrade} {height : Number}
    (h : params.newestActive height = some u) : params.Reaches height u := ⟨u, h, le_refl _⟩

/-- Let the activation heights not fall along the order of the upgrades. Then an upgrade is active
exactly when the newest active one stands at or after it. The newest active upgrade never moves back
as the height grows. The commitment field and the spacing of blocks are those of the newest active
upgrade, and neither switches back as the height grows. -/
theorem newestActive_governs (hordered : params.Ordered) :
    (∀ u height, params.isActive u height = true ↔ params.Reaches height u) ∧
    (∀ height height', height ≤ height' → ∀ u, params.newestActive height = some u →
      ∃ v, params.newestActive height' = some v ∧ v.AtOrAfter u) ∧
    (∀ height, CommitmentField.atHeight params height =
      if params.Reaches height .heartwood then .blockCommitments else .finalSaplingRoot) ∧
    (∀ height, params.targetSpacing height =
      if params.Reaches height .blossom then params.postBlossomSpacing
      else params.preBlossomSpacing) ∧
    ∀ height height', height ≤ height' →
      (CommitmentField.atHeight params height = .blockCommitments →
        CommitmentField.atHeight params height' = .blockCommitments) ∧
      (params.targetSpacing height = params.postBlossomSpacing →
        params.targetSpacing height' = params.postBlossomSpacing) := by
  have hiff := isActive_iff_reaches hordered
  refine ⟨hiff, ?_, ?_, ?_, ?_⟩
  · intro height height' hle u hu
    have hactive : params.isActive u height = true :=
      (hiff u height).2 (reaches_newestActive hu)
    exact (hiff u height').1 (isActive_mono hle hactive)
  · intro height
    simp only [CommitmentField.atHeight, hiff]
  · intro height
    simp only [targetSpacing, hiff]
  · intro height height' hle
    constructor
    · intro h
      unfold CommitmentField.atHeight at h ⊢
      split at h
      · rename_i hactive
        rw [if_pos (isActive_mono hle hactive)]
      · cases h
    · intro h
      unfold targetSpacing at h ⊢
      split at h
      · rename_i hactive
        rw [if_pos (isActive_mono hle hactive)]
      · -- both spacings are the same here
        rw [h, ite_self]

/-- A network on which three upgrades activate at one height and the last one never does. -/
def crowded : Params :=
  { mainnet with
    activationHeight := fun
      | .overwinter => 0
      | .sapling => 5
      | .blossom => 5
      | .heartwood => 5
      | .canopy => 7
      | .nu5 => .infinite false }

/-- The three upgrades become active together, and the newest one moves past all of them. -/
theorem newestActive_governs_crowded :
    crowded.Ordered ∧ (crowded.isActive .sapling 5 = true ∧ crowded.Reaches 5 .sapling) ∧
      ((4 : Number) ≤ 5 ∧ crowded.newestActive 4 = some .overwinter ∧
        ∃ v, crowded.newestActive 5 = some v ∧ v.AtOrAfter .overwinter) ∧
      CommitmentField.atHeight crowded 4 = .finalSaplingRoot ∧
      CommitmentField.atHeight crowded 5 = .blockCommitments ∧
      CommitmentField.atHeight crowded 7 = .blockCommitments ∧
      crowded.targetSpacing 4 = 150 ∧ crowded.targetSpacing 5 = 75 ∧
      crowded.targetSpacing 7 = 75 := by
  have hordered : crowded.Ordered := by decide
  obtain ⟨hiff, hforward, hfield, hspacing, hkept⟩ := newestActive_governs hordered
  have hreaches : crowded.Reaches 5 .sapling := (hiff _ _).1 (by decide)
  have hfield5 : CommitmentField.atHeight crowded 5 = .blockCommitments :=
    (hfield 5).trans (if_pos (by decide))
  have hspacing5 : crowded.targetSpacing 5 = 75 := (hspacing 5).trans (if_pos (by decide))
  obtain ⟨hfield7, hspacing7⟩ := hkept 5 7 (by decide)
  refine ⟨hordered, ⟨by decide, hreaches⟩, ⟨by decide, by decide, ?_⟩, ?_, hfield5,
    hfield7 hfield5, ?_, hspacing5, hspacing7 hspacing5⟩
  · exact hforward 4 5 (by decide) .overwinter (by decide)
  · exact (hfield 4).trans (if_neg (by decide))
  · exact (hspacing 4).trans (if_neg (by decide))

end Params

end ProverInput
