import Mathlib
import ProverInput.Archive
import ProverInput.Compact

set_option autoImplicit false

/-! # Linked blocks in an archive

A run of blocks is `Linked` when the heights are consecutive and each block names the one before it.
An archive that holds the run, in whatever order and among whatever other records, answers for each
of its blocks by height (`headerAt_getElem`) and from each block for the one before it
(`isChain_leads`).
-/

namespace ProverInput

/-! ## Runs of blocks -/

namespace Header

/-- The target of a record; zero where its bits stand for none. -/
def target (h : Header) : Nat :=
  match Compact.targetOfText h.bits with
  | .ok t => t
  | .error _ => 0

theorem targetOfText_eq {h : Header} (hbits : ∃ t, Compact.targetOfText h.bits = .ok t) :
    Compact.targetOfText h.bits = .ok h.target := by
  obtain ⟨t, ht⟩ := hbits
  rw [target, ht]

/-- A record names another as the one before it. -/
def Names (h previous : Header) : Prop :=
  ∃ hash, link h.previousBlockHash = some hash ∧
    Hex.normalize hash = Hex.normalize previous.hash

end Header

/-- Blocks at consecutive heights from `base` on, oldest first, each after the first naming the one
before it. All heights are below `2 ^ 53`. -/
structure Linked (base : Int) (chain : List Header) : Prop where
  height : ∀ i (hi : i < chain.length), chain[i].height = .int (base + i)
  bound : base + chain.length ≤ Number.exactBound
  bits : ∀ h ∈ chain, ∃ t, Compact.targetOfText h.bits = .ok t
  names : chain.IsChain fun previous h => h.Names previous
  first : ∀ h ∈ chain.head?, Header.link h.previousBlockHash = none ∨ h.height = 0

namespace Linked

variable {base : Int} {chain : List Header}

theorem height_injective (h : Linked base chain) {x y : Header} (hx : x ∈ chain) (hy : y ∈ chain)
    (hxy : x.height = y.height) : x = y := by
  obtain ⟨i, hi, rfl⟩ := List.getElem_of_mem hx
  obtain ⟨j, hj, rfl⟩ := List.getElem_of_mem hy
  rw [h.height i hi, h.height j hj] at hxy
  have hsame : base + i = base + j := Number.int.inj hxy
  have hindex : i = j := by omega
  subst hindex
  rfl

/-- What is left from height zero on is linked too. -/
theorem drop_negative (h : Linked base chain) (hbase : base < 0) :
    Linked 0 (chain.drop (-base).toNat) where
  height i hi := by
    have hlength : (-base).toNat + i < chain.length := by
      rw [List.length_drop] at hi
      omega
    rw [List.getElem_drop, h.height _ hlength]
    congr 1
    push_cast
    omega
  bound := by
    have hbound := h.bound
    rw [List.length_drop]
    omega
  bits x hx := h.bits x (List.mem_of_mem_drop hx)
  names := h.names.drop _
  first x hx := by
    rw [List.head?_drop] at hx
    obtain ⟨hlength, hx⟩ := List.getElem?_eq_some_iff.1 hx
    have hheight := h.height _ hlength
    rw [hx] at hheight
    refine .inr (hheight.trans ?_)
    show Number.int _ = Number.int 0
    congr 1
    omega

end Linked

/-! ## Archives that hold a run -/

namespace Archive

/-- An archive holds a run of blocks: it has each of them, and no other record at its height or with
its hash. -/
def Holds (archive : Archive) (chain : List Header) : Prop :=
  ∀ h ∈ chain, h ∈ archive.headers ∧ ∀ other ∈ archive.headers,
    other.height = h.height ∨ Hex.normalize other.hash = Hex.normalize h.hash → other = h

theorem findLast_eq {archive : Archive} {p : Header → Bool} {h : Header}
    (hmem : h ∈ archive.headers) (hp : p h = true)
    (hunique : ∀ other ∈ archive.headers, p other = true → other = h) :
    archive.findLast p = some h := by
  have hsome : (archive.findLast p).isSome :=
    List.find?_isSome.2 ⟨h, List.mem_reverse.2 hmem, hp⟩
  obtain ⟨other, hother⟩ := Option.isSome_iff_exists.1 hsome
  have hmem' := List.mem_reverse.1 (List.mem_of_find?_eq_some hother)
  rw [hother, hunique other hmem' (List.find?_some hother)]

namespace Holds

variable {archive : Archive} {chain : List Header}

/-- An archive of nothing but linked blocks, in any order, holds them when no two of them share a
hash. -/
theorem of_perm {base : Int} (hlinked : Linked base chain) (hperm : archive.headers.Perm chain)
    (hhashes : (chain.map fun h => Hex.normalize h.hash).Nodup) : archive.Holds chain := by
  intro h hmem
  refine ⟨hperm.mem_iff.2 hmem, fun other hother => ?_⟩
  have hmem' := hperm.mem_iff.1 hother
  rintro (hheight | hhash)
  · exact hlinked.height_injective hmem' hmem hheight
  · exact List.inj_on_of_nodup_map hhashes hmem' hmem hhash

theorem drop (h : archive.Holds chain) (n : Nat) : archive.Holds (chain.drop n) :=
  fun x hx => h x (List.mem_of_mem_drop hx)

/-- The archive finds each block of the run by any spelling of its hash. -/
theorem headerOf (h : archive.Holds chain) {x : Header} (hx : x ∈ chain) {hash : String}
    (hhash : Hex.normalize hash = Hex.normalize x.hash) : archive.source.headerOf hash = .ok x := by
  obtain ⟨hmem, hunique⟩ := h x hx
  have hfind : archive.withHash? hash = some x := by
    refine findLast_eq hmem (decide_eq_true hhash.symm) fun other hother hsame => ?_
    exact hunique other hother (.inr ((of_decide_eq_true hsame).trans hhash))
  simp only [source, hfind]

theorem hashAt (h : archive.Holds chain) {x : Header} (hx : x ∈ chain) :
    archive.source.hashAt x.height = .ok x.hash := by
  obtain ⟨hmem, hunique⟩ := h x hx
  have hfind : archive.atHeight? x.height = some x := by
    refine findLast_eq hmem (decide_eq_true rfl) fun other hother hsame => ?_
    exact hunique other hother (.inl (of_decide_eq_true hsame))
  simp only [source, hfind]

theorem headerAt (h : archive.Holds chain) {x : Header} (hx : x ∈ chain) :
    archive.source.headerAt x.height = .ok x := by
  rw [HeaderSource.headerAt, h.hashAt hx]
  exact h.headerOf hx rfl

end Holds

end Archive

namespace Linked

variable {archive : Archive} {base : Int} {chain : List Header}

theorem headerAt_getElem (h : Linked base chain) (hholds : archive.Holds chain) {i : Nat}
    (hi : i < chain.length) : archive.source.headerAt (.int (base + i)) = .ok chain[i] := by
  rw [← h.height i hi]
  exact hholds.headerAt (List.getElem_mem hi)

/-- Each block of the run leads to the one before it. -/
theorem isChain_leads (h : Linked base chain) (hholds : archive.Holds chain) :
    chain.IsChain fun previous h => ∃ hash, Header.link h.previousBlockHash = some hash ∧
      archive.source.headerOf hash = .ok previous := by
  refine h.names.imp_of_mem_imp fun previous x hprevious _ hnames => ?_
  obtain ⟨hash, hlink, hhash⟩ := hnames
  exact ⟨hash, hlink, hholds.headerOf hprevious hhash⟩

end Linked

end ProverInput
