import ProverInput.ChainData
import ProverInput.Proofs.Json.RoundTrip
import ProverInput.Proofs.Text.Digits

set_option autoImplicit false

/-! # Documents of chain data

Chain data is `Storable` when its numbers are whole, its big integers natural and its hashes
hexadecimal digits. Its document is then plain (`ChainData.plain_toJson`), so it reads back from
every layout of its text.
-/

namespace ProverInput

/-- What a document keeps of a chain state. -/
structure ChainState.Storable (state : ChainState) : Prop where
  blockHeight : state.blockHeight.IsWhole
  totalWork : 0 ≤ state.totalWork
  bestBlockHash : Check.isHash state.bestBlockHash.toList = true
  currentTarget : 0 ≤ state.currentTarget
  prevTimestamps : ∀ time ∈ state.prevTimestamps, time.IsWhole
  epochStartTime : state.epochStartTime.IsWhole
  powTargetHistory : ∀ target ∈ state.powTargetHistory, 0 ≤ target

/-- What a document keeps of a block. The nonce may have any number of digits. -/
structure Block.Storable (b : Block) : Prop where
  version : b.header.version.IsWhole
  commitment : Check.isHash b.header.commitment.toList = true
  time : b.header.time.IsWhole
  bits : b.header.bits.IsWhole
  nonce : b.header.nonce.toList.all Hex.isDigit = true
  indices : ∀ index ∈ b.header.indices, index.IsWhole
  variantId : b.variantId.IsWhole
  merkleRoot : Check.isHash b.merkleRoot.toList = true

structure ChainData.Storable (d : ChainData) : Prop where
  chainState : d.chainState.Storable
  blocks : ∀ b ∈ d.blocks, b.Storable
  expected : d.expected.Storable

/-! ## The absent hash -/

theorem toList_zeroHash : zeroHash.toList = List.replicate 64 '0' := String.toList_ofList

theorem isHash_zeroHash : Check.isHash zeroHash.toList = true := by
  rw [toList_zeroHash]
  decide

/-! ## Plain parts -/

theorem all_isPlain_digits {text : List Char} (h : text.all Hex.isDigit = true) :
    text.all Json.isPlain = true := by
  rw [List.all_eq_true] at h ⊢
  intro c hc
  exact Hex.forall_isDigit (fun c => Json.isPlain c = true) (by decide) (h c hc)

theorem plain_hash {hash : String} (h : Check.isHash hash.toList = true) :
    (Json.string hash).Plain := all_isPlain_digits (Hex.isHash_iff.1 h).2

theorem plain_decimal {n : Int} (h : 0 ≤ n) : (Json.decimal n).Plain := by
  obtain ⟨n, rfl⟩ := Int.eq_ofNat_of_zero_le h
  refine all_isPlain_digits (List.all_eq_true.2 fun c hc => Hex.isDigit_of_decimal ?_)
  rw [Number.toList_toString] at hc
  exact List.all_eq_true.1 (Number.all_isDigit_toDigits n) c hc

theorem plain_numbers {xs : List Number} (h : ∀ x ∈ xs, x.IsWhole) :
    (Json.array (xs.map .number)).Plain := by
  refine Json.plainItems_of_forall ?_
  intro item hitem
  obtain ⟨x, hx, rfl⟩ := List.mem_map.1 hitem
  exact h x hx

theorem plain_decimals {ns : List Int} (h : ∀ n ∈ ns, 0 ≤ n) :
    (Json.array (ns.map .decimal)).Plain := by
  refine Json.plainItems_of_forall ?_
  intro item hitem
  obtain ⟨n, hn, rfl⟩ := List.mem_map.1 hitem
  exact plain_decimal (h n hn)

/-! ## Plain documents -/

/-- The names of the members of a chain state. -/
def ChainState.names : List String :=
  ["block_height", "total_work", "best_block_hash", "current_target", "prev_timestamps",
    "epoch_start_time", "pow_target_history"]

def BlockHeader.names : List String :=
  ["version", "final_sapling_root", "time", "bits", "nonce", "indices"]

def Block.names : List String := ["header", "data"]

def Block.dataNames : List String := ["variant_id", "merkle_root"]

def ChainData.names : List String := ["chain_state", "blocks", "expected"]

theorem ChainState.ordered_names : Members.Ordered names := by decide +kernel

theorem BlockHeader.ordered_names : Members.Ordered names := by decide +kernel

theorem Block.ordered_names : Members.Ordered names := by decide +kernel

theorem Block.ordered_dataNames : Members.Ordered dataNames := by decide +kernel

theorem ChainData.ordered_names : Members.Ordered names := by decide +kernel

theorem ChainState.plain_toJson {state : ChainState} (h : state.Storable) :
    state.toJson.Plain := by
  refine ⟨ordered_names, ?_⟩
  exact ⟨by decide, h.blockHeight, by decide, plain_decimal h.totalWork, by decide,
    plain_hash h.bestBlockHash, by decide, plain_decimal h.currentTarget, by decide,
    plain_numbers h.prevTimestamps, by decide, h.epochStartTime, by decide,
    plain_decimals h.powTargetHistory, trivial⟩

theorem Block.plain_toJson {b : Block} (h : b.Storable) : b.toJson.Plain := by
  have hheader : b.header.toJson.Plain :=
    ⟨BlockHeader.ordered_names, by decide, h.version, by decide, plain_hash h.commitment,
      by decide, h.time, by decide, h.bits, by decide, all_isPlain_digits h.nonce, by decide,
      plain_numbers h.indices, trivial⟩
  have hdata : (Json.object [("variant_id", .number b.variantId),
      ("merkle_root", .string b.merkleRoot)]).Plain :=
    ⟨ordered_dataNames, by decide, h.variantId, by decide, plain_hash h.merkleRoot, trivial⟩
  exact ⟨ordered_names, by decide, hheader, by decide, hdata, trivial⟩

theorem ChainData.plain_toJson {d : ChainData} (h : d.Storable) : d.toJson.Plain := by
  have hblocks : (Json.array (d.blocks.map Block.toJson)).Plain := by
    refine Json.plainItems_of_forall ?_
    intro item hitem
    obtain ⟨b, hb, rfl⟩ := List.mem_map.1 hitem
    exact Block.plain_toJson (h.blocks b hb)
  exact ⟨ordered_names, by decide, ChainState.plain_toJson h.chainState, by decide, hblocks,
    by decide, ChainState.plain_toJson h.expected, trivial⟩

end ProverInput
