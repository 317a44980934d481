import ProverInput.ChainData
import ProverInput.Field.Arguments

set_option autoImplicit false

/-! # Program arguments

Chain data as field values. The order of the fields is the order of the prover's structures:

    ChainState  block_height, total_work, best_block_hash, current_target,
                prev_timestamps, epoch_start_time, pow_target_history
    Block       header (version, final_sapling_root, time, bits, nonce, indices),
                data (variant_id, merkle_root)
    Args        chain_state, blocks, expected

A number that is not whole has no field value, which ends the whole construction.
-/

namespace ProverInput

def ChainState.toField (state : ChainState) : Except Fault Field := do
  let height ← Field.feltOf state.blockHeight
  let times ← state.prevTimestamps.mapM Field.feltOf
  let epochStart ← Field.feltOf state.epochStartTime
  return .record
    [("block_height", .single height),
     ("total_work", .single (.u256 state.totalWork)),
     ("best_block_hash", .single (.digest state.bestBlockHash)),
     ("current_target", .single (.u256 state.currentTarget)),
     ("prev_timestamps", .single (.array times)),
     ("epoch_start_time", .single epochStart),
     ("pow_target_history", .single (.array (state.powTargetHistory.map .u256)))]

def BlockHeader.toField (h : BlockHeader) : Except Fault Field := do
  let version ← Field.feltOf h.version
  let time ← Field.feltOf h.time
  let bits ← Field.feltOf h.bits
  let indices ← h.indices.mapM Field.feltOf
  return .record
    [("version", .single version),
     ("final_sapling_root", .single (.digest h.commitment)),
     ("time", .single time),
     ("bits", .single bits),
     ("nonce", .single (.digest h.nonce)),
     ("indices", .single (.array indices))]

def Block.toField (b : Block) : Except Fault Field := do
  let header ← b.header.toField
  let variant ← Field.feltOf b.variantId
  return .record
    [("header", .single header),
     ("data", .single (.record
       [("variant_id", .single variant), ("merkle_root", .single (.digest b.merkleRoot))]))]

namespace ChainData

def toField (d : ChainData) : Except Fault Field := do
  let chainState ← d.chainState.toField
  let blocks ← d.blocks.mapM Block.toField
  let expected ← d.expected.toField
  return .record
    [("chain_state", .single chainState),
     ("blocks", .single (.array blocks)),
     ("expected", .single expected)]

/-- The prover's arguments for chain data. -/
def hexArgs (d : ChainData) : Except Failure (List HexArg) := do
  let field ← d.toField
  field.hexArgs

end ChainData

end ProverInput
