import ProverInput.ChainState
import ProverInput.Header.Check

set_option autoImplicit false

/-! # Checkpoints

A chain state is saved as a document in which big integers are decimal texts, and restored from
one. Restoring checks every member and then that both windows fit their capacities.
-/

namespace ProverInput

namespace Check

/-- Decimal digits, at least one. -/
def isDecimal (text : List Char) : Bool := !text.isEmpty && text.all Char.isDigit

def decimal : Check String := text isDecimal "Must be a decimal string"

end Check

namespace ChainState

/-- The document a state is saved as. -/
def toJson (state : ChainState) : Json :=
  .object
    [("block_height", .number state.blockHeight),
     ("total_work", .decimal state.totalWork),
     ("best_block_hash", .string state.bestBlockHash),
     ("current_target", .decimal state.currentTarget),
     ("prev_timestamps", .array (state.prevTimestamps.map .number)),
     ("epoch_start_time", .number state.epochStartTime),
     ("pow_target_history", .array (state.powTargetHistory.map .decimal))]

/-- The integer written by decimal digits. -/
def ofDigits (text : String) : Int := Nat.ofDigitChars 10 text.toList 0

/-- The state a document describes, without regard to capacities. -/
def ofMembers (height : Number) (work hash target : String) (times : List Number)
    (epochStart : Number) (targets : List String) : ChainState where
  blockHeight := height
  totalWork := ofDigits work
  bestBlockHash := String.ofList (Lowercase.lower hash.toList)
  currentTarget := ofDigits target
  prevTimestamps := times
  epochStartTime := epochStart
  powTargetHistory := targets.map ofDigits

open Check (member word decimal hash64 list) in
/-- The members of a checkpoint against their forms. -/
def checkMembers (doc : Json) : Checked ChainState :=
  ofMembers <$> member word "block_height" doc
    <*> member decimal "total_work" doc
    <*> member hash64 "best_block_hash" doc
    <*> member decimal "current_target" doc
    <*> member (list word) "prev_timestamps" doc
    <*> member word "epoch_start_time" doc
    <*> member (list decimal) "pow_target_history" doc

/-- Whether both windows are within their capacities. -/
def fits (params : Params) (state : ChainState) : Bool :=
  !(params.maxTimestampHistory < (state.prevTimestamps.length : Number)) &&
    !(params.powAveragingWindow < (state.powTargetHistory.length : Number))

/-- The state restored from a checkpoint. -/
def ofJson (params : Params) (doc : Json) : Except ConversionError ChainState := do
  let state ← (Check.object checkMembers doc).orElse .chainState
  if state.fits params then return state else throw .windowsTooLong

end ChainState

end ProverInput
