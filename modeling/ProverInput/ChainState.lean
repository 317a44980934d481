import ProverInput.Compact
import ProverInput.Header
import ProverInput.Upgrade
import ProverInput.Window

set_option autoImplicit false

/-! # Chain states

A chain state is the rolling snapshot of consensus history after a block: enough to check the
next one. A step takes the state after block `h` to the state after block `h + 1` and looks at
nothing but the state, the header and the parameters.
-/

namespace ProverInput

structure ChainState where
  blockHeight : Number
  totalWork : Int
  /-- Block hash in display order. -/
  bestBlockHash : String
  currentTarget : Int
  /-- Block times, oldest first. -/
  prevTimestamps : List Number
  epochStartTime : Number
  /-- Targets, oldest first. -/
  powTargetHistory : List Int
deriving DecidableEq, Repr

namespace ChainState

/-- The targets the averaging window holds after one more. An empty history is first filled with
the easiest target of the main network. -/
def extendTargets (params : Params) (history : List Int) (target : Int) :
    Except Fault (List Int) := do
  let window := Window.ofList history params.powAveragingWindow
  let window ← if window.isEmpty then window.fill (Compact.powLimit : Int) else pure window
  return (window.append target).entries

/-- The block times after one more. -/
def extendTimes (params : Params) (times : List Number) (time : Number) : List Number :=
  ((Window.ofList times params.maxTimestampHistory).append time).entries

/-- Whether an epoch starts at a height. -/
def startsEpoch (params : Params) (height : Number) : Bool :=
  (height % params.retargetInterval).same 0

/-- The state after one more block. The header is trusted to be the next one. -/
def advance (params : Params) (state : ChainState) (header : Header) :
    Except Failure ChainState := do
  let target ← Compact.targetOfText header.bits
  let targets ← extendTargets params state.powTargetHistory target
  return {
    blockHeight := header.height
    totalWork := state.totalWork + Compact.workOf target
    bestBlockHash := Hex.normalize header.hash
    currentTarget := target
    prevTimestamps := extendTimes params state.prevTimestamps header.time
    epochStartTime :=
      if startsEpoch params header.height then header.time else state.epochStartTime
    powTargetHistory := targets }

/-- The state after one more block, which must be the next one. -/
def applyNext (params : Params) (state : ChainState) (header : Header) :
    Except Failure ChainState :=
  if header.height.same (state.blockHeight + 1) then state.advance params header
  else .error (.conversion (.headerGap header.height state.blockHeight))

/-- The state after a run of blocks, which must follow each other without gaps. -/
def applyAll (params : Params) (state : ChainState) (headers : List Header) :
    Except Failure ChainState :=
  headers.foldlM (applyNext params) state

@[simp] theorem applyAll_nil (params : Params) (state : ChainState) :
    state.applyAll params [] = .ok state := rfl

theorem applyAll_cons (params : Params) (state : ChainState) (header : Header)
    (headers : List Header) :
    state.applyAll params (header :: headers) =
      (state.applyNext params header).bind fun next => next.applyAll params headers := rfl

/-- A run of blocks may be cut anywhere. -/
theorem applyAll_append (params : Params) (state : ChainState) (first second : List Header) :
    state.applyAll params (first ++ second) =
      (state.applyAll params first).bind fun middle => middle.applyAll params second := by
  simp only [applyAll, List.foldlM_append]
  rfl

end ChainState

end ProverInput
