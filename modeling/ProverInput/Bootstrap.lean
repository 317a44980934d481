import ProverInput.Archive
import ProverInput.ChainState
import ProverInput.Journal
import ProverInput.Text.Blank

set_option autoImplicit false

/-! # The state at a height

The state after a block is built from its header by walking back through its ancestors, as far as
the longer of the two windows needs, until the height is used up or a link is missing. The windows
are never padded: a short one says that the chain is young. The start of the epoch is the time of
the block at the last multiple of the retarget interval.
-/

namespace ProverInput.Bootstrap

/-- What a walk has gathered so far, oldest first. -/
structure Gathered where
  times : List Number
  targets : List Nat
deriving DecidableEq, Repr

/-- The number of ancestors a walk asks for. Neither window is the longer one if the size of one is
not a number, and then it asks for none. -/
def reach (params : Params) (height : Number) : Nat :=
  if params.maxTimestampHistory = .nan ∨ params.powAveragingWindow = .nan then 0
  else min height.count (max params.maxTimestampHistory.count params.powAveragingWindow.count - 1)

/-- Take in the ancestor of a walk: its time and then its target, each while there is room. -/
def gather (params : Params) (ancestor : Header) (g : Gathered) :
    Except ConversionError Gathered := do
  let times :=
    if g.times.length < params.maxTimestampHistory.count then ancestor.time :: g.times
    else g.times
  if g.targets.length < params.powAveragingWindow.count then
    let target ← Compact.targetOfText ancestor.bits
    return ⟨times, target :: g.targets⟩
  else return ⟨times, g.targets⟩

/-- Walk back at most `steps` blocks from `current`. -/
def walk (source : HeaderSource) (params : Params) (height : Number) :
    Nat → Header → Gathered → Logged Failure Gathered
  | 0, _, g => pure g
  | steps + 1, current, g =>
    match Header.link current.previousBlockHash with
    | none => pure g
    | some hash => do
      let ancestor ← source.headerOf hash
      Logged.say .debug s!"Fetched ancestor {ancestor.height} of block {height}"
      let g ← gather params ancestor g
      walk source params height steps ancestor g

/-- The integer of a hexadecimal text without prefix. Blanks at its end do not count. -/
def hexInteger (digits : List Char) : Except Fault Int :=
  match Blank.trimEnd digits with
  | [] => .error .malformedInteger
  | digits => if digits.all Hex.isDigit then .ok (Hex.value digits) else .error .malformedInteger

/-- The work of the chain up to a block: what the record says, or else the work of the block times
the number of blocks. -/
def totalWork (head : Header) (target : Nat) : Except Fault Int :=
  match (Hex.normalize (head.chainwork.getD "")).toList with
  | [] => do
    let blocks ← (head.height + 1).toInteger
    return Compact.workOf target * blocks
  | digits => hexInteger digits

/-- The height at which the epoch of a height starts. -/
def epochHeight (params : Params) (height : Number) : Number :=
  (height / params.retargetInterval).floor * params.retargetInterval

/-- The time at which the epoch of a height starts. -/
def epochStart (source : HeaderSource) (params : Params) (height : Number) :
    Except ConversionError Number :=
  if params.retargetInterval ≤ height then
    Header.time <$> source.headerAt (epochHeight params height)
  else .ok params.genesisTime

/-- The state after the block `head`. -/
def fromHeader (source : HeaderSource) (params : Params) (head : Header) :
    Logged Failure ChainState := do
  let target ← Compact.targetOfText head.bits
  let g ← walk source params head.height (reach params head.height) head ⟨[head.time], [target]⟩
  let epochStartTime ← epochStart source params head.height
  let work ← totalWork head target
  return {
    blockHeight := head.height
    totalWork := work
    bestBlockHash := Hex.normalize head.hash
    currentTarget := target
    prevTimestamps := g.times
    epochStartTime := epochStartTime
    powTargetHistory := g.targets.map Int.ofNat }

/-- The state after the block at a height. -/
def atHeight (source : HeaderSource) (params : Params) (height : Number) :
    Logged Failure ChainState := do
  let head ← source.headerAt height
  fromHeader source params head

end ProverInput.Bootstrap
