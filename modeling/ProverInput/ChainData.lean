import ProverInput.Block
import ProverInput.Bootstrap
import ProverInput.ChainState.Checkpoint

set_option autoImplicit false

/-! # Chain data

The prover gets a chain state, the blocks that come after it, and the state they lead to. The
blocks are found by following the links of the header records. The first state is given out with
the target of the first block in place of its own.
-/

namespace ProverInput

structure ChainData where
  chainState : ChainState
  blocks : List Block
  /-- The state after the last block. -/
  expected : ChainState
deriving DecidableEq, Repr

namespace ChainData

/-- Take `left` more blocks from the one with hash `next` on, of which `taken` are done. -/
def follow (source : HeaderSource) (params : Params) (start count : Number) :
    Nat → Nat → Option String → ChainState → Logged Failure (List Block × ChainState)
  | 0, _, _, state => pure ([], state)
  | left + 1, taken, next, state => do
    let height := start + taken + 1
    match Header.link next with
    | none => throw (.conversion (.noNextBlock height))
    | some hash =>
      let header ← source.headerOf hash
      let state ← state.advance params header
      let block ← Block.ofHeader params header
      Logged.say .info s!"Fetched block {height} {taken + 1}/{count}"
      let (blocks, last) ← follow source params start count left (taken + 1)
        header.nextBlockHash state
      return (block :: blocks, last)

/-- The state with the target of the first of the blocks, if there is one. -/
def retarget (state : ChainState) : List Block → Except ConversionError ChainState
  | [] => .ok state
  | first :: _ => do
    let target ← Compact.targetOf first.header.bits
    return { state with currentTarget := target }

/-- The chain state at height `start` and the `count` blocks after it. -/
def generate (source : HeaderSource) (params : Params) (start count : Number) :
    Logged Failure ChainData := do
  Logged.say .debug
    s!"Fetching initial chain state, blocks: [{start + 1}, {start + count}]"
  let head ← source.headerAt start
  let initial ← Bootstrap.fromHeader source params head
  let (blocks, expected) ← follow source params start count count.count 0 head.nextBlockHash
    initial
  let chainState ← retarget initial blocks
  return ⟨chainState, blocks, expected⟩

def toJson (d : ChainData) : Json :=
  .object
    [("chain_state", d.chainState.toJson),
     ("blocks", .array (d.blocks.map Block.toJson)),
     ("expected", d.expected.toJson)]

end ChainData

end ProverInput
