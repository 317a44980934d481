import ProverInput.Number.Arithmetic

set_option autoImplicit false

/-! # Network upgrades and consensus parameters

Each upgrade is active from its activation height on. The newest active upgrade is found by
walking the upgrades in order up to the first inactive one. From Blossom on blocks come faster,
and from Heartwood on the header commitment is read from another field.
-/

namespace ProverInput

inductive Upgrade where
  | overwinter
  | sapling
  | blossom
  | heartwood
  | canopy
  | nu5
deriving DecidableEq, Repr

namespace Upgrade

/-- The upgrades in the order of their activation. -/
def order : List Upgrade := [overwinter, sapling, blossom, heartwood, canopy, nu5]

def name : Upgrade → String
  | overwinter => "overwinter"
  | sapling => "sapling"
  | blossom => "blossom"
  | heartwood => "heartwood"
  | canopy => "canopy"
  | nu5 => "nu5"

end Upgrade

/-- The constants of a network. -/
structure Params where
  /-- Blocks in the difficulty averaging window. -/
  powAveragingWindow : Number
  /-- Blocks in the median-time window. -/
  medianTimeWindow : Number
  /-- Block times a chain state keeps. -/
  maxTimestampHistory : Number
  activationHeight : Upgrade → Number
  /-- Seconds between blocks before Blossom. -/
  preBlossomSpacing : Number
  /-- Seconds between blocks from Blossom on. -/
  postBlossomSpacing : Number
  /-- Compact form of the easiest target. -/
  powLimitBits : Number
  /-- Blocks per epoch. -/
  retargetInterval : Number
  /-- Time of the first block. -/
  genesisTime : Number

namespace Params

def mainnet : Params where
  powAveragingWindow := 17
  medianTimeWindow := 11
  maxTimestampHistory := 28
  activationHeight
    | .overwinter => 347500
    | .sapling => 419200
    | .blossom => 653600
    | .heartwood => 903000
    | .canopy => 1046400
    | .nu5 => 1687104
  preBlossomSpacing := 150
  postBlossomSpacing := 75
  powLimitBits := 0x1d00ffff
  retargetInterval := 2016
  genesisTime := 1477953400

/-- Whether an upgrade is active at a height. -/
def isActive (params : Params) (u : Upgrade) (height : Number) : Bool :=
  params.activationHeight u ≤ height

/-- The newest upgrade reached from Overwinter without passing an inactive one. -/
def newestActive (params : Params) (height : Number) : Option Upgrade :=
  (Upgrade.order.takeWhile fun u => params.isActive u height).getLast?

/-- Expected seconds between blocks. -/
def targetSpacing (params : Params) (height : Number) : Number :=
  if params.isActive .blossom height then params.postBlossomSpacing else params.preBlossomSpacing

end Params

/-- The field of a header record that holds the header commitment. -/
inductive CommitmentField where
  | finalSaplingRoot
  | blockCommitments
deriving DecidableEq, Repr

namespace CommitmentField

def name : CommitmentField → String
  | finalSaplingRoot => "finalsaplingroot"
  | blockCommitments => "blockcommitments"

/-- Up to Heartwood the commitment is the Sapling root; from Heartwood on it is the commitment to
the light-client root or the block's contents. -/
def atHeight (params : Params) (height : Number) : CommitmentField :=
  if params.isActive .heartwood height then blockCommitments else finalSaplingRoot

end CommitmentField

end ProverInput
