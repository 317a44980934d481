import ProverInput.Compact
import ProverInput.Equihash
import ProverInput.Header
import ProverInput.Upgrade

set_option autoImplicit false

/-! # Blocks as the prover reads them

A block is the selection of header fields the prover consumes, hashes in lowercase and absent ones
as zeros, with its compact target and solution decoded. Which field holds the commitment depends
on the upgrade active at the height and not on what the record carries.
-/

namespace ProverInput

structure BlockHeader where
  version : Number
  /-- The header commitment: the Sapling root, or the block commitments from Heartwood on. -/
  commitment : String
  time : Number
  bits : Number
  nonce : String
  /-- Indices of the solution; none when the record has no solution. -/
  indices : List Number
deriving DecidableEq, Repr

structure Block where
  header : BlockHeader
  /-- The form of the transaction data; zero is the bare Merkle root. -/
  variantId : Number
  merkleRoot : String
deriving DecidableEq, Repr

/-- The hash of 64 zeros, which stands for an absent one. -/
def zeroHash : String := String.ofList (List.replicate 64 '0')

/-- The field of a record that holds its commitment. -/
def Header.commitment (params : Params) (h : Header) : Option String :=
  match CommitmentField.atHeight params h.height with
  | .finalSaplingRoot => h.finalSaplingRoot
  | .blockCommitments => h.blockCommitments

namespace BlockHeader

def ofHeader (params : Params) (h : Header) : Except Failure BlockHeader := do
  let bits ← Compact.parse h.bits
  let indices ← Equihash.mainnet.decodeText (h.solution.getD "")
  return {
    version := h.version
    commitment := Hex.normalize ((h.commitment params).getD zeroHash)
    time := h.time
    bits := (bits : Number)
    nonce := Hex.normalize (h.nonce.getD zeroHash)
    indices := indices.map .int }

def toJson (h : BlockHeader) : Json :=
  .object
    [("version", .number h.version),
     ("final_sapling_root", .string h.commitment),
     ("time", .number h.time),
     ("bits", .number h.bits),
     ("nonce", .string h.nonce),
     ("indices", .array (h.indices.map .number))]

end BlockHeader

namespace Block

/-- The block of a record, with the bare Merkle root as its data. -/
def ofHeader (params : Params) (h : Header) : Except Failure Block := do
  let header ← BlockHeader.ofHeader params h
  return ⟨header, 0, Hex.normalize (h.merkleRoot.getD zeroHash)⟩

def toJson (b : Block) : Json :=
  .object
    [("header", b.header.toJson),
     ("data", .object
       [("variant_id", .number b.variantId), ("merkle_root", .string b.merkleRoot)])]

end Block

end ProverInput
