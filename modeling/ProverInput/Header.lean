import ProverInput.Json

set_option autoImplicit false

/-! # Block-header records

A record as it comes from the chain: the fields that matter here, with texts kept as given, and
behind them whatever else the record may hold.
-/

namespace ProverInput

structure Header where
  height : Number
  hash : String
  previousBlockHash : Option String
  nextBlockHash : Option String
  time : Number
  /-- Compact target, eight hexadecimal digits. -/
  bits : String
  nonce : Option String
  solution : Option String
  version : Number
  merkleRoot : Option String
  finalSaplingRoot : Option String
  blockCommitments : Option String
  /-- Work of the chain up to this block, hexadecimal. -/
  chainwork : Option String
  /-- Members that do not matter here. -/
  others : List (String × Json)
deriving Repr

namespace Header

/-- A link to another block; an empty text is none. -/
def link (hash : Option String) : Option String := hash.filter (· ≠ "")

/-- The record with only the members it has. -/
def toJson (h : Header) : Json :=
  let text (name : String) (value : Option String) : List (String × Json) :=
    value.toList.map fun s => (name, .string s)
  .object <|
    [("height", .number h.height), ("hash", .string h.hash)] ++
    text "previousblockhash" h.previousBlockHash ++
    text "nextblockhash" h.nextBlockHash ++
    [("time", .number h.time), ("bits", .string h.bits)] ++
    text "nonce" h.nonce ++
    text "solution" h.solution ++
    [("version", .number h.version)] ++
    text "merkleroot" h.merkleRoot ++
    text "finalsaplingroot" h.finalSaplingRoot ++
    text "blockcommitments" h.blockCommitments ++
    text "chainwork" h.chainwork ++
    h.others

end Header

end ProverInput
