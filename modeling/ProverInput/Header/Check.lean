import ProverInput.Checked
import ProverInput.Header
import ProverInput.Text.Hex

set_option autoImplicit false

/-! # The schema of header records

Five members are required and eight optional. Every member that is there must have its form; other
members are dropped. A failing record is reported with all its complaints, in the order of the
fields of `Header`.
-/

namespace ProverInput

namespace Check

/-- A hash: 64 hexadecimal digits without prefix. -/
def isHash (text : List Char) : Bool := text.length == 64 && text.all Hex.isDigit

def hash64 : Check String := text isHash "Must be a 64-character hex string"

/-- Any number of hexadecimal digits behind an optional lowercase prefix. -/
def isHexText : List Char → Bool
  | '0' :: 'x' :: rest => rest.all Hex.isDigit
  | text => text.all Hex.isDigit

def hexText : Check String := text isHexText "Must be a hex string"

/-- Eight hexadecimal digits behind an optional prefix. -/
def isCompact (text : List Char) : Bool :=
  (Hex.dropMark text).length == 8 && (Hex.dropMark text).all Hex.isDigit

def compact : Check String := text isCompact "Must be 8 hex characters"

end Check

namespace Header

open Check (member optionalMember natural word hash64 hexText compact)

/-- The members of a record against their forms. -/
def checkMembers (doc : Json) : Checked Header :=
  Header.mk <$> member natural "height" doc
    <*> member hash64 "hash" doc
    <*> optionalMember hash64 "previousblockhash" doc
    <*> optionalMember hash64 "nextblockhash" doc
    <*> member word "time" doc
    <*> member compact "bits" doc
    <*> optionalMember hexText "nonce" doc
    <*> optionalMember hexText "solution" doc
    <*> member word "version" doc
    <*> optionalMember hash64 "merkleroot" doc
    <*> optionalMember hash64 "finalsaplingroot" doc
    <*> optionalMember hash64 "blockcommitments" doc
    <*> optionalMember hexText "chainwork" doc
    <*> .valid []

def check (doc : Json) : Checked Header := Check.object checkMembers doc

/-- The record a document holds. -/
def ofJson (doc : Json) : Except ConversionError Header := (check doc).orElse .headerRecord

end Header

end ProverInput
