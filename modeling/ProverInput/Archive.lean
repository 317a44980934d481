import ProverInput.Header.Check

set_option autoImplicit false

/-! # Header sources

A header source answers two questions: which hash has the block at a height, and which header has
a hash. An archive is a source over records held in memory. Of several records with one height, or
with one hash up to its spelling, the last one answers.
-/

namespace ProverInput

structure HeaderSource where
  hashAt : Number → Except ConversionError String
  headerOf : String → Except ConversionError Header

namespace HeaderSource

/-- The header at a height, by way of its hash. -/
def headerAt (source : HeaderSource) (height : Number) : Except ConversionError Header :=
  source.hashAt height >>= source.headerOf

end HeaderSource

/-- Records in the order in which they were given. -/
structure Archive where
  headers : List Header
deriving Repr

namespace Archive

/-- The archive of documents that all pass their check; the first one that does not is the
error. -/
def ofDocuments (docs : List Json) : Except ConversionError Archive :=
  Archive.mk <$> docs.mapM Header.ofJson

/-- The last record with a property. -/
def findLast (archive : Archive) (p : Header → Bool) : Option Header :=
  archive.headers.reverse.find? p

/-- The last record at a height. -/
def atHeight? (archive : Archive) (height : Number) : Option Header :=
  archive.findLast fun h => h.height = height

/-- The last record whose hash is spelled like `hash` up to prefix and case. -/
def withHash? (archive : Archive) (hash : String) : Option Header :=
  let normal := Hex.normalize hash
  archive.findLast fun h => Hex.normalize h.hash = normal

/-- The number of different hashes. -/
def size (archive : Archive) : Nat :=
  (archive.headers.map fun h => Hex.normalize h.hash).eraseDups.length

def source (archive : Archive) : HeaderSource where
  hashAt height :=
    match archive.atHeight? height with
    | some h => .ok h.hash
    | none => .error (.noBlockAt height)
  headerOf hash :=
    match archive.withHash? hash with
    | some h => .ok h
    | none => .error (.noBlockWithHash hash)

end Archive

end ProverInput
