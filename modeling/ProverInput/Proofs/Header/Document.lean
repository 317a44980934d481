import ProverInput.Proofs.ChainData.Document
import ProverInput.Proofs.Header.Check

set_option autoImplicit false

/-! # Documents of header records

The document of a checked record has only those members that the record has. Their names are some of
one list of different names, in the same order (`PlainAmong`), and their texts are digits behind a
prefix or behind none. So the document is plain whichever members are there (`Header.plain_toJson`),
and reads back from every layout of its text.
-/

namespace ProverInput

/-! ## Texts -/

/-- A prefix needs no escapes either. -/
theorem all_isPlain_of_dropMark {text : List Char}
    (h : (Hex.dropMark text).all Hex.isDigit = true) : text.all Json.isPlain = true := by
  unfold Hex.dropMark at h
  split at h
  · rename_i rest
    show ('0' :: 'x' :: rest).all Json.isPlain = true
    rw [List.all_cons, List.all_cons, all_isPlain_digits h]
    decide
  · rename_i rest
    show ('0' :: 'X' :: rest).all Json.isPlain = true
    rw [List.all_cons, List.all_cons, all_isPlain_digits h]
    decide
  · exact all_isPlain_digits h

theorem plain_hexText {s : String} (h : Check.isHexText s.toList = true) :
    (Json.string s).Plain := all_isPlain_of_dropMark (Hex.all_isDigit_dropMark h)

theorem plain_compact {s : String} (h : Check.isCompact s.toList = true) :
    (Json.string s).Plain := by
  rw [Check.isCompact, Bool.and_eq_true] at h
  exact all_isPlain_of_dropMark h.2

/-! ## Members of one list of names -/

namespace Json

/-- Members with plain values whose names are some of the given ones, in the same order. -/
structure PlainAmong (names : List String) (members : List (String × Json)) : Prop where
  names : (members.map Prod.fst).Sublist names
  plain : ∀ m ∈ members, m.2.Plain

namespace PlainAmong

theorem append {names names' : List String} {members members' : List (String × Json)}
    (h : PlainAmong names members) (h' : PlainAmong names' members') :
    PlainAmong (names ++ names') (members ++ members') where
  names := by
    rw [List.map_append]
    exact h.names.append h'.names
  plain := List.forall_mem_append.2 ⟨h.plain, h'.plain⟩

theorem required (name : String) {value : Json} (h : value.Plain) :
    PlainAmong [name] [(name, value)] :=
  ⟨List.Sublist.refl _, List.forall_mem_singleton.2 h⟩

theorem number (name : String) {x : Number} (h : x.IsWhole) :
    PlainAmong [name] [(name, .number x)] := required name (show (Json.number x).Plain from h)

/-- A member whose text may be missing. -/
theorem text (name : String) {value : Option String}
    (h : ∀ s, value = some s → (Json.string s).Plain) :
    PlainAmong [name] (value.toList.map fun s => (name, .string s)) := by
  cases value with
  | none => exact ⟨List.nil_sublist _, List.forall_mem_nil _⟩
  | some s => exact required name (h s rfl)

theorem plain_object {names : List String} {members : List (String × Json)}
    (h : PlainAmong names members) (hordered : Members.Ordered names)
    (hnames : ∀ name ∈ names, name.toList.all isPlain = true) : (Json.object members).Plain := by
  refine ⟨hordered.sublist h.names, plainMembers_of_forall fun m hm => ⟨?_, h.plain m hm⟩⟩
  exact hnames m.1 (h.names.subset (List.mem_map_of_mem hm))

end PlainAmong

end Json

/-! ## Records -/

namespace Header

open Json (PlainAmong)

/-- The document of a checked record without other members is plain. -/
theorem plain_toJson {h : Header} (hvalid : h.Valid) (hheight : h.height.IsWhole)
    (hothers : h.others = []) : h.toJson.Plain := by
  have hash (name : String) {value : Option String}
      (hvalue : ∀ s, value = some s → Check.isHash s.toList = true) :=
    PlainAmong.text name fun s hs => plain_hash (hvalue s hs)
  have digits (name : String) {value : Option String}
      (hvalue : ∀ s, value = some s → Check.isHexText s.toList = true) :=
    PlainAmong.text name fun s hs => plain_hexText (hvalue s hs)
  -- member by member, in the order of the document
  have hmembers := ((PlainAmong.number "height" hheight).append
      (.required "hash" (plain_hash hvalid.hash)))
    |>.append (hash "previousblockhash" hvalid.previousBlockHash)
    |>.append (hash "nextblockhash" hvalid.nextBlockHash)
    |>.append ((PlainAmong.number "time" hvalid.time.isWhole).append
      (.required "bits" (plain_compact hvalid.bits)))
    |>.append (digits "nonce" hvalid.nonce)
    |>.append (digits "solution" hvalid.solution)
    |>.append (.number "version" hvalid.version.isWhole)
    |>.append (hash "merkleroot" hvalid.merkleRoot)
    |>.append (hash "finalsaplingroot" hvalid.finalSaplingRoot)
    |>.append (hash "blockcommitments" hvalid.blockCommitments)
    |>.append (digits "chainwork" hvalid.chainwork)
  rw [toJson, hothers, List.append_nil]
  exact hmembers.plain_object (by decide +kernel) (by decide)

end Header

end ProverInput
