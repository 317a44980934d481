import ProverInput.Proofs.ChainState.Checkpoint
import ProverInput.Proofs.Text.Decimal

set_option autoImplicit false

/-! # The documents of a chain state

A document is restored exactly when it holds the members of a checkpoint and its two lists are
within the capacities (`exists_ofJson_iff`). Many documents hold the same state: they may have
other members besides, zeros in front of a big integer and capitals in the hash. Without these, and
with the members in the order in which they are written, there is one document left for each state
(`canonical`), and it is the one that the state is saved as (`toJson_of_ofJson`). So a state that was
restored is restored again from its own document, and two documents hold the same state exactly when
their canonical forms are the same.
-/

namespace ProverInput.ChainState

variable {params : Params} {state : ChainState} {doc : Json} {times targets : Nat}

/-! ## Canonical documents -/

/-- Decimal digits without the zeros in front. -/
def trimmed : Json → Json
  | .string s => .string (String.ofList (Decimal.trimZeros s.toList))
  | other => other

/-- A text in small letters. -/
def lowered : Json → Json
  | .string s => .string (String.ofList (s.toList.map Char.toLower))
  | other => other

/-- A list with each of its items changed. -/
def eachItem (change : Json → Json) : Json → Json
  | .array items => .array (items.map change)
  | other => other

/-- The members of a checkpoint in the order in which they are written, and what is changed in
them. -/
def memberForms : List (String × (Json → Json)) :=
  [("block_height", id), ("total_work", trimmed), ("best_block_hash", lowered),
   ("current_target", trimmed), ("prev_timestamps", id), ("epoch_start_time", id),
   ("pow_target_history", eachItem trimmed)]

/-- A document without any other members, without zeros in front of its big integers and with its
hash in small letters. -/
def canonical (doc : Json) : Json :=
  .object (memberForms.filterMap fun (key, change) =>
    (doc.get? key).map fun value => (key, change value))

/-- A document with the members of a checkpoint, of at most so many block times and targets. -/
def IsCheckpoint (times targets : Nat) (doc : Json) : Prop :=
  ∃ height work hash target blockTimes epochStart blockTargets,
    Holds doc height work hash target blockTimes epochStart blockTargets ∧
      blockTimes.length ≤ times ∧ blockTargets.length ≤ targets

/-! ## Restored states -/

theorem ofDigits_nonneg (text : String) : 0 ≤ ofDigits text := Int.natCast_nonneg _

/-- The decimal text of what a decimal text stands for. -/
theorem decimal_ofDigits {text : String} (h : Check.IsDecimal text) :
    Json.decimal (ofDigits text) = trimmed (.string text) := by
  have hall : text.toList.all Char.isDigit = true := by
    have hform := Check.isDecimal_iff.2 h
    rw [Check.isDecimal, Bool.and_eq_true] at hform
    exact hform.2
  have htext : (toString (ofDigits text)).toList = Decimal.trimZeros text.toList := by
    rw [ofDigits, Number.toList_toString, Decimal.toDigits_ofDigitChars hall]
  rw [Json.decimal, trimmed, ← htext, String.ofList_toList]

/-- A hash has no prefix to lose in its normal form. -/
theorem lower_hash {hash : String} (h : Check.IsHash hash) :
    String.ofList (Lowercase.lower hash.toList) = Hex.normalize hash := by
  rw [Hex.normalize, Hex.dropMark_digits (Hex.isHash_iff.1 (Check.isHash_iff.2 h)).2]

theorem string_normalize {hash : String} (h : Check.IsHash hash) :
    Json.string (Hex.normalize hash) = lowered (.string hash) := by
  rw [lowered, ← Hex.toList_normalize (Hex.isHash_iff.1 (Check.isHash_iff.2 h)).2,
    String.ofList_toList]

section

variable {height epochStart : Number} {work hash target : String} {blockTimes : List Number}
  {blockTargets : List String}

/-- The state that a document holds can be saved when its lists are within the capacities. -/
theorem Holds.saveable (h : Holds doc height work hash target blockTimes epochStart blockTargets)
    (hfits : (ofMembers height work hash target blockTimes epochStart blockTargets).fits params) :
    (ofMembers height work hash target blockTimes epochStart blockTargets).Saveable params := by
  obtain ⟨hnatural, hbound⟩ := Check.isWord_iff.1 h.height_word
  have hhash := Check.isHash_iff.2 h.hash_digits
  refine ⟨{
    blockHeight := hnatural
    totalWork := ofDigits_nonneg work
    bestBlockHash := ?_
    lowercase := ?_
    currentTarget := ofDigits_nonneg target
    prevTimestamps := h.times_word
    epochStartTime := h.epochStart_word
    powTargetHistory := ?_
    fits := hfits }, hbound⟩
  · rw [ofMembers, lower_hash h.hash_digits]
    exact Hex.isHash_normalize hhash
  · rw [ofMembers, lower_hash h.hash_digits]
    exact Hex.not_isUpper_normalize hhash
  · intro t ht
    obtain ⟨text, -, rfl⟩ := List.mem_map.1 ht
    exact ofDigits_nonneg text

/-- The document that the state of a document is saved as. -/
theorem Holds.toJson_ofMembers
    (h : Holds doc height work hash target blockTimes epochStart blockTargets) :
    (ofMembers height work hash target blockTimes epochStart blockTargets).toJson =
      canonical doc := by
  have hhistory : (blockTargets.map ofDigits).map Json.decimal =
      (blockTargets.map Json.string).map trimmed := by
    rw [List.map_map, List.map_map]
    exact List.map_congr_left fun text htext => decimal_ofDigits (h.targets_decimal text htext)
  have hhash : Json.string (String.ofList (Lowercase.lower hash.toList)) =
      lowered (.string hash) := by
    rw [lower_hash h.hash_digits, string_normalize h.hash_digits]
  simp only [canonical, memberForms, List.filterMap_cons, List.filterMap_nil, h.blockHeight,
    h.totalWork, h.bestBlockHash, h.currentTarget, h.prevTimestamps, h.epochStartTime,
    h.powTargetHistory, Option.map_some, eachItem, id, ← hhistory, ← hhash,
    ← decimal_ofDigits h.work_decimal, ← decimal_ofDigits h.target_decimal]
  rfl

end

theorem exists_ofJson_iff (htimes : params.maxTimestampHistory = .int times)
    (htargets : params.powAveragingWindow = .int targets) :
    (∃ state, ofJson params doc = .ok state) ↔ IsCheckpoint times targets doc := by
  constructor
  · rintro ⟨state, hstate⟩
    obtain ⟨hvalid, hfits⟩ := ofJson_eq_ok.1 hstate
    obtain ⟨_, _, _, _, blockTimes, _, blockTargets, hholds, rfl⟩ := checkMembers_valid_iff.1 hvalid
    obtain ⟨hshort, hshort'⟩ := (fits_iff htimes htargets).1 hfits
    rw [ofMembers, List.length_map] at hshort'
    exact ⟨_, _, _, _, blockTimes, _, blockTargets, hholds, hshort, hshort'⟩
  · rintro ⟨_, _, _, _, blockTimes, _, blockTargets, hholds, hshort, hshort'⟩
    refine ⟨_, ofJson_eq_ok.2 ⟨checkMembers_valid_iff.2 ⟨_, _, _, _, _, _, _, hholds, rfl⟩, ?_⟩⟩
    rw [fits_iff htimes htargets, ofMembers, List.length_map]
    exact ⟨hshort, hshort'⟩

/-- A restored state is saved as the canonical form of its document. -/
theorem toJson_of_ofJson (h : ofJson params doc = .ok state) : state.toJson = canonical doc := by
  obtain ⟨_, _, _, _, _, _, _, hholds, rfl⟩ := checkMembers_valid_iff.1 (ofJson_eq_ok.1 h).1
  exact hholds.toJson_ofMembers

theorem saveable_of_ofJson (h : ofJson params doc = .ok state) : state.Saveable params := by
  obtain ⟨hvalid, hfits⟩ := ofJson_eq_ok.1 h
  obtain ⟨_, _, _, _, _, _, _, hholds, rfl⟩ := checkMembers_valid_iff.1 hvalid
  exact hholds.saveable hfits

/-- Restoring accepts exactly the documents of checkpoints. What it gives is saved as the canonical
form of the document and restored from it again, so two documents give the same state exactly when
their canonical forms are the same. -/
theorem ofJson_canonical (htimes : params.maxTimestampHistory = .int times)
    (htargets : params.powAveragingWindow = .int targets) :
    (∀ doc, (∃ state, ofJson params doc = .ok state) ↔ IsCheckpoint times targets doc) ∧
    (∀ doc state, ofJson params doc = .ok state →
      state.toJson = canonical doc ∧ ofJson params state.toJson = .ok state) ∧
    ∀ doc doc' state state', ofJson params doc = .ok state → ofJson params doc' = .ok state' →
      (state = state' ↔ canonical doc = canonical doc') := by
  refine ⟨fun doc => exists_ofJson_iff htimes htargets, fun doc state h => ?_, ?_⟩
  · exact ⟨toJson_of_ofJson h, ofJson_toJson (saveable_of_ofJson h)⟩
  · intro doc doc' state state' h h'
    rw [← toJson_of_ofJson h, ← toJson_of_ofJson h']
    constructor
    · exact congrArg toJson
    · intro hsame
      have hrestored := ofJson_toJson (saveable_of_ofJson h)
      rw [hsame, ofJson_toJson (saveable_of_ofJson h')] at hrestored
      exact (Except.ok.inj hrestored).symm

/-- A document with another member, with members in another order, with zeros in front and with
capitals in the hash. -/
theorem ofJson_canonical_spelled :
    let doc : Json := .object
      [("pow_target_history", .array [.string "007", .string "00"]), ("note", .null),
       ("block_height", .number 5), ("total_work", .string "0120"),
       ("best_block_hash", .string (String.ofList (List.replicate 64 'A'))),
       ("current_target", .string "7"), ("prev_timestamps", .array []),
       ("epoch_start_time", .number 1)]
    let doc' : Json := .object
      [("block_height", .number 5), ("total_work", .string "120"),
       ("best_block_hash", .string (String.ofList (List.replicate 64 'a'))),
       ("current_target", .string "7"), ("prev_timestamps", .array []),
       ("epoch_start_time", .number 1),
       ("pow_target_history", .array [.string "7", .string "0"])]
    (Params.mainnet.maxTimestampHistory = .int (28 : Nat) ∧
      Params.mainnet.powAveragingWindow = .int (17 : Nat) ∧ IsCheckpoint 28 17 doc) ∧
      ∃ state, ofJson Params.mainnet doc = .ok state ∧ state.toJson = doc' ∧
        ofJson Params.mainnet doc' = .ok state := by
  intro doc doc'
  obtain ⟨hexists, hcanonical, -⟩ :=
    ofJson_canonical (show Params.mainnet.maxTimestampHistory = .int (28 : Nat) from rfl)
      (show Params.mainnet.powAveragingWindow = .int (17 : Nat) from rfl)
  have hcheckpoint : IsCheckpoint 28 17 doc := by
    refine ⟨5, "0120", String.ofList (List.replicate 64 'A'), "7", [], 1, ["007", "00"], ?_,
      by decide, by decide⟩
    exact {
      blockHeight := rfl
      totalWork := rfl
      bestBlockHash := rfl
      currentTarget := rfl
      prevTimestamps := rfl
      epochStartTime := rfl
      powTargetHistory := rfl
      height_word := ⟨5, rfl, by decide⟩
      work_decimal := Check.isDecimal_iff.1 (by decide)
      hash_digits := Check.isHash_iff.1 (by rw [String.toList_ofList]; decide)
      target_decimal := Check.isDecimal_iff.1 (by decide)
      times_word := by simp
      epochStart_word := ⟨1, rfl, by decide⟩
      targets_decimal := by
        intro text htext
        rcases List.mem_pair.1 htext with rfl | rfl
        all_goals exact Check.isDecimal_iff.1 (by decide) }
  have hdoc : canonical doc = doc' := rfl
  obtain ⟨state, hstate⟩ := (hexists doc).2 hcheckpoint
  obtain ⟨hsaved, hagain⟩ := hcanonical doc state hstate
  rw [hsaved, hdoc] at hagain
  exact ⟨⟨rfl, rfl, hcheckpoint⟩, state, hstate, hsaved.trans hdoc, hagain⟩

end ProverInput.ChainState
