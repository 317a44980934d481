import ProverInput.Compact
import ProverInput.Header.Check
import ProverInput.Proofs.Number.Double
import ProverInput.Proofs.Text.Digits

set_option autoImplicit false

/-! # What a check accepts

A check accepts exactly the documents that its values are written as (`Accepts`): a natural number
or one of 32 bits, a text of a certain form (`accepts_natural`, `accepts_word`, `accepts_text`). A
list of such documents is accepted as the list of their values (`Accepts.list`), and a member as the
value of its document (`Accepts.member_valid_iff`). A header that comes out of a document has all
its members so and consists of them (`Header.valid_of_checkMembers`, `Json.restrict`). Its bits are a
text that is read (`Compact.parse_eq_ok`), so they stand for a target
(`Compact.exists_targetOfText`).
-/

namespace ProverInput

theorem Checked.map_valid_iff {α β : Type} {f : α → β} {a : Checked α} {b : β} :
    f <$> a = valid b ↔ ∃ x, a = valid x ∧ f x = b := by
  cases a with
  | valid x => simp
  | invalid issues => simp

theorem Checked.orElse_eq_ok {α ε : Type} {wrap : List Issue → ε} {a : Checked α} {x : α} :
    a.orElse wrap = .ok x ↔ a = valid x := by
  cases a with
  | valid y => simp [orElse]
  | invalid issues => simp [orElse]

namespace Check

variable {α : Type}

theorem object_valid_iff {check : Json → Checked α} {doc : Json} {x : α} :
    object check doc = .valid x ↔ doc.kind = .object ∧ check doc = .valid x := by
  cases doc with
  | object members => exact ⟨fun h => ⟨rfl, h⟩, fun h => h.2⟩
  | number y => cases y <;> exact iff_of_false (fun h => nomatch h) fun h => nomatch h.1
  | _ => exact iff_of_false (fun h => nomatch h) fun h => nomatch h.1

/-- A natural number. -/
def IsNatural (x : Number) : Prop := ∃ n : Nat, x = .int n

/-- A natural number of 32 bits. -/
def IsWord (x : Number) : Prop := ∃ n : Nat, x = .int n ∧ n ≤ 4294967295

/-- A text of 64 hexadecimal digits of either case. -/
def IsHash (s : String) : Prop :=
  s.toList.length = 64 ∧
    ∀ c ∈ s.toList, '0' ≤ c ∧ c ≤ '9' ∨ 'a' ≤ c ∧ c ≤ 'f' ∨ 'A' ≤ c ∧ c ≤ 'F'

theorem IsWord.isWhole {x : Number} (h : IsWord x) : x.IsWhole := by
  obtain ⟨n, rfl, hn⟩ := h
  refine Number.isWhole_of_le ?_
  rw [Int.natAbs_natCast, Number.exactBound_eq]
  omega

theorem isWord_iff {x : Number} : IsWord x ↔ IsNatural x ∧ x ≤ 4294967295 := by
  constructor
  · rintro ⟨n, rfl, hn⟩
    exact ⟨⟨n, rfl⟩, Number.int_le_int.2 (by exact_mod_cast hn)⟩
  · rintro ⟨⟨n, rfl⟩, hn⟩
    have hn' : (n : Int) ≤ 4294967295 := Number.int_le_int.1 hn
    exact ⟨n, rfl, by omega⟩

/-- The numbers that are whole and not below zero. -/
theorem isNatural_iff {x : Number} : IsNatural x ↔ x.isInteger = true ∧ 0 ≤ x := by
  cases x with
  | int n =>
      rw [show (0 : Number) ≤ .int n ↔ 0 ≤ n from Number.int_le_int]
      constructor
      · rintro ⟨k, hk⟩
        cases hk
        exact ⟨rfl, Int.natCast_nonneg k⟩
      · rintro ⟨-, hn⟩
        exact ⟨n.toNat, by rw [Int.toNat_of_nonneg hn]⟩
  | _ => exact iff_of_false (fun ⟨_, hk⟩ => nomatch hk) fun h => nomatch h.1

theorem isHash_iff {s : String} : isHash s.toList = true ↔ IsHash s := by
  simp only [Hex.isHash_iff, IsHash, List.all_eq_true, Hex.isDigit_iff]

/-! ## Leaves -/

theorem number_eq (rules : List Rule) (path : String) {x : Number} (h : x ≠ .nan) :
    number rules path (.number x) =
      match rules.filter fun r => !r.holds x with
      | [] => .valid x
      | broken => .invalid (broken.map fun r => ⟨path, r.complaint⟩) := by
  cases x with
  | nan => exact absurd rfl h
  | _ => rfl

/-- What is no number at all is not whole, so it would break a rule if it came to that. -/
theorem number_valid_iff {rules : List Rule} (hwhole : whole ∈ rules) {path : String}
    {value : Json} {x : Number} :
    number rules path value = .valid x ↔
      value = .number x ∧ ∀ rule ∈ rules, rule.holds x = true := by
  cases value with
  | number y =>
      by_cases hy : y = .nan
      · subst hy
        refine iff_of_false (fun h => nomatch h) ?_
        rintro ⟨⟨⟩, hrules⟩
        cases hrules whole hwhole
      · have hnone : rules.filter (fun r => !r.holds y) = [] ↔
            ∀ rule ∈ rules, rule.holds y = true := by simp
        rw [number_eq rules path hy]
        split
        · rename_i hkept
          constructor
          · rintro ⟨⟩
            exact ⟨rfl, hnone.1 hkept⟩
          · rintro ⟨⟨⟩, -⟩
            rfl
        · rename_i hbroken
          refine iff_of_false (fun h => nomatch h) ?_
          rintro ⟨⟨⟩, hrules⟩
          exact hbroken (hnone.2 hrules)
  | _ => exact iff_of_false (fun h => nomatch h) fun h => nomatch h.1

/-- A check whose values are written as documents of a form, and which accepts just the documents of
the values with a certain property, wherever they stand. -/
def Accepts (check : Check α) (form : α → Json) (P : α → Prop) : Prop :=
  ∀ path value x, check path value = .valid x ↔ value = form x ∧ P x

theorem accepts_natural : Accepts natural .number IsNatural := by
  intro path value x
  rw [natural, number_valid_iff List.mem_cons_self, isNatural_iff]
  simp [whole, atLeastZero]

theorem accepts_word : Accepts word .number IsWord := by
  intro path value x
  rw [word, number_valid_iff List.mem_cons_self, isWord_iff, isNatural_iff, and_assoc]
  simp [whole, atLeastZero, atMostWord]

theorem accepts_text (form : List Char → Bool) (complaint : String) :
    Accepts (text form complaint) .string fun s => form s.toList = true := by
  intro path value s
  cases value with
  | string t =>
      rw [text]
      split
      · rename_i hform
        constructor
        · rintro ⟨⟩
          exact ⟨rfl, hform⟩
        · rintro ⟨⟨⟩, -⟩
          rfl
      · rename_i hform
        refine iff_of_false (fun h => nomatch h) ?_
        rintro ⟨⟨⟩, hs⟩
        exact hform hs
  | _ => exact iff_of_false (fun h => nomatch h) fun h => nomatch h.1

theorem accepts_hash64 : Accepts hash64 .string IsHash := by
  intro path value s
  exact (accepts_text isHash _ path value s).trans (and_congr_right fun _ => isHash_iff)

/-! ## Lists and members -/

namespace Accepts

variable {check : Check α} {form : α → Json} {P : α → Prop}

theorem itemsFrom_valid_iff (h : Accepts check form P) {path : String} {items : List Json} {i : Nat}
    {xs : List α} :
    itemsFrom check path i items = .valid xs ↔ items = xs.map form ∧ ∀ x ∈ xs, P x := by
  induction items generalizing i xs with
  | nil =>
      cases xs with
      | nil => exact iff_of_true rfl ⟨rfl, by simp⟩
      | cons x xs => exact iff_of_false (fun h => nomatch h) fun h => nomatch h.1
  | cons item items ih =>
      simp only [itemsFrom, Checked.seq_valid_iff, Checked.map_valid_iff, h _ _ _, ih]
      constructor
      · rintro ⟨_, xs, ⟨x, ⟨rfl, hx⟩, rfl⟩, ⟨rfl, hxs⟩, rfl⟩
        exact ⟨rfl, List.forall_mem_cons.2 ⟨hx, hxs⟩⟩
      · rintro ⟨hitems, hxs⟩
        obtain ⟨x, xs, rfl, rfl, rfl⟩ := List.map_eq_cons_iff.1 hitems.symm
        rw [List.forall_mem_cons] at hxs
        exact ⟨_, xs, ⟨x, ⟨rfl, hxs.1⟩, rfl⟩, ⟨rfl, hxs.2⟩, rfl⟩

theorem list (h : Accepts check form P) :
    Accepts (Check.list check) (fun xs => .array (xs.map form)) fun xs => ∀ x ∈ xs, P x := by
  intro path value xs
  cases value with
  | array items => rw [Check.list, h.itemsFrom_valid_iff, Json.array.injEq]
  | _ => exact iff_of_false (fun h => nomatch h) fun h => nomatch h.1

theorem member_valid_iff (h : Accepts check form P) {key : String} {doc : Json} {x : α} :
    member check key doc = .valid x ↔ doc.get? key = some (form x) ∧ P x := by
  rw [member]
  split
  · rename_i value hvalue
    rw [h, hvalue, Option.some.injEq]
  · rename_i hnone
    exact iff_of_false (fun h => nomatch h) (by simp [hnone])

/-- A member that is not there is accepted as no value. -/
theorem optionalMember_valid_iff (h : Accepts check form P) {key : String} {doc : Json}
    {x : Option α} : optionalMember check key doc = .valid x ↔
      doc.get? key = x.map form ∧ ∀ a, x = some a → P a := by
  rw [optionalMember]
  split
  · rename_i value hvalue
    rw [Checked.map_valid_iff, hvalue]
    simp only [h key value]
    cases x with
    | some a => simp
    | none => simp
  · rename_i hnone
    rw [hnone]
    cases x with
    | some a => exact iff_of_false (fun h => nomatch h) fun h => nomatch h.1
    | none => simp

end Accepts

end Check

/-! ## Restrictions -/

namespace Json

/-- The members of a document with the given names, in the order of the names. -/
def restrict (names : List String) (doc : Json) : Json :=
  .object (names.flatMap fun name => ((doc.get? name).map fun value => (name, value)).toList)

theorem get?_restrict {names : List String} {name : String} (doc : Json) :
    (doc.restrict names).get? name = if name ∈ names then doc.get? name else none := by
  show List.lookup name _ = _
  induction names with
  | nil => rfl
  | cons first names ih =>
      rw [List.flatMap_cons]
      by_cases hname : name = first
      · subst hname
        rw [if_pos List.mem_cons_self]
        cases hvalue : doc.get? name with
        | some value => simp
        | none =>
            rw [hvalue] at ih
            simpa using ih
      · have hne : (name == first) = false := beq_eq_false_iff_ne.2 hname
        simp only [List.mem_cons, hname, false_or]
        cases doc.get? first with
        | some value => simpa [List.lookup_cons, hne] using ih
        | none => simpa using ih

end Json

namespace Header

open Check (IsNatural IsWord isHash isHexText isCompact)

/-- What every header has that comes out of a document. -/
structure Valid (h : Header) : Prop where
  height : IsNatural h.height
  hash : isHash h.hash.toList = true
  previousBlockHash : ∀ s, h.previousBlockHash = some s → isHash s.toList = true
  nextBlockHash : ∀ s, h.nextBlockHash = some s → isHash s.toList = true
  time : IsWord h.time
  bits : isCompact h.bits.toList = true
  nonce : ∀ s, h.nonce = some s → isHexText s.toList = true
  solution : ∀ s, h.solution = some s → isHexText s.toList = true
  version : IsWord h.version
  merkleRoot : ∀ s, h.merkleRoot = some s → isHash s.toList = true
  finalSaplingRoot : ∀ s, h.finalSaplingRoot = some s → isHash s.toList = true
  blockCommitments : ∀ s, h.blockCommitments = some s → isHash s.toList = true
  chainwork : ∀ s, h.chainwork = some s → isHexText s.toList = true

/-- The members that a record may have, in the order of its fields. -/
def names : List String :=
  ["height", "hash", "previousblockhash", "nextblockhash", "time", "bits", "nonce", "solution",
    "version", "merkleroot", "finalsaplingroot", "blockcommitments", "chainwork"]

/-- A header is valid and consists of members of the document. -/
theorem valid_of_checkMembers {doc : Json} {header : Header}
    (h : checkMembers doc = .valid header) :
    header.Valid ∧ header.toJson = doc.restrict names := by
  simp only [checkMembers, Checked.seq_valid_iff, Checked.map_valid_iff] at h
  -- the members come off from the last one on
  obtain ⟨_, others, h, hothers, rfl⟩ := h
  cases hothers
  obtain ⟨_, chainwork, h, hchainwork, rfl⟩ := h
  obtain ⟨_, blockCommitments, h, hblockCommitments, rfl⟩ := h
  obtain ⟨_, finalSaplingRoot, h, hfinalSaplingRoot, rfl⟩ := h
  obtain ⟨_, merkleRoot, h, hmerkleRoot, rfl⟩ := h
  obtain ⟨_, version, h, hversion, rfl⟩ := h
  obtain ⟨_, solution, h, hsolution, rfl⟩ := h
  obtain ⟨_, nonce, h, hnonce, rfl⟩ := h
  obtain ⟨_, bits, h, hbits, rfl⟩ := h
  obtain ⟨_, time, h, htime, rfl⟩ := h
  obtain ⟨_, next, h, hnext, rfl⟩ := h
  obtain ⟨_, previous, h, hprevious, rfl⟩ := h
  obtain ⟨_, hash, h, hhash, rfl⟩ := h
  obtain ⟨height, hheight, rfl⟩ := h
  rw [Check.accepts_natural.member_valid_iff] at hheight
  rw [Check.accepts_word.member_valid_iff] at htime hversion
  have hhash := (Check.accepts_text isHash _).member_valid_iff.1 hhash
  have hbits := (Check.accepts_text isCompact _).member_valid_iff.1 hbits
  have hashes := Check.accepts_text isHash "Must be a 64-character hex string"
  have texts := Check.accepts_text isHexText "Must be a hex string"
  have hprevious := hashes.optionalMember_valid_iff.1 hprevious
  have hnext := hashes.optionalMember_valid_iff.1 hnext
  have hnonce := texts.optionalMember_valid_iff.1 hnonce
  have hsolution := texts.optionalMember_valid_iff.1 hsolution
  have hmerkleRoot := hashes.optionalMember_valid_iff.1 hmerkleRoot
  have hfinalSaplingRoot := hashes.optionalMember_valid_iff.1 hfinalSaplingRoot
  have hblockCommitments := hashes.optionalMember_valid_iff.1 hblockCommitments
  have hchainwork := texts.optionalMember_valid_iff.1 hchainwork
  constructor
  · exact {
      height := hheight.2
      hash := hhash.2
      previousBlockHash := hprevious.2
      nextBlockHash := hnext.2
      time := htime.2
      bits := hbits.2
      nonce := hnonce.2
      solution := hsolution.2
      version := hversion.2
      merkleRoot := hmerkleRoot.2
      finalSaplingRoot := hfinalSaplingRoot.2
      blockCommitments := hblockCommitments.2
      chainwork := hchainwork.2 }
  · simp only [toJson, Json.restrict, names, List.flatMap_cons, List.flatMap_nil, hheight.1,
      hhash.1, hprevious.1, hnext.1, htime.1, hbits.1, hnonce.1, hsolution.1, hversion.1,
      hmerkleRoot.1, hfinalSaplingRoot.1, hblockCommitments.1, hchainwork.1, Option.toList_map,
      Option.toList_some, List.map_map, List.map_cons, List.map_nil, List.append_assoc,
      List.cons_append, List.nil_append]
    rfl

theorem checkMembers_of_ofJson {doc : Json} {header : Header}
    (h : Header.ofJson doc = .ok header) : checkMembers doc = .valid header :=
  (Check.object_valid_iff.1 (Checked.orElse_eq_ok.1 h)).2

theorem valid_of_ofJson {doc : Json} {header : Header} (h : Header.ofJson doc = .ok header) :
    header.Valid := (valid_of_checkMembers (checkMembers_of_ofJson h)).1

/-- The height is a number of the document. -/
theorem height_of_ofJson {doc : Json} {header : Header} (h : Header.ofJson doc = .ok header) :
    doc.get? "height" = some (.number header.height) := by
  have hmembers := (valid_of_checkMembers (checkMembers_of_ofJson h)).2
  have hmem : "height" ∈ names := List.mem_cons_self
  calc doc.get? "height" = (doc.restrict names).get? "height" := by
        rw [Json.get?_restrict, if_pos hmem]
    _ = header.toJson.get? "height" := by rw [hmembers]
    _ = some (.number header.height) := rfl

end Header

namespace Compact

/-- The texts that are read are those the schema accepts. -/
theorem parse_eq_ok {text : String} {bits : Nat} :
    parse text = .ok bits ↔
      Check.isCompact text.toList = true ∧ Hex.value (Hex.dropMark text.toList) = bits := by
  have hbody : (Hex.dropMark text.toList).length = 8 ∧ Hex.isBody (Hex.dropMark text.toList) = true ↔
      Check.isCompact text.toList = true := by
    rw [Hex.isBody, Check.isCompact, Bool.and_eq_true, Bool.and_eq_true, beq_iff_eq, beq_iff_eq]
    exact and_congr_right fun hlen => and_iff_right (by rw [hlen])
  simp only [parse, hbody]
  split
  · rename_i hform
    rw [Except.ok.injEq, and_iff_right hform]
  · rename_i hform
    refine iff_of_false (fun h => ?_) fun h => hform h.1
    cases h

theorem exists_parse {text : String} (h : Check.isCompact text.toList = true) :
    ∃ bits, parse text = .ok bits := ⟨_, parse_eq_ok.2 ⟨h, rfl⟩⟩

theorem parse_lt {text : String} {bits : Nat} (h : parse text = .ok bits) : bits < 2 ^ 32 := by
  obtain ⟨hform, rfl⟩ := parse_eq_ok.1 h
  rw [Check.isCompact, Bool.and_eq_true, beq_iff_eq] at hform
  calc Hex.value (Hex.dropMark text.toList) < 16 ^ (Hex.dropMark text.toList).length :=
        Hex.value_lt hform.2
    _ = 2 ^ 32 := by rw [hform.1]; norm_num

theorem exists_targetOfText {text : String} (h : Check.isCompact text.toList = true) :
    ∃ target, targetOfText text = .ok target := by
  obtain ⟨bits, hbits⟩ := exists_parse h
  exact ⟨target bits, by rw [targetOfText, hbits]; rfl⟩

end Compact

end ProverInput
