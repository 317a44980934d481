import Mathlib
import ProverInput.Archive
import ProverInput.Proofs.Outcome

set_option autoImplicit false

/-! # Archives as indexes

An archive answers as two tables do that are filled from its records in one pass, one by height and
one by hash, where a later record takes the place of an earlier one with the same key
(`Indexes.ofHeaders`). What a pass keeps is said of one table (`IsIndex`): a key is looked up as the
last record that has it, and every key is there once. One record more keeps this (`IsIndex.put`), so
both tables have it after all records (`isIndex_ofHeaders`).

From the two tables together follows what it takes to get from a height to a hash and from the hash
back to a record of that height (`Answers`).
-/

namespace ProverInput

/-! ## Tables -/

namespace Table

variable {κ : Type} [DecidableEq κ]

/-- The table after a key is given a record. A key that is there keeps its place. -/
def put (key : κ) (h : Header) : List (κ × Header) → List (κ × Header)
  | [] => [(key, h)]
  | (other, old) :: rest =>
      if other = key then (key, h) :: rest else (other, old) :: put key h rest

theorem lookup_entry (key k : κ) (h : Header) (rest : List (κ × Header)) :
    ((key, h) :: rest).lookup k = if key = k then some h else rest.lookup k := by
  rw [List.lookup_cons, BEq.comm]
  by_cases hk : key = k
  · rw [beq_iff_eq.2 hk, if_pos hk]
  · rw [beq_eq_false_iff_ne.2 hk, if_neg hk]

theorem lookup_put (key k : κ) (h : Header) (table : List (κ × Header)) :
    (put key h table).lookup k = if key = k then some h else table.lookup k := by
  induction table with
  | nil => rw [put, lookup_entry]
  | cons entry rest ih =>
      obtain ⟨other, old⟩ := entry
      by_cases hother : other = key
      · subst hother
        rw [put, if_pos rfl, lookup_entry, lookup_entry]
        split
        · rfl
        · rfl
      · rw [put, if_neg hother, lookup_entry, lookup_entry, ih]
        -- an entry before the place of the key answers for its own key only
        by_cases hk : other = k
        · have hne : key ≠ k := fun e => hother (hk.trans e.symm)
          rw [if_pos hk, if_neg hne, if_pos hk]
        · rw [if_neg hk, if_neg hk]

theorem keys_put (key : κ) (h : Header) (table : List (κ × Header)) :
    (put key h table).map Prod.fst =
      if key ∈ table.map Prod.fst then table.map Prod.fst else table.map Prod.fst ++ [key] := by
  induction table with
  | nil => rfl
  | cons entry rest ih =>
      obtain ⟨other, old⟩ := entry
      by_cases hother : other = key
      · simp [put, hother]
      · have hne : ¬ key = other := fun e => hother e.symm
        rw [put, if_neg hother, List.map_cons, ih]
        by_cases hmem : key ∈ rest.map Prod.fst
        · simp [hmem, hne]
        · simp [hmem, hne]

/-- Keys that are there once are as many as there are different keys. -/
theorem length_eq_card {keys given : List κ} (hnodup : keys.Nodup)
    (hmem : ∀ k, k ∈ keys ↔ k ∈ given) : keys.length = given.toFinset.card := by
  have hsame : keys.toFinset = given.toFinset := by
    ext k
    rw [List.mem_toFinset, List.mem_toFinset, hmem]
  rw [← hsame, List.toFinset_card_of_nodup hnodup]

end Table

/-! ## The last record with a property -/

/-- A record with the property, behind which there is no other. -/
def IsLast (p : Header → Prop) (headers : List Header) (h : Header) : Prop :=
  ∃ before after, headers = before ++ h :: after ∧ p h ∧ ∀ other ∈ after, ¬ p other

namespace IsLast

variable {p : Header → Prop} {headers : List Header} {h : Header}

theorem mem (hlast : IsLast p headers h) : h ∈ headers := by
  obtain ⟨before, after, rfl, -⟩ := hlast
  exact List.mem_append_right before List.mem_cons_self

theorem prop (hlast : IsLast p headers h) : p h := by
  obtain ⟨_, _, _, hp, _⟩ := hlast
  exact hp

/-- Looked for from the end, the last record is the first one. -/
theorem find?_reverse_iff [DecidablePred p] :
    headers.reverse.find? (fun x => decide (p x)) = some h ↔ IsLast p headers h := by
  rw [List.find?_eq_some_iff_append]
  constructor
  · rintro ⟨hp, after, before, hsplit, hafter⟩
    refine ⟨before.reverse, after.reverse, ?_, of_decide_eq_true hp, ?_⟩
    · rw [← List.reverse_reverse headers, hsplit]
      simp
    · intro other hmem
      have hother := hafter other (List.mem_reverse.1 hmem)
      simpa using hother
  · rintro ⟨before, after, rfl, hp, hafter⟩
    refine ⟨decide_eq_true hp, after.reverse, before.reverse, by simp, ?_⟩
    intro other hmem
    simpa using hafter other (List.mem_reverse.1 hmem)

theorem exists_iff : (∃ h, IsLast p headers h) ↔ ∃ h ∈ headers, p h := by
  classical
  simp only [← find?_reverse_iff, ← Option.isSome_iff_exists, List.find?_isSome,
    List.mem_reverse, decide_eq_true_eq]

end IsLast

/-! ## One table -/

/-- A table holds the records by their keys: a key is looked up as the last record that has it, and
the keys are those of the records, each of them once. -/
structure IsIndex {κ : Type} [DecidableEq κ] (key : Header → κ) (table : List (κ × Header))
    (headers : List Header) : Prop where
  lookup : ∀ k, table.lookup k = headers.reverse.find? fun h => key h = k
  nodup : (table.map Prod.fst).Nodup
  keys : ∀ k, k ∈ table.map Prod.fst ↔ k ∈ headers.map key

namespace IsIndex

variable {κ : Type} [DecidableEq κ] {key : Header → κ} {table : List (κ × Header)}
  {headers : List Header}

theorem nil : IsIndex key [] [] where
  lookup _ := rfl
  nodup := List.nodup_nil
  keys _ := Iff.rfl

theorem put (hindex : IsIndex key table headers) (h : Header) :
    IsIndex key (Table.put (key h) h table) (headers ++ [h]) where
  lookup k := by
    rw [Table.lookup_put, hindex.lookup, List.reverse_append, List.reverse_singleton,
      List.singleton_append, List.find?_cons]
    by_cases hk : key h = k
    · simp [hk]
    · simp [hk]
  nodup := by
    rw [Table.keys_put]
    split
    · exact hindex.nodup
    · rename_i hnew
      exact List.nodup_append'.2 ⟨hindex.nodup, List.nodup_singleton _,
        List.disjoint_singleton.2 hnew⟩
  keys k := by
    rw [Table.keys_put, List.map_append, List.mem_append, ← hindex.keys]
    split
    · -- the key of the new record is among the old ones
      rename_i hold
      refine ⟨Or.inl, ?_⟩
      rintro (hk | hk)
      · exact hk
      · rw [List.map_singleton, List.mem_singleton] at hk
        rwa [hk]
    · rw [List.mem_append, List.map_singleton]

/-- The number of entries is the number of different keys. -/
theorem length (hindex : IsIndex key table headers) :
    table.length = (headers.map key).toFinset.card := by
  rw [← Table.length_eq_card hindex.nodup hindex.keys, List.length_map]

end IsIndex

/-! ## Both tables -/

/-- The tables of a source, by height and by hash up to its spelling. -/
structure Indexes where
  byHeight : List (Number × Header)
  byHash : List (String × Header)

namespace Indexes

def add (indexes : Indexes) (h : Header) : Indexes where
  byHeight := Table.put h.height h indexes.byHeight
  byHash := Table.put (Hex.normalize h.hash) h indexes.byHash

/-- The tables after all records have been added, one after the other. -/
def ofHeaders (headers : List Header) : Indexes := headers.foldl add ⟨[], []⟩

def source (indexes : Indexes) : HeaderSource where
  hashAt height :=
    match indexes.byHeight.lookup height with
    | some h => .ok h.hash
    | none => .error (.noBlockAt height)
  headerOf hash :=
    match indexes.byHash.lookup (Hex.normalize hash) with
    | some h => .ok h
    | none => .error (.noBlockWithHash hash)

theorem isIndex_ofHeaders (headers : List Header) :
    IsIndex Header.height (ofHeaders headers).byHeight headers ∧
      IsIndex (fun h => Hex.normalize h.hash) (ofHeaders headers).byHash headers := by
  induction headers using List.reverseRecOn with
  | nil => exact ⟨IsIndex.nil, IsIndex.nil⟩
  | append_singleton headers h ih =>
      -- the last record is added to the tables of the ones before it
      rw [ofHeaders, List.foldl_append]
      exact ⟨ih.1.put h, ih.2.put h⟩

end Indexes

/-! ## Answers -/

/-- A record has a hash when it spells it up to prefix and case. -/
def Header.HasHash (hash : String) (h : Header) : Prop := Hex.normalize h.hash = Hex.normalize hash

/-- What a source over records answers, and how many of their hashes are different. A hash that is
answered for a height always has a record, which is one of that height if the last record with the
hash is; it is when no two records share a hash. -/
structure Answers (headers : List Header) (source : HeaderSource) (size : Nat) : Prop where
  exists_hashAt : ∀ height,
    (∃ hash, source.hashAt height = .ok hash) ↔ ∃ h ∈ headers, h.height = height
  hashAt_eq_ok : ∀ height hash, source.hashAt height = .ok hash ↔
    ∃ h, IsLast (fun x => x.height = height) headers h ∧ h.hash = hash
  hashAt_eq_error : ∀ height e, source.hashAt height = .error e → e = .noBlockAt height
  exists_headerOf : ∀ hash,
    (∃ h, source.headerOf hash = .ok h) ↔ ∃ h ∈ headers, h.HasHash hash
  headerOf_eq_ok : ∀ hash h,
    source.headerOf hash = .ok h ↔ IsLast (Header.HasHash hash) headers h
  headerOf_eq_error : ∀ hash e, source.headerOf hash = .error e → e = .noBlockWithHash hash
  size_eq : size = (headers.map fun h => Hex.normalize h.hash).toFinset.card
  headerAt_isOk : ∀ height hash, source.hashAt height = .ok hash →
    ∃ h, source.headerAt height = .ok h ∧ source.headerOf hash = .ok h
  headerOf_hashAt : ∀ height hash, source.hashAt height = .ok hash →
    ((∃ h, source.headerOf hash = .ok h ∧ h.height = height) ↔
      ∃ h, IsLast (Header.HasHash hash) headers h ∧ h.height = height)
  headerOf_hashAt_of_nodup : (headers.map fun h => Hex.normalize h.hash).Nodup →
    ∀ height hash, source.hashAt height = .ok hash →
      ∃ h, source.headerOf hash = .ok h ∧ h.height = height

namespace Indexes

theorem hashAt_eq_ok (headers : List Header) (height : Number) (hash : String) :
    (ofHeaders headers).source.hashAt height = .ok hash ↔
      ∃ h, IsLast (fun x => x.height = height) headers h ∧ h.hash = hash := by
  simp only [source, (isIndex_ofHeaders headers).1.lookup, ← IsLast.find?_reverse_iff]
  split
  · rename_i h hfound
    rw [hfound]
    simp
  · rename_i hnone
    rw [hnone]
    simp

theorem headerOf_eq_ok (headers : List Header) (hash : String) (h : Header) :
    (ofHeaders headers).source.headerOf hash = .ok h ↔
      IsLast (Header.HasHash hash) headers h := by
  unfold Header.HasHash
  simp only [source, (isIndex_ofHeaders headers).2.lookup, ← IsLast.find?_reverse_iff]
  split
  · rename_i other hfound
    rw [hfound, Except.ok.injEq, Option.some.injEq]
  · rename_i hnone
    rw [hnone]
    simp

theorem exists_hashAt (headers : List Header) (height : Number) :
    (∃ hash, (ofHeaders headers).source.hashAt height = .ok hash) ↔
      ∃ h ∈ headers, h.height = height := by
  simp only [hashAt_eq_ok]
  rw [exists_comm]
  simp only [exists_and_left, exists_eq', and_true]
  exact IsLast.exists_iff

theorem exists_headerOf (headers : List Header) (hash : String) :
    (∃ h, (ofHeaders headers).source.headerOf hash = .ok h) ↔ ∃ h ∈ headers, h.HasHash hash := by
  simp only [headerOf_eq_ok]
  exact IsLast.exists_iff

/-- The hash of a height is that of a record. -/
theorem headerOf_of_hashAt {headers : List Header} {height : Number} {hash : String}
    (hanswer : (ofHeaders headers).source.hashAt height = .ok hash) :
    ∃ h, (ofHeaders headers).source.headerOf hash = .ok h := by
  obtain ⟨h, hlast, rfl⟩ := (hashAt_eq_ok headers height hash).1 hanswer
  exact (exists_headerOf headers h.hash).2 ⟨h, hlast.mem, rfl⟩

theorem answers (headers : List Header) :
    Answers headers (ofHeaders headers).source (ofHeaders headers).byHash.length where
  exists_hashAt := exists_hashAt headers
  hashAt_eq_ok := hashAt_eq_ok headers
  hashAt_eq_error height e herror := by
    simp only [source] at herror
    split at herror
    · cases herror
    · cases herror
      rfl
  exists_headerOf := exists_headerOf headers
  headerOf_eq_ok := headerOf_eq_ok headers
  headerOf_eq_error hash e herror := by
    simp only [source] at herror
    split at herror
    · cases herror
    · cases herror
      rfl
  size_eq := (isIndex_ofHeaders headers).2.length
  headerAt_isOk height hash hanswer := by
    obtain ⟨h, hh⟩ := headerOf_of_hashAt hanswer
    refine ⟨h, ?_, hh⟩
    rw [HeaderSource.headerAt, hanswer]
    exact hh
  headerOf_hashAt height hash hanswer := by
    simp only [headerOf_eq_ok]
  headerOf_hashAt_of_nodup hnodup height hash hanswer := by
    obtain ⟨h, hh⟩ := headerOf_of_hashAt hanswer
    refine ⟨h, hh, ?_⟩
    -- the record with the hash is the only one, so it is the one whose height was asked for
    obtain ⟨x, hx, rfl⟩ := (hashAt_eq_ok headers height hash).1 hanswer
    have hlast := (headerOf_eq_ok headers x.hash h).1 hh
    have hsame : h = x := List.inj_on_of_nodup_map hnodup hlast.mem hx.mem hlast.prop
    rw [hsame]
    exact hx.prop

end Indexes

/-- A record of which only the height and the hash matter. -/
def Header.bare (height : Number) (hash : String) : Header :=
  ⟨height, hash, none, none, 0, "", none, none, 0, none, none, none, none, []⟩

namespace Archive

/-- An archive answers as its tables do. -/
theorem source_eq (archive : Archive) :
    archive.source = (Indexes.ofHeaders archive.headers).source := by
  obtain ⟨hheight, hhash⟩ := Indexes.isIndex_ofHeaders archive.headers
  unfold source Indexes.source
  congr 1
  · funext height
    have hfound : (Indexes.ofHeaders archive.headers).byHeight.lookup height =
        archive.atHeight? height := hheight.lookup height
    cases hrecord : archive.atHeight? height with
    | some h => simp only [hfound, hrecord]
    | none => simp only [hfound, hrecord]
  · funext hash
    have hfound : (Indexes.ofHeaders archive.headers).byHash.lookup (Hex.normalize hash) =
        archive.withHash? hash := hhash.lookup (Hex.normalize hash)
    cases hrecord : archive.withHash? hash with
    | some h => simp only [hfound, hrecord]
    | none => simp only [hfound, hrecord]

theorem nodup_eraseDups (hashes : List String) : hashes.eraseDups.Nodup := by
  induction hashes using List.reverseRecOn with
  | nil => exact List.nodup_nil
  | append_singleton hashes hash ih =>
      rw [List.eraseDups_append]
      by_cases hold : hash ∈ hashes
      · simp [List.removeAll, hold, ih]
      · have hsingle : [hash].eraseDups = [hash] := rfl
        simp [List.removeAll, hold, List.nodup_append', ih, hsingle]

theorem size_eq (archive : Archive) :
    archive.size = (Indexes.ofHeaders archive.headers).byHash.length := by
  rw [(Indexes.isIndex_ofHeaders archive.headers).2.length, size]
  exact Table.length_eq_card (nodup_eraseDups _) fun hash => List.mem_eraseDups

/-- An archive answers as its tables do, each question with the last record that fits. Documents make
one when all of them pass their check; the first that does not is the error. -/
theorem source_answers :
    (∀ archive : Archive, Answers archive.headers archive.source archive.size ∧
      archive.source = (Indexes.ofHeaders archive.headers).source ∧
      archive.size = (Indexes.ofHeaders archive.headers).byHash.length) ∧
    (∀ docs archive, ofDocuments docs = .ok archive ↔
      List.Forall₂ (fun doc h => Header.ofJson doc = .ok h) docs archive.headers) ∧
    (∀ docs, (∃ archive, ofDocuments docs = .ok archive) ↔
      ∀ doc ∈ docs, ∃ h, Header.ofJson doc = .ok h) ∧
    ∀ docs e, ofDocuments docs = .error e ↔ ∃ before doc after, docs = before ++ doc :: after ∧
      Header.ofJson doc = .error e ∧ ∀ other ∈ before, ∃ h, Header.ofJson other = .ok h := by
  have hdocuments : ∀ docs archive, ofDocuments docs = .ok archive ↔
      List.Forall₂ (fun doc h => Header.ofJson doc = .ok h) docs archive.headers := by
    intro docs archive
    rw [ofDocuments, map_eq_ok, ← mapM_eq_ok]
    constructor
    · rintro ⟨headers, hheaders, rfl⟩
      exact hheaders
    · intro hheaders
      exact ⟨archive.headers, hheaders, rfl⟩
  refine ⟨?_, hdocuments, ?_, ?_⟩
  · intro archive
    refine ⟨?_, source_eq archive, size_eq archive⟩
    rw [source_eq, size_eq]
    exact Indexes.answers archive.headers
  · intro docs
    constructor
    · rintro ⟨archive, hload⟩ doc hdoc
      obtain ⟨headers, hheaders, -⟩ := map_eq_ok.1 hload
      obtain ⟨h, -, hh⟩ := exists_of_mapM hheaders hdoc
      exact ⟨h, hh⟩
    · intro hall
      obtain ⟨headers, hheaders⟩ := exists_forall₂ hall
      exact ⟨⟨headers⟩, (hdocuments docs ⟨headers⟩).2 hheaders⟩
  · intro docs e
    rw [← mapM_eq_error, ofDocuments, ← error?_eq_some_iff, error?_map, error?_eq_some_iff]

/-- Of two records at one height the second answers, and the hash of the first leads to a record of
another height that has the same hash. -/
theorem source_answers_shadowed :
    (Archive.mk [.bare 5 "0xAA", .bare 5 "bb", .bare 6 "aa"]).source.hashAt 5 = .ok "bb" ∧
    (Archive.mk [.bare 5 "0xAA", .bare 5 "bb", .bare 6 "aa"]).size = 2 ∧
    (¬ ∃ h, (Archive.mk [.bare 5 "0xAA", .bare 6 "aa"]).source.headerOf "0xAA" = .ok h ∧
      h.height = 5) ∧
    (∃ h, (Archive.mk [.bare 5 "0xAA", .bare 6 "ab"]).source.headerOf "0xAA" = .ok h ∧
      h.height = 5) ∧
    ofDocuments [.null, .bool true] =
      .error (.headerRecord [⟨"", "Expected object, received null"⟩]) := by
  refine ⟨?_, ?_, ?_, ?_, ?_⟩
  · exact ((source_answers.1 _).1.hashAt_eq_ok 5 "bb").2
      ⟨.bare 5 "bb", ⟨[.bare 5 "0xAA"], [.bare 6 "aa"], rfl, rfl, by decide⟩, rfl⟩
  · rw [(source_answers.1 _).1.size_eq]
    decide +kernel
  · have hother := ((source_answers.1 (Archive.mk [.bare 5 "0xAA", .bare 6 "aa"])).1.headerOf_eq_ok
      "0xAA" (.bare 6 "aa")).2 ⟨[.bare 5 "0xAA"], [], rfl, by rw [Header.HasHash]; decide, by simp⟩
    rw [hother]
    rintro ⟨h, ⟨⟩, hheight⟩
    cases hheight
  · exact (source_answers.1 (Archive.mk [.bare 5 "0xAA", .bare 6 "ab"])).1.headerOf_hashAt_of_nodup
      (by decide +kernel) 5 "0xAA" (by rfl)
  · exact (source_answers.2.2.2 _ _).2 ⟨[], .null, [.bool true], rfl, rfl, by simp⟩

end Archive

end ProverInput
