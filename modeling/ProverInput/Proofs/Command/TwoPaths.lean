import ProverInput.Command.Task
import ProverInput.Proofs.ChainData.Nonces
import ProverInput.Proofs.Header.Document
import ProverInput.Proofs.ProgramArgs

set_option autoImplicit false

/-! # Arguments at once and by way of a file

The command `args` gives out the arguments of chain data. The commands `generate` and `format-args`
give out those of the file that the chain data was written to. Everything generated from a file of
header records is storable, since the reader rounds numbers and the check bounds them, so the file
reads back as it was and the two ways start from the same chain data (`twoSteps_outcome`).

Where the records have digests for nonces or none, both ways end in the same error or both succeed.
The arguments are the same unless a work or a target has 64 decimal digits, which read as a digest
(`args_generateThenFormat`).
-/

namespace ProverInput

/-! ## Outcomes of steps -/

namespace Logged

variable {α : Type}

@[simp] theorem outcome_failure (x : Logged Failure α) :
    (liftM x : Logged CommandError α).outcome = x.outcome.mapError CommandError.ofFailure := rfl

end Logged

namespace Command

variable {settings : Settings} {read back : Reader} {headers : Option String}
  {height count : Number} {output : String}

theorem rounded_document {path : String} {doc : Json} (h : document read path = .ok doc) :
    doc.Rounded := by
  obtain ⟨text, -, h⟩ := bind_eq_ok.1 h
  split at h
  · rename_i hread
    cases h
    exact Json.rounded_read hread
  · cases h

/-- Chain data comes from the records in a file. -/
theorem chainData_eq_ok {data : ChainData} :
    (chainData read headers height count).outcome = .ok data ↔
      ∃ path records, headers = some path ∧ archive read path = .ok records ∧
        (ChainData.generate records.source Params.mainnet height count).outcome = .ok data := by
  cases headers with
  | none =>
      refine iff_of_false (fun h => ?_) (by simp)
      cases h
  | some path =>
      simp only [chainData, Logged.outcome_bind, Logged.outcome_lift, Logged.outcome_failure,
        bind_eq_ok, mapError_eq_ok, Option.some.injEq, exists_and_left, exists_eq_left']

/-- The records in a file are sound. -/
theorem sound_archive {path : String} {records : Archive}
    (h : archive read path = .ok records) : records.source.Sound := by
  obtain ⟨doc, hdoc, hrecords⟩ := bind_eq_ok.1 h
  have hrounded := rounded_document hdoc
  split at hrecords
  · rename_i docs
    exact Archive.sound_source (Json.roundedItems_iff.1 hrounded) (mapError_eq_ok.1 hrecords)
  · cases hrecords

/-- Chain data from a file is storable. -/
theorem storable_chainData {data : ChainData}
    (h : (chainData read headers height count).outcome = .ok data) : data.Storable := by
  obtain ⟨path, records, -, hrecords, hdata⟩ := chainData_eq_ok.1 h
  exact ChainData.storable_generate (sound_archive hrecords) (Number.isWhole_of_le (by decide))
    hdata

/-- A plain document reads back from its file. -/
theorem read_fileText {doc : Json} (h : doc.Plain) : Json.read (fileText doc) = some doc := by
  have hlayout : fileText doc = String.ofList (Json.spread .indented 0 doc ++ ['\n']) := by
    rw [← Json.indentedAt_eq_spread, String.ofList_append]
    rfl
  calc Json.read (fileText doc)
      = Json.read (String.ofList (Json.spread .indented 0 doc ++ ['\n'])) := by rw [hlayout]
    _ = some doc := Json.read_spread (Json.readsAs_of_plain h) rfl

/-! ## Two ways to the arguments -/

/-- Write the chain data to a file, whose text is then what `back` says, and read the arguments off
it. -/
def generateThenFormat (settings : Settings) (read back : Reader) (headers : Option String)
    (height count : Number) (output : String) : Except CommandError (List HexArg) := do
  let saving ← (generate settings read headers height count output).outcome
  formatArgs back saving.path

theorem document_of_read {path text : String} {doc : Json} (htext : read path = .ok text)
    (hdoc : Json.read text = some doc) : document read path = .ok doc := by
  refine bind_eq_ok.2 ⟨text, mapError_eq_ok.2 htext, ?_⟩
  simp only [hdoc]
  rfl

theorem generate_outcome (settings : Settings) (output : String) {data : ChainData}
    (hdata : (chainData read headers height count).outcome = .ok data) :
    ∃ path notice, (generate settings read headers height count output).outcome =
      .ok ⟨path, fileText data.toJson, notice, "Failed to generate chain data:"⟩ := by
  rw [generate, Logged.outcome_bind, hdata]
  exact ⟨_, _, rfl⟩

theorem args_outcome {data : ChainData}
    (hdata : (chainData read headers height count).outcome = .ok data) :
    (args read headers height count).outcome = data.hexArgs.mapError CommandError.ofFailure := by
  rw [args, Logged.outcome_bind, hdata]
  rfl

/-- A file that reads back as it was written holds the document of the chain data. -/
theorem twoSteps_outcome {data : ChainData}
    (hdata : (chainData read headers height count).outcome = .ok data)
    (hback : ∀ saving, (generate settings read headers height count output).outcome = .ok saving →
      back saving.path = .ok saving.text) :
    generateThenFormat settings read back headers height count output =
      (Untagged.ofJson data.toJson).hexArgs.mapError CommandError.ofFailure := by
  have hplain := ChainData.plain_toJson (storable_chainData hdata)
  obtain ⟨path, notice, hsaving⟩ := generate_outcome settings output hdata
  have hdocument : document back path = .ok data.toJson :=
    document_of_read (hback _ hsaving) (read_fileText hplain)
  rw [generateThenFormat, hsaving]
  show formatArgs back path = _
  rw [formatArgs, hdocument]
  rfl

/-! ## Files -/

/-- A file of header records. -/
def recordsFile (headers : List Header) : Reader :=
  fun _ => .ok (Json.array (headers.map Header.toJson)).compactText

/-- The files once the command `generate` has written its own. -/
def written (settings : Settings) (read : Reader) (headers : Option String) (height count : Number)
    (output : String) : Reader := fun path =>
  match (generate settings read headers height count output).outcome with
  | .ok saving => if path = saving.path then .ok saving.text else read path
  | .error _ => read path

theorem written_path (settings : Settings) (read : Reader) (headers : Option String)
    (height count : Number) (output : String) (saving : Saving)
    (h : (generate settings read headers height count output).outcome = .ok saving) :
    written settings read headers height count output saving.path = .ok saving.text := by
  simp only [written, h, if_true]

/-- Records that their documents are read as are what is read from their file. -/
theorem archive_recordsFile {found : List Header}
    (hfound : ∀ h ∈ found, Header.ofJson h.toJson = .ok h ∧ h.height.IsWhole ∧ h.others = [])
    (path : String) : archive (recordsFile found) path = .ok ⟨found⟩ := by
  have hplain : (Json.array (found.map Header.toJson)).Plain := by
    refine Json.plainItems_of_forall fun doc hdoc => ?_
    obtain ⟨h, hh, rfl⟩ := List.mem_map.1 hdoc
    obtain ⟨hread, hheight, hothers⟩ := hfound h hh
    exact Header.plain_toJson (Header.valid_of_ofJson hread) hheight hothers
  have hdocument : document (recordsFile found) path = .ok (.array (found.map Header.toJson)) :=
    document_of_read rfl (Json.read_compactText hplain)
  have hrecords : (found.map Header.toJson).mapM Header.ofJson = .ok found := by
    rw [mapM_eq_ok, List.forall₂_map_left_iff, List.forall₂_same]
    exact fun h hh => (hfound h hh).1
  rw [archive, hdocument]
  exact mapError_eq_ok.2 (map_eq_ok.2 ⟨found, hrecords, rfl⟩)

/-! ## When the two ways agree -/

/-- The records in a file, if it is read at all, have digests for nonces or none. -/
def DigestNonces (read : Reader) (headers : Option String) : Prop :=
  ∀ path records, headers = some path → archive read path = .ok records →
    ∀ h ∈ records.headers, h.HasDigestNonce

theorem isHash_nonce_of_chainData (hnonces : DigestNonces read headers) {data : ChainData}
    (h : (chainData read headers height count).outcome = .ok data) :
    ∀ b ∈ data.blocks, Check.isHash b.header.nonce.toList = true := by
  obtain ⟨path, records, hpath, hrecords, hdata⟩ := chainData_eq_ok.1 h
  exact ChainData.isHash_nonce_of_generate (hnonces path records hpath hrecords) hdata

/-- Without chain data both ways end in its error. -/
theorem outcomes_of_error {e : CommandError}
    (h : (chainData read headers height count).outcome = .error e) :
    (args read headers height count).outcome = .error e ∧
      generateThenFormat settings read back headers height count output = .error e := by
  constructor
  · rw [args, Logged.outcome_bind, h]
    rfl
  · rw [generateThenFormat, generate, Logged.outcome_bind, h]
    rfl

/-- Whatever the nonces are, arguments that are given out at once are also read off the file, and
are the same exactly when no work and no target of the two states has 64 decimal digits. Arguments
that are read off the file are also given out at once, exactly when no nonce reads as an integer. -/
theorem args_iff_generateThenFormat
    (hback : ∀ saving, (generate settings read headers height count output).outcome = .ok saving →
      back saving.path = .ok saving.text) :
    (∀ found, (args read headers height count).outcome = .ok found → ∃ data found',
      (chainData read headers height count).outcome = .ok data ∧
        generateThenFormat settings read back headers height count output = .ok found' ∧
        (found' = found ↔ ∀ n ∈ data.bigIntegers, Number.digitCount n.toNat ≠ 64)) ∧
    ∀ found', generateThenFormat settings read back headers height count output = .ok found' →
      ∃ data, (chainData read headers height count).outcome = .ok data ∧
        ((∃ found, (args read headers height count).outcome = .ok found) ↔
          ∀ b ∈ data.blocks, ¬ Untagged.ReadsAsInteger b.header.nonce) := by
  cases hdata : (chainData read headers height count).outcome with
  | error e =>
      obtain ⟨hargs, hsteps⟩ := outcomes_of_error hdata
      constructor
      · intro found hfound
        cases hargs.symm.trans hfound
      · intro found' hfound'
        cases hsteps.symm.trans hfound'
  | ok data =>
      have hstorable := storable_chainData hdata
      rw [args_outcome hdata, twoSteps_outcome hdata hback]
      simp only [mapError_eq_ok]
      constructor
      · -- arguments at once make every nonce a digest, and then both layouts are known
        intro found hfound
        have hnonces := ChainData.isHash_nonce_of_hexArgs hstorable hfound
        obtain ⟨found', hfound', hsame⟩ :=
          (ChainData.hexArgs_ofJson hstorable hnonces).2 found hfound
        exact ⟨data, found', rfl, hfound', hsame⟩
      · intro found' hfound'
        refine ⟨data, rfl, ?_, ?_⟩
        · rintro ⟨found, hfound⟩ b hb hinteger
          have hnonce := ChainData.isHash_nonce_of_hexArgs hstorable hfound b hb
          exact hinteger.2.2 (Hex.isHash_iff.1 hnonce).1
        · -- a nonce that is read at all and not as an integer is a digest
          intro hnone
          have hnonces : ∀ b ∈ data.blocks, Check.isHash b.header.nonce.toList = true := by
            intro b hb
            have hnonce := ChainData.nonce_of_untagged hstorable hfound' b hb
            exact hnonce.resolve_right (hnone b hb)
          cases htyped : data.hexArgs with
          | ok found => exact ⟨found, rfl⟩
          | error e =>
              have herror := (ChainData.hexArgs_ofJson hstorable hnonces).1 e htyped
              cases hfound'.symm.trans herror

/-- Where nonces are digests, the error of one way is the error of the other. -/
theorem generateThenFormat_of_args_error (hnonces : DigestNonces read headers)
    (hback : ∀ saving, (generate settings read headers height count output).outcome = .ok saving →
      back saving.path = .ok saving.text) {e : CommandError}
    (h : (args read headers height count).outcome = .error e) :
    generateThenFormat settings read back headers height count output = .error e := by
  cases hdata : (chainData read headers height count).outcome with
  | error e' =>
      obtain ⟨hargs, hsteps⟩ := outcomes_of_error hdata
      cases hargs.symm.trans h
      exact hsteps
  | ok data =>
      rw [args_outcome hdata] at h
      cases htyped : data.hexArgs with
      | ok found =>
          rw [htyped] at h
          cases h
      | error failure =>
          have huntagged := (ChainData.hexArgs_ofJson (storable_chainData hdata)
            (isHash_nonce_of_chainData hnonces hdata)).1 failure htyped
          rw [twoSteps_outcome hdata hback, huntagged, ← h, htyped]

/-- Where the records have digests for nonces or none, both ways end in the same error or both
succeed, and then the arguments are the same exactly when no work and no target of the two states
has 64 decimal digits. -/
theorem args_generateThenFormat (hnonces : DigestNonces read headers)
    (hback : ∀ saving, (generate settings read headers height count output).outcome = .ok saving →
      back saving.path = .ok saving.text) :
    (∃ e, (args read headers height count).outcome = .error e ∧
      generateThenFormat settings read back headers height count output = .error e) ∨
    ∃ data found found', (chainData read headers height count).outcome = .ok data ∧
      (args read headers height count).outcome = .ok found ∧
      generateThenFormat settings read back headers height count output = .ok found' ∧
      (found' = found ↔ ∀ n ∈ data.bigIntegers, Number.digitCount n.toNat ≠ 64) := by
  cases hargs : (args read headers height count).outcome with
  | error e => exact .inl ⟨e, rfl, generateThenFormat_of_args_error hnonces hback hargs⟩
  | ok found =>
      obtain ⟨data, found', hdata, hsteps, hsame⟩ :=
        (args_iff_generateThenFormat hback).1 found hargs
      exact .inr ⟨data, found, found', hdata, rfl, hsteps, hsame⟩

/-! ## A block whose target has 64 digits -/

def plainSettings : Settings := ⟨.production, .info, none, "."⟩

/-- A record whose nonce has 64 digits behind a prefix and whose target has 64 decimal digits, and
the one that leads to it. -/
def hardBlocks : List Header :=
  [ChainData.linking 0 'a' 'b',
    { ChainData.linking 1 'b' 'c' with
      bits := "1b030000", nonce := some (String.ofList ('0' :: 'x' :: List.replicate 64 'F')) }]

theorem archive_hardBlocks (path : String) :
    archive (recordsFile hardBlocks) path = .ok ⟨hardBlocks⟩ := by
  refine archive_recordsFile (fun h hmem => ?_) path
  rcases List.mem_pair.1 hmem with rfl | rfl
  · exact ⟨rfl, Number.isWhole_of_le (by decide), rfl⟩
  · exact ⟨rfl, Number.isWhole_of_le (by decide), rfl⟩

theorem digestNonces_hardBlocks (headers : Option String) :
    DigestNonces (recordsFile hardBlocks) headers := by
  intro path records _ hrecords h hmem nonce hnonce
  cases (archive_hardBlocks path).symm.trans hrecords
  rcases List.mem_pair.1 hmem with rfl | rfl
  · cases hnonce
  · cases hnonce
    exact Layout.isDigest_iff.2 (by decide +kernel)

/-- What is generated from these records, and that it has arguments. -/
theorem chainData_hardBlocks : ∃ data found,
    (chainData (recordsFile hardBlocks) (some "headers.json") 0 1).outcome = .ok data ∧
      data.hexArgs = .ok found ∧
      data.chainState.currentTarget = Compact.target 0x1b030000 := by
  have heval : ((ChainData.generate (Archive.mk hardBlocks).source Params.mainnet 0
      1).outcome.toOption.map fun d => (d.chainState.currentTarget, d.hexArgs.toOption.isSome)) =
        some ((Compact.target 0x1b030000 : Int), true) := by decide +kernel
  obtain ⟨data, hdata, hvalues⟩ := toOption_map_eq_some.1 heval
  obtain ⟨htarget, hargs⟩ := Prod.mk.inj hvalues
  obtain ⟨found, hfound⟩ := exists_of_isSome hargs
  exact ⟨data, found, chainData_eq_ok.2 ⟨_, _, rfl, archive_hardBlocks _, hdata⟩, hfound, htarget⟩

/-- Both ways give arguments for these records. -/
theorem args_generateThenFormat_hardBlocks :
    let read := recordsFile hardBlocks
    let back := written plainSettings read (some "headers.json") 0 1 "data.json"
    (DigestNonces read (some "headers.json") ∧
      ∀ saving, (generate plainSettings read (some "headers.json") 0 1 "data.json").outcome =
        .ok saving → back saving.path = .ok saving.text) ∧
      ∃ data found found', (chainData read (some "headers.json") 0 1).outcome = .ok data ∧
        (args read (some "headers.json") 0 1).outcome = .ok found ∧
        generateThenFormat plainSettings read back (some "headers.json") 0 1 "data.json" =
          .ok found' ∧
        (found' = found ↔ ∀ n ∈ data.bigIntegers, Number.digitCount n.toNat ≠ 64) := by
  intro read back
  have hnonces : DigestNonces read (some "headers.json") := digestNonces_hardBlocks _
  have hback := written_path plainSettings read (some "headers.json") 0 1 "data.json"
  refine ⟨⟨hnonces, hback⟩, ?_⟩
  rcases args_generateThenFormat hnonces hback with ⟨e, herror, -⟩ | hboth
  · obtain ⟨data, found, hdata, hfound, -⟩ := chainData_hardBlocks
    rw [args_outcome hdata, hfound] at herror
    cases herror
  · exact hboth

/-- Both ways succeed for these records, whose nonces are digests, but the arguments differ. -/
theorem args_ne_generateThenFormat :
    let read := recordsFile hardBlocks
    let back := written plainSettings read (some "headers.json") 0 1 "data.json"
    (∀ saving, (generate plainSettings read (some "headers.json") 0 1 "data.json").outcome =
        .ok saving → back saving.path = .ok saving.text) ∧
      ∃ found found', (args read (some "headers.json") 0 1).outcome = .ok found ∧
        generateThenFormat plainSettings read back (some "headers.json") 0 1 "data.json" =
          .ok found' ∧ found' ≠ found := by
  intro read back
  have hback := written_path plainSettings read (some "headers.json") 0 1 "data.json"
  obtain ⟨data, found, hdata, hfound, htarget⟩ := chainData_hardBlocks
  obtain ⟨found', hfound', hsame⟩ := (ChainData.hexArgs_ofJson (storable_chainData hdata)
    (isHash_nonce_of_chainData (digestNonces_hardBlocks _) hdata)).2 found hfound
  refine ⟨hback, found, found', ?_, ?_, ?_⟩
  · rw [args_outcome hdata]
    exact mapError_eq_ok.2 hfound
  · rw [twoSteps_outcome hdata hback]
    exact mapError_eq_ok.2 hfound'
  · intro heq
    have hmem : (Compact.target 0x1b030000 : Int) ∈ data.bigIntegers := by
      rw [← htarget]
      simp [ChainData.bigIntegers, ChainState.bigIntegers]
    exact hsame.1 heq _ hmem (by decide +kernel)

end Command

end ProverInput
