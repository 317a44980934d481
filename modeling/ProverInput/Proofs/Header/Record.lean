import ProverInput.Proofs.Compact.Readers

set_option autoImplicit false

/-! # Records against their schema

Thirteen members of a record are looked at, each for its form (`schema`). A member that should be
there and is not is one breach, a text of another form or a value of another kind too, and a number
breaches each of its bounds on its own, unless it is no number at all (`Form.breaches`).

What a check reports is composed like the check itself (`Checked.Reports`): nothing is added by a
function on the value, and `<*>` puts the reports of both sides in a row. So the report on a record
is read off its schema (`Header.reports_checkMembers`), and a record is accepted when the report is
empty. An accepted record holds what the document has under the names of the schema, which is all
that a check looks at (`Header.checkMembers_congr`), so it is accepted again as it is.
-/

namespace ProverInput

/-! ## Reports -/

namespace Checked

variable {α β : Type}

/-- The complaints of an outcome are about the given places in their order, and without any
complaint there is a value. -/
structure Reports (outcome : Checked α) (paths : List String) : Prop where
  paths_eq : outcome.issues.map Issue.path = paths
  exists_valid : paths = [] → ∃ a, outcome = valid a

namespace Reports

theorem of_valid (a : α) : (valid a).Reports [] where
  paths_eq := rfl
  exists_valid _ := ⟨a, rfl⟩

theorem of_invalid {issues : List Issue} (h : issues ≠ []) :
    (invalid issues : Checked α).Reports (issues.map Issue.path) where
  paths_eq := rfl
  exists_valid hnil := absurd (List.map_eq_nil_iff.1 hnil) h

theorem map (f : α → β) {outcome : Checked α} {paths : List String} (h : outcome.Reports paths) :
    (f <$> outcome).Reports paths where
  paths_eq := by rw [issues_map, h.paths_eq]
  exists_valid hnil := by
    obtain ⟨a, rfl⟩ := h.exists_valid hnil
    exact ⟨f a, rfl⟩

theorem seq {f : Checked (α → β)} {outcome : Checked α} {before paths : List String}
    (hf : f.Reports before) (h : outcome.Reports paths) :
    (f <*> outcome).Reports (before ++ paths) where
  paths_eq := by rw [issues_seq, List.map_append, hf.paths_eq, h.paths_eq]
  exists_valid hnil := by
    obtain ⟨hbefore, hpaths⟩ := List.append_eq_nil_iff.1 hnil
    obtain ⟨g, rfl⟩ := hf.exists_valid hbefore
    obtain ⟨a, rfl⟩ := h.exists_valid hpaths
    exact ⟨g a, rfl⟩

variable {outcome : Checked α} {paths : List String}

theorem exists_valid_iff (h : outcome.Reports paths) : (∃ a, outcome = valid a) ↔ paths = [] := by
  refine ⟨?_, h.exists_valid⟩
  rintro ⟨a, rfl⟩
  exact h.paths_eq.symm

end Reports

end Checked

namespace Check

theorem reports_wrongKind {α : Type} (path : String) (expected : Json.Kind) (found : Json) :
    (wrongKind path expected found : Checked α).Reports [path] :=
  Checked.Reports.of_invalid (List.cons_ne_nil _ _)

/-- A number is reported once for each rule that it breaks. -/
theorem reports_number (rules : List Rule) (path : String) {x : Number} (h : x ≠ .nan) :
    (number rules path (.number x)).Reports
      (List.replicate ((rules.map fun r => r.holds x).count false) path) := by
  have hcount : (rules.map fun r => r.holds x).count false =
      (rules.filter fun r => !r.holds x).length := by
    rw [List.count, List.countP_map, List.countP_eq_length_filter]
    congr 2
    funext r
    cases h : r.holds x
    · simp [h]
    · simp [h]
  rw [hcount, number_eq rules path h]
  split
  · rename_i hkept
    rw [hkept]
    exact Checked.Reports.of_valid x
  · rename_i hbroken
    have hne : (rules.filter fun r => !r.holds x).map (fun r => Issue.mk path r.complaint) ≠ [] :=
      fun hnil => hbroken (List.map_eq_nil_iff.1 hnil)
    have hpaths : ((rules.filter fun r => !r.holds x).map fun r => Issue.mk path r.complaint).map
        Issue.path = List.replicate (rules.filter fun r => !r.holds x).length path := by
      rw [List.map_map]
      exact List.map_const'
    rw [← hpaths]
    exact Checked.Reports.of_invalid hne

/-- A text is reported once unless it has the form. -/
theorem reports_text (form : List Char → Bool) (complaint path s : String) :
    (text form complaint path (.string s)).Reports
      (List.replicate (if form s.toList then 0 else 1) path) := by
  rw [text]
  split
  · exact Checked.Reports.of_valid s
  · exact Checked.Reports.of_invalid (List.cons_ne_nil _ _)

end Check

/-! ## Forms -/

namespace Header

/-- The forms that members of a record have. -/
inductive Form where
  | natural
  | word
  | hash
  | compact
  | hexText
deriving DecidableEq, Repr

/-- Any number of hexadecimal digits of either case behind a lowercase prefix or behind none. -/
def IsHexText (s : String) : Prop :=
  ∃ mark ∈ ["", "0x"], ∃ digits : String, s = mark ++ digits ∧
    ∀ c ∈ digits.toList, '0' ≤ c ∧ c ≤ '9' ∨ 'a' ≤ c ∧ c ≤ 'f' ∨ 'A' ≤ c ∧ c ≤ 'F'

theorem isHexText_iff {s : String} : Check.isHexText s.toList = true ↔ IsHexText s := by
  have hdigits : ∀ digits : List Char, digits.all Hex.isDigit = true ↔
      ∀ c ∈ digits, '0' ≤ c ∧ c ≤ '9' ∨ 'a' ≤ c ∧ c ≤ 'f' ∨ 'A' ≤ c ∧ c ≤ 'F' := by
    intro digits
    simp only [List.all_eq_true, Hex.isDigit_iff]
  constructor
  · unfold Check.isHexText
    split
    · rename_i rest htext
      intro hall
      refine ⟨"0x", by decide, String.ofList rest, ?_, ?_⟩
      · apply String.toList_injective
        rw [htext, String.toList_append]
        show '0' :: 'x' :: rest = '0' :: 'x' :: (String.ofList rest).toList
        rw [String.toList_ofList]
      · rw [String.toList_ofList]
        exact (hdigits rest).1 hall
    · intro hall
      exact ⟨"", by decide, s, by simp, (hdigits s.toList).1 hall⟩
  · rintro ⟨mark, hmark, digits, rfl, hall⟩
    have hall := (hdigits digits.toList).2 hall
    have hcases : mark = "" ∨ mark = "0x" := by simpa using hmark
    rw [String.toList_append]
    rcases hcases with rfl | rfl
    · show Check.isHexText digits.toList = true
      unfold Check.isHexText
      split
      · -- the letter of a prefix is no digit
        rename_i rest htext
        rw [htext] at hall
        simp [Hex.isDigit, Hex.digit?] at hall
      · exact hall
    · exact hall

namespace Form

/-- The documents of a form. -/
def Has : Form → Json → Prop
  | natural, value => ∃ x, value = .number x ∧ Check.IsNatural x
  | word, value => ∃ x, value = .number x ∧ Check.IsWord x
  | hash, value => ∃ s, value = .string s ∧ Check.IsHash s
  | compact, value => ∃ s, value = .string s ∧ Compact.Form s
  | hexText, value => ∃ s, value = .string s ∧ IsHexText s

/-- Whether a document has a form. -/
def holds : Form → Json → Bool
  | natural, .number x => x.isInteger && 0 ≤ x
  | word, .number x => x.isInteger && 0 ≤ x && x ≤ 4294967295
  | hash, .string s => Check.isHash s.toList
  | compact, .string s => Check.isCompact s.toList
  | hexText, .string s => Check.isHexText s.toList
  | _, _ => false

theorem holds_iff {form : Form} {value : Json} : form.holds value = true ↔ form.Has value := by
  cases form with
  | natural =>
      cases value with
      | number x => simp [holds, Has, Check.isNatural_iff]
      | _ => exact iff_of_false (fun h => nomatch h) fun ⟨_, h, _⟩ => nomatch h
  | word =>
      cases value with
      | number x => simp [holds, Has, Check.isWord_iff, Check.isNatural_iff]
      | _ => exact iff_of_false (fun h => nomatch h) fun ⟨_, h, _⟩ => nomatch h
  | hash =>
      cases value with
      | string s => simp [holds, Has, Check.isHash_iff]
      | _ => exact iff_of_false (fun h => nomatch h) fun ⟨_, h, _⟩ => nomatch h
  | compact =>
      cases value with
      | string s => simp [holds, Has, Compact.isCompact_iff]
      | _ => exact iff_of_false (fun h => nomatch h) fun ⟨_, h, _⟩ => nomatch h
  | hexText =>
      cases value with
      | string s => simp [holds, Has, isHexText_iff]
      | _ => exact iff_of_false (fun h => nomatch h) fun ⟨_, h, _⟩ => nomatch h

instance (form : Form) (value : Json) : Decidable (form.Has value) :=
  decidable_of_iff _ holds_iff

/-- How often a document breaches a form: a number each time it is not whole, below zero or too
large, any other document once, and so what is no number at all. -/
def breaches : Form → Json → Nat
  | natural, .number .nan => 1
  | word, .number .nan => 1
  | natural, .number x => [x.isInteger, decide (0 ≤ x)].count false
  | word, .number x => [x.isInteger, decide (0 ≤ x), decide (x ≤ 4294967295)].count false
  | form, value => if form.Has value then 0 else 1

theorem breaches_eq_zero_iff {form : Form} {value : Json} :
    form.breaches value = 0 ↔ form.Has value := by
  unfold breaches
  split
  · -- what is no number at all has neither of the forms of numbers
    refine iff_of_false one_ne_zero ?_
    rw [← holds_iff]
    decide
  · refine iff_of_false one_ne_zero ?_
    rw [← holds_iff]
    decide
  · rw [← holds_iff]
    simp [holds, List.count_eq_zero]
  · rw [← holds_iff]
    simp [holds, List.count_eq_zero, and_assoc]
  · split
    · exact iff_of_true rfl ‹_›
    · exact iff_of_false one_ne_zero ‹_›

end Form

/-- What a form says of the places that a check reports. -/
def Form.Describes {α : Type} (form : Form) (check : Check α) : Prop :=
  ∀ path value, (check path value).Reports (List.replicate (form.breaches value) path)

namespace Form

theorem describes_natural : natural.Describes Check.natural := by
  intro path value
  cases value with
  | number x =>
      cases x with
      | nan => exact Check.reports_wrongKind path .number _
      | _ => exact Check.reports_number [Check.whole, Check.atLeastZero] path nofun
  | _ => exact Check.reports_wrongKind path .number _

theorem describes_word : word.Describes Check.word := by
  intro path value
  cases value with
  | number x =>
      cases x with
      | nan => exact Check.reports_wrongKind path .number _
      | _ =>
          exact Check.reports_number [Check.whole, Check.atLeastZero, Check.atMostWord] path nofun
  | _ => exact Check.reports_wrongKind path .number _

/-- A check of texts is described by a form whose documents are the texts that it accepts. -/
theorem describes_text {form : Form} {accepted : List Char → Bool} {complaint : String}
    (honce : ∀ value, form.breaches value = if form.Has value then 0 else 1)
    (hhas : ∀ value, form.Has value ↔ ∃ s, value = .string s ∧ accepted s.toList = true) :
    form.Describes (Check.text accepted complaint) := by
  intro path value
  rw [honce]
  cases value with
  | string s =>
      have hs : form.Has (.string s) ↔ accepted s.toList = true := by simp [hhas]
      simp only [hs]
      exact Check.reports_text accepted complaint path s
  | _ =>
      rw [if_neg]
      · exact Check.reports_wrongKind path .string _
      · rw [hhas]
        exact fun ⟨_, h, _⟩ => nomatch h

theorem describes_hash : hash.Describes Check.hash64 := by
  refine describes_text (fun _ => rfl) fun value => ?_
  simp only [Has, Check.isHash_iff]

theorem describes_compact : compact.Describes Check.compact := by
  refine describes_text (fun _ => rfl) fun value => ?_
  simp only [Has, Compact.isCompact_iff]

theorem describes_hexText : hexText.Describes Check.hexText := by
  refine describes_text (fun _ => rfl) fun value => ?_
  simp only [Has, isHexText_iff]

end Form

/-! ## The schema -/

/-- A member that a record is looked at for. -/
structure Member where
  name : String
  form : Form
  required : Bool

namespace Member

/-- The member is there if it has to be, and if it is there it has its form. -/
structure Keeps (member : Member) (doc : Json) : Prop where
  required : member.required = true → ∃ value, doc.get? member.name = some value
  form : ∀ value, doc.get? member.name = some value → member.form.Has value

/-- How often the member of a document breaches what it should be. -/
def breaches (member : Member) (doc : Json) : Nat :=
  match doc.get? member.name with
  | some value => member.form.breaches value
  | none => if member.required then 1 else 0

theorem breaches_eq_zero_iff {member : Member} {doc : Json} :
    member.breaches doc = 0 ↔ member.Keeps doc := by
  unfold breaches
  split
  · rename_i value hvalue
    rw [Form.breaches_eq_zero_iff]
    constructor
    · intro hform
      refine ⟨fun _ => ⟨value, hvalue⟩, fun other hother => ?_⟩
      rw [hvalue] at hother
      cases hother
      exact hform
    · intro hkeeps
      exact hkeeps.form value hvalue
  · rename_i hnone
    constructor
    · intro hoptional
      refine ⟨fun hrequired => ?_, fun value hvalue => ?_⟩
      · rw [if_pos hrequired] at hoptional
        cases hoptional
      · rw [hnone] at hvalue
        cases hvalue
    · intro hkeeps
      rw [if_neg]
      intro hrequired
      obtain ⟨value, hvalue⟩ := hkeeps.required hrequired
      rw [hnone] at hvalue
      cases hvalue

end Member

namespace Form.Describes

variable {α : Type} {form : Form} {check : Check α}

theorem member (h : form.Describes check) (name : String) (doc : Json) :
    (Check.member check name doc).Reports
      (List.replicate ((Member.mk name form true).breaches doc) name) := by
  unfold Check.member Member.breaches
  cases doc.get? name with
  | some value => exact h name value
  | none => exact Checked.Reports.of_invalid (List.cons_ne_nil _ _)

theorem optionalMember (h : form.Describes check) (name : String) (doc : Json) :
    (Check.optionalMember check name doc).Reports
      (List.replicate ((Member.mk name form false).breaches doc) name) := by
  unfold Check.optionalMember Member.breaches
  cases doc.get? name with
  | some value => exact (h name value).map some
  | none => exact Checked.Reports.of_valid none

end Form.Describes

/-- The members that a record is looked at for, in the order of its fields. -/
def schema : List Member :=
  [⟨"height", .natural, true⟩, ⟨"hash", .hash, true⟩, ⟨"previousblockhash", .hash, false⟩,
    ⟨"nextblockhash", .hash, false⟩, ⟨"time", .word, true⟩, ⟨"bits", .compact, true⟩,
    ⟨"nonce", .hexText, false⟩, ⟨"solution", .hexText, false⟩, ⟨"version", .word, true⟩,
    ⟨"merkleroot", .hash, false⟩, ⟨"finalsaplingroot", .hash, false⟩,
    ⟨"blockcommitments", .hash, false⟩, ⟨"chainwork", .hexText, false⟩]

theorem names_schema : schema.map Member.name = names := rfl

/-- The places that are reported when a document is checked, each as often as it is breached. -/
def reported (doc : Json) : List String :=
  schema.flatMap fun member => List.replicate (member.breaches doc) member.name

theorem reports_checkMembers (doc : Json) : (checkMembers doc).Reports (reported doc) := by
  -- each side of a sequencing has its own report
  have hreports := (Form.describes_natural.member "height" doc).map Header.mk
    |>.seq (Form.describes_hash.member "hash" doc)
    |>.seq (Form.describes_hash.optionalMember "previousblockhash" doc)
    |>.seq (Form.describes_hash.optionalMember "nextblockhash" doc)
    |>.seq (Form.describes_word.member "time" doc)
    |>.seq (Form.describes_compact.member "bits" doc)
    |>.seq (Form.describes_hexText.optionalMember "nonce" doc)
    |>.seq (Form.describes_hexText.optionalMember "solution" doc)
    |>.seq (Form.describes_word.member "version" doc)
    |>.seq (Form.describes_hash.optionalMember "merkleroot" doc)
    |>.seq (Form.describes_hash.optionalMember "finalsaplingroot" doc)
    |>.seq (Form.describes_hash.optionalMember "blockcommitments" doc)
    |>.seq (Form.describes_hexText.optionalMember "chainwork" doc)
    |>.seq (Checked.Reports.of_valid ([] : List (String × Json)))
  simp only [List.append_assoc] at hreports
  exact hreports

theorem reported_eq_nil_iff {doc : Json} :
    reported doc = [] ↔ ∀ member ∈ schema, member.Keeps doc := by
  simp only [reported, List.flatMap_eq_nil_iff, List.replicate_eq_nil_iff,
    Member.breaches_eq_zero_iff]

/-- No two members have a name in common, so a place stands for one of them. -/
theorem mem_reported_iff {doc : Json} {member : Member} (h : member ∈ schema) :
    member.name ∈ reported doc ↔ ¬ member.Keeps doc := by
  have hnames : (schema.map Member.name).Nodup := by decide
  rw [reported, List.mem_flatMap]
  simp only [List.mem_replicate, ne_eq, Member.breaches_eq_zero_iff]
  constructor
  · -- what is reported under the name is a breach of this member and of no other
    rintro ⟨other, hother, hbroken, hname⟩
    rwa [List.inj_on_of_nodup_map hnames h hother hname]
  · intro hbroken
    exact ⟨member, h, hbroken, rfl⟩

/-! ## Outcomes -/

/-- A check looks at nothing but the members of the schema. -/
theorem checkMembers_congr {doc other : Json}
    (h : ∀ name ∈ names, doc.get? name = other.get? name) :
    checkMembers doc = checkMembers other := by
  simp only [names, List.forall_mem_cons] at h
  simp only [checkMembers, Check.member, Check.optionalMember, h]

theorem toJson_of_ofJson {doc : Json} {header : Header} (h : ofJson doc = .ok header) :
    header.toJson = doc.restrict names :=
  (valid_of_checkMembers (checkMembers_of_ofJson h)).2

/-- What has been accepted is accepted again as it is. -/
theorem ofJson_toJson {doc : Json} {header : Header} (h : ofJson doc = .ok header) :
    ofJson header.toJson = .ok header := by
  rw [toJson_of_ofJson h]
  apply Checked.orElse_eq_ok.2
  apply Check.object_valid_iff.2
  -- the restriction is an object, and the check sees no difference to the document
  refine ⟨rfl, ?_⟩
  calc checkMembers (doc.restrict names)
      = checkMembers doc := checkMembers_congr fun name hname => by
        rw [Json.get?_restrict, if_pos hname]
    _ = .valid header := checkMembers_of_ofJson h

theorem exists_ofJson_iff {members : List (String × Json)} :
    (∃ header, ofJson (.object members) = .ok header) ↔
      ∀ member ∈ schema, member.Keeps (.object members) := by
  rw [← reported_eq_nil_iff, ← (reports_checkMembers _).exists_valid_iff]
  exact exists_congr fun header => Checked.orElse_eq_ok

theorem ofJson_eq_error {members : List (String × Json)} {e : ConversionError}
    (h : ofJson (.object members) = .error e) :
    ∃ issues, e = .headerRecord issues ∧
      issues.map Issue.path = reported (.object members) := by
  have hreports := (reports_checkMembers (.object members)).paths_eq
  unfold ofJson check Check.object at h
  cases hcheck : checkMembers (.object members) with
  | valid header =>
      rw [hcheck] at h
      cases h
  | invalid issues =>
      rw [hcheck] at h hreports
      cases h
      exact ⟨issues, rfl, hreports⟩

/-- A record is accepted when each member of the schema that it needs is there and each that it has
is of its form. What is accepted is the record without its other members, and is accepted again. A
record that is not accepted is answered with one message, which lists the members at fault in the
order of the schema, a number once for each bound that it breaks. -/
theorem ofJson_record (members : List (String × Json)) :
    ((∃ header, ofJson (.object members) = .ok header) ↔
      ∀ member ∈ schema, member.Keeps (.object members)) ∧
    (∀ header, ofJson (.object members) = .ok header →
      header.toJson = (Json.object members).restrict (schema.map Member.name) ∧
      ofJson header.toJson = .ok header) ∧
    ∀ e, ofJson (.object members) = .error e → e.kind = .invalidHeaderRecord ∧
      ∃ issues, e = .headerRecord issues ∧
        e.message = "Invalid header record: " ++
          "; ".intercalate (issues.map fun issue => issue.path ++ ": " ++ issue.complaint) ∧
        issues.map Issue.path = reported (.object members) ∧
        ∀ member ∈ schema,
          member.name ∈ issues.map Issue.path ↔ ¬ member.Keeps (.object members) := by
  rw [names_schema]
  refine ⟨exists_ofJson_iff, fun header h => ⟨toJson_of_ofJson h, ofJson_toJson h⟩, ?_⟩
  intro e h
  obtain ⟨issues, rfl, hpaths⟩ := ofJson_eq_error h
  refine ⟨rfl, issues, rfl, rfl, hpaths, fun member hmember => ?_⟩
  rw [hpaths]
  exact mem_reported_iff hmember

/-- A record with several members at fault, of which two break two bounds. -/
def faulty : List (String × Json) :=
  [("confirmations", .null), ("version", .number 4294967296), ("nonce", .bool true),
    ("time", .number (.infinite false)), ("bits", .string "0X1d00ffff"),
    ("height", .number (.fraction (-1) 0 rfl))]

/-- A record with nothing but what is needed and one member more. -/
def plain : List (String × Json) :=
  [("confirmations", .null), ("version", .number 4), ("bits", .string "0X1d00ffff"),
    ("hash", .string "00000000000000000000000000000000000000000000000000000000000000Ab"),
    ("time", .number 0), ("height", .number 7)]

/-- All faults are reported at once, in the order of the schema and not of the record. The other
record loses the member that is not looked at. -/
theorem ofJson_record_faulty :
    (∃ issues, ofJson (.object faulty) = .error (.headerRecord issues) ∧
      issues.map Issue.path = ["height", "height", "hash", "time", "time", "nonce", "version"]) ∧
    ∃ header, ofJson (.object plain) = .ok header ∧ ofJson header.toJson = .ok header ∧
      header.toJson = .object [("height", .number 7),
        ("hash", .string "00000000000000000000000000000000000000000000000000000000000000Ab"),
        ("time", .number 0), ("bits", .string "0X1d00ffff"), ("version", .number 4)] := by
  constructor
  · cases h : ofJson (.object faulty) with
    | ok header =>
        have hall := (ofJson_record faulty).1.1 ⟨header, h⟩
        exact absurd (reported_eq_nil_iff.2 hall) (by decide)
    | error e =>
        obtain ⟨-, issues, rfl, -, hpaths, -⟩ := (ofJson_record faulty).2.2 e h
        exact ⟨issues, rfl, hpaths.trans (by decide)⟩
  · obtain ⟨header, h⟩ := (ofJson_record plain).1.2 (reported_eq_nil_iff.1 (by decide))
    obtain ⟨hmembers, hagain⟩ := (ofJson_record plain).2.1 header h
    exact ⟨header, h, hagain, hmembers⟩

end Header

end ProverInput
