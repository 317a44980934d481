import ProverInput.ChainState.Checkpoint
import ProverInput.Proofs.Json.RoundTrip
import ProverInput.Proofs.Untagged.Complaints

set_option autoImplicit false

/-! # The grammar of untagged documents

The documents that have arguments are those of a small language (`Accepted`). None of the values of
such a document is complained of, and a document without complaints is in the language
(`clean_iff_accepted`). So the language is read off the complaints, which say what the error is for
every other document (`hexArgs_grammar`).
-/

namespace ProverInput.Untagged

/-! ## The language -/

/-- An item of a raw tuple. -/
inductive RawItem : Json → Prop where
  | int {n : Int} (hlow : 0 ≤ n) (hhigh : n < 2 ^ 252) : RawItem (.number (.int n))
  | array {items : List Json} (h : ∀ item ∈ items, RawItem item) : RawItem (.array items)

/-- A document that has arguments. -/
inductive Accepted : Json → Prop where
  | null : Accepted .null
  | bool (b : Bool) : Accepted (.bool b)
  | int {n : Int} (hlow : 0 ≤ n) (hhigh : n < 2 ^ 252) : Accepted (.number (.int n))
  | hash {s : String} (h : Check.isHash s.toList = true) : Accepted (.string s)
  | decimal {s : String} (h : Check.isDecimal s.toList = true)
      (hhigh : Nat.ofDigitChars 10 s.toList 0 < 2 ^ 256) : Accepted (.string s)
  | bytes {s : String} (h : ReadsAsBytes s) : Accepted (.string s)
  | array {items : List Json} (h : ∀ item ∈ items, Accepted item) : Accepted (.array items)
  | object {members : List (String × Json)}
      (hplain : ∀ m ∈ members, isRawName m.1 = false → Accepted m.2)
      (hraw : ∀ m ∈ members, isRawName m.1 = true →
        ∃ items, m.2 = .array items ∧ ∀ item ∈ items, RawItem item) : Accepted (.object members)

/-! ## Documents without complaints -/

/-- No value of the document is complained of. -/
def Clean (place : Place) (doc : Json) : Prop :=
  ∀ visit ∈ visits place doc, unreadable? visit = none ∧ outOfRange? visit = none

theorem clean_iff_findSome? {place : Place} {doc : Json} :
    Clean place doc ↔ ((visits place doc).findSome? unreadable?).or
      ((visits place doc).findSome? outOfRange?) = none := by
  rw [Option.or_eq_none_iff, List.findSome?_eq_none_iff, List.findSome?_eq_none_iff, Clean,
    forall₂_and]

theorem forall_visitsItems {Q : Place × Json → Prop} {place : Place} {items : List Json} :
    (∀ visit ∈ visitsItems place items, Q visit) ↔
      ∀ item ∈ items, ∀ visit ∈ visits place item, Q visit := by
  induction items with
  | nil => simp [visitsItems]
  | cons item items ih => rw [visitsItems, List.forall_mem_append, ih, List.forall_mem_cons]

theorem forall_visitsMembers {Q : Place × Json → Prop} {members : List (String × Json)} :
    (∀ visit ∈ visitsMembers members, Q visit) ↔
      ∀ m ∈ members, ∀ visit ∈ visits (.ofName m.1) m.2, Q visit := by
  induction members with
  | nil => simp [visitsMembers]
  | cons m members ih =>
      obtain ⟨name, value⟩ := m
      rw [visitsMembers, List.forall_mem_append, ih, List.forall_mem_cons]

theorem clean_array {place : Place} {items : List Json} :
    Clean place (.array items) ↔ ∀ item ∈ items, Clean place.inside item := by
  have hself : unreadable? (place, .array items) = none ∧
      outOfRange? (place, .array items) = none := ⟨rfl, rfl⟩
  rw [Clean, visits, List.forall_mem_cons, and_iff_right hself]
  exact forall_visitsItems

theorem clean_object {members : List (String × Json)} :
    Clean .ordinary (.object members) ↔ ∀ m ∈ members, Clean (.ofName m.1) m.2 := by
  have hself : unreadable? (.ordinary, .object members) = none ∧
      outOfRange? (.ordinary, .object members) = none := ⟨rfl, rfl⟩
  rw [Clean, visits, List.forall_mem_cons, and_iff_right hself]
  exact forall_visitsMembers

/-- A value without parts is clean when it is not complained of itself. -/
theorem clean_leaf {place : Place} {doc : Json} (h : visits place doc = [(place, doc)]) :
    Clean place doc ↔ unreadable? (place, doc) = none ∧ outOfRange? (place, doc) = none := by
  rw [Clean, h, List.forall_mem_singleton]

theorem Clean.self {place : Place} {doc : Json} (h : Clean place doc) :
    unreadable? (place, doc) = none ∧ outOfRange? (place, doc) = none := by
  refine h (place, doc) ?_
  cases doc
  all_goals simp [visits]

theorem beyond?_eq_none_iff {bound : Nat} {value : Int} :
    beyond? bound value = none ↔ 0 ≤ value ∧ value < bound := by
  simp [beyond?]

/-! ## Raw items -/

theorem RawItem.clean {doc : Json} (h : RawItem doc) : Clean .item doc := by
  induction h with
  | int hlow hhigh => exact (clean_leaf rfl).2 ⟨rfl, beyond?_eq_none_iff.2 ⟨hlow, hhigh⟩⟩
  | array _ ih => exact clean_array.2 ih

theorem rawItem_of_clean {doc : Json} (h : Clean .item doc) : RawItem doc := by
  match doc with
  | .null => cases h.self.1
  | .bool _ => cases h.self.1
  | .number (.int n) =>
      obtain ⟨hlow, hhigh⟩ := beyond?_eq_none_iff.1 h.self.2
      exact .int hlow hhigh
  | .number (.fraction _ _ _) => cases h.self.1
  | .number (.infinite _) => cases h.self.1
  | .number .nan => cases h.self.1
  | .string _ => cases h.self.1
  | .array items => exact .array fun item hitem => rawItem_of_clean (clean_array.1 h item hitem)
  | .object _ => cases h.self.1
termination_by sizeOf doc

/-- The value of a raw tuple is clean when it is a list of raw items. -/
theorem clean_tuple_iff {doc : Json} :
    Clean .tuple doc ↔ ∃ items, doc = .array items ∧ ∀ item ∈ items, RawItem item := by
  constructor
  · intro h
    cases doc with
    | array items =>
        exact ⟨items, rfl, fun item hitem => rawItem_of_clean (clean_array.1 h item hitem)⟩
    | _ => exact absurd h.self.1 (by simp [unreadable?])
  · rintro ⟨items, rfl, hitems⟩
    exact clean_array.2 fun item hitem => (hitems item hitem).clean

/-! ## Texts -/

theorem isDecimal_iff {s : String} :
    Check.isDecimal s.toList = true ↔ s.toList ≠ [] ∧ s.toList.all Char.isDigit = true := by
  simp [Check.isDecimal]

theorem ReadsAsBytes.not_integer {s : String} (h : ReadsAsBytes s) : ¬ ReadsAsInteger s := by
  obtain ⟨digits, heq, -⟩ := h
  rintro ⟨-, hall, -⟩
  rw [heq] at hall
  simp [(by decide : Char.isDigit 'x' = false)] at hall

theorem clean_string {s : String} : Clean .ordinary (.string s) ↔
    (Check.isHash s.toList = true ∨ ReadsAsInteger s ∨ ReadsAsBytes s) ∧
      (ReadsAsInteger s → Nat.ofDigitChars 10 s.toList 0 < 2 ^ 256) := by
  rw [clean_leaf rfl, unreadable?, badText?_eq_none_iff, outOfRange?, ite_eq_right_iff]
  refine and_congr_right fun _ => imp_congr_right fun _ => ?_
  rw [beyond?_eq_none_iff]
  constructor
  · rintro ⟨-, hhigh⟩
    exact_mod_cast hhigh
  · intro hhigh
    exact ⟨Int.natCast_nonneg _, by exact_mod_cast hhigh⟩

theorem accepted_of_clean_string {s : String} (h : Clean .ordinary (.string s)) :
    Accepted (.string s) := by
  obtain ⟨hhash | hinteger | hbytes, hhigh⟩ := clean_string.1 h
  · exact .hash hhash
  · exact .decimal (isDecimal_iff.2 ⟨hinteger.1, hinteger.2.1⟩) (hhigh hinteger)
  · exact .bytes hbytes

/-- Decimal digits are an integer unless there are 64 of them, which are a digest. -/
theorem hash_or_integer_of_decimal {s : String} (h : Check.isDecimal s.toList = true) :
    Check.isHash s.toList = true ∨ ReadsAsInteger s := by
  obtain ⟨hne, hall⟩ := isDecimal_iff.1 h
  by_cases hlength : s.toList.length = 64
  · refine .inl (Hex.isHash_iff.2 ⟨hlength, List.all_eq_true.2 fun c hc => ?_⟩)
    exact Hex.isDigit_of_decimal (List.all_eq_true.1 hall c hc)
  · exact .inr ⟨hne, hall, hlength⟩

/-! ## Documents -/

theorem Accepted.clean {doc : Json} (h : Accepted doc) : Clean .ordinary doc := by
  induction h with
  | null => exact (clean_leaf rfl).2 ⟨rfl, rfl⟩
  | bool b => exact (clean_leaf rfl).2 ⟨rfl, rfl⟩
  | int hlow hhigh => exact (clean_leaf rfl).2 ⟨rfl, beyond?_eq_none_iff.2 ⟨hlow, hhigh⟩⟩
  | hash h =>
      exact clean_string.2
        ⟨.inl h, fun hinteger => absurd (Hex.isHash_iff.1 h).1 hinteger.2.2⟩
  | decimal h hhigh =>
      exact clean_string.2 ⟨(hash_or_integer_of_decimal h).imp_right .inl, fun _ => hhigh⟩
  | bytes h => exact clean_string.2 ⟨.inr (.inr h), fun hinteger => absurd hinteger h.not_integer⟩
  | array _ ih => exact clean_array.2 ih
  | object _ hraw ih =>
      refine clean_object.2 fun m hm => ?_
      rw [Place.ofName]
      split
      case isTrue hname => exact clean_tuple_iff.2 (hraw m hm hname)
      case isFalse hname => exact ih m hm (Bool.eq_false_iff.2 hname)

theorem sizeOf_value_lt {members : List (String × Json)} {m : String × Json} (h : m ∈ members) :
    sizeOf m.2 < sizeOf members := by
  have hmember := List.sizeOf_lt_of_mem h
  rw [Prod.mk.sizeOf_spec] at hmember
  omega

theorem accepted_of_clean {doc : Json} (h : Clean .ordinary doc) : Accepted doc := by
  match doc with
  | .null => exact .null
  | .bool b => exact .bool b
  | .number (.int n) =>
      obtain ⟨hlow, hhigh⟩ := beyond?_eq_none_iff.1 h.self.2
      exact .int hlow hhigh
  | .number (.fraction _ _ _) => cases h.self.1
  | .number (.infinite _) => cases h.self.1
  | .number .nan => cases h.self.1
  | .string s => exact accepted_of_clean_string h
  | .array items => exact .array fun item hitem => accepted_of_clean (clean_array.1 h item hitem)
  | .object members =>
      have hmembers := clean_object.1 h
      refine .object (fun m hm hname => ?_) fun m hm hname => ?_
      · have hclean := hmembers m hm
        rw [Place.ofName, if_neg (by simp [hname])] at hclean
        have hsmaller := sizeOf_value_lt hm
        exact accepted_of_clean hclean
      · have hclean := hmembers m hm
        rw [Place.ofName, if_pos hname] at hclean
        exact clean_tuple_iff.1 hclean
termination_by sizeOf doc
decreasing_by
  · rw [Json.array.sizeOf_spec]
    have := List.sizeOf_lt_of_mem hitem
    omega
  · rw [Json.object.sizeOf_spec]
    omega

theorem clean_iff_accepted {doc : Json} : Clean .ordinary doc ↔ Accepted doc :=
  ⟨accepted_of_clean, Accepted.clean⟩

/-! ## Arguments -/

theorem kind_unreadable {visit : Place × Json} {e : ConversionError}
    (h : unreadable? visit = some e) :
    e.kind = .unsupportedValueType ∨ e.kind = .unsupportedStringShape := by
  unfold unreadable? at h
  split at h
  case h_5 =>
    unfold badText? at h
    split at h
    · cases h
    · split at h
      · split at h
        · cases h
        · cases h
          exact .inr rfl
      · cases h
        exact .inr rfl
  case h_8 =>
    cases h
    exact .inl rfl
  all_goals cases h

theorem kind_outOfRange {visit : Place × Json} {e : ConversionError}
    (h : outOfRange? visit = some e) : e.kind = .outOfRangeScalar := by
  have hbeyond : ∀ {bound value}, beyond? bound value = some e → e.kind = .outOfRangeScalar := by
    intro bound value hbeyond
    obtain ⟨-, rfl⟩ := by simpa [beyond?] using hbeyond
    rfl
  unfold outOfRange? at h
  split at h
  · exact hbeyond h
  · split at h
    · exact hbeyond h
    · cases h
  · cases h

/-- A document without reserved names has arguments exactly when it is in the language. Otherwise
the error is the first complaint: about a value without a reading if there is any, or else about an
integer out of range. -/
theorem hexArgs_grammar {text : String} {doc : Json} (hread : Json.read text = some doc)
    (hunreserved : doc.Unreserved) :
    ((∃ args, (ofJson doc).hexArgs = .ok args) ↔ Accepted doc) ∧
    ∀ failure, (ofJson doc).hexArgs = .error failure → ∃ e, failure = .conversion e ∧
      ((visits .ordinary doc).findSome? unreadable? = some e ∧
          (e.kind = .unsupportedValueType ∨ e.kind = .unsupportedStringShape) ∨
        (visits .ordinary doc).findSome? unreadable? = none ∧
          (visits .ordinary doc).findSome? outOfRange? = some e ∧ e.kind = .outOfRangeScalar) := by
  have herror := error?_hexArgs (Json.arranged_read hread) hunreserved
  refine ⟨?_, fun failure hfailure => ?_⟩
  · rw [← clean_iff_accepted, clean_iff_findSome?, ← error?_eq_none_iff, herror,
      Option.map_eq_none_iff]
  · rw [error?_eq_some_iff.2 hfailure] at herror
    obtain ⟨e, he, rfl⟩ := Option.map_eq_some_iff.1 herror.symm
    refine ⟨e, rfl, ?_⟩
    rcases Option.or_eq_some_iff.1 he with hfirst | ⟨hnone, hfirst⟩
    · obtain ⟨_, _, _, -, hvisit, -⟩ := List.findSome?_eq_some_iff.1 hfirst
      exact .inl ⟨hfirst, kind_unreadable hvisit⟩
    · obtain ⟨_, _, _, -, hvisit, -⟩ := List.findSome?_eq_some_iff.1 hfirst
      exact .inr ⟨hnone, hfirst, kind_outOfRange hvisit⟩

/-- A text without a form comes before an integer out of range, wherever they stand. -/
theorem hexArgs_grammar_pair :
    let doc := Json.array [.number (.int (-1)), .object [("_", .array []), ("a", .string "x")]]
    (Json.read doc.compactText = some doc ∧ doc.Unreserved) ∧ ¬ Accepted doc ∧
      (ofJson doc).hexArgs = .error (.conversion (.unexpectedString "x")) := by
  intro doc
  have hplain : doc.Plain := by
    refine ⟨Number.isWhole_of_le (by decide),
      ⟨by decide, by decide, trivial, by decide, ?_, trivial⟩, trivial⟩
    show "x".toList.all Json.isPlain = true
    decide
  have hread : Json.read doc.compactText = some doc := Json.read_compactText hplain
  have hunreserved : doc.Unreserved := by
    refine ⟨trivial, trivial, ⟨?_, ⟨trivial, trivial⟩, trivial, trivial⟩, trivial⟩
    show Members.reserved ∉ ["_", "a"]
    decide
  obtain ⟨haccepted, hfails⟩ := hexArgs_grammar hread hunreserved
  have hfirst : (visits .ordinary doc).findSome? unreadable? = some (.unexpectedString "x") := rfl
  have hno : ¬ Accepted doc := by
    rw [← clean_iff_accepted, clean_iff_findSome?, hfirst]
    simp
  refine ⟨⟨hread, hunreserved⟩, hno, ?_⟩
  cases hargs : (ofJson doc).hexArgs with
  | ok args => exact absurd (haccepted.1 ⟨args, hargs⟩) hno
  | error failure =>
      obtain ⟨e, rfl, ⟨he, -⟩ | ⟨he, -⟩⟩ := hfails failure hargs
      · rw [hfirst] at he
        cases he
        rfl
      · rw [hfirst] at he
        cases he

end ProverInput.Untagged
