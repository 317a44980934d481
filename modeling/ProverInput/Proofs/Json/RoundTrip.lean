import ProverInput.Proofs.Json.Layout
import ProverInput.Proofs.Json.Members
import ProverInput.Proofs.Json.Numeral
import ProverInput.Proofs.Json.Quoted

set_option autoImplicit false

/-! # Documents read back from their texts

A layout of a document is read to its end and gives the document that it `ReadsAs`, whatever stands
behind it, as long as that does not go on like a number. Arrays and objects read as what their parts
read as (`ReadsAs.array`, `ReadsAs.object`), and every number reads as something
(`ReadsAs.exists_number`).

A document is `Plain` when its numbers are whole doubles, its texts need no escapes and its members
stand in the order in which objects keep them. By induction on the document, a plain one reads as
itself (`readsAs_of_plain`).
-/

namespace ProverInput.Json

/-! ## Blanks -/

theorem skipBlanks_append {gap : List Char} (h : gap.all isBlank = true) (text : List Char) :
    skipBlanks (gap ++ text) = skipBlanks text := by
  induction gap with
  | nil => rfl
  | cons c gap ih =>
      rw [List.all_cons, Bool.and_eq_true] at h
      rw [List.cons_append, skipBlanks, if_pos h.1, ih h.2]

theorem skipBlanks_cons {c : Char} (h : isBlank c = false) (text : List Char) :
    skipBlanks (c :: text) = c :: text := by
  rw [skipBlanks, if_neg (by simp [h])]

theorem skipBlanks_skipBlanks (text : List Char) :
    skipBlanks (skipBlanks text) = skipBlanks text := by
  induction text with
  | nil => rfl
  | cons c text ih =>
      rw [skipBlanks]
      split
      · exact ih
      · rename_i h
        exact skipBlanks_cons (by simpa using h) text

/-- A reader of values looks behind the blanks only. -/
theorem readValue_of_skipBlanks {text text' : List Char} (h : skipBlanks text = skipBlanks text')
    (fuel : Nat) : readValue fuel text = readValue fuel text' := by
  cases fuel with
  | zero => rfl
  | succ fuel => rw [readValue, readValue, h]

theorem readItems_of_skipBlanks {text text' : List Char} (h : skipBlanks text = skipBlanks text')
    (fuel : Nat) : readItems fuel text = readItems fuel text' := by
  cases fuel with
  | zero => rfl
  | succ fuel => rw [readItems, readItems, readValue_of_skipBlanks h]

theorem readMembers_of_skipBlanks {text text' : List Char} (h : skipBlanks text = skipBlanks text')
    (fuel : Nat) : readMembers fuel text = readMembers fuel text' := by
  cases fuel with
  | zero => rfl
  | succ fuel => rw [readMembers, readMembers, h]

/-- Blanks do not go on like a number. -/
theorem endsNumber_blanks {gap : List Char} (h : gap.all isBlank = true) {text : List Char}
    (htext : endsNumber text = true) : endsNumber (gap ++ text) = true := by
  cases gap with
  | nil => exact htext
  | cons c gap =>
      have hc : isBlank c = true := by
        rw [List.all_cons, Bool.and_eq_true] at h
        exact h.1
      simp only [isBlank, Bool.or_eq_true, decide_eq_true_eq] at hc
      rcases hc with ((rfl | rfl) | rfl) | rfl <;> rfl

/-! ## First characters -/

/-- A number starts with a sign or a digit. -/
theorem readNumber_head {text : List Char} {x : Number} {rest : List Char}
    (h : readNumber text = some (x, rest)) :
    ∃ c tail, text = c :: tail ∧ (c = '-' ∨ c.isDigit = true) := by
  unfold readNumber at h
  split at h
  · exact ⟨'-', _, rfl, Or.inl rfl⟩
  · rw [readMagnitude] at h
    cases text with
    | nil => simp [readDigits] at h
    | cons c tail =>
        refine ⟨c, tail, rfl, Or.inr ?_⟩
        by_contra hc
        rw [Bool.not_eq_true] at hc
        simp [readDigits, hc] at h

theorem readValue_number {text : List Char} {x : Number} {rest : List Char}
    (h : readNumber text = some (x, rest)) (fuel : Nat) :
    readValue (fuel + 1) text = some (.number x, rest) := by
  obtain ⟨c, tail, rfl, hc⟩ := readNumber_head h
  have hne : ∀ d : Char, d ≠ '-' → d.isDigit = false → c ≠ d := by
    rintro d hminus hdigit rfl
    rcases hc with hc | hc
    · exact hminus hc
    · rw [hdigit] at hc
      cases hc
  have hblank : isBlank c = false := by
    simp [isBlank, hne ' ' (by decide) (by decide), hne '\t' (by decide) (by decide),
      hne '\n' (by decide) (by decide), hne '\r' (by decide) (by decide)]
  -- no other kind of value starts so
  rw [readValue, skipBlanks_cons hblank]
  split
  case h_1 heq => exact absurd (List.cons.inj heq).1 (hne 'n' (by decide) (by decide))
  case h_2 heq => exact absurd (List.cons.inj heq).1 (hne 't' (by decide) (by decide))
  case h_3 heq => exact absurd (List.cons.inj heq).1 (hne 'f' (by decide) (by decide))
  case h_4 heq => exact absurd (List.cons.inj heq).1 (hne '\x22' (by decide) (by decide))
  case h_5 heq => exact absurd (List.cons.inj heq).1 (hne '[' (by decide) (by decide))
  case h_6 heq => exact absurd (List.cons.inj heq).1 (hne '\x7b' (by decide) (by decide))
  case h_7 => rw [h, Option.map_some]

/-- The items of an array do not start with its closing bracket. -/
theorem skipBlanks_of_readItems {fuel : Nat} {text : List Char} {items : List Json}
    {rest : List Char} (h : readItems fuel text = some (items, rest)) (tail : List Char) :
    skipBlanks text ≠ ']' :: tail := by
  intro hskip
  have hvalue : ∀ fuel, readValue fuel text = none := by
    intro fuel
    have hbracket : skipBlanks text = skipBlanks (']' :: tail) := by
      rw [hskip, skipBlanks_cons rfl]
    rw [readValue_of_skipBlanks hbracket]
    cases fuel with
    | zero => rfl
    | succ fuel => rfl
  cases fuel with
  | zero => cases h
  | succ fuel =>
      rw [readItems, hvalue] at h
      cases h

theorem skipBlanks_of_readMembers {fuel : Nat} {text : List Char} {given : List (String × Json)}
    {rest : List Char} (h : readMembers fuel text = some (given, rest)) (tail : List Char) :
    skipBlanks text ≠ '\x7d' :: tail := by
  intro hskip
  cases fuel with
  | zero => cases h
  | succ fuel =>
      rw [readMembers, hskip] at h
      cases h

/-- An array reads as its items. -/
theorem readValue_array {fuel : Nat} {text : List Char} {items : List Json} {rest : List Char}
    (h : readItems fuel text = some (items, rest)) :
    readValue (fuel + 1) ('[' :: text) = some (.array items, rest) := by
  rw [readValue, skipBlanks_cons rfl]
  simp only
  split
  · rename_i heq
    exact absurd heq (skipBlanks_of_readItems h _)
  · rw [readItems_of_skipBlanks (skipBlanks_skipBlanks text), h, Option.map_some]

/-- An object reads as its members. -/
theorem readValue_object {fuel : Nat} {text : List Char} {given : List (String × Json)}
    {rest : List Char} (h : readMembers fuel text = some (given, rest)) :
    readValue (fuel + 1) ('\x7b' :: text) = some (.object (Members.ofList given), rest) := by
  rw [readValue, skipBlanks_cons rfl]
  simp only
  split
  · rename_i heq
    exact absurd heq (skipBlanks_of_readMembers h _)
  · rw [readMembers_of_skipBlanks (skipBlanks_skipBlanks text), h, Option.map_some]

/-! ## Plain documents -/

mutual

/-- Whether a document holds only what every layout of it keeps. -/
def Plain : Json → Prop
  | .null => True
  | .bool _ => True
  | .number x => x.IsWhole
  | .string s => s.toList.all isPlain = true
  | .array items => PlainItems items
  | .object members => Members.Ordered (members.map Prod.fst) ∧ PlainMembers members

def PlainItems : List Json → Prop
  | [] => True
  | item :: rest => item.Plain ∧ PlainItems rest

def PlainMembers : List (String × Json) → Prop
  | [] => True
  | (name, value) :: rest => name.toList.all isPlain = true ∧ value.Plain ∧ PlainMembers rest

end

theorem plainItems_of_forall {items : List Json} (h : ∀ item ∈ items, item.Plain) :
    PlainItems items := by
  induction items with
  | nil => exact trivial
  | cons item items ih =>
      exact ⟨h item List.mem_cons_self, ih fun i hi => h i (List.mem_cons_of_mem item hi)⟩

theorem plainMembers_of_forall {members : List (String × Json)}
    (h : ∀ m ∈ members, m.1.toList.all isPlain = true ∧ m.2.Plain) : PlainMembers members := by
  induction members with
  | nil => exact trivial
  | cons m members ih =>
      obtain ⟨hname, hvalue⟩ := h m List.mem_cons_self
      exact ⟨hname, hvalue, ih fun m hm => h m (List.mem_cons_of_mem _ hm)⟩

theorem skipBlanks_quoted {name : String} (h : name.toList.all isPlain = true) (text : List Char) :
    skipBlanks (quoted name ++ text) = quoted name ++ text := by
  rw [quoted_of_plain h, List.cons_append, skipBlanks_cons rfl]

/-- What the reader of members comes by first: the quote, the name and the value. -/
theorem readMember_front {fuel : Nat} {gap behind text text' : List Char} {name : String}
    {value : Json} (hname : name.toList.all isPlain = true) (hgap : gap.all isBlank = true)
    (hbehind : behind.all isBlank = true) (hvalue : readValue fuel text = some (value, text')) :
    ∃ tail, skipBlanks (gap ++ (quoted name ++ ':' :: (behind ++ text))) = '\x22' :: tail ∧
      readString ⟨[], none⟩ tail = some (name, ':' :: (behind ++ text)) ∧
      readValue fuel (behind ++ text) = some (value, text') := by
  obtain ⟨tail, htail, hread⟩ := readString_quoted hname (':' :: (behind ++ text))
  refine ⟨tail, ?_, hread, ?_⟩
  · rw [skipBlanks_append hgap, skipBlanks_quoted hname, htail]
  · rw [readValue_of_skipBlanks (skipBlanks_append hbehind text), hvalue]

theorem readMembers_next {fuel : Nat} {gap behind text text' rest : List Char} {name : String}
    {value : Json} (hname : name.toList.all isPlain = true) (hgap : gap.all isBlank = true)
    (hbehind : behind.all isBlank = true) (hvalue : readValue fuel text = some (value, text'))
    (hrest : skipBlanks text' = ',' :: rest) :
    readMembers (fuel + 1) (gap ++ (quoted name ++ ':' :: (behind ++ text))) =
      (readMembers fuel rest).map fun (given, rest) => ((name, value) :: given, rest) := by
  obtain ⟨tail, hskip, hread, hvalue'⟩ := readMember_front hname hgap hbehind hvalue
  rw [readMembers, hskip]
  simp only [hread, skipBlanks_cons (show isBlank ':' = false from rfl), hvalue', hrest]

theorem readMembers_last {fuel : Nat} {gap behind text text' rest : List Char} {name : String}
    {value : Json} (hname : name.toList.all isPlain = true) (hgap : gap.all isBlank = true)
    (hbehind : behind.all isBlank = true) (hvalue : readValue fuel text = some (value, text'))
    (hrest : skipBlanks text' = '\x7d' :: rest) :
    readMembers (fuel + 1) (gap ++ (quoted name ++ ':' :: (behind ++ text))) =
      some ([(name, value)], rest) := by
  obtain ⟨tail, hskip, hread, hvalue'⟩ := readMember_front hname hgap hbehind hvalue
  rw [readMembers, hskip]
  simp only [hread, skipBlanks_cons (show isBlank ':' = false from rfl), hvalue', hrest]

/-! ## Reading layouts -/

/-- Any layout of a document reads as another document, whatever stands behind it that does not go
on like a number. Fuel of more than twice its length is enough, since each character starts at most
one value and one list of items or members. -/
def ReadsAs (s : Spacing) (doc doc' : Json) : Prop :=
  ∀ depth fuel rest, 2 * (spread s depth doc).length < fuel → endsNumber rest = true →
    readValue fuel (spread s depth doc ++ rest) = some (doc', rest)

/-- A member with a plain name reads as one of the same name when its value reads as the value. -/
inductive MemberReadsAs (s : Spacing) : String × Json → String × Json → Prop
  | intro {name : String} {value value' : Json} (plain : name.toList.all isPlain = true)
      (reads : ReadsAs s value value') : MemberReadsAs s (name, value) (name, value')

variable {s : Spacing}

theorem readItems_spread {items items' : List Json} (h : List.Forall₂ (ReadsAs s) items items')
    (hne : items ≠ []) (depth fuel : Nat)
    (hfuel : 2 * (spreadItems s depth items).length + 1 < fuel) {gap : List Char}
    (hgap : gap.all isBlank = true) (rest : List Char) :
    readItems fuel (spreadItems s depth items ++ (gap ++ ']' :: rest)) = some (items', rest) := by
  induction h generalizing fuel with
  | nil => exact absurd rfl hne
  | @cons item item' items items' hitem hitems ih =>
      obtain ⟨fuel, rfl⟩ : ∃ f, fuel = f + 1 := ⟨fuel - 1, by omega⟩
      cases hitems with
      | nil =>
          simp only [spreadItems, List.length_append] at hfuel
          -- behind the last item stands the bracket, after blanks
          have hend : endsNumber (gap ++ ']' :: rest) = true := endsNumber_blanks hgap rfl
          have hvalue := hitem depth fuel _ (by omega) hend
          rw [spreadItems, List.append_assoc,
            readItems_of_skipBlanks (skipBlanks_append (s.before_blank depth) _), readItems, hvalue]
          simp only [skipBlanks_append hgap, skipBlanks_cons (show isBlank ']' = false from rfl)]
      | @cons next next' items items' _ _ =>
          -- behind any other item stands a comma, and the rest is read one fuel further down
          rw [spreadItems_next] at hfuel ⊢
          simp only [List.length_append, List.length_cons] at hfuel
          have hrest := ih (by simp) fuel (by omega)
          have hend : endsNumber (',' :: (spreadItems s depth (next :: items) ++
              (gap ++ ']' :: rest))) = true := rfl
          have hvalue := hitem depth fuel _ (by omega) hend
          rw [List.append_assoc,
            readItems_of_skipBlanks (skipBlanks_append (s.before_blank depth) _), readItems,
            List.append_assoc, List.cons_append, hvalue]
          simp only [skipBlanks_cons (show isBlank ',' = false from rfl), hrest, Option.map_some]

theorem readMembers_spread {members members' : List (String × Json)}
    (h : List.Forall₂ (MemberReadsAs s) members members') (hne : members ≠ []) (depth fuel : Nat)
    (hfuel : 2 * (spreadMembers s depth members).length + 1 < fuel) {gap : List Char}
    (hgap : gap.all isBlank = true) (rest : List Char) :
    readMembers fuel (spreadMembers s depth members ++ (gap ++ '\x7d' :: rest)) =
      some (members', rest) := by
  induction h generalizing fuel with
  | nil => exact absurd rfl hne
  | @cons member member' members members' hmember hmembers ih =>
      obtain ⟨fuel, rfl⟩ : ∃ f, fuel = f + 1 := ⟨fuel - 1, by omega⟩
      obtain ⟨hname, hvalue⟩ := hmember
      cases hmembers with
      | nil =>
          simp only [spreadMembers, List.length_append, List.length_cons] at hfuel
          have hend : endsNumber (gap ++ '\x7d' :: rest) = true := endsNumber_blanks hgap rfl
          have hread := readMembers_last hname (s.before_blank depth) s.behind_blank
            (hvalue depth fuel _ (by omega) hend)
            ((skipBlanks_append hgap _).trans (skipBlanks_cons rfl _))
          simpa [spreadMembers] using hread
      | @cons next next' members members' _ _ =>
          simp only [spreadMembers, List.length_append, List.length_cons] at hfuel
          have hrest := ih (by simp) fuel (by omega)
          have hend : endsNumber (',' :: (spreadMembers s depth (next :: members) ++
              (gap ++ '\x7d' :: rest))) = true := rfl
          have hread := readMembers_next hname (s.before_blank depth) s.behind_blank
            (hvalue depth fuel _ (by omega) hend) (skipBlanks_cons rfl _)
          simp only [hrest, Option.map_some] at hread
          simpa [spreadMembers] using hread

namespace ReadsAs

/-- A number reads as what the reader of numbers finds. -/
theorem number {x y : Number} (h : ∀ rest, endsNumber rest = true →
    readNumber (numberText x ++ rest) = some (y, rest)) : ReadsAs s (.number x) (.number y) := by
  intro depth fuel rest hfuel hrest
  obtain ⟨fuel, rfl⟩ : ∃ f, fuel = f + 1 := ⟨fuel - 1, by omega⟩
  exact readValue_number (h rest hrest) fuel

/-- Every number reads as something. -/
theorem exists_number (s : Spacing) (x : Number) : ∃ doc, ReadsAs s (.number x) doc := by
  rcases exists_readNumber x with hnull | ⟨y, hy⟩
  · refine ⟨.null, fun depth fuel rest hfuel _ => ?_⟩
    obtain ⟨fuel, rfl⟩ : ∃ f, fuel = f + 1 := ⟨fuel - 1, by omega⟩
    rw [spread, hnull]
    rfl
  · exact ⟨.number y, number hy⟩

theorem string {text : String} (h : text.toList.all isPlain = true) :
    ReadsAs s (.string text) (.string text) := by
  intro depth fuel rest hfuel _
  obtain ⟨fuel, rfl⟩ : ∃ f, fuel = f + 1 := ⟨fuel - 1, by omega⟩
  obtain ⟨tail, htail, hread⟩ := readString_quoted h rest
  rw [spread, htail, readValue, skipBlanks_cons rfl]
  simp only [hread, Option.map_some]

theorem array {items items' : List Json} (h : List.Forall₂ (ReadsAs s) items items') :
    ReadsAs s (.array items) (.array items') := by
  intro depth fuel rest hfuel _
  obtain ⟨fuel, rfl⟩ : ∃ f, fuel = f + 1 := ⟨fuel - 1, by omega⟩
  cases items with
  | nil =>
      cases h
      rfl
  | cons item items =>
      simp only [spread, List.length_cons, List.length_append] at hfuel
      have hread := readItems_spread h (by simp) (depth + 1) fuel (by omega)
        (s.before_blank depth) rest
      simpa [spread] using readValue_array hread

theorem names_eq {members members' : List (String × Json)}
    (h : List.Forall₂ (MemberReadsAs s) members members') :
    members'.map Prod.fst = members.map Prod.fst := by
  induction h with
  | nil => rfl
  | cons hmember _ ih =>
      obtain ⟨-, -⟩ := hmember
      rw [List.map_cons, List.map_cons, ih]

theorem object {members members' : List (String × Json)}
    (hordered : Members.Ordered (members.map Prod.fst))
    (h : List.Forall₂ (MemberReadsAs s) members members') :
    ReadsAs s (.object members) (.object members') := by
  intro depth fuel rest hfuel _
  obtain ⟨fuel, rfl⟩ : ∃ f, fuel = f + 1 := ⟨fuel - 1, by omega⟩
  cases members with
  | nil =>
      cases h
      rfl
  | cons member members =>
      simp only [spread, List.length_cons, List.length_append] at hfuel
      rw [← names_eq h] at hordered
      have hread := readMembers_spread h (by simp) (depth + 1) fuel (by omega)
        (s.before_blank depth) rest
      simpa [spread, Members.ofList_of_ordered hordered] using readValue_object hread

end ReadsAs

/-! ## Plain documents read as themselves -/

mutual

theorem readsAs_of_plain {doc : Json} (h : doc.Plain) : ReadsAs s doc doc := by
  match doc with
  | .null =>
      intro depth fuel rest hfuel _
      obtain ⟨fuel, rfl⟩ : ∃ f, fuel = f + 1 := ⟨fuel - 1, by omega⟩
      rfl
  | .bool b =>
      intro depth fuel rest hfuel _
      obtain ⟨fuel, rfl⟩ : ∃ f, fuel = f + 1 := ⟨fuel - 1, by omega⟩
      cases b <;> rfl
  | .number x =>
      obtain ⟨n, rfl, hn⟩ := h
      exact .number fun rest => readNumber_text hn
  | .string text => exact .string h
  | .array items => exact .array (readsAs_of_plainItems h)
  | .object members => exact .object h.1 (readsAs_of_plainMembers h.2)

theorem readsAs_of_plainItems {items : List Json} (h : PlainItems items) :
    List.Forall₂ (ReadsAs s) items items := by
  match items with
  | [] => exact .nil
  | item :: items => exact .cons (readsAs_of_plain h.1) (readsAs_of_plainItems h.2)

theorem readsAs_of_plainMembers {members : List (String × Json)} (h : PlainMembers members) :
    List.Forall₂ (MemberReadsAs s) members members := by
  match members with
  | [] => exact .nil
  | (name, value) :: members =>
      exact .cons ⟨h.1, readsAs_of_plain h.2.1⟩ (readsAs_of_plainMembers h.2.2)

end

/-! ## Whole texts -/

/-- A layout, with blanks behind it, holds the document that it reads as. -/
theorem read_spread {doc doc' : Json} (h : ReadsAs s doc doc') {gap : List Char}
    (hgap : gap.all isBlank = true) :
    Json.read (String.ofList (spread s 0 doc ++ gap)) = some doc' := by
  have hend : endsNumber gap = true := by
    simpa using endsNumber_blanks hgap (show endsNumber [] = true from rfl)
  have hskip : skipBlanks gap = [] := by simpa [skipBlanks] using skipBlanks_append hgap []
  rw [Json.read, String.toList_ofList]
  simp only [List.length_append]
  rw [h 0 _ gap (by omega) hend]
  simp [hskip]

/-- The two printers write layouts. -/
theorem exists_spread {print : Json → String}
    (hprint : print = Json.compactText ∨ print = Json.indentedText) :
    ∃ s : Spacing, ∀ doc, print doc = String.ofList (spread s 0 doc ++ []) := by
  rcases hprint with rfl | rfl
  · refine ⟨.compact, fun doc => ?_⟩
    rw [List.append_nil, ← compact_eq_spread, ← compactText_eq]
  · refine ⟨.indented, fun doc => ?_⟩
    rw [List.append_nil, ← indentedAt_eq_spread]
    rfl

/-- A plain document reads back from what either of them writes. -/
theorem read_print {print : Json → String}
    (hprint : print = Json.compactText ∨ print = Json.indentedText) {doc : Json} (h : doc.Plain) :
    Json.read (print doc) = some doc := by
  obtain ⟨s, hs⟩ := exists_spread hprint
  rw [hs]
  exact read_spread (readsAs_of_plain h) rfl

theorem read_compactText {doc : Json} (h : doc.Plain) : Json.read doc.compactText = some doc :=
  read_print (.inl rfl) h

theorem read_indentedText {doc : Json} (h : doc.Plain) : Json.read doc.indentedText = some doc :=
  read_print (.inr rfl) h

end ProverInput.Json
