import ProverInput.Field.Untagged
import ProverInput.Proofs.Field.Natural
import ProverInput.Proofs.Number.Notation
import ProverInput.Proofs.Text.Digits

set_option autoImplicit false

/-! # Integers that read as digests

A 256-bit integer travels as its decimal text, and a text of 64 decimal digits reads as a digest.
`Field.guessed` is what becomes of a field value on the way and `Field.misread` counts the integers
that are read wrongly. A digest is six integers longer than a 256-bit integer, and both are in
range, so the two values have the same errors, and their arguments are the same number exactly when
nothing was misread (`hexArgs_guessed`): lengths cannot cancel out.
-/

namespace ProverInput

/-! ## Outcomes of different length -/

section

variable {ε α β γ : Type}

/-- Both fail with the same error, or both succeed and the second outcome is longer by `n`. -/
inductive Longer (size : α → Nat) (n : Nat) : Except ε α → Except ε α → Prop where
  | error (e : ε) : Longer size n (.error e) (.error e)
  | ok {a a' : α} (h : size a' = size a + n) : Longer size n (.ok a) (.ok a')

theorem Longer.refl (size : α → Nat) (x : Except ε α) : Longer size 0 x x := by
  cases x with
  | error e => exact .error e
  | ok a => exact .ok rfl

theorem Longer.map {size : α → Nat} {size' : β → Nat} {n : Nat} {x x' : Except ε α}
    (h : Longer size n x x') (k : Nat) {f : α → β} (hf : ∀ a, size' (f a) = size a + k) :
    Longer size' n (f <$> x) (f <$> x') := by
  cases h with
  | error e => exact .error e
  | ok ha =>
      refine .ok ?_
      rw [hf, hf, ha]
      omega

/-- One operation after the other, each longer by its own amount. -/
theorem Longer.both {size : α → Nat} {size' : β → Nat} {size'' : γ → Nat} {n n' : Nat}
    {x x' : Except ε α} {y y' : Except ε β} (h : Longer size n x x') (h' : Longer size' n' y y')
    {f : α → β → γ} (hf : ∀ a b, size'' (f a b) = size a + size' b) :
    Longer size'' (n + n') (x >>= fun a => y >>= fun b => pure (f a b))
      (x' >>= fun a => y' >>= fun b => pure (f a b)) := by
  cases h with
  | error e => exact .error e
  | ok ha =>
      cases h' with
      | error e => exact .error e
      | ok hb =>
          refine .ok ?_
          rw [hf, hf, ha, hb]
          omega

end

/-! ## Guessing -/

/-- Whether the decimal text of an integer has the form of a digest. -/
def readsAsDigest (n : Int) : Bool := Number.digitCount n.toNat = 64

/-- An integer that reads as a digest is below `10 ^ 64`, and its text is a digest. -/
theorem readsAsDigest_spec {value : Int} (h : readsAsDigest value = true) :
    0 ≤ value ∧ value < Layout.u256Bound ∧ Check.isHash (toString value).toList = true := by
  have hcount : Number.digitCount value.toNat = 64 := by simpa [readsAsDigest] using h
  have hlt : value.toNat < 10 ^ 64 :=
    (Number.digitCount_le_iff (by norm_num)).1 hcount.le
  have hbound : 10 ^ 64 < Layout.u256Bound := by decide +kernel
  have hnonneg : 0 ≤ value := by
    by_contra hneg
    have h0 : value.toNat = 0 := by omega
    rw [h0] at hcount
    exact absurd hcount (by decide)
  refine ⟨hnonneg, by omega, ?_⟩
  obtain ⟨n, rfl⟩ := Int.eq_ofNat_of_zero_le hnonneg
  rw [Number.toList_toString, Hex.isHash_iff]
  refine ⟨hcount, List.all_eq_true.2 fun c hc => Hex.isDigit_of_decimal ?_⟩
  exact List.all_eq_true.1 (Number.all_isDigit_toDigits n) c hc

namespace Field

mutual

/-- The field value after its integers have been read back from their texts. The parts of present
values and of nested lists, which no chain data has, are left alone. -/
def guessed : Field → Field
  | .u256 value => if readsAsDigest value then .digest (toString value) else .u256 value
  | .array items => .array (guessedAll items)
  | .record entries => .record (guessedEntries entries)
  | leaf => leaf

def guessedAll : List Field → List Field
  | [] => []
  | item :: rest => guessed item :: guessedAll rest

def guessedSlot : Slot → Slot
  | .single value => .single (guessed value)
  | .spliced values => .spliced (guessedAll values)

def guessedEntries : List (String × Slot) → List (String × Slot)
  | [] => []
  | (name, slot) :: rest => (name, guessedSlot slot) :: guessedEntries rest

end

mutual

/-- The number of integers that are read wrongly. -/
def misread : Field → Nat
  | .u256 value => if readsAsDigest value then 1 else 0
  | .array items => misreadAll items
  | .record entries => misreadEntries entries
  | _ => 0

def misreadAll : List Field → Nat
  | [] => 0
  | item :: rest => misread item + misreadAll rest

def misreadSlot : Slot → Nat
  | .single value => misread value
  | .spliced values => misreadAll values

def misreadEntries : List (String × Slot) → Nat
  | [] => 0
  | (_, slot) :: rest => misreadSlot slot + misreadEntries rest

end

mutual

theorem guessed_of_misread {field : Field} (h : field.misread = 0) : field.guessed = field := by
  match field with
  | .u256 value =>
      by_cases hread : readsAsDigest value = true
      · simp [misread, hread] at h
      · simp [guessed, hread]
  | .array items => simp only [guessed, guessedAll_of_misread h]
  | .record entries => simp only [guessed, guessedEntries_of_misread h]
  | .felt _ => rfl
  | .bool _ => rfl
  | .digest _ => rfl
  | .byteArray _ => rfl
  | .absent => rfl
  | .present _ => rfl
  | .nested _ => rfl

theorem guessedAll_of_misread {items : List Field} (h : misreadAll items = 0) :
    guessedAll items = items := by
  match items with
  | [] => rfl
  | item :: rest =>
      rw [misreadAll, Nat.add_eq_zero_iff] at h
      rw [guessedAll, guessed_of_misread h.1, guessedAll_of_misread h.2]

theorem guessedSlot_of_misread {slot : Slot} (h : misreadSlot slot = 0) :
    guessedSlot slot = slot := by
  match slot with
  | .single value => rw [guessedSlot, guessed_of_misread h]
  | .spliced values => rw [guessedSlot, guessedAll_of_misread h]

theorem guessedEntries_of_misread {entries : List (String × Slot)}
    (h : misreadEntries entries = 0) : guessedEntries entries = entries := by
  match entries with
  | [] => rfl
  | (name, slot) :: rest =>
      rw [misreadEntries, Nat.add_eq_zero_iff] at h
      rw [guessedEntries, guessedSlot_of_misread h.1, guessedEntries_of_misread h.2]

end

end Field

/-! ## Layouts -/

namespace Layout

open ProverInput.Field (misreadAll misreadSlot misreadEntries guessedAll guessedSlot guessedEntries)

/-- The number of integers and lists on the top level. -/
def size (l : Layout) : Nat := l.flatten.length

def sizeAll (ls : List Layout) : Nat := (flattenAll ls).length

theorem sizeAll_cons (l : Layout) (ls : List Layout) : sizeAll (l :: ls) = l.size + sizeAll ls := by
  rw [sizeAll, flattenAll, List.length_append]
  rfl

theorem sizeAll_append (first second : List Layout) :
    sizeAll (first ++ second) = sizeAll first + sizeAll second := by
  rw [sizeAll, flattenAll_append, List.length_append]
  rfl

/-- The layout of a digest is eight words. -/
theorem ofDigest_of_isHash {hex : String} (h : Check.isHash (Hex.normalize hex).toList = true) :
    ∃ l, ofDigest hex = .ok l ∧ l.size = 8 := by
  obtain ⟨hlen, hall⟩ := Hex.isHash_iff.1 h
  cases hbytes : Hex.bytes? (Hex.normalize hex).toList with
  | none =>
      rw [Hex.bytes?_eq_none_iff] at hbytes
      simp [Hex.isBody, hlen, hall] at hbytes
  | some bytes =>
      refine ⟨.digest (words bytes.reverse), ?_, ?_⟩
      · simp only [ofDigest_eq, digestBytes, hbytes, if_pos hlen]
        rfl
      · have := Hex.length_of_bytes? hbytes
        rw [size, flatten, List.length_map, length_words, List.length_reverse]
        omega

theorem ofDigest_hash {hex : String} (h : Check.isHash hex.toList = true) :
    ∃ l, ofDigest hex = .ok l ∧ l.size = 8 := ofDigest_of_isHash (Hex.isHash_normalize h)

/-- An integer of 64 digits has a layout of two halves, and its text one of eight words. -/
theorem longer_u256 (value : Int) :
    Longer size (6 * (Field.u256 value).misread) (ofField (.u256 value))
      (ofField (Field.u256 value).guessed) := by
  by_cases hread : readsAsDigest value = true
  · obtain ⟨hnonneg, hlt, hhash⟩ := readsAsDigest_spec hread
    obtain ⟨l, hl, hsize⟩ := ofDigest_hash hhash
    have hwide : ofField (.u256 value) = .ok (wide value) := by
      rw [ofField, inRange, if_pos ⟨hnonneg, hlt⟩]
      rfl
    have hguessed : ofField (Field.u256 value).guessed = .ok l := by
      rw [Field.guessed, if_pos hread, ofField, hl]
    rw [hwide, hguessed, Field.misread, if_pos hread]
    exact .ok hsize
  · simp only [Field.guessed, Field.misread, if_neg hread]
    exact Longer.refl _ _

mutual

theorem longer_ofField (field : Field) :
    Longer size (6 * field.misread) (ofField field) (ofField field.guessed) := by
  match field with
  | .u256 value => exact longer_u256 value
  | .array items =>
      have h := longer_ofFields items
      rw [Field.guessed, Field.misread, ofField, ofField, bind_pure_comp, bind_pure_comp]
      -- the length stands in front of the items
      exact h.map 1 fun elements => rfl
  | .record entries => exact (longer_ofEntries entries).map 0 fun elements => rfl
  | .felt _ => exact Longer.refl _ _
  | .bool _ => exact Longer.refl _ _
  | .digest _ => exact Longer.refl _ _
  | .byteArray _ => exact Longer.refl _ _
  | .absent => exact Longer.refl _ _
  | .present _ => exact Longer.refl _ _
  | .nested _ => exact Longer.refl _ _

theorem longer_ofFields (items : List Field) :
    Longer sizeAll (6 * misreadAll items) (ofFields items) (ofFields (guessedAll items)) := by
  match items with
  | [] => exact Longer.refl _ _
  | item :: rest =>
      rw [misreadAll, Nat.mul_add]
      exact (longer_ofField item).both (longer_ofFields rest) sizeAll_cons

theorem longer_ofSlot (slot : Slot) :
    Longer sizeAll (6 * misreadSlot slot) (ofSlot slot) (ofSlot (guessedSlot slot)) := by
  match slot with
  | .single value =>
      rw [misreadSlot, guessedSlot, ofSlot, ofSlot, bind_pure_comp, bind_pure_comp]
      exact (longer_ofField value).map 0 fun l => sizeAll_cons l []
  | .spliced values => exact longer_ofFields values

theorem longer_ofEntries (entries : List (String × Slot)) :
    Longer sizeAll (6 * misreadEntries entries) (ofEntries entries)
      (ofEntries (guessedEntries entries)) := by
  match entries with
  | [] => exact Longer.refl _ _
  | (name, slot) :: rest =>
      rw [misreadEntries, Nat.mul_add]
      exact (longer_ofSlot slot).both (longer_ofEntries rest) sizeAll_append

end

end Layout

/-- The arguments of a field value and of what is guessed from its texts fail alike, and differ in
number by six for every integer that is misread. -/
theorem Field.hexArgs_guessed (field : Field) :
    Longer List.length (6 * field.misread) field.hexArgs field.guessed.hexArgs := by
  have h := Layout.longer_ofField field
  generalize hx : Layout.ofField field = x at h
  generalize hy : Layout.ofField field.guessed = y at h
  cases h with
  | error e =>
      rw [hexArgs_of_error hx, hexArgs_of_error hy]
      exact .error _
  | ok hsize =>
      -- a layout has numerals for all its integers, so nothing fails behind it
      obtain ⟨args, hargs, hlen⟩ := hexArgs_of_layout hx
      obtain ⟨args', hargs', hlen'⟩ := hexArgs_of_layout hy
      rw [hargs, hargs']
      refine .ok ?_
      rw [hlen, hlen']
      exact hsize

end ProverInput
