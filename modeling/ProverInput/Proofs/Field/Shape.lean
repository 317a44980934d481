import Mathlib
import ProverInput.Proofs.Field.Bytes
import ProverInput.Proofs.Field.Reading

set_option autoImplicit false

/-! # Shapes

The shape of a field value says of which kind its parts are and leaves open what is in them, how
long arrays and byte strings are and whether an optional value is there. Arguments do not say where
a part ends, but the shape does: there is a reading for every shape (`Shape.read`) that takes the
layout of a value off the front of anything and gives the value back up to its names and the
spelling of its digests (`reads_ofField`).
-/

namespace ProverInput

mutual

/-- The kinds of a value and of its parts. -/
inductive Shape where
  | felt
  | bool
  | u256
  | digest
  | byteArray
  | array (item : Shape)
  | record (slots : List SlotShape)
  | option (value : Shape)
  | nested (items : List Shape)

/-- The shapes of what stands under a name in a record. -/
inductive SlotShape where
  | single (value : Shape)
  | spliced (values : List Shape)

end

namespace Shape

mutual

/-- Whether a field value has a shape. -/
def fits : Shape → Field → Bool
  | .felt, .felt _ => true
  | .bool, .bool _ => true
  | .u256, .u256 _ => true
  | .digest, .digest _ => true
  | .byteArray, .byteArray _ => true
  | .array item, .array items => items.all fun field => fits item field
  | .record slots, .record entries => fitsEntries slots entries
  | .option _, .absent => true
  | .option shape, .present value => fits shape value
  | .nested shapes, .nested items => fitsAll shapes items
  | _, _ => false

def fitsAll : List Shape → List Field → Bool
  | [], [] => true
  | shape :: shapes, field :: fields => fits shape field && fitsAll shapes fields
  | _, _ => false

def fitsSlot : SlotShape → Slot → Bool
  | .single shape, .single value => fits shape value
  | .spliced shapes, .spliced values => fitsAll shapes values
  | _, _ => false

def fitsEntries : List SlotShape → List (String × Slot) → Bool
  | [], [] => true
  | shape :: shapes, (_, slot) :: entries => fitsSlot shape slot && fitsEntries shapes entries
  | _, _ => false

end

end Shape

namespace Field

mutual

/-- A field value without its names and with its digests in normal form. -/
def canonical : Field → Field
  | .digest hex => .digest (Hex.normalize hex)
  | .array items => .array (canonicalAll items)
  | .record entries => .record (canonicalEntries entries)
  | .present value => .present (canonical value)
  | .nested items => .nested (canonicalAll items)
  | leaf => leaf

def canonicalAll : List Field → List Field
  | [] => []
  | item :: rest => canonical item :: canonicalAll rest

def canonicalSlot : Slot → Slot
  | .single value => .single (canonical value)
  | .spliced values => .spliced (canonicalAll values)

def canonicalEntries : List (String × Slot) → List (String × Slot)
  | [] => []
  | (_, slot) :: rest => ("", canonicalSlot slot) :: canonicalEntries rest

end

end Field

namespace Shape

open Reading (Reads integer times within reads_integer reads_integers)

/-! ## Reading -/

mutual

/-- Reading a value of a shape off the front of arguments. -/
def read : Shape → Reading Field
  | .felt => .felt <$> integer
  | .bool => (fun v => .bool (v == 1)) <$> integer
  | .u256 => do
    let lo ← integer
    let hi ← integer
    return .u256 (lo + hi * Layout.halfBound)
  | .digest => (fun ws => .digest (Layout.textOfWords ws)) <$> times integer 8
  | .byteArray => do
    let chunkCount ← integer
    let chunks ← times integer chunkCount.toNat
    let remainder ← integer
    let remainderLength ← integer
    return .byteArray (Layout.joined chunks remainder remainderLength)
  | .array item => do
    let length ← integer
    let items ← times (read item) length.toNat
    return .array items
  | .record slots => .record <$> readEntries slots
  | .option shape => do
    let tag ← integer
    if tag = 1 then return .absent else .present <$> read shape
  | .nested shapes => .nested <$> within (readAll shapes)

def readAll : List Shape → Reading (List Field)
  | [] => pure []
  | shape :: shapes => do
    let first ← read shape
    let others ← readAll shapes
    return first :: others

def readSlot : SlotShape → Reading Slot
  | .single shape => .single <$> read shape
  | .spliced shapes => .spliced <$> readAll shapes

def readEntries : List SlotShape → Reading (List (String × Slot))
  | [] => pure []
  | shape :: shapes => do
    let slot ← readSlot shape
    let entries ← readEntries shapes
    return ("", slot) :: entries

end

/-! ## Layouts are read back -/

open Layout (ofField ofFields ofSlot ofEntries flattenAll ofField_array_eq_ok ofField_present_eq_ok
  ofFields_cons_eq_ok ofSlot_single_eq_ok ofEntries_cons_eq_ok)

theorem reads_u256 {value : Int} {l : Layout} (h : ofField (.u256 value) = .ok l) :
    Reads (read .u256) l.flatten (.u256 value) := by
  obtain ⟨v, hv, rfl⟩ := map_eq_ok.1 h
  obtain ⟨rfl, -⟩ := Layout.inRange_eq_ok.1 hv
  have hhi := (reads_integer (value / Layout.halfBound)).map fun hi =>
    Field.u256 (value % Layout.halfBound + hi * Layout.halfBound)
  rw [Layout.halves_add] at hhi
  exact (reads_integer (value % Layout.halfBound)).bind hhi

theorem reads_digest {hex : String} {l : Layout} (h : ofField (.digest hex) = .ok l) :
    Reads (read .digest) l.flatten (Field.canonical (.digest hex)) := by
  obtain ⟨ws, rfl, hlen, htext⟩ := Layout.textOfWords_of_ofDigest h
  have hwords := (reads_integers ws).map fun ws => Field.digest (Layout.textOfWords ws)
  rwa [hlen, htext] at hwords

theorem reads_byteArray (bytes : List UInt8) :
    Reads (read .byteArray) (Layout.ofBytes bytes).flatten (.byteArray bytes) := by
  obtain ⟨chunks, remainder, length, hl, hbytes⟩ := Layout.joined_ofBytes bytes
  have hlength := (reads_integer length).map fun length =>
    Field.byteArray (Layout.joined chunks remainder length)
  rw [hbytes] at hlength
  rw [hl]
  refine (reads_integer chunks.length).bind ((reads_integers chunks).bind ?_)
  exact (reads_integer remainder).bind hlength

/-- The items of an array are read by one reading after the other. -/
theorem reads_items {reading : Reading Field} {items : List Field} {layouts : List Layout}
    (h : ofFields items = .ok layouts)
    (hread : ∀ field ∈ items, ∀ l, ofField field = .ok l →
      Reads reading l.flatten field.canonical) :
    Reads (times reading layouts.length) (flattenAll layouts) (Field.canonicalAll items) := by
  induction items generalizing layouts with
  | nil =>
      cases h
      exact Reads.pure []
  | cons item items ih =>
      obtain ⟨first, others, hfirst, hothers, rfl⟩ := ofFields_cons_eq_ok.1 h
      have hhead := hread item List.mem_cons_self first hfirst
      have htail := ih hothers fun field hfield => hread field (List.mem_cons_of_mem item hfield)
      exact hhead.bind (htail.map (item.canonical :: ·))

-- on the shape: values of other kinds do not fit it, and its parts are those that are read
mutual

/-- The layout of a value of a shape is read as the value, whatever stands behind it. -/
theorem reads_ofField {shape : Shape} {field : Field} {l : Layout}
    (hfits : shape.fits field = true) (h : ofField field = .ok l) :
    Reads shape.read l.flatten field.canonical := by
  match shape with
  | .felt =>
      cases field with
      | felt value =>
          obtain ⟨v, hv, rfl⟩ := map_eq_ok.1 h
          obtain ⟨rfl, -⟩ := Layout.inRange_eq_ok.1 hv
          exact (reads_integer value).map Field.felt
      | _ => simp [fits] at hfits
  | .bool =>
      cases field with
      | bool value =>
          cases h
          cases value with
          | false => exact (reads_integer 0).map fun v => Field.bool (v == 1)
          | true => exact (reads_integer 1).map fun v => Field.bool (v == 1)
      | _ => simp [fits] at hfits
  | .u256 =>
      cases field with
      | u256 value => exact reads_u256 h
      | _ => simp [fits] at hfits
  | .digest =>
      cases field with
      | digest hex => exact reads_digest h
      | _ => simp [fits] at hfits
  | .byteArray =>
      cases field with
      | byteArray bytes =>
          cases h
          exact reads_byteArray bytes
      | _ => simp [fits] at hfits
  | .array item =>
      cases field with
      | array items =>
          obtain ⟨elements, helements, rfl⟩ := ofField_array_eq_ok.1 h
          rw [fits, List.all_eq_true] at hfits
          -- the length in front says how many items to read, each by the reading of the one shape
          have hitems := reads_items helements fun field hfield l hl =>
            reads_ofField (hfits field hfield) hl
          exact (reads_integer elements.length).bind (hitems.map Field.array)
      | _ => simp [fits] at hfits
  | .record slots =>
      cases field with
      | record entries =>
          obtain ⟨elements, helements, rfl⟩ := map_eq_ok.1 h
          exact (reads_ofEntries hfits helements).map Field.record
      | _ => simp [fits] at hfits
  | .option shape =>
      cases field with
      | absent =>
          cases h
          exact (reads_integer 1).bind (Reads.pure Field.absent)
      | present value =>
          obtain ⟨inner, hinner, rfl⟩ := ofField_present_eq_ok.1 h
          -- the tag is not the one of an absent value, and the value ends the tuple
          have hshape : shape.fits value = true := hfits
          have hvalue := (reads_ofField hshape hinner).map Field.present
          rw [← List.append_nil inner.flatten] at hvalue
          exact (reads_integer 0).bind hvalue
      | _ => simp [fits] at hfits
  | .nested shapes =>
      cases field with
      | nested items =>
          obtain ⟨elements, helements, rfl⟩ := map_eq_ok.1 h
          exact (reads_ofFields hfits helements).within.map Field.nested
      | _ => simp [fits] at hfits

theorem reads_ofFields {shapes : List Shape} {items : List Field} {layouts : List Layout}
    (hfits : fitsAll shapes items = true) (h : ofFields items = .ok layouts) :
    Reads (readAll shapes) (flattenAll layouts) (Field.canonicalAll items) := by
  match shapes, items with
  | [], [] =>
      cases h
      exact Reads.pure []
  | shape :: shapes, item :: rest =>
      obtain ⟨first, others, hfirst, hothers, rfl⟩ := ofFields_cons_eq_ok.1 h
      rw [fitsAll, Bool.and_eq_true] at hfits
      exact (reads_ofField hfits.1 hfirst).bind
        ((reads_ofFields hfits.2 hothers).map (item.canonical :: ·))

theorem reads_ofSlot {shape : SlotShape} {slot : Slot} {layouts : List Layout}
    (hfits : fitsSlot shape slot = true) (h : ofSlot slot = .ok layouts) :
    Reads (readSlot shape) (flattenAll layouts) (Field.canonicalSlot slot) := by
  match shape, slot with
  | .single shape, .single value =>
      obtain ⟨layout, hlayout, rfl⟩ := ofSlot_single_eq_ok.1 h
      have hvalue := (reads_ofField hfits hlayout).map Slot.single
      rwa [← List.append_nil layout.flatten] at hvalue
  | .spliced shapes, .spliced values => exact (reads_ofFields hfits h).map Slot.spliced

theorem reads_ofEntries {shapes : List SlotShape} {entries : List (String × Slot)}
    {layouts : List Layout} (hfits : fitsEntries shapes entries = true)
    (h : ofEntries entries = .ok layouts) :
    Reads (readEntries shapes) (flattenAll layouts) (Field.canonicalEntries entries) := by
  match shapes, entries with
  | [], [] =>
      cases h
      exact Reads.pure []
  | shape :: shapes, (name, slot) :: rest =>
      obtain ⟨first, others, hfirst, hothers, rfl⟩ := ofEntries_cons_eq_ok.1 h
      rw [fitsEntries, Bool.and_eq_true] at hfits
      rw [Layout.flattenAll_append]
      exact (reads_ofSlot hfits.1 hfirst).bind
        ((reads_ofEntries hfits.2 hothers).map (("", Field.canonicalSlot slot) :: ·))

end

end Shape

end ProverInput
