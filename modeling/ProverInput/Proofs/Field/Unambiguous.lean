import Mathlib
import ProverInput.Proofs.Field.Elements
import ProverInput.Proofs.Field.Shape

set_option autoImplicit false

/-! # Arguments are unambiguous

Numerals read back as a layout (`Flat.readAll?_of_toHexAll`), and a layout as a value of its shape
(`Shape.reads_ofField`). So the arguments of a value are never the beginning of those of another one
of its shape, and they are equal only for values that are the same up to the names of fields and the
spelling of digests (`Field.hexArgs_unambiguous`).
-/

namespace ProverInput

/-! ## Names and spelling do not matter -/

namespace Layout

theorem ofDigest_normalize {hex : String} {l : Layout} (h : ofDigest hex = .ok l) :
    ofDigest (Hex.normalize hex) = .ok l := by
  obtain ⟨bytes, hbytes, hlen, rfl⟩ := ofDigest_eq_ok h
  have htext := Hex.length_of_bytes? hbytes
  have hsame := Hex.normalize_normalize (Hex.all_isDigit_of_bytes? hbytes)
  simp only [ofDigest_eq, digestBytes, hsame, hbytes,
    if_pos (show (Hex.normalize hex).toList.length = 64 by omega)]
  rfl

mutual

theorem ofField_canonical {field : Field} {l : Layout} (h : ofField field = .ok l) :
    ofField field.canonical = .ok l := by
  match field with
  | .digest hex => exact ofDigest_normalize h
  | .array items =>
      obtain ⟨elements, helements, rfl⟩ := ofField_array_eq_ok.1 h
      exact ofField_array_eq_ok.2 ⟨elements, ofFields_canonical helements, rfl⟩
  | .record entries =>
      obtain ⟨elements, helements, hl⟩ := map_eq_ok.1 h
      exact map_eq_ok.2 ⟨elements, ofEntries_canonical helements, hl⟩
  | .present value =>
      obtain ⟨inner, hinner, rfl⟩ := ofField_present_eq_ok.1 h
      exact ofField_present_eq_ok.2 ⟨inner, ofField_canonical hinner, rfl⟩
  | .nested items =>
      obtain ⟨elements, helements, hl⟩ := map_eq_ok.1 h
      exact map_eq_ok.2 ⟨elements, ofFields_canonical helements, hl⟩
  | .felt _ => exact h
  | .bool _ => exact h
  | .u256 _ => exact h
  | .byteArray _ => exact h
  | .absent => exact h

theorem ofFields_canonical {items : List Field} {layouts : List Layout}
    (h : ofFields items = .ok layouts) : ofFields (Field.canonicalAll items) = .ok layouts := by
  match items with
  | [] => exact h
  | item :: rest =>
      obtain ⟨first, others, hfirst, hothers, rfl⟩ := ofFields_cons_eq_ok.1 h
      exact ofFields_cons_eq_ok.2
        ⟨first, others, ofField_canonical hfirst, ofFields_canonical hothers, rfl⟩

theorem ofSlot_canonical {slot : Slot} {layouts : List Layout} (h : ofSlot slot = .ok layouts) :
    ofSlot (Field.canonicalSlot slot) = .ok layouts := by
  match slot with
  | .single value =>
      obtain ⟨layout, hlayout, rfl⟩ := ofSlot_single_eq_ok.1 h
      exact ofSlot_single_eq_ok.2 ⟨layout, ofField_canonical hlayout, rfl⟩
  | .spliced values => exact ofFields_canonical h

theorem ofEntries_canonical {entries : List (String × Slot)} {layouts : List Layout}
    (h : ofEntries entries = .ok layouts) :
    ofEntries (Field.canonicalEntries entries) = .ok layouts := by
  match entries with
  | [] => exact h
  | (name, slot) :: rest =>
      obtain ⟨first, others, hfirst, hothers, rfl⟩ := ofEntries_cons_eq_ok.1 h
      exact ofEntries_cons_eq_ok.2
        ⟨first, others, ofSlot_canonical hfirst, ofEntries_canonical hothers, rfl⟩

end

end Layout

/-! ## Arguments -/

namespace HexArg

theorem readAll?_eq_mapM (args : List HexArg) : readAll? args = args.mapM read? := by
  induction args with
  | nil =>
      rw [readAll?, List.mapM_nil]
      rfl
  | cons arg rest ih => rw [readAll?, List.mapM_cons, ih]

theorem readAll?_append_eq_some {first second : List HexArg} {items : List Flat} :
    readAll? (first ++ second) = some items ↔ ∃ front back, readAll? first = some front ∧
      readAll? second = some back ∧ front ++ back = items := by
  simp only [readAll?_eq_mapM, List.mapM_append, bind, pure, Option.bind_eq_some_iff,
    Option.some.injEq]
  constructor
  · rintro ⟨front, hfront, back, hback, rfl⟩
    exact ⟨front, back, hfront, hback, rfl⟩
  · rintro ⟨front, back, hfront, hback, rfl⟩
    exact ⟨front, hfront, back, hback, rfl⟩

theorem eq_nil_of_readAll? {args : List HexArg} (h : readAll? args = some []) : args = [] := by
  cases args with
  | nil => rfl
  | cons arg rest =>
      simp only [readAll?, bind, pure, Option.bind_eq_some_iff, Option.some.injEq] at h
      obtain ⟨item, -, items, -, hcons⟩ := h
      cases hcons

end HexArg

namespace Field

/-- Arguments that begin with those of a value of the same shape are the arguments of the same
value and nothing else. -/
theorem canonical_eq_of_begins {shape : Shape} {a b : Field} {x y : List HexArg}
    (ha : shape.fits a = true) (hb : shape.fits b = true) (hx : a.hexArgs = .ok x)
    (hy : b.hexArgs = .ok y) (h : x <+: y) : x = y ∧ a.canonical = b.canonical := by
  obtain ⟨l, hl, hargs⟩ := hexArgs_eq_ok.1 hx
  obtain ⟨l', hl', hargs'⟩ := hexArgs_eq_ok.1 hy
  obtain ⟨more, rfl⟩ := h
  -- the longer arguments are read back as the items of the shorter ones and more
  obtain ⟨front, rest, hfront, hrest, hitems⟩ :=
    HexArg.readAll?_append_eq_some.1 (Flat.readAll?_of_toHexAll hargs')
  rw [Flat.readAll?_of_toHexAll hargs] at hfront
  cases hfront
  obtain ⟨hsame, rfl⟩ := (Shape.reads_ofField ha hl).unique (Shape.reads_ofField hb hl') hitems
  rw [HexArg.eq_nil_of_readAll? hrest, List.append_nil]
  exact ⟨rfl, hsame⟩

/-- Among values of one shape, the arguments of one are never a proper beginning of those of
another, and they are equal exactly when the values are the same up to names and the spelling of
digests. -/
theorem hexArgs_unambiguous {shape : Shape} {a b : Field} {x y : List HexArg}
    (ha : shape.fits a = true) (hb : shape.fits b = true) (hx : a.hexArgs = .ok x)
    (hy : b.hexArgs = .ok y) :
    (x <+: y → x = y) ∧ (y <+: x → y = x) ∧ (x = y ↔ a.canonical = b.canonical) := by
  refine ⟨fun h => (canonical_eq_of_begins ha hb hx hy h).1,
    fun h => (canonical_eq_of_begins hb ha hy hx h).1, ?_, ?_⟩
  · rintro rfl
    exact (canonical_eq_of_begins ha hb hx hy (List.prefix_refl x)).2
  · intro hsame
    obtain ⟨l, hl, hargs⟩ := hexArgs_eq_ok.1 hx
    obtain ⟨l', hl', hargs'⟩ := hexArgs_eq_ok.1 hy
    -- both have the layout of the value that they share
    have hcanonical := Layout.ofField_canonical hl
    rw [hsame, Layout.ofField_canonical hl'] at hcanonical
    cases hcanonical
    rw [hargs] at hargs'
    exact Except.ok.inj hargs'

/-- The shape of the value with a part of every kind. -/
def samplerShape : Shape :=
  .record
    [.single .digest, .single (.array .u256), .spliced [.felt, .bool, .option .digest],
      .single (.option .byteArray), .single (.nested [.felt, .nested [.bool, .array .bool]])]

/-- The same value with other names and its digest in lowercase without a prefix. -/
def respelled : Field :=
  .record
    [("", .single (.digest (String.ofList (List.replicate 64 'a')))),
      ("", .single (.array [.u256 (2 ^ 256 - 1), .u256 0])),
      ("", .spliced [.felt (2 ^ 252 - 1), .bool true, .absent]),
      ("", .single (.present (.byteArray (List.replicate 62 255 ++ [0, 0])))),
      ("", .single (.nested [.felt 0, .nested [.bool false, .array []]]))]

theorem hexArgs_unambiguous_sampler :
    (samplerShape.fits sampler = true ∧ samplerShape.fits respelled = true) ∧
      ∃ x y, sampler.hexArgs = .ok x ∧ respelled.hexArgs = .ok y ∧ x = y ∧
        sampler.canonical = respelled.canonical := by
  have hsampler : samplerShape.fits sampler = true := by decide +kernel
  have hrespelled : samplerShape.fits respelled = true := by decide +kernel
  obtain ⟨x, hx⟩ := exists_of_isSome (x := sampler.hexArgs) (by decide +kernel)
  obtain ⟨y, hy⟩ := exists_of_isSome (x := respelled.hexArgs) (by decide +kernel)
  have hdigest : Hex.normalize ("0X" ++ String.ofList (List.replicate 64 'A')) =
      Hex.normalize (String.ofList (List.replicate 64 'a')) := by decide +kernel
  have hsame : sampler.canonical = respelled.canonical := by
    simp only [sampler, respelled, canonical, canonicalEntries, canonicalSlot, hdigest]
  obtain ⟨-, -, hiff⟩ := hexArgs_unambiguous hsampler hrespelled hx hy
  exact ⟨⟨hsampler, hrespelled⟩, x, y, hx, hy, hiff.2 hsame, hsame⟩

end Field

end ProverInput
