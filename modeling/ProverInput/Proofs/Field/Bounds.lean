import Mathlib
import ProverInput.Field.Arguments
import ProverInput.Proofs.Field.Parts
import ProverInput.Proofs.Text.BigEndian

set_option autoImplicit false

/-! # The size of the integers in a layout

Only field elements and 256-bit integers are checked against a bound. All other integers of a layout
are in range by the way they are computed: words and chunks have few bytes, a remainder has the
number of bytes that stands behind it, tags are zero or one, and a length is that of an array or a
byte string in the value (`bounded_ofField`). So no integer of a layout is negative, and each of
them is a field element as long as the lengths are (`Bounded.integers`).
-/

namespace ProverInput

namespace Flat

mutual

/-- The integers of an argument in order, wherever they stand in it. -/
def integers : Flat → List Int
  | .scalar value => [value]
  | .nested items => integersAll items

def integersAll : List Flat → List Int
  | [] => []
  | item :: rest => item.integers ++ integersAll rest

end

theorem integersAll_append (first second : List Flat) :
    integersAll (first ++ second) = integersAll first ++ integersAll second := by
  induction first with
  | nil => rfl
  | cons item first ih => rw [List.cons_append, integersAll, integersAll, ih, List.append_assoc]

theorem integersAll_scalars (values : List Int) : integersAll (values.map .scalar) = values := by
  induction values with
  | nil => rfl
  | cons v values ih => rw [List.map_cons, integersAll, integers, ih, List.singleton_append]

end Flat

namespace Field

mutual

/-- The length of the longest array or byte string in a value. -/
def longest : Field → Nat
  | .byteArray bytes => bytes.length
  | .array items => max items.length (longestAll items)
  | .record entries => longestEntries entries
  | .present value => longest value
  | .nested items => longestAll items
  | _ => 0

def longestAll : List Field → Nat
  | [] => 0
  | item :: rest => max (longest item) (longestAll rest)

def longestSlot : Slot → Nat
  | .single value => longest value
  | .spliced values => longestAll values

def longestEntries : List (String × Slot) → Nat
  | [] => 0
  | (_, slot) :: rest => max (longestSlot slot) (longestEntries rest)

end

end Field

namespace Layout

open Flat (integersAll integersAll_append integersAll_scalars)

/-! ## Ranges -/

/-- The parts of a byte string that was cut into chunks. -/
structure Chunked (limit : Nat) (chunkCount : Int) (chunks : List Int)
    (remainder remainderLength : Int) : Prop where
  count : chunkCount = chunks.length
  count_lt : chunks.length < limit
  chunks_mem : ∀ c ∈ chunks, c ∈ Set.Ico 0 (2 ^ 248)
  length_mem : remainderLength ∈ Set.Icc 0 30
  remainder_mem : remainder ∈ Set.Ico 0 (256 ^ remainderLength.toNat)

mutual

/-- Every integer lies in the range of its place, and lengths lie below `limit`. -/
def Bounded (limit : Nat) : Layout → Prop
  | .scalar value => value ∈ Set.Ico 0 (2 ^ 252)
  | .digest words => words.length = 8 ∧ ∀ w ∈ words, w ∈ Set.Ico 0 (2 ^ 32)
  | .wideInt lo hi => lo ∈ Set.Ico 0 (2 ^ 128) ∧ hi ∈ Set.Ico 0 (2 ^ 128)
  | .byteChunks chunkCount chunks remainder remainderLength =>
    Chunked limit chunkCount chunks remainder remainderLength
  | .sequence length elements =>
    length = elements.length ∧ elements.length < limit ∧ BoundedAll limit elements
  | .tuple elements => BoundedAll limit elements
  | .nested elements => BoundedAll limit elements

def BoundedAll (limit : Nat) : List Layout → Prop
  | [] => True
  | l :: ls => l.Bounded limit ∧ BoundedAll limit ls

end

variable {limit : Nat}

theorem boundedAll_append {first second : List Layout} (h : BoundedAll limit first)
    (h' : BoundedAll limit second) : BoundedAll limit (first ++ second) := by
  induction first with
  | nil => exact h'
  | cons l first ih => exact ⟨h.1, ih h.2⟩

theorem flattenAll_append (first second : List Layout) :
    flattenAll (first ++ second) = flattenAll first ++ flattenAll second := by
  induction first with
  | nil => rfl
  | cons l first ih => rw [List.cons_append, flattenAll, flattenAll, ih, List.append_assoc]

/-! ## Leaves -/

theorem inRange_eq_ok {bound : Nat} {value v : Int} :
    inRange bound value = .ok v ↔ value = v ∧ v ∈ Set.Ico 0 (bound : Int) := by
  unfold inRange
  split
  · rename_i hrange
    constructor
    · intro h
      cases h
      exact ⟨rfl, hrange⟩
    · rintro ⟨rfl, -⟩
      rfl
  · rename_i hrange
    constructor
    · intro h
      cases h
    · rintro ⟨rfl, hmem⟩
      exact absurd hmem hrange

theorem feltBound_eq : (feltBound : Int) = 2 ^ 252 := by
  norm_num [feltBound, Nat.shiftLeft_eq]

theorem halfBound_eq : (halfBound : Int) = 2 ^ 128 := by
  norm_num [halfBound, Nat.shiftLeft_eq]

theorem u256Bound_eq : (u256Bound : Int) = 2 ^ 128 * 2 ^ 128 := by
  norm_num [u256Bound, Nat.shiftLeft_eq]

theorem bounded_wide {value : Int} (h : value ∈ Set.Ico 0 (u256Bound : Int)) :
    (wide value).Bounded limit := by
  have hpos : (0 : Int) < 2 ^ 128 := by norm_num
  obtain ⟨hnonneg, hlt⟩ := h
  rw [u256Bound_eq] at hlt
  unfold wide Bounded
  rw [halfBound_eq]
  -- the power is only a positive number from here on
  generalize (2 ^ 128 : Int) = half at hpos hlt
  constructor
  · exact ⟨Int.emod_nonneg _ hpos.ne', Int.emod_lt_of_pos _ hpos⟩
  · exact ⟨Int.ediv_nonneg hnonneg hpos.le, Int.ediv_lt_of_lt_mul hpos hlt⟩

theorem bigEndian_mem {bytes : List UInt8} {n : Nat} (h : bytes.length ≤ n) :
    (Hex.bigEndian bytes : Int) ∈ Set.Ico 0 (256 ^ n) := by
  have hlt : Hex.bigEndian bytes < 256 ^ n :=
    lt_of_lt_of_le (Hex.bigEndian_lt bytes) (Nat.pow_le_pow_right (by norm_num) h)
  exact ⟨Int.natCast_nonneg _, by exact_mod_cast hlt⟩

theorem words_mem (bytes : List UInt8) : ∀ w ∈ words bytes, w ∈ Set.Ico 0 (2 ^ 32) := by
  fun_induction words bytes with
  | case1 a b c d rest ih =>
      intro w hw
      rcases List.mem_cons.1 hw with rfl | hw
      · have hmem : (Hex.bigEndian [a, b, c, d] : Int) ∈ Set.Ico 0 (256 ^ 4) :=
          bigEndian_mem (le_of_eq rfl)
        have hpow : (256 : Int) ^ 4 = 2 ^ 32 := by norm_num
        rwa [hpow] at hmem
      · exact ih w hw
  | case2 => simp

theorem length_words (bytes : List UInt8) : (words bytes).length = bytes.length / 4 := by
  fun_induction words bytes with
  | case1 a b c d rest ih =>
      simp only [List.length_cons, ih]
      omega
  | case2 bytes hshort =>
      -- fewer than four bytes make no word
      rcases bytes with _ | ⟨a, _ | ⟨b, _ | ⟨c, _ | ⟨d, rest⟩⟩⟩⟩
      · rfl
      · simp
      · simp
      · simp
      · exact absurd rfl (hshort a b c d rest)

/-- A digest has a layout when its normal form is the body of 32 bytes. -/
theorem ofDigest_eq_ok {hex : String} {l : Layout} (h : ofDigest hex = .ok l) :
    ∃ bytes, Hex.bytes? (Hex.normalize hex).toList = some bytes ∧ bytes.length = 32 ∧
      l = .digest (words bytes.reverse) := by
  rw [ofDigest_eq] at h
  obtain ⟨bytes, hbytes, hl⟩ := bind_eq_ok.1 h
  cases hl
  cases hfound : Hex.bytes? (Hex.normalize hex).toList with
  | none =>
      simp only [digestBytes, hfound] at hbytes
      cases hbytes
  | some found =>
      simp only [digestBytes, hfound] at hbytes
      split at hbytes
      · rename_i hlen
        cases hbytes
        have := Hex.length_of_bytes? hfound
        exact ⟨bytes, rfl, by omega, rfl⟩
      · cases hbytes

theorem bounded_ofDigest {hex : String} {l : Layout} (h : ofDigest hex = .ok l) :
    l.Bounded limit := by
  obtain ⟨bytes, -, hlen, rfl⟩ := ofDigest_eq_ok h
  refine ⟨?_, words_mem _⟩
  rw [length_words, List.length_reverse, hlen]

theorem length_remainder (bytes : List UInt8) :
    (bytes.drop (bytes.length / chunkLength * chunkLength)).length =
      bytes.length % chunkLength := by
  have := Nat.div_add_mod' bytes.length chunkLength
  rw [List.length_drop]
  omega

theorem bounded_ofBytes {bytes : List UInt8} (h : bytes.length < limit) :
    (ofBytes bytes).Bounded limit := by
  have hrest := length_remainder bytes
  have hmod : bytes.length % chunkLength < chunkLength := Nat.mod_lt _ (by decide)
  refine ⟨?_, ?_, ?_, ?_, ?_⟩
  · rw [List.length_map, List.length_range]
  · rw [List.length_map, List.length_range]
    exact lt_of_le_of_lt (Nat.div_le_self _ _) h
  · intro c hc
    obtain ⟨i, -, rfl⟩ := List.mem_map.1 hc
    -- the last bytes may be too few for a chunk, but never too many
    have hmem : chunk bytes i ∈ Set.Ico 0 (256 ^ 31) := bigEndian_mem (List.length_take_le _ _)
    have hpow : (256 : Int) ^ 31 = 2 ^ 248 := by norm_num
    rwa [hpow] at hmem
  · rw [hrest]
    unfold chunkLength at hmod ⊢
    exact ⟨by omega, by omega⟩
  · exact bigEndian_mem (le_of_eq rfl)

/-! ## Trees -/

mutual

/-- Every integer of a layout lies in the range of its place. -/
theorem bounded_ofField {field : Field} {l : Layout} (hlimit : field.longest < limit)
    (h : ofField field = .ok l) : l.Bounded limit := by
  match field with
  | .felt value =>
      obtain ⟨v, hv, rfl⟩ := map_eq_ok.1 h
      have hmem := (inRange_eq_ok.1 hv).2
      rwa [feltBound_eq] at hmem
  | .bool value =>
      cases h
      cases value with
      | false => exact ⟨le_refl 0, by norm_num⟩
      | true => exact ⟨Int.one_nonneg, by norm_num⟩
  | .u256 value =>
      obtain ⟨v, hv, rfl⟩ := map_eq_ok.1 h
      exact bounded_wide (inRange_eq_ok.1 hv).2
  | .digest hex => exact bounded_ofDigest h
  | .byteArray bytes =>
      cases h
      exact bounded_ofBytes hlimit
  | .array items =>
      obtain ⟨elements, helements, rfl⟩ := ofField_array_eq_ok.1 h
      have hmax := max_lt_iff.1 hlimit
      refine ⟨rfl, ?_, boundedAll_ofFields hmax.2 helements⟩
      rw [length_ofFields helements]
      exact hmax.1
  | .record entries =>
      obtain ⟨elements, helements, rfl⟩ := map_eq_ok.1 h
      exact boundedAll_ofEntries hlimit helements
  | .absent =>
      cases h
      exact ⟨Int.one_nonneg, by norm_num⟩
  | .present value =>
      obtain ⟨inner, hinner, rfl⟩ := ofField_present_eq_ok.1 h
      have hvalue : value.longest < limit := hlimit
      exact ⟨⟨le_refl 0, by norm_num⟩, bounded_ofField hvalue hinner, trivial⟩
  | .nested items =>
      obtain ⟨elements, helements, rfl⟩ := map_eq_ok.1 h
      exact boundedAll_ofFields hlimit helements

theorem boundedAll_ofFields {items : List Field} {layouts : List Layout}
    (hlimit : Field.longestAll items < limit) (h : ofFields items = .ok layouts) :
    BoundedAll limit layouts := by
  match items with
  | [] =>
      cases h
      exact trivial
  | item :: rest =>
      obtain ⟨first, others, hfirst, hothers, rfl⟩ := ofFields_cons_eq_ok.1 h
      have hmax := max_lt_iff.1 hlimit
      exact ⟨bounded_ofField hmax.1 hfirst, boundedAll_ofFields hmax.2 hothers⟩

theorem boundedAll_ofSlot {slot : Slot} {layouts : List Layout}
    (hlimit : Field.longestSlot slot < limit) (h : ofSlot slot = .ok layouts) :
    BoundedAll limit layouts := by
  match slot with
  | .single value =>
      obtain ⟨layout, hlayout, rfl⟩ := ofSlot_single_eq_ok.1 h
      exact ⟨bounded_ofField hlimit hlayout, trivial⟩
  | .spliced values => exact boundedAll_ofFields hlimit h

theorem boundedAll_ofEntries {entries : List (String × Slot)} {layouts : List Layout}
    (hlimit : Field.longestEntries entries < limit) (h : ofEntries entries = .ok layouts) :
    BoundedAll limit layouts := by
  match entries with
  | [] =>
      cases h
      exact trivial
  | (name, slot) :: rest =>
      obtain ⟨first, others, hfirst, hothers, rfl⟩ := ofEntries_cons_eq_ok.1 h
      have hmax := max_lt_iff.1 hlimit
      exact boundedAll_append (boundedAll_ofSlot hmax.1 hfirst)
        (boundedAll_ofEntries hmax.2 hothers)

end

/-! ## Integers -/

theorem mem_Ico_max {v a : Int} (hv : v ∈ Set.Ico 0 a) (ha : a ≤ 2 ^ 252) :
    v ∈ Set.Ico 0 (max (2 ^ 252) (limit : Int)) :=
  ⟨hv.1, lt_of_lt_of_le hv.2 (le_max_of_le_left ha)⟩

theorem natCast_mem_Ico_max {n : Nat} (hn : n < limit) :
    (n : Int) ∈ Set.Ico 0 (max (2 ^ 252) (limit : Int)) :=
  ⟨Int.natCast_nonneg n, lt_max_of_lt_right (by exact_mod_cast hn)⟩

theorem Chunked.integers {count : Int} {chunks : List Int} {remainder length : Int}
    (h : Chunked limit count chunks remainder length) :
    ∀ v ∈ integersAll (byteChunks count chunks remainder length).flatten,
      v ∈ Set.Ico 0 (max (2 ^ 252) (limit : Int)) := by
  have hpow : (256 : Int) ^ length.toNat ≤ 2 ^ 252 := by
    have hle : length.toNat ≤ 30 := by have := h.length_mem.2; omega
    calc (256 : Int) ^ length.toNat ≤ 256 ^ 30 := pow_le_pow_right₀ (by norm_num) hle
      _ ≤ 2 ^ 252 := by norm_num
  intro v hv
  simp only [flatten, integersAll, integersAll_append, integersAll_scalars, Flat.integers,
    List.mem_append, List.mem_singleton, List.not_mem_nil, or_false] at hv
  rcases hv with rfl | hv | rfl | rfl
  · rw [h.count]
    exact natCast_mem_Ico_max h.count_lt
  · exact mem_Ico_max (h.chunks_mem v hv) (by norm_num)
  · exact mem_Ico_max h.remainder_mem hpow
  · exact mem_Ico_max ⟨h.length_mem.1, Int.lt_add_one_of_le h.length_mem.2⟩ (by norm_num)

mutual

/-- No integer of a layout is negative, and each is a field element unless it is a length. -/
theorem Bounded.integers {l : Layout} (h : l.Bounded limit) :
    ∀ v ∈ integersAll l.flatten, v ∈ Set.Ico 0 (max (2 ^ 252) (limit : Int)) := by
  match l with
  | .scalar value =>
      intro v hv
      rw [List.mem_singleton.1 hv]
      exact mem_Ico_max h le_rfl
  | .digest words =>
      intro v hv
      rw [flatten, integersAll_scalars] at hv
      exact mem_Ico_max (h.2 v hv) (by norm_num)
  | .wideInt lo hi =>
      intro v hv
      rcases List.mem_cons.1 hv with rfl | hv
      · exact mem_Ico_max h.1 (by norm_num)
      · rw [List.mem_singleton.1 hv]
        exact mem_Ico_max h.2 (by norm_num)
  | .byteChunks count chunks remainder length => exact Chunked.integers h
  | .sequence length elements =>
      intro v hv
      obtain ⟨rfl, hlt, helements⟩ := h
      rcases List.mem_cons.1 hv with rfl | hv
      · exact natCast_mem_Ico_max hlt
      · exact BoundedAll.integers helements v hv
  | .tuple elements => exact BoundedAll.integers h
  | .nested elements =>
      intro v hv
      rw [flatten, integersAll, integersAll, List.append_nil] at hv
      exact BoundedAll.integers h v hv

theorem BoundedAll.integers {ls : List Layout} (h : BoundedAll limit ls) :
    ∀ v ∈ integersAll (flattenAll ls), v ∈ Set.Ico 0 (max (2 ^ 252) (limit : Int)) := by
  match ls with
  | [] => exact fun v hv => absurd hv List.not_mem_nil
  | l :: ls =>
      intro v hv
      rw [flattenAll, integersAll_append, List.mem_append] at hv
      rcases hv with hv | hv
      · exact Bounded.integers h.1 v hv
      · exact BoundedAll.integers h.2 v hv

end

end Layout

end ProverInput
