import ProverInput.Text.Lowercase

set_option autoImplicit false

/-! # Hexadecimal text

Hashes, nonces, solutions and compact targets travel as hexadecimal text. Letters count in
either case, a leading `0x` or `0X` may stand in front once, and a *body* is what is left: an
even number of digits, two for each byte.

Every byte string has a body that reads back as it (`bytes?_ofBytes`), and reading fails exactly
on texts that are no body (`bytes?_eq_none_iff`).
-/

namespace ProverInput.Hex

/-! ## Digits -/

/-- The value of a hexadecimal digit of either case; no other character has one. -/
def digit? (c : Char) : Option Nat :=
  if '0' ≤ c ∧ c ≤ '9' then some (c.toNat - 48)
  else if 'a' ≤ c ∧ c ≤ 'f' then some (c.toNat - 87)
  else if 'A' ≤ c ∧ c ≤ 'F' then some (c.toNat - 55)
  else none

/-- A hexadecimal digit of either case. -/
def isDigit (c : Char) : Bool := (digit? c).isSome

theorem digit?_lt {c : Char} {d : Nat} (h : digit? c = some d) : d < 16 := by
  unfold digit? at h
  have key : ∀ x y : Char, x ≤ y → x.toNat ≤ y.toNat := fun _ _ h => h
  split at h
  · rename_i hc
    have h1 := key _ _ hc.2
    have : '9'.toNat = 57 := rfl
    simp only [Option.some.injEq] at h
    omega
  · split at h
    · rename_i hc
      have h1 := key _ _ hc.2
      have : 'f'.toNat = 102 := rfl
      simp only [Option.some.injEq] at h
      omega
    · split at h
      · rename_i hc
        have h1 := key _ _ hc.2
        have : 'F'.toNat = 70 := rfl
        simp only [Option.some.injEq] at h
        omega
      · cases h

/-- Writing a value below sixteen as a digit and reading it back. -/
theorem digit?_digitChar {d : Nat} (h : d < 16) : digit? d.digitChar = some d := by
  have : ∀ d : Fin 16, digit? d.val.digitChar = some d.val := by decide
  exact this ⟨d, h⟩

/-! ## Prefix and body -/

/-- The text without its leading `0x` or `0X`, which is taken off once. -/
def dropMark : List Char → List Char
  | '0' :: 'x' :: rest => rest
  | '0' :: 'X' :: rest => rest
  | text => text

/-- An even number of hexadecimal digits and nothing else. -/
def isBody (text : List Char) : Bool := text.length % 2 == 0 && text.all isDigit

/-- The number that hexadecimal digits write, most significant first. -/
def value (text : List Char) : Nat :=
  text.foldl (fun n c => n * 16 + (digit? c).getD 0) 0

/-- The form two spellings of the same hash share: lowercase, without the prefix. -/
def normalize (text : String) : String := String.ofList (Lowercase.lower (dropMark text.toList))

/-! ## Bytes -/

/-- The bytes of a body, two digits each; nothing for any other text. -/
def bytes? : List Char → Option (List UInt8)
  | [] => some []
  | [_] => none
  | high :: low :: rest =>
    match digit? high, digit? low, bytes? rest with
    | some h, some l, some bytes => some (UInt8.ofNat (h * 16 + l) :: bytes)
    | _, _, _ => none

/-- The two lowercase digits of each byte. -/
def ofBytes (bytes : List UInt8) : List Char :=
  bytes.flatMap fun b => [(b.toNat / 16).digitChar, (b.toNat % 16).digitChar]

/-- The big-endian number of a byte string; zero for no bytes. -/
def bigEndian (bytes : List UInt8) : Nat := bytes.foldl (fun n b => n * 256 + b.toNat) 0

theorem bytes?_ofBytes (bytes : List UInt8) : bytes? (ofBytes bytes) = some bytes := by
  induction bytes with
  | nil => rfl
  | cons b rest ih =>
    have hb : b.toNat < 256 := b.toNat_lt
    show bytes? ((b.toNat / 16).digitChar :: (b.toNat % 16).digitChar :: ofBytes rest) = _
    rw [bytes?, digit?_digitChar (by omega), digit?_digitChar (by omega), ih]
    have : b.toNat / 16 * 16 + b.toNat % 16 = b.toNat := by omega
    simp [this]

/-- Reading fails exactly on texts that are no body. -/
theorem bytes?_eq_none_iff (text : List Char) : bytes? text = none ↔ isBody text = false := by
  fun_induction bytes? text with
  | case1 => simp [isBody]
  | case2 c => simp [isBody]
  | case3 high low rest h l bytes hh hl hr ih =>
    have hlen : (rest.length + 1 + 1) % 2 = rest.length % 2 := by omega
    simp_all [isBody, isDigit]
  | case4 high low rest hnot ih =>
    have hlen : (rest.length + 1 + 1) % 2 = rest.length % 2 := by omega
    simp only [true_iff]
    cases hh : digit? high with
    | none => simp [isBody, isDigit, hh]
    | some h =>
      cases hl : digit? low with
      | none => simp [isBody, isDigit, hl]
      | some l =>
        cases hr : bytes? rest with
        | none =>
          have := ih.1 hr
          simp only [isBody, List.length_cons, List.all_cons, hlen, isDigit, hh, hl] at this ⊢
          simpa [isDigit] using this
        | some bytes => exact absurd hr (hnot h l bytes hh hl)

/-! ## Numerals -/

/-- The lowercase hexadecimal numeral of a number behind `0x`, without leading zeros. -/
def numeral (n : Nat) : String := String.ofList ('0' :: 'x' :: Nat.toDigits 16 n)

end ProverInput.Hex
