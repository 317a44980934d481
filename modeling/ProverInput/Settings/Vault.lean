import ProverInput.Cipher.Gcm
import ProverInput.Text.Base64
import ProverInput.Text.Uppercase
import ProverInput.Text.Uri

set_option autoImplicit false

/-! # Vaults

A vault is a settings file whose values are settings files under seal, one for each environment. A
key to it is a URI: the password ends in the 64 hexadecimal digits of the secret, and the query
names the environment. Several keys may be given, with commas between them; the first one that opens
the vault counts, and if none does, the last one says why.
-/

namespace ProverInput.Vault

/-- Why a key does not open a vault. -/
inductive Refusal where
  | malformedKey
  | noSecret
  | noEnvironment
  | noEntry (name : String)
  | shortSecret
  | wrongSecret
  /-- A sealed text too short to be one. -/
  | malformedEntry
deriving DecidableEq, Repr

def Refusal.message : Refusal → String
  | malformedKey => "INVALID_DOTENV_KEY: Wrong format. Must be in valid uri format like " ++
    "dotenv://:key_1234@dotenvx.com/vault/.env.vault?environment=development"
  | noSecret => "INVALID_DOTENV_KEY: Missing key part"
  | noEnvironment => "INVALID_DOTENV_KEY: Missing environment part"
  | noEntry name => s!"NOT_FOUND_DOTENV_ENVIRONMENT: Cannot locate environment {name} in your " ++
    ".env.vault file."
  | shortSecret => "INVALID_DOTENV_KEY: It must be 64 characters long (or more)"
  | wrongSecret => "DECRYPTION_FAILED: Please check your DOTENV_KEY"
  | malformedEntry => "The entry of the vault is no sealed text"

/-- A key to a vault: the text of its secret and the environment. -/
structure Key where
  secret : List Char
  environment : List Char
deriving DecidableEq, Repr

/-- The key a text gives. -/
def key (text : List Char) : Except Refusal Key :=
  match Uri.parse? (Units.plain text) with
  | none => .error .malformedKey
  | some uri =>
    if uri.password.isEmpty then .error .noSecret
    else match uri.parameter? "environment".toList with
      | none => .error .noEnvironment
      | some [] => .error .noEnvironment
      | some environment => .ok ⟨uri.password, environment⟩

/-- The name of an environment's entry. -/
def Key.entryName (k : Key) : String :=
  "DOTENV_VAULT_" ++ String.ofList (Units.held (Uppercase.upper k.environment))

/-- The bytes of hexadecimal digits up to the first pair that is none. -/
def hexBytes : List Char → List UInt8
  | a :: b :: rest =>
    match Hex.digit? a, Hex.digit? b with
    | some h, some l => (h * 16 + l).toUInt8 :: hexBytes rest
    | _, _ => []
  | _ => []

/-- The secret in the last 64 characters of a text. -/
def secret (text : List Char) : List UInt8 := hexBytes (text.drop (text.length - 64))

/-- Whether a tag has a length that tags can have. -/
def isTagLength (n : Nat) : Bool := n = 4 || n = 8 || (12 ≤ n && n ≤ 16)

/-- The text in a sealed one: a nonce of twelve bytes, the text, and a tag of sixteen bytes. -/
def disclose (secret : List UInt8) (sealedText : List UInt8) : Except Refusal (List UInt8) :=
  let size := sealedText.length
  let nonce := sealedText.take 12
  let tag := sealedText.drop (size - 16)
  if nonce.isEmpty then .error .malformedEntry
  else if secret.length ≠ 32 then .error .shortSecret
  else if !isTagLength tag.length then .error .malformedEntry
  else
    let cipher := Aes.encrypt (Aes.schedule secret)
    match Gcm.open? cipher nonce ((sealedText.take (size - 16)).drop 12) tag with
    | some text => .ok text
    | none => .error .wrongSecret

/-- What a key opens in a vault with the given entries. -/
def openWith (entries : List (String × String)) (text : List Char) : Except Refusal String := do
  let k ← key text
  match entries.lookup k.entryName with
  | none => throw (.noEntry k.entryName)
  | some entry =>
    if entry.isEmpty then throw (.noEntry k.entryName)
    let bytes ← disclose (secret k.secret) (Base64.bytes entry.toList)
    return String.ofList (Units.held (Utf8.decode bytes))

/-- What the first fitting one of several keys opens. -/
def openFirst (entries : List (String × String)) : List (List Char) → Except Refusal String
  | [] => .error .malformedKey
  | [text] => openWith entries text
  | text :: others =>
    match openWith entries text with
    | .ok opened => .ok opened
    | .error _ => openFirst entries others

end ProverInput.Vault
