import ByokGrid.AirbyteRecords
import ByokGrid.Base64Url
import ByokGrid.Utf16Strings

/-! Sealed secrets: workspace keys under master keys, and credentials and source cursors under
workspace keys. -/

namespace ByokGrid

def base64StandardLetter (n : Nat) : Char :=
  if n = 62 then '+' else if n = 63 then '/' else base64Letter n

/-- `toString('base64')`. -/
def encodeBase64 (bytes : List UInt8) : String :=
  String.ofList ((encodeDigits bytes).map base64StandardLetter ++ List.replicate ((3 - bytes.length % 3) % 3) '=')

theorem base64Digit_standardLetter {n : Nat} (h : n < 64) : base64Digit? (base64StandardLetter n) = some n := by
  revert n
  decide

theorem decodeBase64Url_encodeBase64 (bytes : List UInt8) : decodeBase64Url (encodeBase64 bytes) = bytes := by
  have hletters : ∀ digits : List Nat, (∀ digit ∈ digits, digit < 64) →
      (digits.map base64StandardLetter).filterMap base64Digit? = digits := by
    intro digits hdigits
    induction digits with
    | nil => rfl
    | cons digit digits ih =>
      rw [List.map_cons, List.filterMap_cons_some (base64Digit_standardLetter (hdigits digit List.mem_cons_self)),
        ih fun later hlater => hdigits later (List.mem_cons_of_mem _ hlater)]
  have hpadding : ∀ count, (List.replicate count '=').filterMap base64Digit? = [] := by
    intro count
    rw [List.filterMap_replicate_of_none]
    decide
  rw [decodeBase64Url, encodeBase64, String.toList_ofList, List.filterMap_append, hletters _ (encodeDigits_lt bytes), hpadding,
    List.append_nil, decodeDigits_encode]

theorem encodeBase64_ne_empty {bytes : List UInt8} (h : bytes ≠ []) : encodeBase64 bytes ≠ "" := by
  intro hempty
  have hdecoded := decodeBase64Url_encodeBase64 bytes
  rw [hempty] at hdecoded
  exact h hdecoded.symm

abbrev CryptoKey := List UInt8

/-- AES-256-GCM, and the text of bytes which encode none. -/
class CipherRuntime where
  /-- The ciphertext and the tag for a key, a nonce, associated data and a plaintext. -/
  encrypt : CryptoKey → List UInt8 → List UInt8 → List UInt8 → List UInt8 × List UInt8
  decrypt : CryptoKey → List UInt8 → List UInt8 → List UInt8 × List UInt8 → Option (List UInt8)
  decodeInvalid : List UInt8 → String

inductive CryptoError where
  | failure (message : String)
  | schema
  | cipher
  | malformed
  deriving Repr, DecidableEq

structure CryptoEnvelope where
  algorithm : String
  ciphertext : String
  keyId : String
  nonce : String
  tag : String
  version : Nat
  deriving Repr, DecidableEq

/-- `cryptoEnvelopeSchema`. -/
def CryptoEnvelope.accepted (envelope : CryptoEnvelope) : Bool :=
  envelope.algorithm = "A256GCM" && envelope.ciphertext ≠ "" && envelope.keyId ≠ "" && envelope.nonce ≠ "" &&
    envelope.tag ≠ "" && envelope.version = 1

def KEY_BYTES : Nat := 32

def NONCE_BYTES : Nat := 12

/-- A master key as `parseMasterKey` makes it. -/
structure MasterKey where
  id : String
  value : CryptoKey
  named : id ≠ ""
  length : value.length = KEY_BYTES

def parseMasterKey (id encoded : String) : Except CryptoError MasterKey :=
  if hid : id = "" then .error (.failure masterKeyIdMessage)
  else if id ≠ jsTrim id ∨ utf16Length id > 128 ∨ id.toList.any isControlCharacter then .error (.failure masterKeyIdMessage)
  else if hlength : (decodeBase64Url encoded).length = KEY_BYTES then
    if encodeBase64 (decodeBase64Url encoded) = encoded then .ok ⟨id, decodeBase64Url encoded, hid, hlength⟩
    else .error (.failure masterKeyValueMessage)
  else .error (.failure masterKeyValueMessage)
where
  masterKeyIdMessage : String :=
    "The master key ID must contain 1 to 128 non-control characters without surrounding whitespace."
  masterKeyValueMessage : String := "The master key must be exactly 32 bytes of canonical base64."

structure CipherNonce where
  bytes : List UInt8
  length : bytes.length = NONCE_BYTES

def assertWorkspaceKey (key : CryptoKey) : Except CryptoError Unit :=
  if key.length = KEY_BYTES then .ok () else .error (.failure "A workspace key must be exactly 32 bytes.")

theorem assertWorkspaceKey_eq_ok {key : CryptoKey} {u : Unit} : assertWorkspaceKey key = .ok u ↔ key.length = KEY_BYTES := by
  unfold assertWorkspaceKey
  split <;> simp [*]

def workspaceKeyContext (workspaceId : String) : String :=
  "byok-grid:v1:workspace:" ++ workspaceId ++ ":data-key"

def credentialContext (workspaceId credentialId : String) : String :=
  "byok-grid:v1:workspace:" ++ workspaceId ++ ":credential:" ++ credentialId

def sourceCursorContext (workspaceId sourceRunId : String) : String :=
  "byok-grid:v1:workspace:" ++ workspaceId ++ ":source-run:" ++ sourceRunId ++ ":cursor"

def contextBytes (context : String) : List UInt8 :=
  (JsString.ofString context).utf8Encode

section Operations

variable [CipherRuntime]

/-- `seal`, with the nonce it draws. -/
def sealEnvelope (key : CryptoKey) (nonce : CipherNonce) (plaintext : List UInt8) (context keyId : String) : CryptoEnvelope :=
  let encrypted := CipherRuntime.encrypt key nonce.bytes (contextBytes context) plaintext
  { algorithm := "A256GCM"
    ciphertext := encodeBase64 encrypted.1
    keyId := keyId
    nonce := encodeBase64 nonce.bytes
    tag := encodeBase64 encrypted.2
    version := 1 }

/-- `open`. -/
def openEnvelope (key : CryptoKey) (envelope : CryptoEnvelope) (context : String) : Except CryptoError (List UInt8) :=
  if !envelope.accepted then .error .schema
  else
    let nonce := decodeBase64Url envelope.nonce
    if nonce.length ≠ NONCE_BYTES then .error (.failure "The encrypted value has an invalid nonce.")
    else
      match CipherRuntime.decrypt key nonce (contextBytes context)
        (decodeBase64Url envelope.ciphertext, decodeBase64Url envelope.tag) with
      | some plaintext => .ok plaintext
      | none => .error .cipher

/-- `generateWorkspaceKey`, with the key it draws. -/
def generateWorkspaceKey (workspaceId : String) (masterKey : MasterKey) (workspaceKey : CryptoKey) (nonce : CipherNonce) :
    CryptoEnvelope :=
  sealEnvelope masterKey.value nonce workspaceKey (workspaceKeyContext workspaceId) masterKey.id

def wrapWorkspaceKey (workspaceId : String) (workspaceKey : CryptoKey) (masterKey : MasterKey) (nonce : CipherNonce) :
    Except CryptoError CryptoEnvelope := do
  assertWorkspaceKey workspaceKey
  return sealEnvelope masterKey.value nonce workspaceKey (workspaceKeyContext workspaceId) masterKey.id

def unwrapWorkspaceKey (workspaceId : String) (wrappedKey : CryptoEnvelope) (masterKey : MasterKey) :
    Except CryptoError CryptoKey :=
  if wrappedKey.keyId ≠ masterKey.id then .error (.failure ("Master key " ++ wrappedKey.keyId ++ " is not available."))
  else do
    let key ← openEnvelope masterKey.value wrappedKey (workspaceKeyContext workspaceId)
    if key.length ≠ KEY_BYTES then .error (.failure "The unwrapped workspace key has an invalid length.") else .ok key

/-- A unit of `\p{Cc}`. -/
def isControlUnit (unit : Nat) : Bool :=
  unit < 32 || 127 ≤ unit && unit ≤ 159

def encryptSourceCursor (workspaceId sourceRunId : String) (workspaceKey : CryptoKey) (cursor : JsString) (nonce : CipherNonce) :
    Except CryptoError CryptoEnvelope := do
  assertWorkspaceKey workspaceKey
  if cursor.units = [] || cursor.units.length > 1024 || cursor.toUnits.any isControlUnit then
    .error (.failure "The source cursor is invalid or too large.")
  else
    .ok (sealEnvelope workspaceKey nonce cursor.utf8Encode (sourceCursorContext workspaceId sourceRunId)
      ("workspace:" ++ workspaceId))

def decryptSourceCursor (workspaceId sourceRunId : String) (workspaceKey : CryptoKey) (envelope : CryptoEnvelope) :
    Except CryptoError JsString := do
  assertWorkspaceKey workspaceKey
  let plaintext ← openEnvelope workspaceKey envelope (sourceCursorContext workspaceId sourceRunId)
  return .ofString (JsString.utf8Decode CipherRuntime.decodeInvalid plaintext)

variable {ν : Type} [JsRuntime ν] [IntegerNumbers ν]

def jsonNumberText (value : ν) : String :=
  if JsRuntime.isFinite value then JsRuntime.numberToString value else "null"

/-- `JSON.stringify` on an object. -/
def stringifyMembers (value : List (JsString × JsonTree JsString ν)) : String :=
  String.ofList ((JsonTree.object value).text JsString.codec jsonNumberText)

def encryptCredential (workspaceId credentialId : String) (workspaceKey : CryptoKey)
    (value : List (JsString × JsonTree JsString ν)) (nonce : CipherNonce) : Except CryptoError CryptoEnvelope := do
  assertWorkspaceKey workspaceKey
  return sealEnvelope workspaceKey nonce (JsString.ofString (stringifyMembers value)).utf8Encode
    (credentialContext workspaceId credentialId) ("workspace:" ++ workspaceId)

variable (ν) in
def decryptCredential (workspaceId credentialId : String) (workspaceKey : CryptoKey) (envelope : CryptoEnvelope) :
    Except CryptoError (List (JsString × JsonTree JsString ν)) := do
  assertWorkspaceKey workspaceKey
  let plaintext ← openEnvelope workspaceKey envelope (credentialContext workspaceId credentialId)
  match parseTree JsString.codec IntegerNumbers.parseNumber
    (JsString.utf8Decode CipherRuntime.decodeInvalid plaintext).toList with
  | some (.object fields) => .ok fields
  | some _ => .error (.failure "Decrypted credentials must be a JSON object.")
  | none => .error .malformed

end Operations

end ByokGrid
