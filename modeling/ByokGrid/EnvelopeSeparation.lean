import ByokGrid.AirbyteAgreement
import ByokGrid.Envelopes
import ByokGrid.GridView

/-! An envelope opens only for what it was sealed for, and to what was sealed. -/

namespace ByokGrid

def Undivided (id : String) : Prop :=
  ':' ∉ id.toList

theorem isUuidCharacter_ne (position : Nat) : isUuidCharacter position ':' = false := by
  unfold isUuidCharacter
  repeat' split
  all_goals decide

theorem undivided_of_isEntityId {id : String} (h : isEntityId id = true) : Undivided id := by
  intro hmem
  simp only [isEntityId, Bool.or_eq_true, Bool.and_eq_true, beq_iff_eq] at h
  rcases h with (⟨_, hall⟩ | rfl) | rfl
  · obtain ⟨position, hposition, hget⟩ := List.getElem_of_mem hmem
    have hzip : (':', position) ∈ id.toList.zipIdx := by
      rw [List.mem_zipIdx_iff_getElem?, List.getElem?_eq_getElem hposition, hget]
    have hcharacter := List.all_eq_true.mp hall _ hzip
    rw [isUuidCharacter_ne] at hcharacter
    cases hcharacter
  · revert hmem
    decide
  · revert hmem
    decide

theorem append_separator_inj {xs ys as bs : List Char} (hx : ':' ∉ xs) (hy : ':' ∉ ys)
    (h : xs ++ ':' :: as = ys ++ ':' :: bs) : xs = ys ∧ as = bs := by
  induction xs generalizing ys with
  | nil =>
    cases ys with
    | nil => exact ⟨rfl, (List.cons.inj h).2⟩
    | cons y ys => exact absurd (List.cons.inj h).1 fun heq => hy (heq ▸ List.mem_cons_self)
  | cons x xs ih =>
    cases ys with
    | nil => exact absurd (List.cons.inj h).1 fun heq => hx (heq ▸ List.mem_cons_self)
    | cons y ys =>
      obtain ⟨rfl, hrest⟩ := List.cons.inj h
      obtain ⟨rfl, rfl⟩ := ih (fun hmem => hx (List.mem_cons_of_mem _ hmem)) (fun hmem => hy (List.mem_cons_of_mem _ hmem)) hrest
      exact ⟨rfl, rfl⟩

inductive SealedRecord where
  | workspaceKey (workspaceId : String)
  | credential (workspaceId credentialId : String)
  | sourceCursor (workspaceId sourceRunId : String)
  deriving Repr, DecidableEq

namespace SealedRecord

def context : SealedRecord → String
  | .workspaceKey workspaceId => workspaceKeyContext workspaceId
  | .credential workspaceId credentialId => credentialContext workspaceId credentialId
  | .sourceCursor workspaceId sourceRunId => sourceCursorContext workspaceId sourceRunId

def workspaceId : SealedRecord → String
  | .workspaceKey workspaceId | .credential workspaceId _ | .sourceCursor workspaceId _ => workspaceId

def start : String := "byok-grid:v1:workspace:"

def suffix : SealedRecord → List Char
  | .workspaceKey _ => "data-key".toList
  | .credential _ credentialId => "credential:".toList ++ credentialId.toList
  | .sourceCursor _ sourceRunId => "source-run:".toList ++ (sourceRunId.toList ++ ":cursor".toList)

theorem context_toList (record : SealedRecord) :
    record.context.toList = start.toList ++ (record.workspaceId.toList ++ ':' :: record.suffix) := by
  cases record with
  | workspaceKey workspaceId =>
    have hkey : ":data-key".toList = ':' :: "data-key".toList := by decide
    have hcontext : context (.workspaceKey workspaceId) = start ++ workspaceId ++ ":data-key" := rfl
    rw [hcontext, String.toList_append, String.toList_append, hkey, List.append_assoc]
    rfl
  | credential workspaceId credentialId =>
    have hcredential : ":credential:".toList = ':' :: "credential:".toList := by decide
    have hcontext : context (.credential workspaceId credentialId) = start ++ workspaceId ++ ":credential:" ++ credentialId := rfl
    rw [hcontext, String.toList_append, String.toList_append, String.toList_append, hcredential, List.append_assoc,
      List.append_assoc, List.cons_append]
    rfl
  | sourceCursor workspaceId sourceRunId =>
    have hrun : ":source-run:".toList = ':' :: "source-run:".toList := by decide
    have hcontext : context (.sourceCursor workspaceId sourceRunId) =
        start ++ workspaceId ++ ":source-run:" ++ sourceRunId ++ ":cursor" := rfl
    rw [hcontext, String.toList_append, String.toList_append, String.toList_append, String.toList_append, hrun,
      List.append_assoc, List.append_assoc, List.append_assoc, List.cons_append]
    rfl

def letter : SealedRecord → Char
  | .workspaceKey _ => 'd'
  | .credential _ _ => 'c'
  | .sourceCursor _ _ => 's'

theorem head?_append {xs : List Char} {c : Char} (h : xs.head? = some c) (ys : List Char) : (xs ++ ys).head? = some c := by
  cases xs with
  | nil => cases h
  | cons x xs => exact h

theorem suffix_head (record : SealedRecord) : record.suffix.head? = some record.letter := by
  cases record with
  | workspaceKey workspaceId =>
    have hhead : "data-key".toList.head? = some 'd' := by decide
    exact hhead
  | credential workspaceId credentialId =>
    have hhead : "credential:".toList.head? = some 'c' := by decide
    exact head?_append hhead credentialId.toList
  | sourceCursor workspaceId sourceRunId =>
    have hhead : "source-run:".toList.head? = some 's' := by decide
    exact head?_append hhead _

theorem suffix_inj {first second : SealedRecord} (hworkspace : first.workspaceId = second.workspaceId)
    (h : first.suffix = second.suffix) : first = second := by
  have hletter : first.letter = second.letter := by
    have hhead := congrArg List.head? h
    rwa [suffix_head, suffix_head, Option.some.injEq] at hhead
  cases first with
  | workspaceKey workspaceId =>
    cases second with
    | workspaceKey other => exact congrArg _ hworkspace
    | credential | sourceCursor => simp [letter] at hletter
  | credential workspaceId credentialId =>
    cases second with
    | credential other otherCredential =>
      have hid := String.toList_inj.mp (List.append_cancel_left h)
      exact congrArg₂ _ hworkspace hid
    | workspaceKey | sourceCursor => simp [letter] at hletter
  | sourceCursor workspaceId sourceRunId =>
    cases second with
    | sourceCursor other otherRun =>
      have hid := String.toList_inj.mp (List.append_cancel_right (List.append_cancel_left h))
      exact congrArg₂ _ hworkspace hid
    | workspaceKey | credential => simp [letter] at hletter

theorem context_inj {first second : SealedRecord} (hfirst : Undivided first.workspaceId) (hsecond : Undivided second.workspaceId)
    (h : contextBytes first.context = contextBytes second.context) : first = second := by
  have hcontext : first.context = second.context := JsString.utf8Encode_ofString_inj h
  have hlist := congrArg String.toList hcontext
  rw [context_toList, context_toList] at hlist
  obtain ⟨hworkspace, hsuffix⟩ := append_separator_inj hfirst hsecond (List.append_cancel_left hlist)
  exact suffix_inj (String.toList_inj.mp hworkspace) hsuffix

end SealedRecord

structure CredentialObject (ν : Type) [JsRuntime ν] where
  fields : List (JsString × JsonTree JsString ν)
  finite : JsonTree.allFields (fun n => JsRuntime.isFinite n) fields = true

/-- An operation which seals. `rewrapWorkspaceKey` is `wrap` of the key it has unwrapped. -/
inductive SealOperation (ν : Type) [JsRuntime ν] where
  | generate (workspaceId : String) (masterKey : MasterKey) (workspaceKey : CryptoKey) (length : workspaceKey.length = KEY_BYTES)
      (nonce : CipherNonce)
  | wrap (workspaceId : String) (workspaceKey : CryptoKey) (masterKey : MasterKey) (nonce : CipherNonce)
  | credential (workspaceId credentialId : String) (workspaceKey : CryptoKey) (value : CredentialObject ν) (nonce : CipherNonce)
  | cursor (workspaceId sourceRunId : String) (workspaceKey : CryptoKey) (text : JsString) (nonce : CipherNonce)

structure Sealing where
  key : CryptoKey
  nonce : List UInt8
  context : List UInt8
  plaintext : List UInt8

section Operations

variable {ν : Type} [JsRuntime ν]

namespace SealOperation

def record : SealOperation ν → SealedRecord
  | .generate workspaceId _ _ _ _ => .workspaceKey workspaceId
  | .wrap workspaceId _ _ _ => .workspaceKey workspaceId
  | .credential workspaceId credentialId _ _ _ => .credential workspaceId credentialId
  | .cursor workspaceId sourceRunId _ _ _ => .sourceCursor workspaceId sourceRunId

def key : SealOperation ν → CryptoKey
  | .generate _ masterKey _ _ _ => masterKey.value
  | .wrap _ _ masterKey _ => masterKey.value
  | .credential _ _ workspaceKey _ _ => workspaceKey
  | .cursor _ _ workspaceKey _ _ => workspaceKey

def nonce : SealOperation ν → CipherNonce
  | .generate _ _ _ _ nonce | .wrap _ _ _ nonce | .credential _ _ _ _ nonce | .cursor _ _ _ _ nonce => nonce

def plaintext : SealOperation ν → List UInt8
  | .generate _ _ workspaceKey _ _ => workspaceKey
  | .wrap _ workspaceKey _ _ => workspaceKey
  | .credential _ _ _ value _ => (JsString.ofString (stringifyMembers value.fields)).utf8Encode
  | .cursor _ _ _ text _ => text.utf8Encode

def keyId : SealOperation ν → String
  | .generate _ masterKey _ _ _ => masterKey.id
  | .wrap _ _ masterKey _ => masterKey.id
  | .credential workspaceId _ _ _ _ => "workspace:" ++ workspaceId
  | .cursor workspaceId _ _ _ _ => "workspace:" ++ workspaceId

def sealing (operation : SealOperation ν) : Sealing where
  key := operation.key
  nonce := operation.nonce.bytes
  context := contextBytes operation.record.context
  plaintext := operation.plaintext

variable [CipherRuntime]

def envelope : SealOperation ν → Except CryptoError CryptoEnvelope
  | .generate workspaceId masterKey workspaceKey _ nonce => .ok (generateWorkspaceKey workspaceId masterKey workspaceKey nonce)
  | .wrap workspaceId workspaceKey masterKey nonce => wrapWorkspaceKey workspaceId workspaceKey masterKey nonce
  | .credential workspaceId credentialId workspaceKey value nonce =>
    encryptCredential workspaceId credentialId workspaceKey value.fields nonce
  | .cursor workspaceId sourceRunId workspaceKey text nonce =>
    encryptSourceCursor workspaceId sourceRunId workspaceKey text nonce

theorem envelope_eq_ok {operation : SealOperation ν} {envelope : CryptoEnvelope} (h : operation.envelope = .ok envelope) :
    envelope = sealEnvelope operation.key operation.nonce operation.plaintext operation.record.context operation.keyId ∧
      operation.key.length = KEY_BYTES ∧ operation.plaintext ≠ [] ∧ operation.keyId ≠ "" := by
  have hworkspace : ∀ workspaceId, "workspace:" ++ workspaceId ≠ "" := by
    intro workspaceId hempty
    have hlength := congrArg String.length hempty
    rw [String.length_append] at hlength
    simp at hlength
  have hkey : ∀ key : CryptoKey, key.length = KEY_BYTES → key ≠ [] := by
    rintro _ hlength rfl
    cases hlength
  cases operation with
  | generate workspaceId masterKey workspaceKey length nonce =>
    cases h
    exact ⟨rfl, masterKey.length, hkey _ length, masterKey.named⟩
  | wrap workspaceId workspaceKey masterKey nonce =>
    simp only [SealOperation.envelope, wrapWorkspaceKey, except_bind_eq_ok, assertWorkspaceKey_eq_ok] at h
    obtain ⟨_, hlength, heq⟩ := h
    cases heq
    exact ⟨rfl, masterKey.length, hkey _ hlength, masterKey.named⟩
  | credential workspaceId credentialId workspaceKey value nonce =>
    simp only [SealOperation.envelope, encryptCredential, except_bind_eq_ok, assertWorkspaceKey_eq_ok] at h
    obtain ⟨_, hlength, heq⟩ := h
    cases heq
    have hnonempty : (JsString.ofString (stringifyMembers value.fields)).units ≠ [] := by
      intro hempty
      have htext : stringifyMembers value.fields = "" := by
        rw [← JsString.text_ofString (stringifyMembers value.fields), JsString.text, JsString.toUnits, hempty]
        rfl
      have hchars := String.ofList_eq_empty_iff.mp htext
      rw [JsonTree.text] at hchars
      cases hchars
    have hbytes := JsString.utf8Encode_ne_nil hnonempty
    exact ⟨rfl, hlength, hbytes, hworkspace workspaceId⟩
  | cursor workspaceId sourceRunId workspaceKey text nonce =>
    simp only [SealOperation.envelope, encryptSourceCursor, except_bind_eq_ok, assertWorkspaceKey_eq_ok] at h
    obtain ⟨_, hlength, heq⟩ := h
    split at heq
    · cases heq
    · rename_i haccepted
      cases heq
      have hbytes : text.utf8Encode ≠ [] := JsString.utf8Encode_ne_nil fun hempty => by simp [hempty] at haccepted
      exact ⟨rfl, hlength, hbytes, hworkspace workspaceId⟩

end SealOperation

variable [CipherRuntime]

def sealings (operations : List (SealOperation ν)) : List Sealing :=
  (operations.filter fun operation => operation.envelope.isOk).map SealOperation.sealing

structure IdealCipher (sealed : List Sealing) : Prop where
  opens : ∀ sealing ∈ sealed, CipherRuntime.decrypt sealing.key sealing.nonce sealing.context
    (CipherRuntime.encrypt sealing.key sealing.nonce sealing.context sealing.plaintext) = some sealing.plaintext
  only : ∀ key nonce context encrypted plaintext, CipherRuntime.decrypt key nonce context encrypted = some plaintext →
    ∃ sealing ∈ sealed, sealing.key = key ∧ sealing.nonce = nonce ∧ sealing.context = context ∧
      sealing.plaintext = plaintext ∧ CipherRuntime.encrypt key nonce context plaintext = encrypted
  size : ∀ sealing ∈ sealed,
    (CipherRuntime.encrypt sealing.key sealing.nonce sealing.context sealing.plaintext).1.length = sealing.plaintext.length ∧
      (CipherRuntime.encrypt sealing.key sealing.nonce sealing.context sealing.plaintext).2.length = 16

structure SameSeal (first second : CryptoEnvelope) : Prop where
  nonce : decodeBase64Url first.nonce = decodeBase64Url second.nonce
  ciphertext : decodeBase64Url first.ciphertext = decodeBase64Url second.ciphertext
  tag : decodeBase64Url first.tag = decodeBase64Url second.tag

theorem openEnvelope_eq_ok {key : CryptoKey} {envelope : CryptoEnvelope} {context : String} {plaintext : List UInt8} :
    openEnvelope key envelope context = .ok plaintext ↔ envelope.accepted = true ∧
      (decodeBase64Url envelope.nonce).length = NONCE_BYTES ∧
      CipherRuntime.decrypt key (decodeBase64Url envelope.nonce) (contextBytes context)
        (decodeBase64Url envelope.ciphertext, decodeBase64Url envelope.tag) = some plaintext := by
  unfold openEnvelope
  cases haccepted : envelope.accepted with
  | false => simp
  | true =>
    by_cases hlength : (decodeBase64Url envelope.nonce).length = NONCE_BYTES
    · cases hdecrypt : CipherRuntime.decrypt key (decodeBase64Url envelope.nonce) (contextBytes context)
        (decodeBase64Url envelope.ciphertext, decodeBase64Url envelope.tag) with
      | none => simp [hlength, hdecrypt]
      | some opened => simp [hlength, hdecrypt]
    · simp [hlength]

theorem mem_sealings {operations : List (SealOperation ν)} {sealing : Sealing} :
    sealing ∈ sealings operations ↔ ∃ operation ∈ operations, ∃ envelope, operation.envelope = .ok envelope ∧ operation.sealing = sealing := by
  simp only [sealings, List.mem_map, List.mem_filter]
  constructor
  · rintro ⟨operation, ⟨hmem, hok⟩, rfl⟩
    cases henvelope : operation.envelope with
    | ok envelope => exact ⟨operation, hmem, envelope, henvelope, rfl⟩
    | error error =>
      rw [henvelope] at hok
      cases hok
  · rintro ⟨operation, hmem, envelope, henvelope, rfl⟩
    exact ⟨operation, ⟨hmem, by rw [henvelope]; rfl⟩, rfl⟩

section Sealed

variable {operations : List (SealOperation ν)} (hideal : IdealCipher (sealings operations))

include hideal

theorem IdealCipher.sealed {key : CryptoKey} {envelope : CryptoEnvelope} {record : SealedRecord} {plaintext : List UInt8}
    (hids : ∀ operation ∈ operations, Undivided operation.record.workspaceId) (hid : Undivided record.workspaceId)
    (h : openEnvelope key envelope record.context = .ok plaintext) :
    ∃ operation ∈ operations, ∃ original, operation.envelope = .ok original ∧ operation.key = key ∧ operation.record = record ∧
      operation.plaintext = plaintext ∧ SameSeal original envelope := by
  obtain ⟨_, _, hdecrypt⟩ := openEnvelope_eq_ok.mp h
  obtain ⟨sealing, hsealing, hkey, hnonce, hcontext, hplaintext, hencrypted⟩ := hideal.only _ _ _ _ _ hdecrypt
  obtain ⟨operation, hmem, original, henvelope, rfl⟩ := mem_sealings.mp hsealing
  simp only [SealOperation.sealing] at hkey hnonce hcontext hplaintext
  have hrecord : operation.record = record := SealedRecord.context_inj (hids operation hmem) hid hcontext
  obtain ⟨hseal, _⟩ := SealOperation.envelope_eq_ok henvelope
  rw [← hkey, ← hnonce, ← hcontext, ← hplaintext] at hencrypted
  have hsame : SameSeal original envelope := by
    constructor
    · rw [hseal, sealEnvelope, decodeBase64Url_encodeBase64]
      exact hnonce
    · rw [hseal, sealEnvelope, decodeBase64Url_encodeBase64, hencrypted]
    · rw [hseal, sealEnvelope, decodeBase64Url_encodeBase64, hencrypted]
  exact ⟨operation, hmem, original, henvelope, hkey, hrecord, hplaintext, hsame⟩

theorem IdealCipher.opened {operation : SealOperation ν} {envelope : CryptoEnvelope} (hmem : operation ∈ operations)
    (henvelope : operation.envelope = .ok envelope) :
    openEnvelope operation.key envelope operation.record.context = .ok operation.plaintext := by
  have hsealing : operation.sealing ∈ sealings operations := mem_sealings.mpr ⟨operation, hmem, envelope, henvelope, rfl⟩
  obtain ⟨rfl, _, hplaintext, hkeyId⟩ := SealOperation.envelope_eq_ok henvelope
  obtain ⟨hciphertext, htag⟩ := hideal.size _ hsealing
  have hnonempty : ∀ {bytes : List UInt8} {size : Nat}, bytes.length = size → size ≠ 0 → encodeBase64 bytes ≠ "" := by
    rintro bytes _ rfl hsize
    exact encodeBase64_ne_empty fun hempty => hsize (by rw [hempty]; rfl)
  refine openEnvelope_eq_ok.mpr ⟨?_, ?_, ?_⟩
  · have hct := hnonempty hciphertext fun hzero => hplaintext (List.length_eq_zero_iff.mp hzero)
    have hnonce := hnonempty operation.nonce.length (by decide)
    have htag := hnonempty htag (by decide)
    simp only [CryptoEnvelope.accepted, sealEnvelope]
    simp only [SealOperation.sealing] at hct htag
    simp [hct, hnonce, htag, hkeyId]
  · rw [sealEnvelope, decodeBase64Url_encodeBase64]
    exact operation.nonce.length
  · have hopens := hideal.opens _ hsealing
    simp only [SealOperation.sealing] at hopens
    simp only [sealEnvelope, decodeBase64Url_encodeBase64, Prod.mk.eta]
    exact hopens

end Sealed

variable [IntegerNumbers ν] [DecidableEq ν]

def SealOperation.restored (envelope : CryptoEnvelope) : SealOperation ν → Prop
  | .generate workspaceId masterKey workspaceKey _ _ => unwrapWorkspaceKey workspaceId envelope masterKey = .ok workspaceKey
  | .wrap workspaceId workspaceKey masterKey _ => unwrapWorkspaceKey workspaceId envelope masterKey = .ok workspaceKey
  | .credential workspaceId credentialId workspaceKey value _ =>
    decryptCredential ν workspaceId credentialId workspaceKey envelope = .ok value.fields
  | .cursor workspaceId sourceRunId workspaceKey text _ =>
    decryptSourceCursor workspaceId sourceRunId workspaceKey envelope = .ok text

/-- The values which survive: numbers which are read back from their text, as all but `-0`
are, and cursors without half of a surrogate pair. -/
def SealOperation.restorable : SealOperation ν → Prop
  | .generate _ _ _ _ _ => True
  | .wrap _ _ _ _ => True
  | .credential _ _ _ value _ =>
    JsonTree.allFields (fun n => IntegerNumbers.parseNumber (jsonNumberText n) = n) value.fields = true
  | .cursor _ _ _ text _ => text.WellFormed

/-- What decrypts was sealed by the matching operation, for the same record and under the same key. -/
structure EnvelopesSeparated (operations : List (SealOperation ν)) : Prop where
  credentials : ∀ workspaceId credentialId key envelope value, Undivided workspaceId →
    decryptCredential ν workspaceId credentialId key envelope = .ok value →
      ∃ sealedValue nonce original, .credential workspaceId credentialId key sealedValue nonce ∈ operations ∧
        encryptCredential workspaceId credentialId key sealedValue.fields nonce = .ok original ∧ SameSeal original envelope
  cursors : ∀ workspaceId sourceRunId key envelope value, Undivided workspaceId →
    decryptSourceCursor workspaceId sourceRunId key envelope = .ok value →
      ∃ text nonce original, .cursor workspaceId sourceRunId key text nonce ∈ operations ∧
        encryptSourceCursor workspaceId sourceRunId key text nonce = .ok original ∧ SameSeal original envelope
  keys : ∀ workspaceId envelope masterKey key, Undivided workspaceId → unwrapWorkspaceKey workspaceId envelope masterKey = .ok key →
    ∃ (sealer : MasterKey) (nonce : CipherNonce) (original : CryptoEnvelope), sealer.value = masterKey.value ∧
      SameSeal original envelope ∧
      ((∃ length, .generate workspaceId sealer key length nonce ∈ operations ∧
          generateWorkspaceKey workspaceId sealer key nonce = original) ∨
        .wrap workspaceId key sealer nonce ∈ operations ∧ wrapWorkspaceKey workspaceId key sealer nonce = .ok original)

section Contract

variable {operations : List (SealOperation ν)}

omit [DecidableEq ν] in
theorem IdealCipher.separated (hideal : IdealCipher (sealings operations))
    (hids : ∀ operation ∈ operations, Undivided operation.record.workspaceId) : EnvelopesSeparated operations where
  credentials workspaceId credentialId key envelope value hid h := by
    simp only [decryptCredential, except_bind_eq_ok] at h
    obtain ⟨_, _, plaintext, hopen, _⟩ := h
    obtain ⟨operation, hmem, original, henvelope, hkey, hrecord, _, hseal⟩ :=
      IdealCipher.sealed hideal hids (show Undivided (SealedRecord.credential workspaceId credentialId).workspaceId from hid) hopen
    cases operation with
    | credential otherWorkspace otherCredential otherKey sealedValue nonce =>
      cases hkey
      cases hrecord
      exact ⟨sealedValue, nonce, original, hmem, henvelope, hseal⟩
    | generate | wrap | cursor => cases hrecord
  cursors workspaceId sourceRunId key envelope value hid h := by
    simp only [decryptSourceCursor, except_bind_eq_ok] at h
    obtain ⟨_, _, plaintext, hopen, _⟩ := h
    obtain ⟨operation, hmem, original, henvelope, hkey, hrecord, _, hseal⟩ :=
      IdealCipher.sealed hideal hids (show Undivided (SealedRecord.sourceCursor workspaceId sourceRunId).workspaceId from hid) hopen
    cases operation with
    | cursor otherWorkspace otherRun otherKey text nonce =>
      cases hkey
      cases hrecord
      exact ⟨text, nonce, original, hmem, henvelope, hseal⟩
    | generate | wrap | credential => cases hrecord
  keys workspaceId envelope masterKey key hid h := by
    unfold unwrapWorkspaceKey at h
    split at h
    · cases h
    obtain ⟨plaintext, hopen, h⟩ := except_bind_eq_ok.mp h
    split at h
    · cases h
    cases h
    obtain ⟨operation, hmem, original, henvelope, hkey, hrecord, hplaintext, hseal⟩ :=
      IdealCipher.sealed hideal hids (show Undivided (SealedRecord.workspaceKey workspaceId).workspaceId from hid) hopen
    cases operation with
    | generate otherWorkspace sealer otherKey length nonce =>
      cases hrecord
      cases hplaintext
      cases henvelope
      exact ⟨sealer, nonce, _, hkey, hseal, .inl ⟨length, hmem, rfl⟩⟩
    | wrap otherWorkspace otherKey sealer nonce =>
      cases hrecord
      cases hplaintext
      exact ⟨sealer, nonce, original, hkey, hseal, .inr ⟨hmem, henvelope⟩⟩
    | credential | cursor => cases hrecord

theorem unwrapWorkspaceKey_sealed {workspaceId : String} {envelope : CryptoEnvelope} {masterKey : MasterKey} {key : CryptoKey}
    (hid : envelope.keyId = masterKey.id) (hlength : key.length = KEY_BYTES)
    (hopen : openEnvelope masterKey.value envelope (workspaceKeyContext workspaceId) = .ok key) :
    unwrapWorkspaceKey workspaceId envelope masterKey = .ok key := by
  rw [unwrapWorkspaceKey, if_neg (not_not.mpr hid), hopen]
  exact if_neg (not_not.mpr hlength)

theorem decryptSourceCursor_sealed {workspaceId sourceRunId : String} {key : CryptoKey} {envelope : CryptoEnvelope}
    {text : JsString} (hlength : key.length = KEY_BYTES)
    (hopen : openEnvelope key envelope (sourceCursorContext workspaceId sourceRunId) = .ok text.utf8Encode) :
    decryptSourceCursor workspaceId sourceRunId key envelope = .ok (.ofString text.text) := by
  rw [decryptSourceCursor, (assertWorkspaceKey_eq_ok (u := ())).mpr hlength]
  simp only [bind, Except.bind, hopen, JsString.utf8Decode_encode]
  rfl

omit [CipherRuntime] [DecidableEq ν] in
theorem jsonNumberText_readable [NumberTexts ν] : ReadableTexts (jsonNumberText (ν := ν)) fun n => JsRuntime.isFinite n where
  reads n hfinite rest hrest := by
    rw [jsonNumberText, if_pos hfinite]
    exact NumberTexts.reads n hfinite rest hrest

omit [DecidableEq ν] in
theorem decryptCredential_sealed [NumberTexts ν] {workspaceId credentialId : String} {key : CryptoKey} {envelope : CryptoEnvelope}
    {value : CredentialObject ν} (hlength : key.length = KEY_BYTES)
    (hopen : openEnvelope key envelope (credentialContext workspaceId credentialId) =
      .ok (JsString.ofString (stringifyMembers value.fields)).utf8Encode) :
    decryptCredential ν workspaceId credentialId key envelope =
      .ok (JsonTree.mapFields (fun n => IntegerNumbers.parseNumber (jsonNumberText n)) value.fields) := by
  have hparse : parseTree JsString.codec IntegerNumbers.parseNumber (stringifyMembers value.fields).toList =
      some (.object (JsonTree.mapFields (fun n => IntegerNumbers.parseNumber (jsonNumberText n)) value.fields)) := by
    rw [stringifyMembers, String.toList_ofList]
    exact parseTree_text jsonNumberText_readable IntegerNumbers.parseNumber (show (JsonTree.object value.fields).allNumbers _ = true from value.finite)
  rw [decryptCredential, (assertWorkspaceKey_eq_ok (u := ())).mpr hlength]
  simp only [bind, Except.bind, hopen, JsString.utf8Decode_encode, JsString.text_ofString, hparse]

theorem IdealCipher.restored_iff [NumberTexts ν] (hideal : IdealCipher (sealings operations)) {operation : SealOperation ν}
    {envelope : CryptoEnvelope} (hmem : operation ∈ operations) (henvelope : operation.envelope = .ok envelope) :
    operation.restored envelope ↔ operation.restorable := by
  have hopen := hideal.opened hmem henvelope
  obtain ⟨hseal, hlength, _, _⟩ := SealOperation.envelope_eq_ok henvelope
  have hkeyId : envelope.keyId = operation.keyId := by rw [hseal]; rfl
  cases operation with
  | generate workspaceId masterKey workspaceKey length nonce =>
    exact iff_of_true (unwrapWorkspaceKey_sealed hkeyId length hopen) trivial
  | wrap workspaceId workspaceKey masterKey nonce =>
    simp only [SealOperation.envelope, wrapWorkspaceKey, except_bind_eq_ok, assertWorkspaceKey_eq_ok] at henvelope
    obtain ⟨_, hkey, _⟩ := henvelope
    exact iff_of_true (unwrapWorkspaceKey_sealed hkeyId hkey hopen) trivial
  | credential workspaceId credentialId workspaceKey value nonce =>
    have hdecrypted : decryptCredential ν workspaceId credentialId workspaceKey envelope =
        .ok (JsonTree.mapFields (fun n => IntegerNumbers.parseNumber (jsonNumberText n)) value.fields) :=
      decryptCredential_sealed hlength hopen
    rw [SealOperation.restored, hdecrypted, Except.ok.injEq, JsonTree.mapFields_eq_self]
    rfl
  | cursor workspaceId sourceRunId workspaceKey text nonce =>
    have hdecrypted : decryptSourceCursor workspaceId sourceRunId workspaceKey envelope = .ok (.ofString text.text) :=
      decryptSourceCursor_sealed hlength hopen
    rw [SealOperation.restored, hdecrypted, Except.ok.injEq, JsString.ofString_text_eq_self]
    rfl

/-- Envelopes are kept apart whatever was sealed, and each is restored exactly when its value can be. -/
theorem envelopes_restored_exactly [NumberTexts ν] (hideal : IdealCipher (sealings operations))
    (hids : ∀ operation ∈ operations, Undivided operation.record.workspaceId) :
    EnvelopesSeparated operations ∧ ∀ operation ∈ operations, ∀ envelope, operation.envelope = .ok envelope →
      (operation.restored envelope ↔ operation.restorable) :=
  ⟨hideal.separated hids, fun _ hmem _ henvelope => hideal.restored_iff hmem henvelope⟩

end Contract

end Operations

section Sample

def cursorWorkspace : String := "6f1e0f9e-3c56-4d0b-9c5b-0c7a3a1d2e4f"

def cursorRun : String := "0b8f7e6d-5c4b-4a39-8271-605f4e3d2c1b"

def cursorKey : CryptoKey :=
  (List.range 32).map UInt8.ofNat

def cursorNonce : CipherNonce where
  bytes := (List.range 12).map UInt8.ofNat
  length := rfl

def brokenCursor : JsString := ⟨[0xD800]⟩

def cursorSeal : List UInt8 × List UInt8 :=
  ([168, 189, 107], [211, 250, 42, 242, 23, 138, 205, 89, 207, 186, 34, 108, 30, 72, 240, 0])

def cursorOperation : SealOperation SafeInteger :=
  .cursor cursorWorkspace cursorRun cursorKey brokenCursor cursorNonce

def cursorSealing : Sealing := cursorOperation.sealing

local instance cursorCipher : CipherRuntime where
  encrypt key nonce context plaintext :=
    if key = cursorSealing.key ∧ nonce = cursorSealing.nonce ∧ context = cursorSealing.context ∧ plaintext = cursorSealing.plaintext then
      cursorSeal
    else ([], [])
  decrypt key nonce context encrypted :=
    if key = cursorSealing.key ∧ nonce = cursorSealing.nonce ∧ context = cursorSealing.context ∧ encrypted = cursorSeal then
      some cursorSealing.plaintext
    else none
  decodeInvalid _ := "\uFFFD"

theorem cursorCipher_encrypt : CipherRuntime.encrypt cursorSealing.key cursorSealing.nonce cursorSealing.context
    cursorSealing.plaintext = cursorSeal :=
  if_pos ⟨rfl, rfl, rfl, rfl⟩

theorem cursorCipher_ideal : IdealCipher [cursorSealing] where
  opens sealing hsealing := by
    rw [List.mem_singleton.mp hsealing, cursorCipher_encrypt]
    exact if_pos ⟨rfl, rfl, rfl, rfl⟩
  only key nonce context encrypted plaintext hdecrypt := by
    simp only [CipherRuntime.decrypt, Option.ite_none_right_eq_some, Option.some.injEq] at hdecrypt
    obtain ⟨⟨hkey, hnonce, hcontext, hencrypted⟩, hplaintext⟩ := hdecrypt
    refine ⟨cursorSealing, List.mem_singleton_self _, hkey.symm, hnonce.symm, hcontext.symm, hplaintext, ?_⟩
    rw [hkey, hnonce, hcontext, hencrypted, ← hplaintext, cursorCipher_encrypt]
  size sealing hsealing := by
    rw [List.mem_singleton.mp hsealing, cursorCipher_encrypt]
    decide +kernel

theorem cursorOperation_sealings : sealings [cursorOperation] = [cursorSealing] := by
  have hok : cursorOperation.envelope.isOk = true := rfl
  simp only [sealings, List.filter_cons, hok, if_true, List.filter_nil, List.map_cons, List.map_nil]
  rfl

theorem cursorOperation_ideal : IdealCipher (sealings [cursorOperation]) :=
  cursorOperation_sealings ▸ cursorCipher_ideal

theorem cursorOperation_undivided : ∀ operation ∈ [cursorOperation], Undivided operation.record.workspaceId := by
  intro operation hmem
  rw [List.mem_singleton.mp hmem]
  exact undivided_of_isEntityId (by decide +kernel)

theorem envelopes_restored_exactly_cursor : EnvelopesSeparated [cursorOperation] ∧
    ∀ operation ∈ [cursorOperation], ∀ envelope, operation.envelope = .ok envelope →
      (operation.restored envelope ↔ operation.restorable) :=
  envelopes_restored_exactly cursorOperation_ideal cursorOperation_undivided

/-- The cursor is sealed, and what is decrypted is the replacement character. -/
theorem envelopes_restored_exactly_broken : ∃ envelope,
    encryptSourceCursor cursorWorkspace cursorRun cursorKey brokenCursor cursorNonce = .ok envelope ∧
    decryptSourceCursor cursorWorkspace cursorRun cursorKey envelope = .ok (.ofString "\uFFFD") ∧
    JsString.ofString "\uFFFD" ≠ brokenCursor := by
  have htext : brokenCursor.text = "\uFFFD" := by decide +kernel
  have hsealed : ∃ envelope, encryptSourceCursor cursorWorkspace cursorRun cursorKey brokenCursor cursorNonce = .ok envelope :=
    ⟨_, rfl⟩
  obtain ⟨envelope, henvelope⟩ := hsealed
  have hopen := cursorOperation_ideal.opened (List.mem_singleton_self cursorOperation) henvelope
  have hdecrypted := decryptSourceCursor_sealed (by decide +kernel) hopen
  rw [htext] at hdecrypted
  exact ⟨envelope, henvelope, hdecrypted, by decide +kernel⟩

end Sample

end ByokGrid
