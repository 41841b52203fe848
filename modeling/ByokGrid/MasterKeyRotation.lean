import Mathlib.Data.String.Basic
import ByokGrid.Envelopes
import ByokGrid.Keyset

/-! Workspace keys wrapped under a ring of master keys, and the rotation to its current key. -/

namespace ByokGrid

instance : Keyed MasterKey String := ⟨MasterKey.id⟩

structure MasterKeyRing where
  current : MasterKey
  keys : Table MasterKey
  contains : keys.get? current.id = some current

section Unwrapping

variable [CipherRuntime]

def masterKeyForEnvelope (envelope : CryptoEnvelope) (masterKeys : MasterKeyRing) : Except CryptoError MasterKey :=
  if !envelope.accepted then .error .schema
  else
    match masterKeys.keys.get? envelope.keyId with
    | some masterKey => .ok masterKey
    | none => .error (.failure "The required master key is not available.")

def unwrapWorkspaceKeyFromRing (workspaceId : String) (wrappedKey : CryptoEnvelope) (masterKeys : MasterKeyRing) :
    Except CryptoError CryptoKey := do
  let masterKey ← masterKeyForEnvelope wrappedKey masterKeys
  unwrapWorkspaceKey workspaceId wrappedKey masterKey

def rewrapWorkspaceKey (workspaceId : String) (wrappedKey : CryptoEnvelope) (masterKeys : MasterKeyRing)
    (nonce : CipherNonce) : Except CryptoError CryptoEnvelope := do
  let workspaceKey ← unwrapWorkspaceKeyFromRing workspaceId wrappedKey masterKeys
  wrapWorkspaceKey workspaceId workspaceKey masterKeys.current nonce

end Unwrapping

/-- A row of `workspace_keys`. -/
structure WorkspaceKey where
  workspaceId : String
  keyId : String
  wrappedKey : CryptoEnvelope
  deriving Repr, DecidableEq

instance : Keyed WorkspaceKey String := ⟨WorkspaceKey.workspaceId⟩

def inconsistentKeyMessage : String :=
  "A stored workspace key has inconsistent key identifiers; rotation was stopped."

def assertStoredEnvelopeIdentity (storedKeyId envelopeKeyId : String) : Except CryptoError Unit :=
  if storedKeyId ≠ envelopeKeyId then .error (.failure inconsistentKeyMessage) else .ok ()

section Store

variable [CipherRuntime] (workspaceKeys : Table WorkspaceKey) (masterKeys : MasterKeyRing)

structure MasterKeyRotationInspection where
  pending : Nat
  total : Nat
  deriving Repr, DecidableEq

def INSPECTION_BATCH_SIZE : Nat := 500

def afterCursor (cursor : Option String) (workspaceId : String) : Bool :=
  match cursor with
  | none => true
  | some cursor => cursor = "" || cursor < workspaceId

def inspectionPage (cursor : Option String) : List WorkspaceKey :=
  ((orderedBy WorkspaceKey.workspaceId workspaceKeys.records).filter fun row =>
    afterCursor cursor row.workspaceId).take INSPECTION_BATCH_SIZE

def inspectWorkspaceKey (inspection : MasterKeyRotationInspection) (row : WorkspaceKey) :
    Except CryptoError MasterKeyRotationInspection := do
  assertStoredEnvelopeIdentity row.keyId row.wrappedKey.keyId
  let _ ← unwrapWorkspaceKeyFromRing row.workspaceId row.wrappedKey masterKeys
  return { pending := if row.keyId ≠ masterKeys.current.id then inspection.pending + 1 else inspection.pending
           total := inspection.total + 1 }

def inspectPages : Nat → Option String → MasterKeyRotationInspection → Except CryptoError MasterKeyRotationInspection
  | 0, _, _ => .error (.failure "The inspection did not end.")
  | pages + 1, cursor, inspection => do
    let rows := inspectionPage workspaceKeys cursor
    let inspection ← rows.foldlM (inspectWorkspaceKey masterKeys) inspection
    if rows.length < INSPECTION_BATCH_SIZE then return inspection
    else inspectPages pages (rows.getLast?.map WorkspaceKey.workspaceId) inspection

def inspectSqliteMasterKeyRotation : Except CryptoError MasterKeyRotationInspection :=
  inspectPages workspaceKeys masterKeys (workspaceKeys.records.length + 1) none { pending := 0, total := 0 }

structure MasterKeyRotationBatchResult where
  remaining : Nat
  rotated : Nat
  deriving Repr, DecidableEq

def MAXIMUM_ROTATION_BATCH_SIZE : Nat := 500

def underOtherKey (row : WorkspaceKey) : Bool :=
  row.keyId ≠ masterKeys.current.id

def rotationBatch (batchSize : Nat) : List WorkspaceKey :=
  (orderedBy WorkspaceKey.workspaceId (workspaceKeys.records.filter (underOtherKey masterKeys))).take batchSize

def updateWorkspaceKey (row : WorkspaceKey) (wrappedKey : CryptoEnvelope) : Except CryptoError (Table WorkspaceKey) :=
  let guarded := fun stored : WorkspaceKey => stored.workspaceId = row.workspaceId && stored.keyId = row.keyId
  if workspaceKeys.records.any guarded then
    .ok (workspaceKeys.modify guarded
      (fun stored => { stored with keyId := masterKeys.current.id, wrappedKey := wrappedKey }) ⟨fun _ => rfl⟩)
  else .error (.failure "A workspace key changed concurrently during master-key rotation.")

/-- The loop over the rows of a batch, with the nonces it draws: the keys it leaves, and how many it has rotated. -/
def rotateRows (nonces : Nat → CipherNonce) : Table WorkspaceKey → Nat → List WorkspaceKey →
    Except CryptoError (Table WorkspaceKey × Nat)
  | workspaceKeys, rotated, [] => .ok (workspaceKeys, rotated)
  | workspaceKeys, rotated, row :: rows => do
    assertStoredEnvelopeIdentity row.keyId row.wrappedKey.keyId
    let wrappedKey ← rewrapWorkspaceKey row.workspaceId row.wrappedKey masterKeys (nonces rotated)
    let workspaceKeys ← updateWorkspaceKey workspaceKeys masterKeys row wrappedKey
    rotateRows nonces workspaceKeys (rotated + 1) rows

def rotateSqliteMasterKeysBatch (batchSize : Int) (nonces : Nat → CipherNonce) :
    Except CryptoError (Table WorkspaceKey × MasterKeyRotationBatchResult) :=
  if batchSize < 1 ∨ batchSize > MAXIMUM_ROTATION_BATCH_SIZE then
    .error (.failure "Master-key rotation batch size must be between 1 and 500.")
  else if workspaceKeys.records.any fun row => row.keyId ≠ row.wrappedKey.keyId then
    .error (.failure inconsistentKeyMessage)
  else do
    let (rotatedKeys, rotated) ←
      rotateRows masterKeys nonces workspaceKeys 0 (rotationBatch workspaceKeys masterKeys batchSize.toNat)
    return (rotatedKeys,
      { remaining := (rotatedKeys.records.filter (underOtherKey masterKeys)).length, rotated := rotated })

structure DrawnKey where
  bytes : CryptoKey
  length : bytes.length = KEY_BYTES

/-- The key of a workspace as `createSqliteEncryptedCredential` finds or makes it. -/
def requireWorkspaceKey (workspaceId : String) (drawn : DrawnKey) (nonce : CipherNonce) :
    Except CryptoError (Table WorkspaceKey × CryptoKey) := do
  let created : WorkspaceKey :=
    { workspaceId := workspaceId
      keyId := masterKeys.current.id
      wrappedKey := generateWorkspaceKey workspaceId masterKeys.current drawn.bytes nonce }
  let stored := (workspaceKeys.insert created).getD workspaceKeys
  match stored.get? workspaceId with
  | none => .error (.failure "The workspace key could not be created.")
  | some storedKey =>
    if storedKey.keyId ≠ storedKey.wrappedKey.keyId then
      .error (.failure "The stored workspace key has inconsistent identifiers.")
    else do
      let workspaceKey ← unwrapWorkspaceKeyFromRing workspaceId storedKey.wrappedKey masterKeys
      return (stored, workspaceKey)

end Store

/-- What happens to the keys while the service runs: batches, batches which are rolled back, and
credentials of new workspaces, created by a service with a ring of its own. -/
inductive RotationAction where
  | rotate (batchSize : Int) (nonces : Nat → CipherNonce)
  | interrupted (batchSize : Int) (nonces : Nat → CipherNonce)
  | create (service : MasterKeyRing) (workspaceId : String) (drawn : DrawnKey) (nonce : CipherNonce)

namespace RotationAction

variable [CipherRuntime] (masterKeys : MasterKeyRing)

def apply (workspaceKeys : Table WorkspaceKey) : RotationAction → Table WorkspaceKey
  | .rotate batchSize nonces =>
    match rotateSqliteMasterKeysBatch workspaceKeys masterKeys batchSize nonces with
    | .ok (rotatedKeys, _) => rotatedKeys
    | .error _ => workspaceKeys
  | .interrupted _ _ => workspaceKeys
  | .create service workspaceId drawn nonce =>
    match requireWorkspaceKey workspaceKeys service workspaceId drawn nonce with
    | .ok (stored, _) => stored
    | .error _ => workspaceKeys

def run (workspaceKeys : Table WorkspaceKey) (actions : List RotationAction) : Table WorkspaceKey :=
  actions.foldl (apply masterKeys) workspaceKeys

def known : RotationAction → Prop
  | .create service _ _ _ => masterKeys.keys.get? service.current.id = some service.current
  | .rotate _ _ | .interrupted _ _ => True

def createsUnderOther : RotationAction → Bool
  | .create service _ _ _ => service.current.id ≠ masterKeys.current.id
  | .rotate _ _ | .interrupted _ _ => false

def asked : RotationAction → Nat
  | .rotate batchSize _ => if 1 ≤ batchSize ∧ batchSize ≤ MAXIMUM_ROTATION_BATCH_SIZE then batchSize.toNat else 0
  | .interrupted _ _ | .create _ _ _ _ => 0

end RotationAction

end ByokGrid
