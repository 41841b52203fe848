import ByokGrid.CellRuns
import ByokGrid.ImportPolicy

/-! Push ingestion: an endpoint accepts batches of records under its token, and a
worker applies each batch to the grid chunk by chunk. -/

namespace ByokGrid

structure IngestionEndpoint where
  id : String
  tableId : String
  name : String
  recordKeyField : String
  tokenHash : String
  fieldMapping : Option (List SourceField) := none
  revokedAt : Option Int := none
  deriving Repr, DecidableEq

instance : Keyed IngestionEndpoint String := ⟨IngestionEndpoint.id⟩

inductive IngestionBatchStatus where
  | queued
  | running
  | succeeded
  | failed
  | cancelled
  deriving Repr, DecidableEq

/-- `inArray(status, ['queued', 'running'])`. -/
def IngestionBatchStatus.active : IngestionBatchStatus → Bool
  | .queued | .running => true
  | .succeeded | .failed | .cancelled => false

structure IngestionBatch where
  id : String
  endpointId : String
  tableId : String
  idempotencyKey : String
  requestDigest : String
  fields : List String
  recordCount : Nat
  createdAt : Int
  status : IngestionBatchStatus := .queued
  processedRecordCount : Nat := 0
  createdRowCount : Nat := 0
  updatedRowCount : Nat := 0
  attempt : Nat := 0
  errorMessage : Option String := none
  startedAt : Option Int := none
  finishedAt : Option Int := none
  deriving Repr, DecidableEq

instance : Keyed IngestionBatch String := ⟨IngestionBatch.id⟩

structure IngestionStagedRecord where
  batchId : String
  ordinal : Nat
  recordKey : String
  values : List (String × Option String)
  deriving Repr, DecidableEq

instance : Keyed IngestionStagedRecord (String × Nat) := ⟨fun record => (record.batchId, record.ordinal)⟩

structure IngestionRecord where
  endpointId : String
  recordKey : String
  tableId : String
  rowId : String
  lastBatchId : Option String
  deriving Repr, DecidableEq

instance : Keyed IngestionRecord (String × String) := ⟨fun record => (record.endpointId, record.recordKey)⟩

structure IngestionStore where
  endpoints : Table IngestionEndpoint
  batches : Table IngestionBatch
  stagedRecords : Table IngestionStagedRecord
  records : Table IngestionRecord

structure IngestionWorkspace (ν : Type) where
  db : Database ν
  ingestion : IngestionStore

section Endpoints

variable {ν : Type}

def requireSqliteIngestionAdmin (db : Database ν) (tableId userId : String) : Except StoreError Unit :=
  requireThat
    ((db.grid.dataTables.get? tableId).any (fun table => table.archivedAt.isNone) &&
      (db.workspaceMembers.get? userId).any fun member => member.role = .owner || member.role = .admin)
    (.access "Only workspace owners and admins can manage ingestion endpoints.")

structure CreateIngestionEndpoint where
  tableId : String
  userId : String
  name : String
  recordKeyField : String
  endpointId : String
  token : String
  deriving Repr, DecidableEq

def createSqliteIngestionEndpoint [ConnectorRuntime ν] (workspace : IngestionWorkspace ν)
    (input : CreateIngestionEndpoint) : Except StoreError (IngestionWorkspace ν) := do
  let name ← requireSome (parseShortText input.name) .request
  let recordKeyField ← requireSome ((parseShortText input.recordKeyField).filter fun field =>
    !field.toList.any isControlCharacter) .request
  let tokenHash := ConnectorRuntime.sha256 ν input.token
  requireSqliteIngestionAdmin workspace.db input.tableId input.userId
  requireThat (!workspace.ingestion.endpoints.records.any fun endpoint => endpoint.tokenHash = tokenHash)
    (.constraint "ingestion_endpoints_token_hash_unique")
  let endpoints ← requireSome (workspace.ingestion.endpoints.insert
    { id := input.endpointId
      tableId := input.tableId
      name := name
      recordKeyField := recordKeyField
      tokenHash := tokenHash }) (.constraint "ingestion_endpoints_id")
  return { workspace with ingestion := { workspace.ingestion with endpoints := endpoints } }

structure RevokeIngestionEndpoint where
  tableId : String
  userId : String
  endpointId : String
  now : Int
  deriving Repr, DecidableEq

def revokeSqliteIngestionEndpoint (workspace : IngestionWorkspace ν) (input : RevokeIngestionEndpoint) :
    Except StoreError (IngestionWorkspace ν) := do
  requireSqliteIngestionAdmin workspace.db input.tableId input.userId
  let revocable := fun endpoint : IngestionEndpoint =>
    endpoint.id = input.endpointId && endpoint.tableId = input.tableId && endpoint.revokedAt.isNone
  requireThat (workspace.ingestion.endpoints.records.any revocable) (.access "The endpoint is not accessible.")
  return { workspace with
    ingestion := { workspace.ingestion with
      endpoints := workspace.ingestion.endpoints.modify revocable
        (fun endpoint => { endpoint with revokedAt := some input.now }) ⟨fun _ => rfl⟩ } }

end Endpoints

section Stage

variable {ν : Type}

structure StageIngestionBatch where
  batch : NormalizedSourceBatch
  endpointId : String
  idempotencyKey : String
  requestDigest : String
  tokenHash : String
  batchId : String
  eventId : String
  now : Int
  deriving Repr, DecidableEq

def acceptableBatch (batch : IngestionBatch) : Bool :=
  1 ≤ batch.recordCount && batch.recordCount ≤ 1000 && 1 ≤ batch.fields.length && batch.fields.length ≤ 100 &&
    8 ≤ batch.idempotencyKey.length && batch.idempotencyKey.length ≤ 200 && batch.requestDigest.length = 64 &&
    batch.requestDigest.toList.all fun c => isDecimalDigit c || ('a' ≤ c && c ≤ 'f')

def stagedRecords (batchId : String) (records : List NormalizedSourceRecord) : List IngestionStagedRecord :=
  records.zipIdx.map fun record =>
    { batchId := batchId, ordinal := record.2 + 1, recordKey := record.1.key, values := record.1.values }

def stageSqliteIngestionBatch (workspace : IngestionWorkspace ν) (input : StageIngestionBatch) :
    Except StoreError (IngestionWorkspace ν) := do
  let endpoint ← requireSome ((workspace.ingestion.endpoints.get? input.endpointId).filter fun endpoint =>
    endpoint.tokenHash = input.tokenHash && endpoint.revokedAt.isNone) (.access "The ingestion token is invalid.")
  let batch : IngestionBatch :=
    { id := input.batchId
      endpointId := endpoint.id
      tableId := endpoint.tableId
      idempotencyKey := input.idempotencyKey
      requestDigest := input.requestDigest
      fields := input.batch.fields
      recordCount := input.batch.records.length
      createdAt := input.now }
  requireThat (acceptableBatch batch) (.constraint "ingestion_batches_payload_shape")
  let accepted := workspace.ingestion.batches.records.find? fun batch =>
    batch.endpointId = endpoint.id && batch.idempotencyKey = input.idempotencyKey
  match accepted with
  | some existing => do
    requireThat (existing.requestDigest = input.requestDigest)
      (.conflict "This idempotency key was already used with a different request body.")
    return workspace
  | none => do
    let batches ← requireSome (workspace.ingestion.batches.insert batch) (.constraint "ingestion_batches_id")
    requireThat (input.batch.records.map NormalizedSourceRecord.key).Nodup
      (.constraint "ingestion_staged_records_batch_key_unique")
    requireThat (input.batch.records.all fun record => 1 ≤ record.key.length && record.key.length ≤ 500)
      (.constraint "ingestion_staged_records_key_length")
    let staged ← requireSome
      (workspace.ingestion.stagedRecords.insertAll (stagedRecords input.batchId input.batch.records))
      (.constraint "ingestion_staged_records_primary_key")
    let events ← requireSome (workspace.db.outbox.insert
      { id := input.eventId
        payload := .ingestionBatchRequested
          { batchId := input.batchId, endpointId := endpoint.id, tableId := endpoint.tableId }
        createdAt := input.now }) (.constraint "outbox_events_id")
    return { db := { workspace.db with outbox := events }
             ingestion := { workspace.ingestion with batches := batches, stagedRecords := staged } }

end Stage

section Worker

inductive IngestionStart where
  | ready
  | succeeded
  | cancelled
  | waiting
  deriving Repr, DecidableEq

def batchScope (input : IngestionBatchInput) (batch : IngestionBatch) : Bool :=
  batch.id = input.batchId && batch.endpointId = input.endpointId && batch.tableId = input.tableId

def createdBefore (left right : IngestionBatch) : Bool :=
  left.createdAt < right.createdAt || (left.createdAt = right.createdAt && left.id < right.id)

def startBatchAttempt (now : Int) (batch : IngestionBatch) : IngestionBatch :=
  { batch with
    attempt := batch.attempt + 1
    errorMessage := none
    startedAt := some (batch.startedAt.getD now)
    status := .running }

def IngestionStore.updateBatch (store : IngestionStore) (p : IngestionBatch → Bool)
    (f : IngestionBatch → IngestionBatch) (hf : KeepsKey f) : IngestionStore :=
  { store with batches := store.batches.modify p f hf }

def startActiveBatch (store : IngestionStore) (endpointId : String) (batch : IngestionBatch) (now : Int) :
    IngestionStart × IngestionStore :=
  if store.batches.records.any fun other =>
      other.endpointId = endpointId && other.status.active && createdBefore other batch then
    (.waiting, store)
  else
    (.ready, store.updateBatch (fun candidate => candidate.id = batch.id && candidate.status.active)
      (startBatchAttempt now) ⟨fun _ => rfl⟩)

def markSqliteIngestionBatchRunning (store : IngestionStore) (input : IngestionBatchInput) (now : Int) :
    Except StoreError (IngestionStart × IngestionStore) := do
  let batch ← requireSome ((store.batches.get? input.batchId).filter (batchScope input))
    (.access "The ingestion batch does not exist.")
  match batch.status with
  | .succeeded => return (.succeeded, store)
  | .cancelled => return (.cancelled, store)
  | .failed => .error (.conflict "The ingestion batch cannot start from status failed.")
  | .queued | .running => return startActiveBatch store input.endpointId batch now

structure IngestionFailure where
  batch : IngestionBatchInput
  errorMessage : String
  retrying : Bool
  now : Int
  deriving Repr, DecidableEq

def failBatch (failure : IngestionFailure) (batch : IngestionBatch) : IngestionBatch :=
  { batch with
    errorMessage := some (safeDispatchError failure.errorMessage)
    finishedAt := if failure.retrying then none else some failure.now
    status := if failure.retrying then .queued else .failed }

def setSqliteIngestionBatchWorkerFailure (store : IngestionStore) (failure : IngestionFailure) : IngestionStore :=
  store.updateBatch (fun batch => batchScope failure.batch batch && batch.status.active)
    (failBatch failure) ⟨fun _ => rfl⟩

end Worker

section Apply

variable {ν : Type} [JsRuntime ν]

inductive IngestionFieldDecision where
  | clear
  | preserve
  | write (value : String)
  deriving Repr, DecidableEq

/-- An absent field is `none`, a null one `some none`. -/
def decideIngestionFieldUpdate : Option (Option String) → IngestionFieldDecision
  | none => .preserve
  | some none => .clear
  | some (some value) => if value = "" then .clear else .write value

structure IngestionChunk where
  batch : IngestionBatchInput
  batchSize : Int := 250
  position : String → String
  columnId : Nat → String
  rowId : Nat → String
  mutation : Nat → MutationStamp
  eventId : String
  now : Int

def decideField (ν : Type) [JsRuntime ν] (fields : List String) (item : IngestionStagedRecord) (field : String) :
    IngestionFieldDecision :=
  decideIngestionFieldUpdate ((currentField (ν := ν) fields field).bind fun current => item.values.lookup current)

def changedColumnIdsForRecord (ν : Type) [JsRuntime ν] (fields : List String) (mapping : List SourceField)
    (item : IngestionStagedRecord) : List String :=
  (mapping.filter fun entry => decideField ν fields item entry.field ≠ .preserve).map SourceField.columnId

def writtenCells (ν : Type) [JsRuntime ν] (fields : List String) (mapping : List SourceField)
    (item : IngestionStagedRecord) (rowId : String) : List TextCell :=
  mapping.filterMap fun entry =>
    match decideField ν fields item entry.field with
    | .write value => some ⟨rowId, entry.columnId, value⟩
    | _ => none

abbrev ChunkItem := IngestionStagedRecord × String

def createIngestionRows (input : IngestionBatchInput) (rowId : Nat → String) :
    Nat → List IngestionStagedRecord → Grid ν × Table IngestionRecord →
      Except StoreError (Grid ν × Table IngestionRecord)
  | _, [], state => .ok state
  | index, item :: items, (grid, records) => do
    let created ← insertRow grid input.tableId (rowId index)
    requireThat (!records.records.any fun record => record.endpointId = input.endpointId && record.rowId = rowId index)
      (.constraint "ingestion_records_endpoint_row_unique")
    let identities ← requireSome (records.insert
      { endpointId := input.endpointId
        recordKey := item.recordKey
        tableId := input.tableId
        rowId := rowId index
        lastBatchId := some input.batchId }) (.constraint "ingestion_records_primary_key")
    createIngestionRows input rowId (index + 1) items (created, identities)

/-- The cells which a chunk replaces. When no field is preserved they are the
mapped cells of its rows. -/
def replacedCells (ν : Type) [JsRuntime ν] (fields : List String) (mapping : List SourceField) (items : List ChunkItem)
    (rowId columnId : String) : Bool :=
  let preservesAnyField := items.any fun item =>
    mapping.any fun entry => decideField ν fields item.1 entry.field = .preserve
  if !preservesAnyField then rowId ∈ items.map Prod.snd && columnId ∈ mapping.map SourceField.columnId
  else items.any fun item => item.2 = rowId && columnId ∈ changedColumnIdsForRecord ν fields mapping item.1

def settleIngestionRows (tableId : String) (fields : List String) (mapping : List SourceField)
    (mutation : Nat → MutationStamp) : Nat → List ChunkItem → Database ν → Except StoreError (Database ν)
  | _, [], db => .ok db
  | index, item :: items, db =>
    let changedColumnIds := changedColumnIdsForRecord ν fields mapping item.1
    if changedColumnIds = [] then settleIngestionRows tableId fields mapping mutation (index + 1) items db
    else do
      let recomputed ← recomputeFormulas db.grid tableId item.2 changedColumnIds
      let recorded ← recordSqliteRowMutationAndMaybeQueueSettlement { db with grid := recomputed.2 }
        { changedColumnIds := changedColumnIds ++ recomputed.1, rowId := item.2, tableId := tableId } (mutation index)
      settleIngestionRows tableId fields mapping mutation (index + 1) items recorded

def writeIngestionCells (db : Database ν) (input : IngestionChunk) (fields : List String) (mapping : List SourceField)
    (items : List ChunkItem) : Except StoreError (Database ν) := do
  if items = [] ∨ mapping = [] then return db
  else
    let cleared := db.grid.deleteCells (replacedCells ν fields mapping items)
    let written ← insertTextCells (items.flatMap fun item => writtenCells ν fields mapping item.1 item.2) cleared
    settleIngestionRows input.batch.tableId fields mapping input.mutation 0 items { db with grid := written }

def stagedChunk (store : IngestionStore) (batch : IngestionBatch) (batchSize : Int) : List IngestionStagedRecord :=
  ((store.stagedRecords.records.filter fun record =>
      record.batchId = batch.id && batch.processedRecordCount < record.ordinal).insertionSort
    fun left right => left.ordinal ≤ right.ordinal).take (max 1 (min batchSize 1000)).toNat

def succeedBatch (now : Int) (batch : IngestionBatch) : IngestionBatch :=
  { batch with finishedAt := some now, status := .succeeded }

def advanceBatch (processed created updated : Nat) (batch : IngestionBatch) : IngestionBatch :=
  { batch with
    createdRowCount := batch.createdRowCount + created
    processedRecordCount := processed
    updatedRowCount := batch.updatedRowCount + updated }

def runningBatch (batchId : String) (batch : IngestionBatch) : Bool :=
  batch.id = batchId && batch.status = .running

def completeIngestionBatch (workspace : IngestionWorkspace ν) (input : IngestionChunk) (batch : IngestionBatch) :
    Except StoreError (IngestionWorkspace ν) := do
  requireThat (batch.processedRecordCount = batch.recordCount)
    (.validation "The staged ingestion records are incomplete or out of order.")
  let events ← requireSome (workspace.db.outbox.insert
    { id := input.eventId, payload := .analytics "table.ingestion_batch_succeeded" batch.id, createdAt := input.now })
    (.constraint "outbox_events_id")
  let completed := workspace.ingestion.updateBatch (runningBatch batch.id) (succeedBatch input.now) ⟨fun _ => rfl⟩
  return { db := { workspace.db with outbox := events }
           ingestion := { completed with
             stagedRecords := completed.stagedRecords.filter fun record => record.batchId ≠ batch.id } }

def applyIngestionRecords (workspace : IngestionWorkspace ν) (input : IngestionChunk) (batch : IngestionBatch)
    (endpoint : IngestionEndpoint) (staged : List IngestionStagedRecord) : Except StoreError (IngestionWorkspace ν) := do
  let mapped ← mapFields workspace.db.grid
    { tableId := input.batch.tableId
      fieldMapping := endpoint.fieldMapping
      fields := batch.fields
      tooManyFields := "An ingestion endpoint cannot map more than 100 fields."
      position := input.position
      columnId := input.columnId }
  let newRecords := staged.filter fun item =>
    (workspace.ingestion.records.get? (input.batch.endpointId, item.recordKey)).isNone
  let created ← createIngestionRows input.batch input.rowId 0 newRecords (mapped.2, workspace.ingestion.records)
  let items := staged.filterMap fun item =>
    (created.2.get? (input.batch.endpointId, item.recordKey)).map fun identity => (item, identity.rowId)
  let db ← writeIngestionCells { workspace.db with grid := created.1 } input batch.fields mapped.1 items
  let keys := staged.map IngestionStagedRecord.recordKey
  let processed := (staged.getLast?.map IngestionStagedRecord.ordinal).getD 0
  let updated := workspace.ingestion.updateBatch (runningBatch batch.id)
    (advanceBatch processed newRecords.length (staged.length - newRecords.length)) ⟨fun _ => rfl⟩
  return { db := db
           ingestion := { updated with
             records := created.2.modify (fun record =>
               record.endpointId = input.batch.endpointId && record.recordKey ∈ keys)
               (fun record => { record with lastBatchId := some input.batch.batchId }) ⟨fun _ => rfl⟩
             endpoints := updated.endpoints.modify (fun candidate => candidate.id = endpoint.id)
               (fun candidate => { candidate with fieldMapping := some mapped.1 }) ⟨fun _ => rfl⟩ } }

def applySqliteIngestionBatchChunk (workspace : IngestionWorkspace ν) (input : IngestionChunk) :
    Except StoreError (IngestionWorkspace ν) := do
  let batch ← requireSome ((workspace.ingestion.batches.get? input.batch.batchId).filter fun batch =>
    batchScope input.batch batch && batch.status = .running) (.access "The running ingestion batch was not found.")
  let endpoint ← requireSome (workspace.ingestion.endpoints.get? batch.endpointId)
    (.access "The running ingestion batch was not found.")
  let staged := stagedChunk workspace.ingestion batch input.batchSize
  if staged = [] then completeIngestionBatch workspace input batch
  else applyIngestionRecords workspace input batch endpoint staged

end Apply

end ByokGrid
