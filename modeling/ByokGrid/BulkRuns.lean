import ByokGrid.CellRuns

/-! Bulk runs: a batch of selected rows is expanded into cell runs chunk by chunk,
and cancelled together with the runs it has queued. -/

namespace ByokGrid

section Create

variable {ν : Type}

structure CreateBulkRunBatch where
  batchId : String
  columnId : String
  tableId : String
  userId : String
  mode : BulkRunMode
  selectedRowIds : List String
  eventId : String
  now : Int
  deriving Repr, DecidableEq

def boundColumnIds (configuration : ConnectorActionConfiguration ν) : List String :=
  distinct (configuration.inputBindings.filterMap fun binding =>
    match binding.2 with
    | .column columnId => some columnId
    | .literal _ => none)

/-- `requireColumnPlan`, as far as it decides which rows can be selected. -/
def requireColumnPlan (db : Database ν) (columnId tableId userId : String) :
    Except StoreError (ConnectorActionConfiguration ν) := do
  requireThat ((db.grid.dataTables.get? tableId).any (fun table => table.archivedAt.isNone) &&
    (db.workspaceMembers.get? userId).isSome) (.access "The enrichment column is not accessible.")
  let column ← requireSome ((db.grid.columns.get? columnId).filter fun column =>
    column.kind = .connector && column.tableId = tableId && column.archivedAt.isNone)
    (.access "The enrichment column is not accessible.")
  requireSome column.configuration.connectorAction?
    (.validation "The connector column configuration is invalid.")

/-- `inputReadyPredicate` and `targetModePredicate`. -/
def selectableRow (db : Database ν) (input : CreateBulkRunBatch) (sourceColumnIds : List String)
    (rowId : String) : Bool :=
  (db.grid.rows.get? rowId).any (fun row => row.tableId = input.tableId && row.archivedAt.isNone) &&
    sourceColumnIds.all (fun columnId => (db.grid.storedValue rowId columnId).type ≠ .empty) &&
    shouldSelectCellForBulkRun ((db.grid.cells rowId input.columnId).map Cell.status) input.mode

def createSqliteBulkRunBatch (db : Database ν) (input : CreateBulkRunBatch) :
    Except StoreError (Database ν) := do
  let configuration ← requireColumnPlan db input.columnId input.tableId input.userId
  requireThat (input.selectedRowIds.all (selectableRow db input (boundColumnIds configuration)))
    (.conflict "The eligible row selection changed. Preview the bulk run again.")
  requireThat (!input.selectedRowIds.isEmpty) (.validation "No rows are currently eligible for this bulk run.")
  let batches ← requireSome (db.bulkRunBatches.insert
    { id := input.batchId
      tableId := input.tableId
      columnId := input.columnId
      createdByUserId := some input.userId
      mode := input.mode
      selectedRowCount := input.selectedRowIds.length }) (.constraint "bulk_run_batches_id")
  let items ← requireSome (db.bulkRunItems.insertAll (input.selectedRowIds.zipIdx.map fun row =>
    { batchId := input.batchId, rowId := row.1, sequence := row.2 })) (.constraint "bulk_run_items_primary_key")
  let events ← requireSome (db.outbox.insert
    { id := input.eventId, payload := .bulkRunRequested input.batchId, createdAt := input.now })
    (.constraint "outbox_events_id")
  return { db with bulkRunBatches := batches, bulkRunItems := items, outbox := events }

end Create

section Cancel

variable {ν : Type}

def canCancelBulkRun (actorRole : WorkspaceRole) (actorUserId : String) (createdByUserId : Option String) : Bool :=
  actorRole = .owner || actorRole = .admin || createdByUserId = some actorUserId

structure CancelBulkRunBatch where
  batchId : String
  tableId : String
  userId : String
  now : Int
  deriving Repr, DecidableEq

def cancelCellRun (now : Int) (run : CellRun ν) : CellRun ν :=
  { run with
    errorCode := some "cancelled_by_user"
    errorMessage := some "Cancelled with the parent bulk run."
    finishedAt := some now
    status := .cancelled }

def batchRunIds (items : Table BulkRunItem) (batchId : String) : List String :=
  (items.records.filter fun item => item.batchId = batchId).filterMap BulkRunItem.runId

def cancelCells (grid : Grid ν) (cancelled : String → String → Bool) : Grid ν :=
  { grid with
    cells := fun rowId columnId => (grid.cells rowId columnId).map fun cell =>
      if cancelled rowId columnId && cell.status.active then { cell with status := .cancelled } else cell }

def cancelSqliteBulkRunBatch (db : Database ν) (input : CancelBulkRunBatch) : Except StoreError (Database ν) := do
  let batch ← requireSome ((db.bulkRunBatches.get? input.batchId).filter fun batch => batch.tableId = input.tableId)
    (.access "The bulk run is not accessible.")
  requireThat ((db.workspaceMembers.get? input.userId).any fun member =>
    canCancelBulkRun member.role input.userId batch.createdByUserId) (.access "The bulk run is not accessible.")
  match batch.status with
  | .cancelled => return db
  | .completed => .error (.conflict "A completed bulk run cannot be cancelled.")
  | .failed => .error (.conflict "A failed bulk run cannot be cancelled.")
  | .queued | .running =>
    let pending := fun item : BulkRunItem => item.batchId = batch.id && item.status = .pending
    let skippedItems := (db.bulkRunItems.records.filter pending).length
    let runIds := batchRunIds db.bulkRunItems batch.id
    let cancels := fun run : CellRun ν => run.id ∈ runIds && run.status.active
    let cancelled := fun rowId columnId => db.cellRuns.records.any fun run =>
      cancels run && run.rowId = rowId && run.columnId = columnId
    return { db with
      bulkRunItems := db.bulkRunItems.modify pending (fun item =>
        { item with
          errorMessage := some "The batch was cancelled before this row was expanded."
          status := .skipped }) ⟨fun _ => rfl⟩
      cellRuns := db.cellRuns.modify cancels (cancelCellRun input.now) ⟨fun _ => rfl⟩
      grid := cancelCells db.grid cancelled
      bulkRunBatches := db.bulkRunBatches.modify (fun candidate => candidate.id = batch.id) (fun candidate =>
        { candidate with
          cancelledAt := some input.now
          cancelledByUserId := some input.userId
          errorMessage := some ("Cancelled by a workspace member. Provider requests already in flight " ++
            "may still complete.")
          finishedAt := some input.now
          skippedRowCount := candidate.skippedRowCount + skippedItems
          status := .cancelled }) ⟨fun _ => rfl⟩ }

end Cancel

section Batch

variable {ν : Type}

def BulkRunBatchStatus.ended : BulkRunBatchStatus → Bool
  | .completed | .failed | .cancelled => true
  | .queued | .running => false

def updateBatch (db : Database ν) (batchId : String) (f : BulkRunBatch → BulkRunBatch) (hf : KeepsKey f) :
    Database ν :=
  { db with bulkRunBatches := db.bulkRunBatches.modify (fun batch => batch.id = batchId) f hf }

def startBatch (now : Int) (batch : BulkRunBatch) : BulkRunBatch :=
  if batch.status = .queued then { batch with startedAt := some now, status := .running } else batch

theorem startBatch_keepsKey (now : Int) : KeepsKey (startBatch now) := by
  constructor
  intro batch
  unfold startBatch
  split <;> rfl

end Batch

section Expand

variable {ν : Type} [JsRuntime ν] [ConnectorRuntime ν]

structure ItemStamp where
  runId : String
  eventId : String
  deriving Repr, DecidableEq

structure ExpandBulkRunBatch where
  batchId : String
  chunkSize : Int := 50
  stamps : String → ItemStamp
  now : Int

def updateItem (items : Table BulkRunItem) (batchId rowId : String) (f : BulkRunItem → BulkRunItem)
    (hf : KeepsKey f) : Table BulkRunItem :=
  items.modify (fun item => item.batchId = batchId && item.rowId = rowId && item.status = .pending) f hf

def markSqliteBulkItemSkipped (db : Database ν) (batchId rowId errorMessage : String) : Database ν :=
  { db with
    bulkRunItems := updateItem db.bulkRunItems batchId rowId
      (fun item => { item with errorMessage := some errorMessage, status := .skipped }) ⟨fun _ => rfl⟩ }

structure Expansion (ν : Type) where
  queued : Nat
  skipped : Nat
  db : Database ν

def Expansion.skip (state : Expansion ν) (batchId rowId errorMessage : String) : Expansion ν :=
  { state with
    skipped := state.skipped + 1
    db := markSqliteBulkItemSkipped state.db batchId rowId errorMessage }

def expandItem (input : ExpandBulkRunBatch) (batch : BulkRunBatch) (userId : String) (state : Expansion ν)
    (item : BulkRunItem) : Except StoreError (Expansion ν) :=
  if !shouldSelectCellForBulkRun ((state.db.grid.cells item.rowId batch.columnId).map Cell.status) batch.mode then
    .ok (state.skip batch.id item.rowId "The cell no longer matches the selected run mode.")
  else
    match queueSqliteEnrichmentCellRunInTransaction state.db
      { columnId := batch.columnId, rowId := item.rowId, tableId := batch.tableId, userId := userId,
        runId := (input.stamps item.rowId).runId, eventId := (input.stamps item.rowId).eventId,
        now := input.now } with
    | .ok (run, db) =>
      .ok { state with
        queued := state.queued + 1
        db := { db with
          bulkRunItems := updateItem db.bulkRunItems batch.id item.rowId
            (fun item => { item with runId := some run.runId, status := .queued }) ⟨fun _ => rfl⟩ } }
    | .error (.access message) => .ok (state.skip batch.id item.rowId (sliceUnits 240 message))
    | .error (.validation message) => .ok (state.skip batch.id item.rowId (sliceUnits 240 message))
    | .error error => .error error

def expandItems (input : ExpandBulkRunBatch) (batch : BulkRunBatch) (userId : String) :
    List BulkRunItem → Expansion ν → Except StoreError (Expansion ν)
  | [], state => .ok state
  | item :: items, state => do
    let next ← expandItem input batch userId state item
    expandItems input batch userId items next

def pendingItems (items : Table BulkRunItem) (batchId : String) (limit : Nat) : List BulkRunItem :=
  ((items.records.filter fun item => item.batchId = batchId && item.status = .pending).insertionSort
    fun left right => left.sequence ≤ right.sequence).take limit

def expandSqliteBulkRunBatchChunk (db : Database ν) (input : ExpandBulkRunBatch) :
    Except StoreError (Nat × BulkRunBatchStatus × Database ν) := do
  let safeChunkSize := (max 1 (min input.chunkSize 100)).toNat
  let batch ← requireSome (db.bulkRunBatches.get? input.batchId) (.failure "The bulk run does not exist.")
  if batch.status.ended then return (0, batch.status, db)
  else
    match batch.createdByUserId with
    | none =>
      return (0, .failed, updateBatch db batch.id (fun batch =>
        { batch with
          errorMessage := some "The requesting user no longer exists."
          finishedAt := some input.now
          status := .failed }) ⟨fun _ => rfl⟩)
    | some userId =>
      let started := updateBatch db batch.id (startBatch input.now) (startBatch_keepsKey input.now)
      let items := pendingItems started.bulkRunItems batch.id safeChunkSize
      let expanded ← expandItems input batch userId items ⟨0, 0, started⟩
      let processed := expanded.queued + expanded.skipped
      let completed := batch.queuedRowCount + batch.skippedRowCount + processed = batch.selectedRowCount
      let missingItems := items = [] ∧ ¬ completed
      let status := if missingItems then .failed else if completed then .completed else .running
      return (processed, status, updateBatch expanded.db batch.id (fun batch =>
        { batch with
          errorMessage := if missingItems then some "One or more selected rows no longer exists." else none
          finishedAt := if completed ∨ missingItems then some input.now else none
          queuedRowCount := batch.queuedRowCount + expanded.queued
          skippedRowCount := batch.skippedRowCount + expanded.skipped
          status := status }) ⟨fun _ => rfl⟩)

end Expand

end ByokGrid
