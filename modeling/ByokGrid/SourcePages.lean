import ByokGrid.Sources

/-! One page of a source run: the records of the page are matched with their rows,
missing rows are created and archived ones restored, the mapped cells are
replaced, and the last page of a complete run archives what it did not see. -/

namespace ByokGrid

section Page

variable {ν : Type} [JsRuntime ν]

structure SourcePage where
  batch : NormalizedSourceBatch
  expectedPage : Int
  nextCursorEncrypted : Option String
  sourceId : String
  sourceRunId : String
  tableId : String
  position : String → String
  columnId : Nat → String
  rowId : Nat → String
  mutation : Nat → MutationStamp
  eventId : String
  now : Int

def shouldArchiveMissingSourceRecords (completed : Bool) (mode : SourceMissingRecordMode) : Bool :=
  completed && mode = .archive

def SourcePage.completed (input : SourcePage) : Bool :=
  input.nextCursorEncrypted.isNone

def SourcePage.keys (input : SourcePage) : List String :=
  input.batch.records.map NormalizedSourceRecord.key

def pageToApply (run : SourceRun) (source : SourceDefinition) (input : SourcePage) : Except StoreError Bool :=
  if run.status = .succeeded then .ok false
  else do
    requireThat (run.status = .running)
      (.conflict ("The source run cannot apply from status " ++ run.status.name ++ "."))
    requireThat (1 ≤ input.expectedPage && input.expectedPage ≤ source.maxPages)
      (.validation "The source page number is invalid.")
    if input.expectedPage ≤ run.pageCount then return false
    else do
      requireThat (run.pageCount + 1 = input.expectedPage) (.conflict "The source page checkpoint is stale.")
      requireThat (run.receivedRecordCount + input.batch.records.length ≤ source.maxRecords)
        (.validation "The source run exceeds its total record limit.")
      requireThat (source.paginationMode ≠ .none || input.nextCursorEncrypted.isNone)
        (.validation "A single-response source cannot store a pagination cursor.")
      return true

def pageIdentity (input : SourcePage) (record : SourceRecord) : Bool :=
  record.sourceId = input.sourceId && record.recordKey ∈ input.keys

def restoredRow (row : Row) : Row := { row with archivedAt := none, version := row.version + 1 }

def restoredRecord (record : SourceRecord) : SourceRecord :=
  { record with archivedAt := none, archivedByRunId := none }

structure SourceRows (ν : Type) where
  grid : Grid ν
  records : Table SourceRecord

def restoreIdentities (input : SourcePage) (rowIds : List String) (state : SourceRows ν) : SourceRows ν where
  grid := { state.grid with
    rows := state.grid.rows.modify (fun row => row.tableId = input.tableId && row.id ∈ rowIds)
      restoredRow ⟨fun _ => rfl⟩ }
  records := state.records.modify (fun record => record.sourceId = input.sourceId && record.rowId ∈ rowIds)
    restoredRecord ⟨fun _ => rfl⟩

def createSourceRows (input : SourcePage) :
    Nat → List NormalizedSourceRecord → SourceRows ν → Except StoreError (SourceRows ν)
  | _, [], state => .ok state
  | index, item :: items, state => do
    let grid ← insertRow state.grid input.tableId (input.rowId index)
    requireThat (!state.records.records.any fun record =>
      record.sourceId = input.sourceId && record.rowId = input.rowId index)
      (.constraint "source_records_source_row_unique")
    let records ← requireSome (state.records.insert
      { sourceId := input.sourceId
        recordKey := item.key
        tableId := input.tableId
        rowId := input.rowId index
        lastSeenRunId := some input.sourceRunId }) (.constraint "source_records_primary_key")
    createSourceRows input (index + 1) items ⟨grid, records⟩

def seenRecord (sourceRunId : String) (record : SourceRecord) : SourceRecord :=
  { record with lastSeenRunId := some sourceRunId }

abbrev PageItem := NormalizedSourceRecord × String

def pageValue (ν : Type) [JsRuntime ν] (fields : List String) (item : NormalizedSourceRecord) (field : String) :
    Option String :=
  ((currentField (ν := ν) fields field).bind fun current => (item.values.lookup current).join).filter
    fun value => value ≠ ""

def pageCells (ν : Type) [JsRuntime ν] (fields : List String) (mapping : List SourceField) (item : PageItem) :
    List TextCell :=
  mapping.filterMap fun entry =>
    (pageValue ν fields item.1 entry.field).map fun value => ⟨item.2, entry.columnId, value⟩

def settleSourceRows (input : SourcePage) (mappedColumnIds : List String) :
    Nat → List String → Database ν → Except StoreError (Database ν)
  | _, [], db => .ok db
  | index, rowId :: rowIds, db => do
    let recomputed ← recomputeFormulas db.grid input.tableId rowId mappedColumnIds
    let recorded ← recordSqliteRowMutationAndMaybeQueueSettlement { db with grid := recomputed.2 }
      { changedColumnIds := mappedColumnIds ++ recomputed.1, rowId := rowId, tableId := input.tableId }
      (input.mutation index)
    settleSourceRows input mappedColumnIds (index + 1) rowIds recorded

def writeSourceCells (db : Database ν) (input : SourcePage) (mapping : List SourceField) (items : List PageItem) :
    Except StoreError (Database ν) := do
  let affectedRowIds := items.map Prod.snd
  let mappedColumnIds := mapping.map SourceField.columnId
  if affectedRowIds = [] ∨ mappedColumnIds = [] then return db
  else
    let cleared := db.grid.deleteCells fun rowId columnId => rowId ∈ affectedRowIds && columnId ∈ mappedColumnIds
    let written ← insertTextCells (items.flatMap (pageCells ν input.batch.fields mapping)) cleared
    settleSourceRows input mappedColumnIds 0 affectedRowIds { db with grid := written }

def missingIdentity (input : SourcePage) (record : SourceRecord) : Bool :=
  record.sourceId = input.sourceId && record.archivedAt.isNone && record.lastSeenRunId ≠ some input.sourceRunId

def archivedRow (now : Int) (row : Row) : Row :=
  { row with archivedAt := some now.toNat, version := row.version + 1 }

def archivedRecord (input : SourcePage) (record : SourceRecord) : SourceRecord :=
  { record with archivedAt := some input.now, archivedByRunId := some input.sourceRunId }

def archiveMissing (input : SourcePage) (missingRowIds : List String) (state : SourceRows ν) : SourceRows ν where
  grid := { state.grid with
    rows := state.grid.rows.modify (fun row =>
      row.tableId = input.tableId && row.id ∈ missingRowIds && row.archivedAt.isNone)
      (archivedRow input.now) ⟨fun _ => rfl⟩ }
  records := state.records.modify (fun record =>
    record.sourceId = input.sourceId && record.rowId ∈ missingRowIds && record.archivedAt.isNone)
    (archivedRecord input) ⟨fun _ => rfl⟩

def sweepMissing (input : SourcePage) (mode : SourceMissingRecordMode) (state : SourceRows ν) : Nat × SourceRows ν :=
  if shouldArchiveMissingSourceRecords input.completed mode then
    let missingRowIds := (state.records.records.filter (missingIdentity input)).map SourceRecord.rowId
    (missingRowIds.length, archiveMissing input missingRowIds state)
  else (0, state)

structure PageCounts where
  created : Nat
  received : Nat
  restored : Nat
  archived : Nat
  deriving Repr, DecidableEq

def advanceSourceRun (input : SourcePage) (counts : PageCounts) (run : SourceRun) : SourceRun :=
  { run with
    archivedRowCount := run.archivedRowCount + counts.archived
    createdRowCount := run.createdRowCount + counts.created
    errorCode := none
    errorMessage := none
    finishedAt := if input.completed then some input.now else none
    nextCursorEncrypted := input.nextCursorEncrypted
    pageCount := input.expectedPage.toNat
    receivedRecordCount := run.receivedRecordCount + counts.received
    restoredRowCount := run.restoredRowCount + counts.restored
    status := if input.completed then .succeeded else .running
    updatedRowCount := run.updatedRowCount + counts.received - counts.created }

def SourceDefinition.incremental (source : SourceDefinition) : Bool :=
  match source.adapter with
  | .hubSpotContacts _ => true
  | .httpJson => false

def advanceDefinition (input : SourcePage) (run : SourceRun) (source : SourceDefinition) (mapping : List SourceField)
    (candidate : SourceDefinition) : SourceDefinition :=
  { candidate with
    fieldMapping := some mapping
    incrementalWatermark :=
      if input.completed && source.incremental then run.incrementalWindow.map IncrementalWindow.windowEnd
      else source.incrementalWatermark
    lastRunAt := if input.completed then some input.now else source.lastRunAt }

def checkpointedRun (input : SourcePage) (run candidate : SourceRun) : Bool :=
  candidate.id = input.sourceRunId && candidate.status = .running && candidate.pageCount = run.pageCount

def applyPageRecords (db : Database ν) (records : Table SourceRecord) (input : SourcePage)
    (source : SourceDefinition) : Except StoreError (PageCounts × List SourceField × Database ν × Table SourceRecord) := do
  let mapped ← mapFields db.grid
    { tableId := input.tableId
      fieldMapping := source.fieldMapping
      fields := input.batch.fields
      tooManyFields := "A source cannot map more than 100 fields across all pages."
      position := input.position
      columnId := input.columnId }
  let identities := records.records.filter (pageIdentity input)
  requireThat (!identities.any fun identity => identity.lastSeenRunId = some input.sourceRunId)
    (.validation "The source repeated a record key across pages in one run.")
  let restoredRowIds := (identities.filter fun identity => identity.archivedAt.isSome).map SourceRecord.rowId
  let restored := restoreIdentities input restoredRowIds ⟨mapped.2, records⟩
  let newRecords := input.batch.records.filter fun item => (records.get? (input.sourceId, item.key)).isNone
  let created ← createSourceRows input 0 newRecords restored
  let items := input.batch.records.filterMap fun item =>
    (created.records.get? (input.sourceId, item.key)).map fun identity => (item, identity.rowId)
  let written ← writeSourceCells { db with grid := created.grid } input mapped.1 items
  let seen := created.records.modify (pageIdentity input) (seenRecord input.sourceRunId) ⟨fun _ => rfl⟩
  let swept := sweepMissing input source.missingRecordMode ⟨written.grid, seen⟩
  let counts : PageCounts :=
    { created := newRecords.length
      received := input.batch.records.length
      restored := restoredRowIds.length
      archived := swept.1 }
  return (counts, mapped.1, { written with grid := swept.2.grid }, swept.2.records)

def announceCompletion (events : Outbox) (input : SourcePage) : Except StoreError Outbox :=
  if input.completed then
    requireSome (events.insert
      { id := input.eventId
        payload := .analytics "table.source_run_succeeded" input.sourceRunId
        createdAt := input.now }) (.constraint "outbox_events_id")
  else .ok events

def applySqliteSourceRunPage (workspace : SourceWorkspace ν) (input : SourcePage) :
    Except StoreError (SourceWorkspace ν) := do
  let run ← requireSome ((workspace.sources.runs.get? input.sourceRunId).filter fun run =>
    run.sourceId = input.sourceId && run.tableId = input.tableId) (.access "The source run does not exist.")
  let source ← requireSome (workspace.sources.definitions.get? input.sourceId)
    (.access "The source run does not exist.")
  if ← pageToApply run source input then do
    let applied ← applyPageRecords workspace.db workspace.sources.records input source
    let advanced := workspace.sources.updateDefinition input.sourceId
      (advanceDefinition input run source applied.2.1) ⟨fun _ => rfl⟩
    let advanced := advanced.updateRun (checkpointedRun input run) (advanceSourceRun input applied.1) ⟨fun _ => rfl⟩
    let events ← announceCompletion applied.2.2.1.outbox input
    return { db := { applied.2.2.1 with outbox := events }
             sources := { advanced with records := applied.2.2.2 } }
  else return workspace

end Page

end ByokGrid
