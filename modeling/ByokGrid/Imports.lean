import ByokGrid.GridWrites

/-! CSV imports: the rows of a file are staged, and a worker adds them to the grid
batch by batch, under the columns which their headers are mapped to once. -/

namespace ByokGrid

inductive ImportJobStatus where
  | staging
  | queued
  | running
  | succeeded
  | failed
  | cancelled
  deriving Repr, DecidableEq

def ImportJobStatus.name : ImportJobStatus → String
  | .staging => "staging"
  | .queued => "queued"
  | .running => "running"
  | .succeeded => "succeeded"
  | .failed => "failed"
  | .cancelled => "cancelled"

/-- `inArray(status, ['queued', 'running'])`. -/
def ImportJobStatus.active : ImportJobStatus → Bool
  | .queued | .running => true
  | .staging | .succeeded | .failed | .cancelled => false

structure CsvImportColumn where
  columnId : String
  header : String
  deriving Repr, DecidableEq

structure ImportJob where
  id : String
  tableId : String
  createdByUserId : Option String
  filename : String
  headers : List String
  createdAt : Int
  columnMapping : Option (List CsvImportColumn) := none
  status : ImportJobStatus := .staging
  uploadedBytes : Nat := 0
  stagedRowCount : Nat := 0
  importedRowCount : Nat := 0
  errorMessage : Option String := none
  startedAt : Option Int := none
  finishedAt : Option Int := none
  deriving Repr, DecidableEq

instance : Keyed ImportJob String := ⟨ImportJob.id⟩

structure ImportStagedRow where
  importJobId : String
  rowNumber : Nat
  values : List String
  deriving Repr, DecidableEq

instance : Keyed ImportStagedRow (String × Nat) := ⟨fun row => (row.importJobId, row.rowNumber)⟩

structure ImportStore where
  jobs : Table ImportJob
  stagedRows : Table ImportStagedRow

structure ImportWorkspace (ν : Type) where
  db : Database ν
  imports : ImportStore

def ImportStore.updateJob (store : ImportStore) (p : ImportJob → Bool) (f : ImportJob → ImportJob)
    (hf : KeepsKey f) : ImportStore :=
  { store with jobs := store.jobs.modify p f hf }

def ImportStore.dropStagedRows (store : ImportStore) (importJobId : String) : ImportStore :=
  { store with stagedRows := store.stagedRows.filter fun row => row.importJobId ≠ importJobId }

section Stage

variable {ν : Type} [JsRuntime ν]

/-- A `CsvImportDefinitionError` is one of validation. -/
def planImport (headers : List String) (existingColumns : List (Column ν)) : Except StoreError (List CsvColumnPlan) :=
  match planCsvColumns headers existingColumns with
  | .ok plans => .ok plans
  | .error (.failure message) => .error (.validation message)
  | .error error => .error error

def validateFilename (filename : String) : Except StoreError String :=
  let normalized := jsTrim filename
  if normalized = "" ∨ utf16Length normalized > 255 ∨ normalized.toList.any isControlCharacter then
    .error (.validation "The CSV filename is invalid.")
  else .ok normalized

structure CreateCsvImportJob where
  importJobId : String
  tableId : String
  userId : String
  filename : String
  headers : List String
  now : Int
  deriving Repr, DecidableEq

def createSqliteCsvImportJob (workspace : ImportWorkspace ν) (input : CreateCsvImportJob) :
    Except StoreError (ImportWorkspace ν) := do
  let filename ← validateFilename input.filename
  requireThat (1 ≤ input.headers.length && input.headers.length ≤ 256)
    (.validation "CSV files must contain between 1 and 256 columns.")
  let _ ← planImport input.headers ([] : List (Column ν))
  requireTableAccess workspace.db input.tableId input.userId
  let jobs ← requireSome (workspace.imports.jobs.insert
    { id := input.importJobId
      tableId := input.tableId
      createdByUserId := some input.userId
      filename := filename
      headers := input.headers
      createdAt := input.now }) (.constraint "import_jobs_id")
  return { workspace with imports := { workspace.imports with jobs := jobs } }

def stagingJob (workspace : ImportWorkspace ν) (importJobId userId : String) : Except StoreError ImportJob :=
  requireSome ((workspace.imports.jobs.get? importJobId).filter fun job =>
    job.status = .staging && (workspace.db.workspaceMembers.get? userId).isSome)
    (.access "The import is not accessible.")

structure CsvRow where
  rowNumber : Nat
  values : List String
  deriving Repr, DecidableEq

structure StageCsvImportRows where
  importJobId : String
  rows : List CsvRow
  uploadedBytes : Nat
  userId : String
  deriving Repr, DecidableEq

def checkStagedRows (width : Nat) : Nat → List CsvRow → Except StoreError Unit
  | _, [] => .ok ()
  | expected, row :: rows => do
    requireThat (row.rowNumber = expected && row.values.length = width)
      (.validation ("CSV row " ++ toString row.rowNumber ++ " does not match the header."))
    checkStagedRows width (expected + 1) rows

def stageSqliteCsvImportRows (workspace : ImportWorkspace ν) (input : StageCsvImportRows) :
    Except StoreError (ImportWorkspace ν) := do
  if input.rows = [] then return workspace
  else
    let job ← stagingJob workspace input.importJobId input.userId
    requireThat (input.rows.head?.map CsvRow.rowNumber = some (job.stagedRowCount + 1))
      (.validation "CSV rows must be staged once and in order.")
    checkStagedRows job.headers.length (job.stagedRowCount + 1) input.rows
    let staged ← requireSome (workspace.imports.stagedRows.insertAll (input.rows.map fun row =>
      { importJobId := input.importJobId, rowNumber := row.rowNumber, values := row.values }))
      (.constraint "import_staged_rows_primary_key")
    let advanced := workspace.imports.updateJob (fun candidate =>
      candidate.id = input.importJobId && candidate.status = .staging) (fun candidate =>
      { candidate with
        stagedRowCount := job.stagedRowCount + input.rows.length
        uploadedBytes := input.uploadedBytes }) ⟨fun _ => rfl⟩
    return { workspace with imports := { advanced with stagedRows := staged } }

structure QueueCsvImport where
  importJobId : String
  userId : String
  eventId : String
  now : Int
  deriving Repr, DecidableEq

def queueSqliteCsvImport (workspace : ImportWorkspace ν) (input : QueueCsvImport) :
    Except StoreError (ImportWorkspace ν) := do
  let job ← stagingJob workspace input.importJobId input.userId
  requireThat (job.stagedRowCount ≠ 0) (.validation "The CSV must contain at least one data row.")
  let queued := workspace.imports.updateJob (fun candidate =>
    candidate.id = job.id && candidate.status = .staging)
    (fun candidate => { candidate with errorMessage := none, status := .queued }) ⟨fun _ => rfl⟩
  let events ← requireSome (workspace.db.outbox.insert
    { id := input.eventId
      payload := .csvImportRequested { importJobId := job.id, tableId := job.tableId }
      createdAt := input.now }) (.constraint "outbox_events_id")
  return { db := { workspace.db with outbox := events }, imports := queued }

structure FailCsvImportUpload where
  importJobId : String
  userId : String
  errorMessage : String
  now : Int
  deriving Repr, DecidableEq

def failSqliteCsvImportUpload (store : ImportStore) (input : FailCsvImportUpload) : ImportStore :=
  let failing := fun job : ImportJob =>
    job.id = input.importJobId && job.createdByUserId = some input.userId && job.status = .staging
  if store.jobs.records.any failing then
    (store.updateJob failing (fun job =>
      { job with
        errorMessage := some (sliceUnits 500 (spaceBreaks input.errorMessage))
        finishedAt := some input.now
        status := .failed }) ⟨fun _ => rfl⟩).dropStagedRows input.importJobId
  else store

end Stage

section Apply

variable {ν : Type} [JsRuntime ν]

inductive ImportStart where
  | ready
  | succeeded
  | cancelled
  deriving Repr, DecidableEq

structure PrepareCsvImport where
  job : CsvImportInput
  position : String → String
  columnId : Nat → String
  now : Int

def importMapping (grid : Grid ν) (job : ImportJob) (input : PrepareCsvImport) :
    Except StoreError (List CsvImportColumn × Grid ν) :=
  match job.columnMapping with
  | some mapping => .ok (mapping, grid)
  | none => do
    let plans ← planImport job.headers (unarchivedColumns grid job.tableId input.position)
    let created ← createPlannedColumns job.tableId input.columnId 0 plans grid
    return (created.1.map fun field => ⟨field.columnId, field.field⟩, created.2)

def prepareSqliteCsvImport (workspace : ImportWorkspace ν) (input : PrepareCsvImport) :
    Except StoreError (ImportStart × ImportWorkspace ν) := do
  let job ← requireSome ((workspace.imports.jobs.get? input.job.importJobId).filter fun job =>
    job.tableId = input.job.tableId) (.access "The import job does not exist.")
  match job.status with
  | .succeeded => return (.succeeded, workspace)
  | .cancelled => return (.cancelled, workspace)
  | .staging | .failed =>
    .error (.validation ("The import cannot run from status " ++ job.status.name ++ "."))
  | .queued | .running => do
    let mapped ← importMapping workspace.db.grid job input
    let started := workspace.imports.updateJob (fun candidate => candidate.id = job.id && candidate.status.active)
      (fun candidate =>
        { candidate with
          columnMapping := some mapped.1
          errorMessage := none
          startedAt := some (job.startedAt.getD input.now)
          status := .running }) ⟨fun _ => rfl⟩
    return (.ready, { db := { workspace.db with grid := mapped.2 }, imports := started })

structure CsvImportBatch where
  job : CsvImportInput
  batchSize : Int := 250
  rowId : Nat → String
  mutation : Nat → MutationStamp
  eventId : String
  now : Int

def stagedImportRows (store : ImportStore) (job : ImportJob) (batchSize : Int) : List ImportStagedRow :=
  ((store.stagedRows.records.filter fun row =>
      row.importJobId = job.id && job.importedRowCount < row.rowNumber).insertionSort
    fun left right => left.rowNumber ≤ right.rowNumber).take (max 1 (min batchSize 1000)).toNat

def insertRows (tableId : String) : List String → Grid ν → Except StoreError (Grid ν)
  | [], grid => .ok grid
  | rowId :: rowIds, grid => do
    let inserted ← insertRow grid tableId rowId
    insertRows tableId rowIds inserted

def importedCells (rowNumber : Nat) (rowId : String) :
    List String → List CsvImportColumn → Except StoreError (List TextCell)
  | [], _ => .ok []
  | value :: values, mapping =>
    if value = "" then importedCells rowNumber rowId values mapping.tail
    else
      match mapping with
      | [] => .error (.validation ("CSV row " ++ toString rowNumber ++ " has an unexpected field."))
      | column :: mapping => do
        let cells ← importedCells rowNumber rowId values mapping
        return ⟨rowId, column.columnId, value⟩ :: cells

def importedRowCells (mapping : List CsvImportColumn) :
    List (ImportStagedRow × String) → Except StoreError (List TextCell)
  | [] => .ok []
  | (staged, rowId) :: rows => do
    let cells ← importedCells staged.rowNumber rowId staged.values mapping
    let rest ← importedRowCells mapping rows
    return cells ++ rest

def insertCell (grid : Grid ν) (rowId columnId : String) (value : StoredValue ν) : Except StoreError (Grid ν) := do
  requireThat (grid.cells rowId columnId).isNone (.constraint "cells_row_column_unique")
  return grid.setCell rowId columnId { value := value, status := .idle, version := 1 }

def insertImportedCells : List TextCell → Grid ν → Except StoreError (Grid ν)
  | [], grid => .ok grid
  | cell :: cells, grid => do
    let next ← insertCell grid cell.rowId cell.columnId (.text cell.value)
    insertImportedCells cells next

def settleNewRows (tableId : String) (changedColumnIds : List String) (mutation : Nat → MutationStamp) :
    Nat → List String → Database ν → Except StoreError (Database ν)
  | _, [], db => .ok db
  | index, rowId :: rowIds, db => do
    let recomputed ← recomputeFormulas db.grid tableId rowId changedColumnIds
    let recorded ← recordSqliteRowMutationAndMaybeQueueSettlement { db with grid := recomputed.2 }
      { changedColumnIds := changedColumnIds ++ recomputed.1, rowId := rowId, tableId := tableId } (mutation index)
    settleNewRows tableId changedColumnIds mutation (index + 1) rowIds recorded

def completeCsvImport (workspace : ImportWorkspace ν) (input : CsvImportBatch) (job : ImportJob) :
    Except StoreError (ImportWorkspace ν) := do
  requireThat (job.importedRowCount = job.stagedRowCount)
    (.validation "The staged CSV rows are incomplete or out of order.")
  let completed := workspace.imports.updateJob (fun candidate => candidate.id = job.id && candidate.status = .running)
    (fun candidate => { candidate with finishedAt := some input.now, status := .succeeded }) ⟨fun _ => rfl⟩
  let events ← requireSome (workspace.db.outbox.insert
    { id := input.eventId, payload := .analytics "table.csv_import_succeeded" job.id, createdAt := input.now })
    (.constraint "outbox_events_id")
  return { db := { workspace.db with outbox := events }, imports := completed.dropStagedRows job.id }

def importRows (workspace : ImportWorkspace ν) (input : CsvImportBatch) (job : ImportJob)
    (mapping : List CsvImportColumn) (staged : List ImportStagedRow) : Except StoreError (ImportWorkspace ν) := do
  let rowIds := (List.range staged.length).map input.rowId
  let inserted ← insertRows job.tableId rowIds workspace.db.grid
  let cells ← importedRowCells mapping (staged.zip rowIds)
  let written ← insertImportedCells cells inserted
  let settled ← settleNewRows job.tableId (mapping.map CsvImportColumn.columnId) input.mutation 0 rowIds
    { workspace.db with grid := written }
  let importedRowCount := (staged.getLast?.map ImportStagedRow.rowNumber).getD job.importedRowCount
  return { db := settled
           imports := workspace.imports.updateJob (fun candidate => candidate.id = job.id && candidate.status = .running)
             (fun candidate => { candidate with importedRowCount := importedRowCount }) ⟨fun _ => rfl⟩ }

def applySqliteCsvImportBatch (workspace : ImportWorkspace ν) (input : CsvImportBatch) :
    Except StoreError (Bool × ImportWorkspace ν) := do
  let job ← requireSome ((workspace.imports.jobs.get? input.job.importJobId).filter fun job =>
    job.tableId = input.job.tableId && job.status = .running) (.access "The running import was not found.")
  let mapping ← requireSome job.columnMapping (.validation "The import column mapping is missing.")
  let staged := stagedImportRows workspace.imports job input.batchSize
  if staged = [] then do
    let completed ← completeCsvImport workspace input job
    return (true, completed)
  else do
    let imported ← importRows workspace input job mapping staged
    return (false, imported)

structure CsvImportFailure where
  importJobId : String
  errorMessage : String
  retrying : Bool
  now : Int
  deriving Repr, DecidableEq

def setSqliteCsvImportWorkerFailure (store : ImportStore) (failure : CsvImportFailure) : ImportStore :=
  store.updateJob (fun job => job.id = failure.importJobId && job.status.active) (fun job =>
    { job with
      errorMessage := some (sliceUnits 500 (spaceBreaks failure.errorMessage))
      finishedAt := if failure.retrying then none else some failure.now
      status := if failure.retrying then .queued else .failed }) ⟨fun _ => rfl⟩

end Apply

end ByokGrid
