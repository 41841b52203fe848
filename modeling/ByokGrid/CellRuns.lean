import ByokGrid.FormulaRecompute
import ByokGrid.RowMutations

/-! The runs of connector cells: a run is queued with the input it read from its
row, started by a worker, and reported as succeeded or failed. -/

namespace ByokGrid

/-- The digests and URLs the code takes from the runtime: a digest is written
in hexadecimal, a request URL has the parameter set on the base URL. -/
class ConnectorRuntime (ν : Type) where
  sha256 : String → String
  requestUrl : String → String → String → String
  hostname : String → String

section Reading

variable {ν : Type} [JsRuntime ν]

def readSourceCellValue : StoredValue ν → Option (Json ν)
  | .text value => some (.string value)
  | .number value => some (.number value)
  | .boolean value => some (.boolean value)
  | .timestamp value => some (.string (JsRuntime.toISOString ν value))
  | .json value => some value
  | .empty => none

def serializeSourceCellValue (value : Json ν) : String :=
  match value with
  | .string text => text
  | value => value.stringify

def requireSourceCell (grid : Grid ν) (rowId sourceColumnId : String) : Except StoreError (Json ν) :=
  requireSome (readSourceCellValue (grid.storedValue rowId sourceColumnId))
    (.validation "The source cell must contain a value before enrichment.")

def sortedBindings (configuration : ConnectorActionConfiguration ν) :
    List (String × ConnectorActionInputBinding ν) :=
  configuration.inputBindings.insertionSort fun left right => JsRuntime.localeCompare ν left.1 right.1 ≠ .gt

def actionInputValue (grid : Grid ν) (rowId key : String) :
    ConnectorActionInputBinding ν → Except StoreError (Json ν)
  | .literal value => .ok value
  | .column columnId =>
    requireSome (readSourceCellValue (grid.storedValue rowId columnId))
      (.validation ("The " ++ key ++ " source cell must contain a value before enrichment."))

def actionInput (grid : Grid ν) (rowId : String) :
    List (String × ConnectorActionInputBinding ν) → Except StoreError (List (String × Json ν))
  | [] => .ok []
  | (key, binding) :: bindings => do
    let value ← actionInputValue grid rowId key binding
    let fields ← actionInput grid rowId bindings
    return (key, value) :: fields

end Reading

section Queue

variable {ν : Type} [JsRuntime ν] [ConnectorRuntime ν]

structure QueueCellRun where
  columnId : String
  rowId : String
  tableId : String
  runId : String
  dispatch : Bool
  eventId : String
  now : Int
  deriving Repr, DecidableEq

def enrichmentTarget (grid : Grid ν) (columnId rowId tableId : String) : Option (ColumnConfiguration ν) :=
  ((grid.columns.get? columnId).filter fun column =>
    column.kind = .connector && column.tableId = tableId && column.archivedAt.isNone &&
      (grid.rows.get? rowId).any (fun row => row.tableId = tableId && row.archivedAt.isNone) &&
      (grid.dataTables.get? tableId).any fun table => table.archivedAt.isNone).map Column.configuration

def prepareTargetCell (grid : Grid ν) (rowId columnId : String) : Except StoreError (Grid ν) :=
  match grid.cells rowId columnId with
  | none => .ok (grid.setCell rowId columnId { value := .empty, status := .queued, version := 1 })
  | some cell =>
    if cell.status.active then .error (.conflict "This enrichment cell already has an active run.")
    else .ok (grid.setCell rowId columnId { cell with status := .queued })

def CellRun.durableInput (run : CellRun ν) : CellRunInput :=
  { columnId := run.columnId
    credentialId := run.credentialId
    inputFingerprint := run.inputFingerprint
    rowId := run.rowId
    runId := run.id }

/-- What the three kinds of configuration end with: the target cell is taken,
and the run is inserted with its event. -/
def insertCellRun (db : Database ν) (input : QueueCellRun) (run : CellRun ν) :
    Except StoreError (CellRunInput × Database ν) := do
  let grid ← prepareTargetCell db.grid input.rowId input.columnId
  let runs ← requireSome (db.cellRuns.insert run) (.constraint "cell_runs_id")
  if input.dispatch then
    let events ← requireSome (db.outbox.insert
      { id := input.eventId, payload := .cellRunRequested run.durableInput, createdAt := input.now })
      (.constraint "outbox_events_id")
    return (run.durableInput, { db with grid := grid, cellRuns := runs, outbox := events })
  else
    return (run.durableInput, { db with grid := grid, cellRuns := runs })

def queueSqliteHttpRun (db : Database ν) (input : QueueCellRun) (configuration : HttpEnrichmentConfiguration) :
    Except StoreError (CellRunInput × Database ν) := do
  requireThat (configuration.credentialId.all (usableCredential db.credentials "http"))
    (.validation "The enrichment credential is missing or revoked.")
  let source ← requireSourceCell db.grid input.rowId configuration.inputColumnId
  let requestUrl := ConnectorRuntime.requestUrl ν configuration.baseUrl configuration.queryParameter
    (serializeSourceCellValue source)
  let requestInput := "\x7b\"method\":\"GET\",\"url\":" ++ jsonQuote requestUrl ++ "\x7d"
  insertCellRun db input
    { id := input.runId
      rowId := input.rowId
      columnId := input.columnId
      credentialId := configuration.credentialId
      connectorId := "http"
      actionId := "request"
      input := requestInput
      inputFingerprint := ConnectorRuntime.sha256 ν requestInput
      allowedHosts := [ConnectorRuntime.hostname ν requestUrl] }

def waterfallProviderText (ν : Type) [ConnectorRuntime ν] (sourceValue : String) (provider : HttpWaterfallProvider) : String :=
  "\x7b\"credentialId\":" ++ (provider.credentialId.map jsonQuote).getD "null" ++
    ",\"name\":" ++ jsonQuote provider.name ++
    ",\"providerId\":" ++ jsonQuote provider.id ++
    ",\"resultPath\":" ++ jsonQuote provider.resultPath ++
    ",\"url\":" ++ jsonQuote (ConnectorRuntime.requestUrl ν provider.baseUrl provider.queryParameter sourceValue) ++
    "\x7d"

def queueSqliteHttpWaterfallRun (db : Database ν) (input : QueueCellRun)
    (configuration : HttpWaterfallConfiguration) : Except StoreError (CellRunInput × Database ν) := do
  let credentialIds := distinct (configuration.providers.filterMap HttpWaterfallProvider.credentialId)
  let activeCredentials := db.credentials.records.filter fun credential =>
    credential.id ∈ credentialIds && credential.connectorId = "http" && credential.revokedAt.isNone
  requireThat (activeCredentials.length = credentialIds.length)
    (.validation "A waterfall credential is missing or revoked.")
  let source ← requireSourceCell db.grid input.rowId configuration.inputColumnId
  let sourceValue := serializeSourceCellValue source
  let runPlan := "\x7b\"kind\":\"http_waterfall\",\"providers\":[" ++
    ",".intercalate (configuration.providers.map (waterfallProviderText ν sourceValue)) ++ "],\"version\":1\x7d"
  insertCellRun db input
    { id := input.runId
      rowId := input.rowId
      columnId := input.columnId
      credentialId := none
      connectorId := "http_waterfall"
      actionId := "execute"
      input := runPlan
      inputFingerprint := ConnectorRuntime.sha256 ν runPlan
      allowedHosts := distinct (configuration.providers.map fun provider =>
        ConnectorRuntime.hostname ν
          (ConnectorRuntime.requestUrl ν provider.baseUrl provider.queryParameter sourceValue)) }

def queueConnectorAction (db : Database ν) (input : QueueCellRun) (configuration : ConnectorActionConfiguration ν) :
    Except StoreError (CellRunInput × Database ν) := do
  requireSqliteConnectorExecutionAllowed db.connectorRevocations
    ⟨configuration.artifactSha256, configuration.connectorId, configuration.connectorVersion,
      configuration.publisherKeyIds⟩
  requireThat (configuration.credentialId.all (usableCredential db.credentials configuration.connectorId))
    (.validation "The connector credential is missing or revoked.")
  let fields ← actionInput db.grid input.rowId (sortedBindings configuration)
  let text := (Json.object fields).stringify
  insertCellRun db input
    { id := input.runId
      rowId := input.rowId
      columnId := input.columnId
      credentialId := configuration.credentialId
      connectorId := configuration.connectorId
      connectorVersion := configuration.connectorVersion
      artifactSha256 := configuration.artifactSha256
      publisherKeyIds := configuration.publisherKeyIds
      actionId := configuration.actionId
      input := text
      inputFingerprint := ConnectorRuntime.sha256 ν text
      allowedHosts := [] }

def queueConnectorActionRun (db : Database ν) (input : QueueCellRun) :
    Except StoreError (CellRunInput × Database ν) := do
  let configuration ← requireSome (enrichmentTarget db.grid input.columnId input.rowId input.tableId)
    (.access "The enrichment cell is unavailable.")
  match configuration with
  | .httpWaterfall configuration => queueSqliteHttpWaterfallRun db input configuration
  | .httpEnrichment configuration => queueSqliteHttpRun db input configuration
  | .connectorAction configuration => queueConnectorAction db input configuration
  | _ => .error (.validation "The enrichment column configuration is invalid.")

structure QueueByUser where
  columnId : String
  rowId : String
  tableId : String
  userId : String
  runId : String
  eventId : String
  now : Int
  deriving Repr, DecidableEq

/-- `queueSqliteEnrichmentCellRun` is this in a transaction of its own. -/
def queueSqliteEnrichmentCellRunInTransaction (db : Database ν) (input : QueueByUser) :
    Except StoreError (CellRunInput × Database ν) := do
  requireTablePermission db input.tableId input.userId .dataWrite
  queueConnectorActionRun db
    { columnId := input.columnId, rowId := input.rowId, tableId := input.tableId, runId := input.runId,
      dispatch := true, eventId := input.eventId, now := input.now }

structure QueueAutomatically where
  columnId : String
  rowId : String
  tableId : String
  runId : String
  eventId : String
  now : Int
  deriving Repr, DecidableEq

def queueAutomaticSqliteEnrichmentCellRunInTransaction (db : Database ν) (input : QueueAutomatically) :
    Except StoreError (CellRunInput × Database ν) :=
  queueConnectorActionRun db
    { columnId := input.columnId, rowId := input.rowId, tableId := input.tableId, runId := input.runId,
      dispatch := true, eventId := input.eventId, now := input.now }

end Queue

section WorkflowQueue

variable {ν : Type} [JsRuntime ν] [ConnectorRuntime ν]

def excludedBulkRunStatuses : BulkRunMode → List CellStatus
  | .all => [.queued, .running]
  | .pending => [.queued, .running, .succeeded]

def shouldSelectCellForBulkRun (status : Option CellStatus) (mode : BulkRunMode) : Bool :=
  status.all fun status => status ∉ excludedBulkRunStatuses mode

/-- The high digit of the byte with `& 0x3f | 0x80` applied. -/
def variantDigit (c : Char) : Char :=
  let n := if c.toNat ≥ 97 then c.toNat - 87 else c.toNat - 48
  hexDigit (n % 4 + 8)

def uuidText (digits : List Char) : String :=
  String.ofList (digits.take 8 ++ '-' :: (digits.drop 8).take 4 ++ '-' :: (digits.drop 12).take 4 ++
    '-' :: (digits.drop 16).take 4 ++ '-' :: (digits.drop 20))

def deterministicCellRunId (ν : Type) [ConnectorRuntime ν] (columnId rowId runId stepId : String) : String :=
  let digest := ConnectorRuntime.sha256 ν (runId ++ "\x00" ++ stepId ++ "\x00" ++ columnId ++ "\x00" ++ rowId)
  let digits := digest.toList.take 32
  uuidText ((digits.set 12 '5').set 16 (variantDigit (digits.getD 16 '0')))

def loadExistingRun (runs : Table (CellRun ν)) (columnId rowId runId : String) : Option CellRunInput :=
  ((runs.get? runId).filter fun run => run.rowId = rowId && run.columnId = columnId).map CellRun.durableInput

structure WorkflowRowReference where
  rowId : String
  tableId : String
  deriving Repr, DecidableEq

def MAXIMUM_WORKFLOW_ROW_BATCH_SIZE : Nat := 500

structure QueueByWorkflow where
  batch : List WorkflowRowReference
  columnId : String
  mode : BulkRunMode
  runId : String
  stepId : String
  now : Int
  deriving Repr, DecidableEq

def queueWorkflowRow (input : QueueByWorkflow) (tableId : String) (db : Database ν) (rowId : String) :
    Except StoreError (List CellRunInput × Database ν) :=
  let runId := deterministicCellRunId ν input.columnId rowId input.runId input.stepId
  match loadExistingRun db.cellRuns input.columnId rowId runId with
  | some existing => .ok ([existing], db)
  | none =>
    if !shouldSelectCellForBulkRun ((db.grid.cells rowId input.columnId).map Cell.status) input.mode then
      .ok ([], db)
    else do
      let queued ← queueConnectorActionRun db
        { columnId := input.columnId, rowId := rowId, tableId := tableId, runId := runId, dispatch := false,
          eventId := "", now := input.now }
      return ([queued.1], queued.2)

def queueWorkflowRows (input : QueueByWorkflow) (tableId : String) :
    List WorkflowRowReference → Database ν → Except StoreError (List CellRunInput × Database ν)
  | [], db => .ok ([], db)
  | row :: rows, db => do
    let first ← queueWorkflowRow input tableId db row.rowId
    let rest ← queueWorkflowRows input tableId rows first.2
    return (first.1 ++ rest.1, rest.2)

def queueSqliteWorkflowEnrichmentCellRuns (db : Database ν) (input : QueueByWorkflow) :
    Except StoreError (List CellRunInput × Database ν) := do
  requireThat (input.batch.length ≤ MAXIMUM_WORKFLOW_ROW_BATCH_SIZE) .request
  let column ← requireSome ((db.grid.columns.get? input.columnId).filter fun column =>
    column.kind = .connector && column.archivedAt.isNone)
    (.access "The workflow enrichment column is unavailable.")
  requireThat (input.batch.all fun row => row.tableId = column.tableId)
    (.validation "An enrichment step can only process rows from its column table.")
  queueWorkflowRows input column.tableId input.batch db

end WorkflowQueue

section Report

variable {ν : Type} [JsRuntime ν]

/-- `runScope`. -/
def runScope (input : CellRunInput) (run : CellRun ν) : Bool :=
  run.id = input.runId && run.rowId = input.rowId && run.columnId = input.columnId &&
    run.inputFingerprint = input.inputFingerprint

def Database.runInScope (db : Database ν) (input : CellRunInput) : Option (CellRun ν) :=
  (db.cellRuns.get? input.runId).filter (runScope input)

def Grid.setCellStatus (grid : Grid ν) (rowId columnId : String) (status : CellStatus) : Grid ν :=
  match grid.cells rowId columnId with
  | none => grid
  | some cell => grid.setCell rowId columnId { cell with status := status }

inductive CellRunStart where
  | ready
  | succeeded
  | cancelled
  deriving Repr, DecidableEq

section RunUpdates

variable (now : Int) (run : CellRun ν)

def startCellRun : CellRun ν :=
  { run with
    attempt := run.attempt + 1
    errorCode := none
    errorMessage := none
    startedAt := some (run.startedAt.getD now)
    status := .running }

def succeedCellRun (output : Json ν) : CellRun ν :=
  { run with
    errorCode := none
    errorMessage := none
    finishedAt := some now
    output := some output
    status := .succeeded }

def failCellRun (code message : String) (retrying : Bool) : CellRun ν :=
  { run with
    errorCode := some code
    errorMessage := some message
    finishedAt := if retrying then none else some now
    status := if retrying then .queued else .failed }

end RunUpdates

def markSqliteCellRunRunning (db : Database ν) (input : CellRunInput) (now : Int) :
    Except StoreError (CellRunStart × Database ν) := do
  let run ← requireSome (db.runInScope input) (.access "The cell run does not exist.")
  match run.status with
  | .succeeded => return (.succeeded, db)
  | .cancelled => return (.cancelled, db)
  | .failed => .error (.conflict "The cell run cannot start from status failed.")
  | .running => .error (.conflict "The cell run cannot start from status running.")
  | .queued =>
    return (.ready,
      { db with
        cellRuns := db.cellRuns.modify (fun candidate => candidate.id = run.id) (startCellRun now) ⟨fun _ => rfl⟩
        grid := db.grid.setCellStatus input.rowId input.columnId .running })

structure CellRunSuccess (ν : Type) where
  connectorId : String
  output : Json ν
  value : CellValue ν

def recomputeFormulas (grid : Grid ν) (tableId rowId : String) (changedColumnIds : List String) :
    Except StoreError (List String × Grid ν) :=
  match recomputeDependentSqliteFormulasForRow grid tableId rowId changedColumnIds with
  | (.ok changedFormulaIds, grid) => .ok (changedFormulaIds, grid)
  | (.error error, _) => .error (.failure error.message)

def markSqliteCellRunSucceeded (db : Database ν) (input : CellRunInput) (success : CellRunSuccess ν)
    (stamp : MutationStamp) : Except StoreError (Database ν) := do
  let cell ← requireSome (db.grid.cells input.rowId input.columnId) (.access "The target cell is missing.")
  let row ← requireSome (db.grid.rows.get? input.rowId) (.access "The target cell is missing.")
  requireThat (db.cellRuns.records.any fun run => runScope input run && run.status = .running)
    (.conflict "The cell run is not running.")
  let runs := db.cellRuns.modify (fun run => runScope input run && run.status = .running)
    (fun run => succeedCellRun stamp.now run success.output) ⟨fun _ => rfl⟩
  let written := db.grid.setCell input.rowId input.columnId
    { value := serializeSqliteCellValue success.value, status := .succeeded, version := cell.version + 1 }
  let recomputed ← recomputeFormulas written row.tableId input.rowId [input.columnId]
  recordSqliteRowMutationAndMaybeQueueSettlement { db with cellRuns := runs, grid := recomputed.2 }
    { changedColumnIds := input.columnId :: recomputed.1, rowId := input.rowId, tableId := row.tableId } stamp

structure CellRunFailure where
  errorCode : String
  errorMessage : String
  retrying : Bool
  deriving Repr, DecidableEq

def safeRunError (value : String) (maximum : Nat) : String :=
  sliceUnits maximum (spaceBreaks value)

def writeCellRunFailure (db : Database ν) (input : CellRunInput) (failure : CellRunFailure) (now : Int) :
    Database ν :=
  { db with
    cellRuns := db.cellRuns.modify (fun run => runScope input run && run.status.active)
      (fun run => failCellRun now run (safeRunError failure.errorCode 80)
        (safeRunError failure.errorMessage 500) failure.retrying) ⟨fun _ => rfl⟩
    grid := db.grid.setCellStatus input.rowId input.columnId (if failure.retrying then .queued else .failed) }

def setSqliteCellRunFailure (db : Database ν) (input : CellRunInput) (failure : CellRunFailure)
    (stamp : MutationStamp) : Except StoreError (Database ν) :=
  let target := (db.grid.cells input.rowId input.columnId).bind fun _ => db.grid.rows.get? input.rowId
  let failedRun := db.cellRuns.records.any fun run => runScope input run && run.status.active
  let failed := writeCellRunFailure db input failure stamp.now
  match target with
  | some row =>
    if !failure.retrying && failedRun then
      recordSqliteRowMutationAndMaybeQueueSettlement failed
        { changedColumnIds := [input.columnId], rowId := input.rowId, tableId := row.tableId } stamp
    else .ok failed
  | none => .ok failed

end Report

end ByokGrid
