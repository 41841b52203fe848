import ByokGrid.CellRuns
import ByokGrid.ImportPolicy

/-! Scheduled sources: a source has at most one run at work, which applies the
pages of the remote records to the grid and moves the watermark of the source. -/

namespace ByokGrid

def HUBSPOT_INCREMENTAL_SAFETY_LAG_MS : Int := 5 * 60000

inductive SourceMissingRecordMode where
  | preserve
  | archive
  deriving Repr, DecidableEq

inductive SourcePaginationMode where
  | none
  | cursor
  deriving Repr, DecidableEq

inductive SourceAdapter where
  | httpJson
  | hubSpotContacts (initialSyncFrom : String)
  deriving Repr, DecidableEq

structure SourceDefinition where
  id : String
  tableId : String
  name : String
  adapter : SourceAdapter
  credentialId : Option String
  maxRecords : Nat
  maxPages : Nat
  missingRecordMode : SourceMissingRecordMode
  paginationMode : SourcePaginationMode
  scheduleIntervalMinutes : Option Nat
  nextRunAt : Option Int
  status : DestinationStatus := .active
  fieldMapping : Option (List SourceField) := none
  lastRunAt : Option Int := none
  incrementalWatermark : Option Int := none
  deriving Repr, DecidableEq

instance : Keyed SourceDefinition String := ⟨SourceDefinition.id⟩

inductive SourceRunTrigger where
  | manual
  | schedule
  deriving Repr, DecidableEq

inductive SourceRunStatus where
  | queued
  | running
  | succeeded
  | failed
  | cancelled
  deriving Repr, DecidableEq

def SourceRunStatus.name : SourceRunStatus → String
  | .queued => "queued"
  | .running => "running"
  | .succeeded => "succeeded"
  | .failed => "failed"
  | .cancelled => "cancelled"

def SourceRunStatus.active : SourceRunStatus → Bool
  | .queued | .running => true
  | .succeeded | .failed | .cancelled => false

structure IncrementalWindow where
  windowStart : Int
  windowEnd : Int
  forward : windowStart < windowEnd
  deriving Repr, DecidableEq

structure SourceRun where
  id : String
  sourceId : String
  tableId : String
  trigger : SourceRunTrigger
  scheduledFor : Int
  incrementalWindow : Option IncrementalWindow
  status : SourceRunStatus := .queued
  attempt : Nat := 0
  pageCount : Nat := 0
  nextCursorEncrypted : Option String := none
  receivedRecordCount : Nat := 0
  createdRowCount : Nat := 0
  updatedRowCount : Nat := 0
  archivedRowCount : Nat := 0
  restoredRowCount : Nat := 0
  errorCode : Option String := none
  errorMessage : Option String := none
  startedAt : Option Int := none
  finishedAt : Option Int := none
  deriving Repr, DecidableEq

instance : Keyed SourceRun String := ⟨SourceRun.id⟩

structure SourceRecord where
  sourceId : String
  recordKey : String
  tableId : String
  rowId : String
  lastSeenRunId : Option String
  archivedAt : Option Int := none
  archivedByRunId : Option String := none
  deriving Repr, DecidableEq

instance : Keyed SourceRecord (String × String) := ⟨fun record => (record.sourceId, record.recordKey)⟩

structure SourceStore where
  definitions : Table SourceDefinition
  runs : Table SourceRun
  records : Table SourceRecord

structure SourceWorkspace (ν : Type) where
  db : Database ν
  sources : SourceStore

section Definitions

variable {ν : Type}

def assertSqliteSourceTableAccess (db : Database ν) (tableId userId : String) : Except StoreError Unit :=
  requireThat ((db.grid.dataTables.get? tableId).any (fun table => table.archivedAt.isNone) &&
    (db.workspaceMembers.get? userId).isSome) (.access "The table is not accessible.")

inductive SourceCredentialKind where
  | http
  | hubspot
  deriving Repr, DecidableEq

def SourceCredentialKind.connectorId : SourceCredentialKind → String
  | .http => "http"
  | .hubspot => "hubspot"

def SourceCredentialKind.label : SourceCredentialKind → String
  | .http => "HTTP"
  | .hubspot => "HubSpot"

def requireActiveSourceCredential (db : Database ν) (credentialId : String) (kind : SourceCredentialKind) :
    Except StoreError Unit :=
  requireThat (usableCredential db.credentials kind.connectorId credentialId)
    (.validation ("The selected " ++ kind.label ++ " credential is missing or revoked."))

def requireSelectedCredential (db : Database ν) (credentialId : Option String) (kind : SourceCredentialKind) :
    Except StoreError Unit :=
  match credentialId with
  | some credentialId => requireActiveSourceCredential db credentialId kind
  | none => .ok ()

inductive SourceSchedule where
  | manual
  | every15Minutes
  | hourly
  | every6Hours
  | daily
  deriving Repr, DecidableEq

def scheduleIntervalMinutes : SourceSchedule → Option Nat
  | .manual => none
  | .every15Minutes => some 15
  | .hourly => some 60
  | .every6Hours => some 360
  | .daily => some 1440

def firstRunAt (schedule : SourceSchedule) (now : Int) : Option Int :=
  (scheduleIntervalMinutes schedule).map fun minutes => now + minutes * 60000

def acceptableDefinition (definition : SourceDefinition) : Bool :=
  1 ≤ definition.maxRecords && definition.maxRecords ≤ 5000 && 1 ≤ definition.maxPages &&
    definition.maxPages ≤ 25 &&
    match definition.paginationMode with
    | .none => definition.maxPages = 1
    | .cursor => 2 ≤ definition.maxPages

def insertSourceDefinition (workspace : SourceWorkspace ν) (definition : SourceDefinition) :
    Except StoreError (SourceWorkspace ν) := do
  requireThat (acceptableDefinition definition) (.constraint "source_definitions_record_limits")
  let definitions ← requireSome (workspace.sources.definitions.insert definition)
    (.constraint "source_definitions_id")
  return { workspace with sources := { workspace.sources with definitions := definitions } }

structure CreateHttpJsonSource where
  sourceId : String
  tableId : String
  userId : String
  name : String
  credentialId : Option String
  maxRecords : Nat
  maxPages : Nat
  missingRecordMode : SourceMissingRecordMode := .preserve
  paginationMode : SourcePaginationMode
  schedule : SourceSchedule
  now : Int
  deriving Repr, DecidableEq

def createSqliteHttpJsonSource (workspace : SourceWorkspace ν) (input : CreateHttpJsonSource) :
    Except StoreError (SourceWorkspace ν) := do
  assertSqliteSourceTableAccess workspace.db input.tableId input.userId
  requireSelectedCredential workspace.db input.credentialId .http
  insertSourceDefinition workspace
    { id := input.sourceId
      tableId := input.tableId
      name := input.name
      adapter := .httpJson
      credentialId := input.credentialId
      maxRecords := input.maxRecords
      maxPages := match input.paginationMode with
        | .none => 1
        | .cursor => input.maxPages
      missingRecordMode := input.missingRecordMode
      paginationMode := input.paginationMode
      scheduleIntervalMinutes := scheduleIntervalMinutes input.schedule
      nextRunAt := firstRunAt input.schedule input.now }

structure CreateHubSpotContactsSource where
  sourceId : String
  tableId : String
  userId : String
  name : String
  credentialId : String
  initialSyncFrom : String
  maxRecords : Nat
  maxPages : Nat
  schedule : SourceSchedule
  now : Int
  deriving Repr, DecidableEq

def createSqliteHubSpotContactsSource [JsRuntime ν] (workspace : SourceWorkspace ν)
    (input : CreateHubSpotContactsSource) : Except StoreError (SourceWorkspace ν) := do
  let name ← requireSome (parseShortText input.name) .request
  requireThat (JsRuntime.isIsoDatetime ν input.initialSyncFrom && 1 ≤ input.maxRecords && input.maxRecords ≤ 5000 &&
    2 ≤ input.maxPages && input.maxPages ≤ 25) .request
  let initialSyncFrom := JsRuntime.parseDate ν input.initialSyncFrom
  requireThat (initialSyncFrom.milliseconds < input.now - HUBSPOT_INCREMENTAL_SAFETY_LAG_MS)
    (.validation "The initial HubSpot sync time must be at least five minutes in the past.")
  assertSqliteSourceTableAccess workspace.db input.tableId input.userId
  requireActiveSourceCredential workspace.db input.credentialId .hubspot
  insertSourceDefinition workspace
    { id := input.sourceId
      tableId := input.tableId
      name := name
      adapter := .hubSpotContacts (JsRuntime.toISOString ν initialSyncFrom)
      credentialId := some input.credentialId
      maxRecords := input.maxRecords
      maxPages := input.maxPages
      missingRecordMode := .preserve
      paginationMode := .cursor
      scheduleIntervalMinutes := scheduleIntervalMinutes input.schedule
      nextRunAt := firstRunAt input.schedule input.now }

def requireAccessibleSource (workspace : SourceWorkspace ν) (sourceId tableId : String) :
    Except StoreError SourceDefinition :=
  requireSome ((workspace.sources.definitions.get? sourceId).filter fun source => source.tableId = tableId)
    (.access "The source is not accessible.")

def SourceStore.updateDefinition (store : SourceStore) (sourceId : String)
    (f : SourceDefinition → SourceDefinition) (hf : KeepsKey f) : SourceStore :=
  { store with definitions := store.definitions.modify (fun source => source.id = sourceId) f hf }

structure SetSourceStatus where
  sourceId : String
  tableId : String
  userId : String
  status : DestinationStatus
  now : Int
  deriving Repr, DecidableEq

def mappedColumnIds (source : SourceDefinition) : List String :=
  distinct ((source.fieldMapping.getD []).map SourceField.columnId)

def setSourceStatus (input : SetSourceStatus) (source : SourceDefinition) : SourceDefinition :=
  { source with
    nextRunAt := if input.status = .active ∧ source.scheduleIntervalMinutes ≠ none then some input.now else none
    status := input.status }

def setSqliteSourceStatus (workspace : SourceWorkspace ν) (input : SetSourceStatus) :
    Except StoreError (SourceWorkspace ν) := do
  assertSqliteSourceTableAccess workspace.db input.tableId input.userId
  let source ← requireAccessibleSource workspace input.sourceId input.tableId
  let activeColumns := workspace.db.grid.columns.records.filter fun column =>
    column.tableId = input.tableId && column.id ∈ mappedColumnIds source && column.archivedAt.isNone
  requireThat (input.status ≠ .active || activeColumns.length = (mappedColumnIds source).length)
    (.conflict "Restore every mapped column before resuming this source.")
  return { workspace with
    sources := workspace.sources.updateDefinition source.id (setSourceStatus input) ⟨fun _ => rfl⟩ }

end Definitions

section Queue

variable {ν : Type} [JsRuntime ν]

def sourceIncrementalWindow (ν : Type) [JsRuntime ν] (source : SourceDefinition) (observedAt : Int) :
    Except StoreError (Option IncrementalWindow) :=
  match source.adapter with
  | .httpJson => .ok none
  | .hubSpotContacts initialSyncFrom => do
    requireThat (JsRuntime.isIsoDatetime ν initialSyncFrom) .request
    let windowStart := source.incrementalWatermark.getD (JsRuntime.parseDate ν initialSyncFrom).milliseconds
    let windowEnd := observedAt - HUBSPOT_INCREMENTAL_SAFETY_LAG_MS
    if h : windowStart < windowEnd then return some ⟨windowStart, windowEnd, h⟩
    else .error (.conflict "The HubSpot incremental window has not advanced yet.")

def activeSourceRun (runs : Table SourceRun) (sourceId : String) : Bool :=
  runs.records.any fun run => run.sourceId = sourceId && run.status.active

/-- `enqueueSqliteSourceRun`, with the run inserted before. -/
def insertSourceRun (workspace : SourceWorkspace ν) (runs : Table SourceRun) (run : SourceRun) (eventId : String)
    (now : Int) : Except StoreError (SourceWorkspace ν) := do
  let events ← requireSome (workspace.db.outbox.insert
    { id := eventId
      payload := .sourceRunRequested { sourceId := run.sourceId, sourceRunId := run.id, tableId := run.tableId }
      createdAt := now }) (.constraint "outbox_events_id")
  return { db := { workspace.db with outbox := events }
           sources := { workspace.sources with runs := runs } }

structure QueueManualSourceRun where
  sourceId : String
  tableId : String
  userId : String
  runId : String
  eventId : String
  now : Int
  deriving Repr, DecidableEq

def scheduledBefore (runs : Table SourceRun) (sourceId : String) (scheduledFor : Int) : Bool :=
  runs.records.any fun run => run.sourceId = sourceId && run.scheduledFor = scheduledFor

def queueSqliteManualSourceRun (workspace : SourceWorkspace ν) (input : QueueManualSourceRun) :
    Except StoreError (SourceWorkspace ν) := do
  assertSqliteSourceTableAccess workspace.db input.tableId input.userId
  let source ← requireAccessibleSource workspace input.sourceId input.tableId
  requireThat (source.status = .active) (.conflict "Resume the source before running it.")
  requireThat (!activeSourceRun workspace.sources.runs source.id) (.conflict "This source already has an active run.")
  let incrementalWindow ← sourceIncrementalWindow ν source input.now
  requireThat (!scheduledBefore workspace.sources.runs source.id input.now)
    (.constraint "source_runs_source_scheduled_unique")
  let run : SourceRun :=
    { id := input.runId, sourceId := source.id, tableId := source.tableId, trigger := .manual,
      scheduledFor := input.now, incrementalWindow := incrementalWindow }
  let runs ← requireSome (workspace.sources.runs.insert run) (.constraint "source_runs_id")
  insertSourceRun workspace runs run input.eventId input.now

def nextScheduledSourceRun (scheduledFor : Int) (intervalMinutes : Nat) (now : Int) : Except StoreError Int := do
  requireThat (5 ≤ intervalMinutes) (.failure "Source schedules must be at least five minutes.")
  let intervalMs : Int := intervalMinutes * 60000
  let elapsed := now - scheduledFor
  let intervals := max 1 (elapsed / intervalMs + 1)
  return scheduledFor + intervals * intervalMs

structure QueueDueSourceRuns where
  limit : Int := 25
  runId : String → String
  eventId : String → String
  now : Int

def dueSource (now : Int) (source : SourceDefinition) : Bool :=
  source.status = .active && source.nextRunAt.any fun nextRunAt => nextRunAt ≤ now

def dueOrder (left right : SourceDefinition) : Bool :=
  left.nextRunAt.getD 0 < right.nextRunAt.getD 0 ||
    (left.nextRunAt.getD 0 = right.nextRunAt.getD 0 && left.id ≤ right.id)

/-- A scheduled source moves to its next occurrence, and gets a run unless it has
an active one or had one at that time. -/
def queueScheduledRun (input : QueueDueSourceRuns) (source : SourceDefinition) (scheduledFor : Int)
    (intervalMinutes : Nat) (workspace : SourceWorkspace ν) : Except StoreError (SourceWorkspace ν) := do
  let nextRunAt ← nextScheduledSourceRun scheduledFor intervalMinutes input.now
  let moved : SourceWorkspace ν := { workspace with
    sources := workspace.sources.updateDefinition source.id
      (fun candidate => { candidate with nextRunAt := some nextRunAt }) ⟨fun _ => rfl⟩ }
  if activeSourceRun moved.sources.runs source.id then return moved
  else do
    let incrementalWindow ← sourceIncrementalWindow ν source input.now
    if scheduledBefore moved.sources.runs source.id scheduledFor then return moved
    else do
      let run : SourceRun :=
        { id := input.runId source.id, sourceId := source.id, tableId := source.tableId, trigger := .schedule,
          scheduledFor := scheduledFor, incrementalWindow := incrementalWindow }
      let runs ← requireSome (moved.sources.runs.insert run) (.constraint "source_runs_id")
      insertSourceRun moved runs run (input.eventId source.id) input.now

def queueDueSource (input : QueueDueSourceRuns) (source : SourceDefinition) (workspace : SourceWorkspace ν) :
    Except StoreError (SourceWorkspace ν) :=
  match source.nextRunAt, source.scheduleIntervalMinutes with
  | some scheduledFor, some intervalMinutes => queueScheduledRun input source scheduledFor intervalMinutes workspace
  | _, _ => .ok workspace

def queueDueSources (input : QueueDueSourceRuns) :
    List SourceDefinition → SourceWorkspace ν → Except StoreError (SourceWorkspace ν)
  | [], workspace => .ok workspace
  | source :: sources, workspace => do
    let next ← queueDueSource input source workspace
    queueDueSources input sources next

def queueDueSqliteSourceRuns (workspace : SourceWorkspace ν) (input : QueueDueSourceRuns) :
    Except StoreError (SourceWorkspace ν) :=
  let dueSources := ((workspace.sources.definitions.records.filter (dueSource input.now)).insertionSort
    fun left right => dueOrder left right).take (max 1 (min input.limit 100)).toNat
  queueDueSources input dueSources workspace

end Queue

section Worker

inductive SourceRunStart where
  | ready
  | succeeded
  | cancelled
  deriving Repr, DecidableEq

def startSourceRun (now : Int) (run : SourceRun) : SourceRun :=
  { run with
    attempt := run.attempt + 1
    errorCode := none
    errorMessage := none
    startedAt := some (run.startedAt.getD now)
    status := .running }

def SourceStore.updateRun (store : SourceStore) (p : SourceRun → Bool) (f : SourceRun → SourceRun)
    (hf : KeepsKey f) : SourceStore :=
  { store with runs := store.runs.modify p f hf }

def markSqliteSourceRunRunning (store : SourceStore) (sourceId sourceRunId : String) (now : Int) :
    Except StoreError (SourceRunStart × SourceStore) := do
  let run ← requireSome ((store.runs.get? sourceRunId).filter fun run => run.sourceId = sourceId)
    (.access "The source run does not exist.")
  match run.status with
  | .succeeded => return (.succeeded, store)
  | .cancelled => return (.cancelled, store)
  | .failed => .error (.conflict "The source run cannot start from status failed.")
  | .queued | .running => return (.ready,
      store.updateRun (fun candidate => candidate.id = run.id && candidate.status.active)
        (startSourceRun now) ⟨fun _ => rfl⟩)

structure SourceRunFailure where
  errorCode : String
  errorMessage : String
  retrying : Bool
  sourceRunId : String
  now : Int
  deriving Repr, DecidableEq

def failSourceRun (failure : SourceRunFailure) (run : SourceRun) : SourceRun :=
  { run with
    errorCode := some failure.errorCode
    errorMessage := some (safeDispatchError failure.errorMessage)
    finishedAt := if failure.retrying then none else some failure.now
    status := if failure.retrying then .queued else .failed }

def setSqliteSourceRunWorkerFailure (store : SourceStore) (failure : SourceRunFailure) : SourceStore :=
  store.updateRun (fun run => run.id = failure.sourceRunId && run.status.active) (failSourceRun failure)
    ⟨fun _ => rfl⟩

end Worker

end ByokGrid
