import ByokGrid.AirbyteRecords
import ByokGrid.GridView

/-! The events which the analytics projection reads, and the row it makes of each. -/

namespace ByokGrid

inductive AnalyticsEventType where
  | cellRunFailed
  | cellRunSucceeded
  | csvImportSucceeded
  | ingestionBatchSucceeded
  | sourceRunSucceeded
  deriving Repr, DecidableEq

namespace AnalyticsEventType

def name : AnalyticsEventType → String
  | .cellRunFailed => "cell.run_failed"
  | .cellRunSucceeded => "cell.run_succeeded"
  | .csvImportSucceeded => "table.csv_import_succeeded"
  | .ingestionBatchSucceeded => "table.ingestion_batch_succeeded"
  | .sourceRunSucceeded => "table.source_run_succeeded"

/-- `ANALYTICS_EVENT_TYPES`. -/
def all : List AnalyticsEventType :=
  [.cellRunFailed, .cellRunSucceeded, .csvImportSucceeded, .ingestionBatchSucceeded, .sourceRunSucceeded]

def ofName? (text : String) : Option AnalyticsEventType :=
  all.find? fun eventType => eventType.name = text

end AnalyticsEventType

structure AnalyticsSourceEvent (ν : Type) where
  aggregateId : String
  aggregateType : String
  createdAt : TimeValue
  eventType : String
  id : String
  payload : List (String × Json ν)
  workspaceId : String

inductive AnalyticsOutcome where
  | failed
  | succeeded
  deriving Repr, DecidableEq

structure AnalyticsProjectionRow where
  aggregateId : String
  aggregateType : String
  archivedRowCount : Nat := 0
  createdRowCount : Nat := 0
  dimensionId : Option String
  errorCode : String := ""
  eventId : String
  eventType : AnalyticsEventType
  occurredAt : String
  outcome : AnalyticsOutcome
  pageCount : Nat := 0
  projectedAt : String
  recordCount : Nat := 0
  restoredRowCount : Nat := 0
  tableId : Option String := none
  updatedRowCount : Nat := 0
  workspaceId : String
  deriving Repr, DecidableEq

/-- The integer from 0 to 2^53 - 1 which a number is. -/
class CountReader (ν : Type) where
  count? : ν → Option Nat

section Payloads

variable {ν : Type}

/-- `z.strictObject`: no member but those named. -/
def onlyMembers (names : List String) (payload : List (String × Json ν)) : Bool :=
  payload.all fun member => member.1 ∈ "__proto__" :: names

def uuidMember? (payload : List (String × Json ν)) (name : String) : Option String :=
  match property? payload name with
  | some (.string value) => if isEntityId value then some value else none
  | _ => none

def isErrorCodeChar (c : Char) : Bool :=
  ('A' ≤ c && c ≤ 'Z') || ('a' ≤ c && c ≤ 'z') || ('0' ≤ c && c ≤ '9') || c = '_' || c = '.' || c = '-'

def errorCodeMember? (payload : List (String × Json ν)) (name : String) : Option String :=
  match property? payload name with
  | some (.string value) =>
    if 1 ≤ utf16Length value && utf16Length value ≤ 120 && value.toList.all isErrorCodeChar then some value else none
  | _ => none

def countMember? [CountReader ν] (payload : List (String × Json ν)) (name : String) : Option Nat :=
  match property? payload name with
  | some (.number value) => CountReader.count? value
  | _ => none

structure AnalyticsFigures where
  archivedRowCount : Nat := 0
  createdRowCount : Nat := 0
  dimensionId : String
  errorCode : String := ""
  pageCount : Nat := 0
  recordCount : Nat := 0
  restoredRowCount : Nat := 0
  tableId : Option String := none
  updatedRowCount : Nat := 0
  deriving Repr, DecidableEq

variable [CountReader ν] (payload : List (String × Json ν))

def readFailedRun : Option AnalyticsFigures := do
  guard (onlyMembers ["cellId", "errorCode", "runId"] payload)
  let _ ← uuidMember? payload "cellId"
  let errorCode ← errorCodeMember? payload "errorCode"
  let runId ← uuidMember? payload "runId"
  return { dimensionId := runId, errorCode := errorCode }

def readSucceededRun : Option AnalyticsFigures := do
  guard (onlyMembers ["cellId", "runId"] payload)
  let _ ← uuidMember? payload "cellId"
  let runId ← uuidMember? payload "runId"
  return { dimensionId := runId }

def readCsvImport : Option AnalyticsFigures := do
  guard (onlyMembers ["importJobId", "importedRowCount", "tableId"] payload)
  let importJobId ← uuidMember? payload "importJobId"
  let importedRowCount ← countMember? payload "importedRowCount"
  let tableId ← uuidMember? payload "tableId"
  return { dimensionId := importJobId, recordCount := importedRowCount, tableId := some tableId }

def readIngestionBatch : Option AnalyticsFigures := do
  guard (onlyMembers ["batchId", "createdRowCount", "endpointId", "recordCount", "tableId", "updatedRowCount"] payload)
  let _ ← uuidMember? payload "batchId"
  let createdRowCount ← countMember? payload "createdRowCount"
  let endpointId ← uuidMember? payload "endpointId"
  let recordCount ← countMember? payload "recordCount"
  let tableId ← uuidMember? payload "tableId"
  let updatedRowCount ← countMember? payload "updatedRowCount"
  return {
    createdRowCount := createdRowCount, dimensionId := endpointId, recordCount := recordCount, tableId := some tableId,
    updatedRowCount := updatedRowCount }

def readSourceRun : Option AnalyticsFigures := do
  guard (onlyMembers ["archivedRowCount", "createdRowCount", "pageCount", "receivedRecordCount", "restoredRowCount", "sourceId",
    "sourceRunId", "tableId", "updatedRowCount"] payload)
  let archivedRowCount ← countMember? payload "archivedRowCount"
  let createdRowCount ← countMember? payload "createdRowCount"
  let pageCount ← countMember? payload "pageCount"
  let receivedRecordCount ← countMember? payload "receivedRecordCount"
  let restoredRowCount ← countMember? payload "restoredRowCount"
  let sourceId ← uuidMember? payload "sourceId"
  let _ ← uuidMember? payload "sourceRunId"
  let tableId ← uuidMember? payload "tableId"
  let updatedRowCount ← countMember? payload "updatedRowCount"
  return {
    archivedRowCount := archivedRowCount, createdRowCount := createdRowCount, dimensionId := sourceId, pageCount := pageCount,
    recordCount := receivedRecordCount, restoredRowCount := restoredRowCount, tableId := some tableId,
    updatedRowCount := updatedRowCount }

/-- `payloadByType`. -/
def readAnalyticsPayload : AnalyticsEventType → Option AnalyticsFigures
  | .cellRunFailed => readFailedRun payload
  | .cellRunSucceeded => readSucceededRun payload
  | .csvImportSucceeded => readCsvImport payload
  | .ingestionBatchSucceeded => readIngestionBatch payload
  | .sourceRunSucceeded => readSourceRun payload

end Payloads

inductive AnalyticsEventError where
  | validation (message : String)
  /-- There is no schema under the type. -/
  | type
  deriving Repr, DecidableEq

/-- `/^[a-z][a-z0-9_]{0,63}$/`. -/
def isAggregateType (text : String) : Bool :=
  match text.toList with
  | [] => false
  | c :: cs => ('a' ≤ c && c ≤ 'z') && cs.length ≤ 63 && cs.all fun c => ('a' ≤ c && c ≤ 'z') || ('0' ≤ c && c ≤ '9') || c = '_'

/-- `text.replace(c, replacement)`: the first occurrence only. -/
def replaceFirst (c : Char) (replacement : List Char) : List Char → List Char
  | [] => []
  | d :: text => if d = c then replacement ++ text else d :: replaceFirst c replacement text

section Rows

variable {ν : Type} [JsRuntime ν]

variable (ν) in
def toClickHouseTimestamp (value : TimeValue) : String :=
  String.ofList (replaceFirst 'Z' [] (replaceFirst 'T' [' '] (JsRuntime.toISOString ν value).toList))

variable [CountReader ν]

def toAnalyticsProjectionRow (event : AnalyticsSourceEvent ν) (projectedAt : TimeValue) :
    Except AnalyticsEventError AnalyticsProjectionRow :=
  if !isEntityId event.id || !isEntityId event.workspaceId then
    .error (.validation "An analytics event has an invalid event or workspace identifier.")
  else if !isEntityId event.aggregateId || !isAggregateType event.aggregateType then
    .error (.validation "An analytics event has invalid aggregate metadata.")
  else
    match AnalyticsEventType.ofName? event.eventType with
    | none => .error .type
    | some eventType =>
      match readAnalyticsPayload event.payload eventType with
      | none => .error (.validation ("The " ++ event.eventType ++ " analytics payload does not match its public contract."))
      | some figures =>
        .ok {
          aggregateId := event.aggregateId
          aggregateType := event.aggregateType
          archivedRowCount := figures.archivedRowCount
          createdRowCount := figures.createdRowCount
          dimensionId := some figures.dimensionId
          errorCode := figures.errorCode
          eventId := event.id
          eventType := eventType
          occurredAt := toClickHouseTimestamp ν event.createdAt
          outcome := if eventType = .cellRunFailed then .failed else .succeeded
          pageCount := figures.pageCount
          projectedAt := toClickHouseTimestamp ν projectedAt
          recordCount := figures.recordCount
          restoredRowCount := figures.restoredRowCount
          tableId := figures.tableId
          updatedRowCount := figures.updatedRowCount
          workspaceId := event.workspaceId }

theorem toAnalyticsProjectionRow_key {event : AnalyticsSourceEvent ν} {projectedAt : TimeValue} {row : AnalyticsProjectionRow}
    (h : toAnalyticsProjectionRow event projectedAt = .ok row) :
    row.workspaceId = event.workspaceId ∧ row.eventId = event.id := by
  rw [toAnalyticsProjectionRow] at h
  split_ifs at h
  split at h
  · cases h
  · split at h
    · cases h
    · cases h
      exact ⟨rfl, rfl⟩

end Rows

end ByokGrid
