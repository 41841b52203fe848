import ByokGrid.CellRuns
import ByokGrid.GridViewQuery

/-! Deliveries of rows to webhooks and to the writeback adapter: the payload of a
row is built once and stored with its delivery, which an event announces. -/

namespace ByokGrid

inductive DeliveryStatus where
  | queued
  | running
  | succeeded
  | failed
  | cancelled
  deriving Repr, DecidableEq

def DeliveryStatus.name : DeliveryStatus → String
  | .queued => "queued"
  | .running => "running"
  | .succeeded => "succeeded"
  | .failed => "failed"
  | .cancelled => "cancelled"

def DeliveryStatus.active : DeliveryStatus → Bool
  | .queued | .running => true
  | .succeeded | .failed | .cancelled => false

def TriggerMode.name : TriggerMode → String
  | .manual => "manual"
  | .rowSettled => "row_settled"

def CellStatus.name : CellStatus → String
  | .idle => "idle"
  | .stale => "stale"
  | .queued => "queued"
  | .running => "running"
  | .succeeded => "succeeded"
  | .failed => "failed"
  | .cancelled => "cancelled"

/-- `decideAutomaticFanout`, with the number of candidates when there are too many. -/
def decideAutomaticFanout (candidateIds : List String) (limit : Nat) : Except Nat (List String) :=
  let ids := sortStrings (distinct candidateIds)
  if ids.length > limit then .error ids.length else .ok ids

/-- `cellValueSchema`. -/
def CellValue.accepted {ν : Type} [JsRuntime ν] : CellValue ν → Bool
  | .number value => JsRuntime.isFinite value
  | .timestamp value => JsRuntime.isIsoDatetime ν value
  | _ => true

def MAXIMUM_WRITEBACK_PAYLOAD_BYTES : Nat := 128 * 1024

structure WritebackPayload where
  deliveryId : String
  occurredAt : String
  properties : List (String × String)
  recordId : String
  rowId : String
  rowVersion : Nat
  tableId : String
  workspaceId : String
  deriving Repr, DecidableEq

def propertiesText (properties : List (String × String)) : String :=
  "\x7b" ++ ",".intercalate (properties.map fun property => jsonQuote property.1 ++ ":" ++ jsonQuote property.2) ++ "\x7d"

/-- `JSON.stringify(payload)`. -/
def WritebackPayload.stringify (payload : WritebackPayload) : String :=
  "\x7b\"adapterId\":\"hubspot_contact\",\"deliveryId\":" ++ jsonQuote payload.deliveryId ++
    ",\"occurredAt\":" ++ jsonQuote payload.occurredAt ++
    ",\"properties\":" ++ propertiesText payload.properties ++
    ",\"recordId\":" ++ jsonQuote payload.recordId ++
    ",\"row\":\x7b\"id\":" ++ jsonQuote payload.rowId ++ ",\"version\":" ++ toString payload.rowVersion ++ "\x7d" ++
    ",\"tableId\":" ++ jsonQuote payload.tableId ++ ",\"version\":1,\"workspaceId\":" ++
    jsonQuote payload.workspaceId ++ "\x7d"

def isPropertyCharacter (c : Char) : Bool :=
  isLowerLetter c || isDecimalDigit c || c = '_'

/-- `hubSpotPropertyNameSchema`: a lowercase letter and at most 99 more characters. -/
def isHubSpotPropertyName (name : String) : Bool :=
  match name.toList with
  | [] => false
  | c :: cs => isLowerLetter c && cs.length ≤ 99 && cs.all isPropertyCharacter

/-- What `writebackPayloadSchema` asks of a payload. -/
def WritebackPayload.accepted (payload : WritebackPayload) : Bool :=
  payload.properties ≠ [] && payload.properties.all (fun property => isHubSpotPropertyName property.1) &&
    jsTrim payload.recordId ≠ "" && utf16Length (jsTrim payload.recordId) ≤ 128 && 1 ≤ payload.rowVersion &&
    payload.stringify.utf8ByteSize ≤ MAXIMUM_WRITEBACK_PAYLOAD_BYTES

section Writeback

variable {ν : Type} [JsRuntime ν] [ConnectorRuntime ν] [NumberComparison ν]

/-- `writebackDestinationRequestSchema` on a stored destination. -/
def WritebackDestination.accepted (destination : WritebackDestination ν) : Bool :=
  1 ≤ destination.fieldMappings.length && destination.fieldMappings.length ≤ 50 &&
    destination.fieldMappings.all (fun mapping => isHubSpotPropertyName mapping.propertyName) &&
    (destination.fieldMappings.map WritebackFieldMapping.columnId).Nodup &&
    (destination.fieldMappings.map WritebackFieldMapping.propertyName).Nodup &&
    destination.filterTree.accepted && (parseShortText destination.name).isSome &&
    (destination.triggerMode = .manual || !(gridViewFilterLeaves destination.filterTree).isEmpty)

/-- `shouldQueueWriteback`. -/
def shouldQueueWriteback (statuses : List CellStatus) : Bool :=
  statuses.all fun status => status = .idle || status = .succeeded

def hubSpotPropertyValue : CellValue ν → Except StoreError String
  | .empty => .ok ""
  | .text value => .ok value
  | .timestamp value => .ok value
  | .number value => .ok (JsRuntime.numberToString value)
  | .boolean value => .ok (if value then "true" else "false")
  | .json _ => .error (.validation "JSON cells cannot be mapped to HubSpot properties.")

def hubSpotRecordId (value : CellValue ν) : Except StoreError String := do
  requireThat value.accepted (.validation "The row cannot be written back.")
  let text ← hubSpotPropertyValue value
  let recordId := jsTrim text
  requireThat (recordId ≠ "" && utf16Length recordId ≤ 128)
    (.validation "The HubSpot record ID is missing or too large.")
  return recordId

def cellValueOf (grid : Grid ν) (rowId columnId : String) : CellValue ν :=
  deserializeSqliteCellValue (grid.storedValue rowId columnId)

def writebackProperties (grid : Grid ν) (rowId : String) :
    List WritebackFieldMapping → Except StoreError (List (String × String))
  | [] => .ok []
  | mapping :: mappings => do
    let value ← hubSpotPropertyValue (cellValueOf grid rowId mapping.columnId)
    let properties ← writebackProperties grid rowId mappings
    return (mapping.propertyName, value) :: properties

def mappedCells (grid : Grid ν) (rowId : String) (destination : WritebackDestination ν) : List (Cell ν) :=
  (distinct (destination.recordIdColumnId :: destination.fieldMappings.map WritebackFieldMapping.columnId)).filterMap
    fun columnId => grid.cells rowId columnId

structure WritebackContent where
  recordId : String
  properties : List (String × String)
  deriving Repr, DecidableEq

def WritebackContent.text (ν : Type) [JsRuntime ν] (content : WritebackContent) : String :=
  let properties := content.properties.insertionSort fun left right => JsRuntime.localeCompare ν left.1 right.1 ≠ .gt
  "\x7b\"adapterId\":\"hubspot_contact\",\"properties\":" ++ propertiesText properties ++
    ",\"recordId\":" ++ jsonQuote content.recordId ++ "\x7d"

structure DeliveryContext where
  workspaceId : String
  occurredAt : String
  now : Int
  deriving Repr, DecidableEq

structure PreparedWriteback where
  payload : WritebackPayload
  payloadFingerprint : String
  deriving Repr, DecidableEq

def writebackContent (grid : Grid ν) (rowId : String) (destination : WritebackDestination ν) :
    Except StoreError WritebackContent := do
  requireThat destination.accepted .request
  requireThat (shouldQueueWriteback ((mappedCells grid rowId destination).map Cell.status))
    (.conflict "Wait for mapped cells to finish before writing this row back.")
  let recordId ← hubSpotRecordId (cellValueOf grid rowId destination.recordIdColumnId)
  let properties ← writebackProperties grid rowId destination.fieldMappings
  return ⟨recordId, properties⟩

def writebackPayload (context : DeliveryContext) (deliveryId : String) (content : WritebackContent) (row : Row) :
    WritebackPayload where
  deliveryId := deliveryId
  occurredAt := context.occurredAt
  properties := content.properties
  recordId := content.recordId
  rowId := row.id
  rowVersion := row.version
  tableId := row.tableId
  workspaceId := context.workspaceId

def prepareSqliteWritebackDelivery (grid : Grid ν) (context : DeliveryContext) (deliveryId : String)
    (destination : WritebackDestination ν) (row : Row) : Except StoreError PreparedWriteback := do
  let content ← writebackContent grid row.id destination
  let payload := writebackPayload context deliveryId content row
  requireThat payload.accepted .request
  return ⟨payload, ConnectorRuntime.sha256 ν (content.text ν)⟩

end Writeback

structure WritebackDelivery (ν : Type) where
  id : String
  destinationId : String
  tableId : String
  rowId : String
  rowVersion : Nat
  triggerMode : TriggerMode
  filterTreeSnapshot : Option (GridViewFilterGroup ν)
  payload : WritebackPayload
  payloadFingerprint : String
  status : DeliveryStatus := .queued
  attempt : Nat := 0
  responseStatus : Option Nat := none
  errorCode : Option String := none
  errorMessage : Option String := none
  startedAt : Option Int := none
  finishedAt : Option Int := none

instance {ν : Type} : Keyed (WritebackDelivery ν) String := ⟨WritebackDelivery.id⟩

def WritebackDelivery.automaticFor {ν : Type} (destinationId rowId : String) (delivery : WritebackDelivery ν) : Bool :=
  delivery.triggerMode = .rowSettled && delivery.destinationId = destinationId && delivery.rowId = rowId

/-- The indexes `writeback_deliveries_settlement_unique` and
`writeback_deliveries_automatic_payload_unique` already have such a delivery. -/
def WritebackDelivery.conflicts {ν : Type} (deliveries : Table (WritebackDelivery ν)) (delivery : WritebackDelivery ν) :
    Bool :=
  delivery.triggerMode = .rowSettled && deliveries.records.any fun existing =>
    existing.automaticFor delivery.destinationId delivery.rowId &&
      (existing.rowVersion = delivery.rowVersion || existing.payloadFingerprint = delivery.payloadFingerprint)

def MAXIMUM_WEBHOOK_PAYLOAD_BYTES : Nat := 512 * 1024

structure WebhookCell (ν : Type) where
  columnId : String
  name : String
  status : CellStatus
  value : CellValue ν

structure WebhookRowSnapshot (ν : Type) where
  cells : List (WebhookCell ν)
  rowId : String
  rowVersion : Nat
  tableId : String
  tableName : String

structure WebhookPayload (ν : Type) where
  snapshot : WebhookRowSnapshot ν
  deliveryId : String
  occurredAt : String
  triggerMode : TriggerMode
  workspaceId : String

section Webhook

variable {ν : Type} [JsRuntime ν]

def WebhookCell.stringify (cell : WebhookCell ν) : String :=
  "\x7b\"columnId\":" ++ jsonQuote cell.columnId ++ ",\"name\":" ++ jsonQuote cell.name ++
    ",\"status\":" ++ jsonQuote cell.status.name ++ ",\"value\":\x7b\"type\":" ++
    jsonQuote cell.value.type.name ++ ",\"value\":" ++ cell.value.stringifyValue ++ "\x7d\x7d"

/-- `JSON.stringify(payload)`. -/
def WebhookPayload.stringify (payload : WebhookPayload ν) : String :=
  "\x7b\"data\":\x7b\"row\":\x7b\"cells\":[" ++
    ",".intercalate (payload.snapshot.cells.map WebhookCell.stringify) ++
    "],\"id\":" ++ jsonQuote payload.snapshot.rowId ++ ",\"version\":" ++ toString payload.snapshot.rowVersion ++
    "\x7d,\"table\":\x7b\"id\":" ++ jsonQuote payload.snapshot.tableId ++ ",\"name\":" ++
    jsonQuote payload.snapshot.tableName ++ "\x7d\x7d,\"deliveryId\":" ++ jsonQuote payload.deliveryId ++
    ",\"event\":\"row.delivered\",\"occurredAt\":" ++ jsonQuote payload.occurredAt ++
    ",\"trigger\":\x7b\"mode\":" ++ jsonQuote payload.triggerMode.name ++ ",\"rowVersion\":" ++
    toString payload.snapshot.rowVersion ++ "\x7d,\"version\":1,\"workspaceId\":" ++
    jsonQuote payload.workspaceId ++ "\x7d"

/-- `z.string().min(1).max(120)`. -/
def isShortName (name : String) : Bool :=
  name ≠ "" && utf16Length name ≤ 120

/-- What `webhookPayloadSchema` asks of a payload. -/
def WebhookPayload.accepted (payload : WebhookPayload ν) : Bool :=
  payload.snapshot.cells.length ≤ 500 &&
    payload.snapshot.cells.all (fun cell => isShortName cell.name && cell.value.accepted) &&
    1 ≤ payload.snapshot.rowVersion && isShortName payload.snapshot.tableName &&
    payload.stringify.utf8ByteSize ≤ MAXIMUM_WEBHOOK_PAYLOAD_BYTES

def webhookCell (grid : Grid ν) (rowId : String) (column : Column ν) : WebhookCell ν where
  columnId := column.id
  name := column.name
  status := ((grid.cells rowId column.id).map Cell.status).getD .idle
  value := deserializeSqliteCellValue (grid.storedValue rowId column.id)

def currentRow (grid : Grid ν) (rowId tableId : String) (rowVersion : Nat) : Option Row :=
  (grid.rows.get? rowId).filter fun row =>
    row.tableId = tableId && row.version = rowVersion && row.archivedAt.isNone &&
      (grid.dataTables.get? tableId).any fun table => table.archivedAt.isNone

/-- `loadWebhookRowSnapshot` of a row in use. -/
def webhookRowSnapshot (grid : Grid ν) (row : Row) (tableName : String) : WebhookRowSnapshot ν where
  cells := (grid.columns.records.filter fun column =>
    column.tableId = row.tableId && column.archivedAt.isNone).map (webhookCell grid row.id)
  rowId := row.id
  rowVersion := row.version
  tableId := row.tableId
  tableName := tableName

end Webhook

structure WebhookDelivery (ν : Type) where
  id : String
  destinationId : String
  tableId : String
  rowId : String
  rowVersion : Nat
  triggerMode : TriggerMode
  payload : WebhookPayload ν
  status : DeliveryStatus := .queued
  attempt : Nat := 0
  responseStatus : Option Nat := none
  errorCode : Option String := none
  errorMessage : Option String := none
  startedAt : Option Int := none
  finishedAt : Option Int := none

instance {ν : Type} : Keyed (WebhookDelivery ν) String := ⟨WebhookDelivery.id⟩

/-- The index `webhook_deliveries_settlement_unique` already has such a delivery. -/
def WebhookDelivery.conflicts {ν : Type} (deliveries : Table (WebhookDelivery ν)) (delivery : WebhookDelivery ν) : Bool :=
  delivery.triggerMode = .rowSettled && deliveries.records.any fun existing =>
    existing.triggerMode = .rowSettled && existing.destinationId = delivery.destinationId &&
      existing.rowId = delivery.rowId && existing.rowVersion = delivery.rowVersion

structure DeliveryWorkspace (ν : Type) where
  db : Database ν
  webhookDeliveries : Table (WebhookDelivery ν)
  writebackDeliveries : Table (WritebackDelivery ν)

end ByokGrid
