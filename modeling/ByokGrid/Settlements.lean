import ByokGrid.Deliveries

/-! The settlement of a changed row: first the connectors which depend on the
change are queued, and once none is left to run the row is delivered. -/

namespace ByokGrid

structure SettlementLimits where
  maximumAutomaticRuns : Nat := 10
  maximumAutomaticWritebacks : Nat := 5
  runs : 1 ≤ maximumAutomaticRuns := by decide
  writebacks : 1 ≤ maximumAutomaticWritebacks := by decide

structure SettlementStamp where
  context : DeliveryContext
  tableName : String
  runId : String → String
  runEventId : String → String
  writebackId : String → String
  writebackEventId : String → String
  webhookId : String → String
  webhookEventId : String → String

section Writebacks

variable {ν : Type} [JsRuntime ν] [ConnectorRuntime ν] [NumberComparison ν]

structure SettledRow where
  row : Row
  changedColumnIds : List String

structure WritebackCandidate (ν : Type) where
  destination : WritebackDestination ν
  prepared : PreparedWriteback

def WritebackDestination.selects (destination : WritebackDestination ν) (grid : Grid ν) (settled : SettledRow) : Bool :=
  (settled.changedColumnIds.any fun columnId => columnId ∈ destination.relevantColumnIds) &&
    destination.filterTree.matches grid settled.row.id

def leaveOutUnready {α : Type} : Except StoreError α → Except StoreError (Option α)
  | .ok value => .ok (some value)
  | .error (.conflict _) | .error (.validation _) => .ok none
  | .error error => .error error

def writebackCandidates (grid : Grid ν) (settled : SettledRow) (stamp : SettlementStamp) :
    List (WritebackDestination ν) → Except StoreError (List (WritebackCandidate ν))
  | [] => .ok []
  | destination :: destinations =>
    if destination.selects grid settled then do
      let prepared ← leaveOutUnready (prepareSqliteWritebackDelivery grid stamp.context
        (stamp.writebackId destination.id) destination settled.row)
      let candidates ← writebackCandidates grid settled stamp destinations
      return (prepared.map (WritebackCandidate.mk destination)).toList ++ candidates
    else writebackCandidates grid settled stamp destinations

def WritebackCandidate.delivery (candidate : WritebackCandidate ν) (row : Row) (stamp : SettlementStamp) :
    WritebackDelivery ν where
  id := stamp.writebackId candidate.destination.id
  destinationId := candidate.destination.id
  tableId := row.tableId
  rowId := row.id
  rowVersion := row.version
  triggerMode := .rowSettled
  filterTreeSnapshot := some candidate.destination.filterTree
  payload := candidate.prepared.payload
  payloadFingerprint := candidate.prepared.payloadFingerprint

def WritebackDelivery.input (delivery : WritebackDelivery ν) : DeliveryInput :=
  ⟨delivery.id, delivery.destinationId, delivery.tableId⟩

abbrev Queued (ν : Type) := Nat × DeliveryWorkspace ν

def enqueueWritebackDelivery (workspace : DeliveryWorkspace ν) (delivery : WritebackDelivery ν)
    (eventId : String) (now : Int) : Except StoreError (DeliveryWorkspace ν) := do
  let events ← requireSome (workspace.db.outbox.insert
    { id := eventId, payload := .writebackDeliveryRequested delivery.input, createdAt := now })
    (.constraint "outbox_events_id")
  return { workspace with db := { workspace.db with outbox := events } }

/-- `insert … on conflict do nothing`, with the event of a new delivery. -/
def queueWriteback (candidate : WritebackCandidate ν) (row : Row) (stamp : SettlementStamp) (state : Queued ν) :
    Except StoreError (Queued ν) :=
  let delivery := candidate.delivery row stamp
  if delivery.conflicts state.2.writebackDeliveries then .ok state
  else
    match state.2.writebackDeliveries.insert delivery with
    | none => .ok state
    | some deliveries => do
      let workspace ← enqueueWritebackDelivery { state.2 with writebackDeliveries := deliveries } delivery
        (stamp.writebackEventId delivery.destinationId) stamp.context.now
      return (state.1 + 1, workspace)

def queueWritebacks (candidates : List (WritebackCandidate ν)) (row : Row) (stamp : SettlementStamp) :
    List String → Queued ν → Except StoreError (Queued ν)
  | [], state => .ok state
  | destinationId :: destinationIds, state =>
    match candidates.find? fun candidate => candidate.destination.id = destinationId with
    | none => queueWritebacks candidates row stamp destinationIds state
    | some candidate => do
      let next ← queueWriteback candidate row stamp state
      queueWritebacks candidates row stamp destinationIds next

def orderedWritebacks (db : Database ν) (tableId : String) : List (WritebackDestination ν) :=
  (automaticWritebacks db tableId).insertionSort fun left right => left.createdAt ≤ right.createdAt

def queueSettledSqliteWritebackDeliveries (workspace : DeliveryWorkspace ν) (settled : SettledRow) (limit : Nat)
    (stamp : SettlementStamp) : Except StoreError (Except Nat (Queued ν)) :=
  match currentRow workspace.db.grid settled.row.id settled.row.tableId settled.row.version with
  | none => .ok (.ok (0, workspace))
  | some _ => do
    let destinations := orderedWritebacks workspace.db settled.row.tableId
    requireThat (destinations.length ≤ MAXIMUM_WRITEBACK_DESTINATIONS_PER_TABLE)
      (.failure "The table exceeds the writeback destination limit.")
    let candidates ← writebackCandidates workspace.db.grid settled stamp destinations
    match decideAutomaticFanout (candidates.map fun candidate => candidate.destination.id) limit with
    | .error count => return .error count
    | .ok destinationIds => do
      let queued ← queueWritebacks candidates settled.row stamp destinationIds (0, workspace)
      return .ok queued

end Writebacks

section Webhooks

variable {ν : Type} [JsRuntime ν]

def orderedWebhooks (db : Database ν) (tableId : String) : List WebhookDestination :=
  (automaticWebhooks db tableId).insertionSort fun left right => left.createdAt ≤ right.createdAt

def buildWebhookPayload (snapshot : WebhookRowSnapshot ν) (stamp : SettlementStamp) (destinationId : String) :
    WebhookPayload ν where
  snapshot := snapshot
  deliveryId := stamp.webhookId destinationId
  occurredAt := stamp.context.occurredAt
  triggerMode := .rowSettled
  workspaceId := stamp.context.workspaceId

def queueWebhook (snapshot : WebhookRowSnapshot ν) (stamp : SettlementStamp) (destination : WebhookDestination)
    (state : Queued ν) : Except StoreError (Queued ν) := do
  let payload := buildWebhookPayload snapshot stamp destination.id
  requireThat payload.accepted .request
  let delivery : WebhookDelivery ν :=
    { id := stamp.webhookId destination.id
      destinationId := destination.id
      tableId := snapshot.tableId
      rowId := snapshot.rowId
      rowVersion := snapshot.rowVersion
      triggerMode := .rowSettled
      payload := payload }
  if delivery.conflicts state.2.webhookDeliveries then return state
  else
    match state.2.webhookDeliveries.insert delivery with
    | none => return state
    | some deliveries => do
      let events ← requireSome (state.2.db.outbox.insert
        { id := stamp.webhookEventId destination.id
          payload := .webhookDeliveryRequested ⟨delivery.id, delivery.destinationId, delivery.tableId⟩
          createdAt := stamp.context.now }) (.constraint "outbox_events_id")
      return (state.1 + 1, { state.2 with
        db := { state.2.db with outbox := events }
        webhookDeliveries := deliveries })

def queueWebhooks (snapshot : WebhookRowSnapshot ν) (stamp : SettlementStamp) :
    List WebhookDestination → Queued ν → Except StoreError (Queued ν)
  | [], state => .ok state
  | destination :: destinations, state => do
    let next ← queueWebhook snapshot stamp destination state
    queueWebhooks snapshot stamp destinations next

def queueSettledSqliteWebhookDeliveries (workspace : DeliveryWorkspace ν) (row : Row) (stamp : SettlementStamp) :
    Except StoreError (Queued ν) :=
  match currentRow workspace.db.grid row.id row.tableId row.version with
  | none => .ok (0, workspace)
  | some _ => queueWebhooks (webhookRowSnapshot workspace.db.grid row stamp.tableName) stamp
      (orderedWebhooks workspace.db row.tableId) (0, workspace)

end Webhooks

inductive SettlementResultStatus where
  | failed
  | skipped
  | succeeded
  deriving Repr, DecidableEq

structure SettlementResult where
  queuedDeliveryCount : Nat
  queuedRunCount : Nat
  status : SettlementResultStatus
  deriving Repr, DecidableEq

section Updates

variable {ν : Type}

def updateSettlements (db : Database ν) (p : RowSettlement → Bool) (f : RowSettlement → RowSettlement)
    (hf : KeepsKey f) : Database ν :=
  { db with rowSettlements := db.rowSettlements.modify p f hf }

def startSettlement (now : Int) (settlement : RowSettlement) : RowSettlement :=
  { settlement with errorMessage := none, startedAt := some now, status := .running }

def skipSettlement (now : Int) (settlement : RowSettlement) : RowSettlement :=
  { settlement with finishedAt := some now, status := .skipped }

def consumeSettlement (consumedById : String) (now : Int) (settlement : RowSettlement) : RowSettlement :=
  { settlement with consumedById := some consumedById, finishedAt := some now, status := .skipped }

def failSettlement (errorMessage : String) (now : Int) (settlement : RowSettlement) : RowSettlement :=
  { settlement with
    consumedById := some settlement.id
    errorMessage := some errorMessage
    finishedAt := some now
    status := .failed }

def succeedWithRuns (changedColumnIds : List String) (queuedRunCount : Nat) (now : Int) (settlement : RowSettlement) :
    RowSettlement :=
  { settlement with
    changedColumnIds := changedColumnIds
    consumedById := none
    finishedAt := some now
    queuedRunCount := queuedRunCount
    status := .succeeded }

def succeedWithDeliveries (queuedDeliveryCount : Nat) (now : Int) (settlement : RowSettlement) : RowSettlement :=
  { settlement with
    consumedById := some settlement.id
    finishedAt := some now
    queuedDeliveryCount := queuedDeliveryCount
    status := .succeeded }

def markSettlementSkipped (db : Database ν) (settlementId : String) (now : Int) : Database ν :=
  updateSettlements db (fun settlement => settlement.id = settlementId) (skipSettlement now) ⟨fun _ => rfl⟩

def consumeCandidateSettlements (db : Database ν) (candidateIds : List String) (consumedById : String) (now : Int) :
    Database ν :=
  updateSettlements db (fun settlement => settlement.id ∈ candidateIds) (consumeSettlement consumedById now)
    ⟨fun _ => rfl⟩

def settlementCandidates (db : Database ν) (settlement : RowSettlement) : List RowSettlement :=
  db.rowSettlements.records.filter fun candidate =>
    candidate.rowId = settlement.rowId && candidate.tableId = settlement.tableId &&
      candidate.rowVersion ≤ settlement.rowVersion && candidate.consumedById.isNone

def changedColumns (candidates : List RowSettlement) : List String :=
  sortStrings (distinct (candidates.flatMap RowSettlement.changedColumnIds))

def undispatchedColumns (candidates : List RowSettlement) : List String :=
  changedColumns (candidates.filter fun candidate => candidate.queuedRunCount = 0)

def automaticColumnIds (db : Database ν) (tableId : String) (changedColumnIds : List String) : List String :=
  distinct (((dependentConnectors db tableId changedColumnIds).filter Column.automatic).map Column.id)

def activeCell (grid : Grid ν) (rowId columnId : String) : Bool :=
  (grid.cells rowId columnId).any fun cell => cell.status.active

def rowActive (grid : Grid ν) (rowId tableId : String) : Bool :=
  grid.columns.records.any fun column => column.tableId = tableId && activeCell grid rowId column.id

end Updates

section Process

variable {ν : Type} [JsRuntime ν] [ConnectorRuntime ν] [NumberComparison ν]

def DeliveryWorkspace.withDatabase (workspace : DeliveryWorkspace ν) (db : Database ν) : DeliveryWorkspace ν :=
  { workspace with db := db }

def skipWith (workspace : DeliveryWorkspace ν) (settlementId : String) (now : Int) :
    SettlementResult × DeliveryWorkspace ν :=
  (⟨0, 0, .skipped⟩, workspace.withDatabase (markSettlementSkipped workspace.db settlementId now))

def failWith (workspace : DeliveryWorkspace ν) (candidateIds : List String) (settlementId message : String) (now : Int) :
    SettlementResult × DeliveryWorkspace ν :=
  let consumed := consumeCandidateSettlements workspace.db candidateIds settlementId now
  (⟨0, 0, .failed⟩, workspace.withDatabase (updateSettlements consumed (fun settlement => settlement.id = settlementId)
    (failSettlement message now) ⟨fun _ => rfl⟩))

def fanoutMessage (what : String) (count limit : Nat) : String :=
  "Automatic " ++ what ++ " fan-out of " ++ toString count ++ " exceeds the per-row limit of " ++ toString limit ++ "."

def dependentInput (settlement : RowSettlement) (stamp : SettlementStamp) (columnId : String) : QueueAutomatically where
  columnId := columnId
  rowId := settlement.rowId
  tableId := settlement.tableId
  runId := stamp.runId columnId
  eventId := stamp.runEventId columnId
  now := stamp.context.now

def queueDependents (settlement : RowSettlement) (stamp : SettlementStamp) :
    List String → Database ν → Except StoreError (Database ν)
  | [], db => .ok db
  | columnId :: columnIds, db => do
    let queued ← queueAutomaticSqliteEnrichmentCellRunInTransaction db (dependentInput settlement stamp columnId)
    queueDependents settlement stamp columnIds queued.2

def settleWithRuns (workspace : DeliveryWorkspace ν) (settlement : RowSettlement) (candidates : List RowSettlement)
    (columnIds : List String) (stamp : SettlementStamp) :
    Except StoreError (SettlementResult × DeliveryWorkspace ν) := do
  let queued ← queueDependents settlement stamp columnIds workspace.db
  let others := (candidates.map RowSettlement.id).filter fun id => id ≠ settlement.id
  let consumed := consumeCandidateSettlements queued others settlement.id stamp.context.now
  return (⟨0, columnIds.length, .succeeded⟩,
    workspace.withDatabase (updateSettlements consumed (fun candidate => candidate.id = settlement.id)
      (succeedWithRuns (changedColumns candidates) columnIds.length stamp.context.now) ⟨fun _ => rfl⟩))

def settleWithDeliveries (workspace : DeliveryWorkspace ν) (row : Row) (settlement : RowSettlement)
    (candidates : List RowSettlement) (limits : SettlementLimits) (stamp : SettlementStamp) :
    Except StoreError (SettlementResult × DeliveryWorkspace ν) := do
  let candidateIds := candidates.map RowSettlement.id
  let writebacks ← queueSettledSqliteWritebackDeliveries workspace ⟨row, changedColumns candidates⟩
    limits.maximumAutomaticWritebacks stamp
  match writebacks with
  | .error count =>
    return failWith workspace candidateIds settlement.id
      (fanoutMessage "writeback" count limits.maximumAutomaticWritebacks) stamp.context.now
  | .ok written => do
    let hooked ← queueSettledSqliteWebhookDeliveries written.2 row stamp
    let queuedDeliveryCount := written.1 + hooked.1
    let consumed := consumeCandidateSettlements hooked.2.db candidateIds settlement.id stamp.context.now
    return (⟨queuedDeliveryCount, 0, .succeeded⟩,
      hooked.2.withDatabase (updateSettlements consumed (fun candidate => candidate.id = settlement.id)
        (succeedWithDeliveries queuedDeliveryCount stamp.context.now) ⟨fun _ => rfl⟩))

def settleCurrentRow (workspace : DeliveryWorkspace ν) (row : Row) (settlement : RowSettlement)
    (limits : SettlementLimits) (stamp : SettlementStamp) :
    Except StoreError (SettlementResult × DeliveryWorkspace ν) :=
  let candidates := settlementCandidates workspace.db settlement
  let columnIds := automaticColumnIds workspace.db settlement.tableId (undispatchedColumns candidates)
  if columnIds.any (activeCell workspace.db.grid settlement.rowId) then
    .ok (skipWith workspace settlement.id stamp.context.now)
  else
    match decideAutomaticFanout columnIds limits.maximumAutomaticRuns with
    | .error count => .ok (failWith workspace (candidates.map RowSettlement.id) settlement.id
        (fanoutMessage "enrichment" count limits.maximumAutomaticRuns) stamp.context.now)
    | .ok [] =>
      if rowActive workspace.db.grid settlement.rowId settlement.tableId then
        .ok (skipWith workspace settlement.id stamp.context.now)
      else settleWithDeliveries workspace row settlement candidates limits stamp
    | .ok (columnId :: columnIds) => settleWithRuns workspace settlement candidates (columnId :: columnIds) stamp

def processSqliteRowSettlement (workspace : DeliveryWorkspace ν) (input : RowSettlementInput)
    (limits : SettlementLimits) (stamp : SettlementStamp) :
    Except StoreError (SettlementResult × DeliveryWorkspace ν) := do
  let row ← requireSome ((workspace.db.grid.rows.get? input.rowId).filter fun row => row.tableId = input.tableId)
    (.failure "The settled row does not exist.")
  let settlement ← requireSome ((workspace.db.rowSettlements.get? input.settlementId).filter fun settlement =>
    settlement.rowId = input.rowId && settlement.rowVersion = input.rowVersion && settlement.tableId = input.tableId)
    (.failure "The row settlement does not exist.")
  match settlement.status with
  | .succeeded => return (⟨settlement.queuedDeliveryCount, settlement.queuedRunCount, .succeeded⟩, workspace)
  | .skipped => return (⟨0, 0, .skipped⟩, workspace)
  | .failed => .error (.failure "The row settlement has permanently failed.")
  | .queued | .running =>
    let started := workspace.withDatabase (updateSettlements workspace.db
      (fun candidate => candidate.id = settlement.id) (startSettlement stamp.context.now) ⟨fun _ => rfl⟩)
    if row.archivedAt.isSome ∨ row.version ≠ input.rowVersion then
      return skipWith started settlement.id stamp.context.now
    else settleCurrentRow started row settlement limits stamp

structure SettlementFailure where
  settlementId : String
  errorMessage : String
  retrying : Bool
  now : Int
  deriving Repr, DecidableEq

def reportSettlement (failure : SettlementFailure) (settlement : RowSettlement) : RowSettlement :=
  { settlement with
    errorMessage := some (sliceUnits 500 (spaceBreaks failure.errorMessage))
    finishedAt := if failure.retrying then none else some failure.now
    status := if failure.retrying then .queued else .failed }

def setSqliteRowSettlementWorkerFailure (db : Database ν) (failure : SettlementFailure) : Database ν :=
  updateSettlements db (fun settlement => settlement.id = failure.settlementId &&
    (settlement.status = .queued || settlement.status = .running)) (reportSettlement failure) ⟨fun _ => rfl⟩

end Process

end ByokGrid
