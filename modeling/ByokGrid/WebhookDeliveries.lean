import ByokGrid.Writebacks

/-! The webhook deliveries an operator or a workflow step asks for, and the worker
which sends one. -/

namespace ByokGrid

structure QueueWebhook where
  deliveryId : String
  destinationId : String
  rowId : String
  tableId : String
  userId : String
  eventId : String
  deriving Repr, DecidableEq

structure QueueWorkflowWebhooks where
  batch : List WorkflowRowReference
  destinationId : String
  runId : String
  stepId : String
  deriving Repr, DecidableEq

/-- What `queueDelivery` is asked for. The event is written when a worker has to dispatch the delivery. -/
structure WebhookRequest where
  deliveryId : String
  destinationId : String
  rowId : String
  tableId : String
  dispatch : Bool
  eventId : String
  deriving Repr, DecidableEq

section Queue

variable {ν : Type} [JsRuntime ν]

def manualPayload (snapshot : WebhookRowSnapshot ν) (context : DeliveryContext) (deliveryId : String) :
    WebhookPayload ν where
  snapshot := snapshot
  deliveryId := deliveryId
  occurredAt := context.occurredAt
  triggerMode := .manual
  workspaceId := context.workspaceId

def requestedDelivery (input : WebhookRequest) (row : Row) (payload : WebhookPayload ν) : WebhookDelivery ν where
  id := input.deliveryId
  destinationId := input.destinationId
  tableId := input.tableId
  rowId := input.rowId
  rowVersion := row.version
  triggerMode := .manual
  payload := payload

def webhookScope (input : DeliveryInput) (delivery : WebhookDelivery ν) : Bool :=
  delivery.id = input.deliveryId && delivery.destinationId = input.destinationId && delivery.tableId = input.tableId

def WebhookRequest.input (input : WebhookRequest) : DeliveryInput :=
  ⟨input.deliveryId, input.destinationId, input.tableId⟩

def webhookTarget (db : Database ν) (input : WebhookRequest) : Except StoreError (WebhookDestination × Row) := do
  let destination ← requireSome ((db.webhookDestinations.get? input.destinationId).filter
    fun destination => destination.tableId = input.tableId)
    (.access "The row or webhook destination is not accessible.")
  let row ← requireSome ((db.grid.rows.get? input.rowId).filter
    fun row => row.tableId = destination.tableId && row.archivedAt.isNone)
    (.access "The row or webhook destination is not accessible.")
  return (destination, row)

def preparePayload (db : Database ν) (input : WebhookRequest) (target : WebhookDestination × Row)
    (context : DeliveryContext) (tableName : String) : Except StoreError (WebhookPayload ν) := do
  requireThat (target.1.status = .active) (.conflict "The webhook destination is paused.")
  requireThat ((db.grid.dataTables.get? input.tableId).any fun table => table.archivedAt.isNone)
    (.access "The row does not exist.")
  let payload := manualPayload (webhookRowSnapshot db.grid target.2 tableName) context input.deliveryId
  requireThat payload.accepted .request
  return payload

def insertRequested (workspace : DeliveryWorkspace ν) (input : WebhookRequest) (delivery : WebhookDelivery ν)
    (now : Int) : Except StoreError (WebhookDelivery ν × DeliveryWorkspace ν) :=
  match workspace.webhookDeliveries.insert delivery with
  | none => do
    let existing ← requireSome ((workspace.webhookDeliveries.records.find? (webhookScope input.input)).filter
      fun existing => existing.rowId = input.rowId) (.conflict "The delivery idempotency key is already in use.")
    return (existing, workspace)
  | some deliveries =>
    if input.dispatch then do
      let events ← requireSome (workspace.db.outbox.insert
        { id := input.eventId, payload := .webhookDeliveryRequested input.input, createdAt := now })
        (.constraint "outbox_events_id")
      return (delivery, { workspace with
        db := { workspace.db with outbox := events }
        webhookDeliveries := deliveries })
    else return (delivery, { workspace with webhookDeliveries := deliveries })

def queueDelivery (workspace : DeliveryWorkspace ν) (input : WebhookRequest) (context : DeliveryContext)
    (tableName : String) : Except StoreError (WebhookDelivery ν × DeliveryWorkspace ν) := do
  let target ← webhookTarget workspace.db input
  let payload ← preparePayload workspace.db input target context tableName
  insertRequested workspace input (requestedDelivery input target.2 payload) context.now

def QueueWebhook.request (input : QueueWebhook) : WebhookRequest where
  deliveryId := input.deliveryId
  destinationId := input.destinationId
  rowId := input.rowId
  tableId := input.tableId
  dispatch := true
  eventId := input.eventId

def queueSqliteWebhookDelivery (workspace : DeliveryWorkspace ν) (input : QueueWebhook) (context : DeliveryContext)
    (tableName : String) : Except StoreError (WebhookDelivery ν × DeliveryWorkspace ν) := do
  requireTablePermission workspace.db input.tableId input.userId .dataWrite
  queueDelivery workspace input.request context tableName

def deterministicDeliveryId (ν : Type) [ConnectorRuntime ν] (destinationId rowId runId stepId : String) : String :=
  let digest := ConnectorRuntime.sha256 ν (runId ++ "\x00" ++ stepId ++ "\x00" ++ destinationId ++ "\x00" ++ rowId)
  let digits := digest.toList.take 32
  uuidText ((digits.set 12 '5').set 16 (variantDigit (digits.getD 16 '0')))

def workflowRequest (ν : Type) [ConnectorRuntime ν] (input : QueueWorkflowWebhooks) (tableId rowId : String) :
    WebhookRequest where
  deliveryId := deterministicDeliveryId ν input.destinationId rowId input.runId input.stepId
  destinationId := input.destinationId
  rowId := rowId
  tableId := tableId
  dispatch := false
  eventId := ""

def queueWorkflowDeliveries [ConnectorRuntime ν] (input : QueueWorkflowWebhooks) (tableId : String)
    (context : DeliveryContext) (tableName : String) :
    List WorkflowRowReference → DeliveryWorkspace ν → Except StoreError (List DeliveryInput × DeliveryWorkspace ν)
  | [], workspace => .ok ([], workspace)
  | row :: rows, workspace => do
    let request := workflowRequest ν input tableId row.rowId
    let queued ← queueDelivery workspace request context tableName
    let rest ← queueWorkflowDeliveries input tableId context tableName rows queued.2
    return (request.input :: rest.1, rest.2)

def queueSqliteWorkflowWebhookDeliveries [ConnectorRuntime ν] (workspace : DeliveryWorkspace ν)
    (input : QueueWorkflowWebhooks) (context : DeliveryContext) (tableName : String) :
    Except StoreError (List DeliveryInput × DeliveryWorkspace ν) := do
  requireThat (input.batch.length ≤ MAXIMUM_WORKFLOW_ROW_BATCH_SIZE) .request
  let destination ← requireSome (workspace.db.webhookDestinations.get? input.destinationId)
    (.access "The webhook destination does not exist.")
  requireThat (destination.status = .active) (.conflict "The webhook destination is paused.")
  requireThat (input.batch.all fun row => row.tableId = destination.tableId)
    (.validation "A webhook step can only deliver rows from its destination table.")
  queueWorkflowDeliveries input destination.tableId context tableName input.batch workspace

end Queue

section Worker

variable {ν : Type}

def startWebhook (now : Int) (delivery : WebhookDelivery ν) : WebhookDelivery ν :=
  { delivery with
    attempt := delivery.attempt + 1
    errorCode := none
    errorMessage := none
    responseStatus := none
    startedAt := some (delivery.startedAt.getD now)
    status := .running }

def succeedWebhook (responseStatus : Nat) (now : Int) (delivery : WebhookDelivery ν) : WebhookDelivery ν :=
  { delivery with
    errorCode := none
    errorMessage := none
    finishedAt := some now
    responseStatus := some responseStatus
    status := .succeeded }

def failWebhook (failure : DeliveryFailure) (now : Int) (delivery : WebhookDelivery ν) : WebhookDelivery ν :=
  { delivery with
    errorCode := some failure.errorCode
    errorMessage := some (sliceUnits 500 (spaceBreaks failure.errorMessage))
    finishedAt := if failure.retrying then none else some now
    responseStatus := failure.responseStatus
    status := if failure.retrying then .queued else .failed }

def updateWebhooks (workspace : DeliveryWorkspace ν) (p : WebhookDelivery ν → Bool)
    (f : WebhookDelivery ν → WebhookDelivery ν) (hf : KeepsKey f) : DeliveryWorkspace ν :=
  { workspace with webhookDeliveries := workspace.webhookDeliveries.modify p f hf }

def markSqliteWebhookDeliveryRunning (workspace : DeliveryWorkspace ν) (input : DeliveryInput) (now : Int) :
    Except StoreError (DeliveryStart × DeliveryWorkspace ν) := do
  let delivery ← requireSome (workspace.webhookDeliveries.records.find? (webhookScope input))
    (.access "The delivery does not exist.")
  match delivery.status with
  | .succeeded => return (.succeeded, workspace)
  | .cancelled => return (.cancelled, workspace)
  | .failed =>
    .error (.conflict ("The webhook delivery cannot start from status " ++ delivery.status.name ++ "."))
  | .queued | .running =>
    return (.ready, updateWebhooks workspace (fun other => other.id = delivery.id) (startWebhook now) ⟨fun _ => rfl⟩)

def markSqliteWebhookDeliverySucceeded (workspace : DeliveryWorkspace ν) (input : DeliveryInput) (responseStatus : Nat)
    (now : Int) : Except StoreError (DeliveryWorkspace ν) := do
  let running := fun (delivery : WebhookDelivery ν) => webhookScope input delivery && delivery.status = .running
  requireThat (workspace.webhookDeliveries.records.any running)
    (.conflict "The webhook delivery is not running.")
  return updateWebhooks workspace running (succeedWebhook responseStatus now) ⟨fun _ => rfl⟩

def setSqliteWebhookDeliveryFailure (workspace : DeliveryWorkspace ν) (input : DeliveryInput)
    (failure : DeliveryFailure) (now : Int) : DeliveryWorkspace ν :=
  updateWebhooks workspace (fun delivery => webhookScope input delivery && delivery.status.active)
    (failWebhook failure now) ⟨fun _ => rfl⟩

end Worker

end ByokGrid
