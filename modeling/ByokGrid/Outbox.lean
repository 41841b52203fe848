import ByokGrid.Store
import Mathlib.Data.List.Sort

/-! The outbox: events written in the transaction of the change they announce,
leased by dispatchers until they are published or scheduled again. -/

namespace ByokGrid

structure CellRunInput where
  columnId : String
  credentialId : Option String
  inputFingerprint : String
  rowId : String
  runId : String
  deriving Repr, DecidableEq

structure RowSettlementInput where
  rowId : String
  rowVersion : Nat
  settlementId : String
  tableId : String
  deriving Repr, DecidableEq

structure CsvImportInput where
  importJobId : String
  tableId : String
  deriving Repr, DecidableEq

structure IngestionBatchInput where
  batchId : String
  endpointId : String
  tableId : String
  deriving Repr, DecidableEq

structure SourceRunInput where
  sourceId : String
  sourceRunId : String
  tableId : String
  deriving Repr, DecidableEq

structure DeliveryInput where
  deliveryId : String
  destinationId : String
  tableId : String
  deriving Repr, DecidableEq

/-- The payload of an event, by its event type. The last one stands for the
events of other readers. -/
inductive OutboxPayload where
  | cellRunRequested (input : CellRunInput)
  | bulkRunRequested (batchId : String)
  | csvImportRequested (input : CsvImportInput)
  | ingestionBatchRequested (input : IngestionBatchInput)
  | rowSettled (input : RowSettlementInput)
  | sourceRunRequested (input : SourceRunInput)
  | webhookDeliveryRequested (input : DeliveryInput)
  | writebackDeliveryRequested (input : DeliveryInput)
  | workflowRunRequested (runId : String)
  | analytics (eventType aggregateId : String)
  deriving Repr, DecidableEq

def OutboxPayload.eventType : OutboxPayload → String
  | .cellRunRequested _ => "cell.run_requested"
  | .bulkRunRequested _ => "column.bulk_run_requested"
  | .csvImportRequested _ => "table.csv_import_requested"
  | .ingestionBatchRequested _ => "table.ingestion_batch_requested"
  | .rowSettled _ => "table.row_settled"
  | .sourceRunRequested _ => "table.source_run_requested"
  | .webhookDeliveryRequested _ => "table.webhook_delivery_requested"
  | .writebackDeliveryRequested _ => "table.writeback_delivery_requested"
  | .workflowRunRequested _ => "workflow.run_requested"
  | .analytics eventType _ => eventType

def DISPATCHABLE_OUTBOX_EVENT_TYPES : List String :=
  ["cell.run_requested", "column.bulk_run_requested", "table.csv_import_requested",
    "table.ingestion_batch_requested", "table.row_settled", "table.source_run_requested",
    "table.webhook_delivery_requested", "table.writeback_delivery_requested", "workflow.run_requested"]

structure OutboxEvent where
  id : String
  payload : OutboxPayload
  createdAt : Int
  publishedAt : Option Int := none
  dispatchClaimId : Option String := none
  dispatchClaimedAt : Option Int := none
  dispatchAttempts : Nat := 0
  dispatchNextAttemptAt : Option Int := none
  dispatchLastError : Option String := none
  deriving Repr, DecidableEq

instance : Keyed OutboxEvent String := ⟨OutboxEvent.id⟩

abbrev Outbox := Table OutboxEvent

/-- `Math.max(30, Math.min(Math.trunc(leaseSeconds ?? 300), 3600))`. -/
def leaseMilliseconds (leaseSeconds : Option Int) : Int :=
  max 30 (min (leaseSeconds.getD 300) 3600) * 1000

structure ClaimOutboxInput where
  claimId : String
  eventTypes : List String := []
  leaseSeconds : Option Int := none
  limit : Option Int := none
  now : Int

def assertDispatchableEventTypes : List String → Except StoreError Unit
  | [] => .ok ()
  | eventType :: eventTypes => do
    requireThat (eventType ∈ DISPATCHABLE_OUTBOX_EVENT_TYPES)
      (.validation ("The outbox event type " ++ eventType ++ " cannot be dispatched."))
    assertDispatchableEventTypes eventTypes

def ClaimOutboxInput.claimedTypes (input : ClaimOutboxInput) : List String :=
  if input.eventTypes.isEmpty then DISPATCHABLE_OUTBOX_EVENT_TYPES else distinct input.eventTypes

def dispatchEligible (now staleBefore : Int) (eventTypes : List String) (event : OutboxEvent) : Bool :=
  event.payload.eventType ∈ eventTypes && event.publishedAt.isNone &&
    (event.dispatchNextAttemptAt.all fun at_ => at_ ≤ now) &&
    (event.dispatchClaimId.isNone || event.dispatchClaimedAt.any fun at_ => at_ < staleBefore)

def dispatchOrder (left right : OutboxEvent) : Bool :=
  left.createdAt < right.createdAt || (left.createdAt = right.createdAt && left.id ≤ right.id)

def claimSqliteOutboxEvents (outbox : Outbox) (input : ClaimOutboxInput) :
    Except StoreError (List OutboxEvent × Outbox) := do
  requireThat (isClaimId input.claimId) (.validation "The outbox claim identifier is invalid.")
  assertDispatchableEventTypes input.eventTypes
  let limit := (max 1 (min (input.limit.getD 10) 100)).toNat
  let eligible := dispatchEligible input.now (input.now - leaseMilliseconds input.leaseSeconds) input.claimedTypes
  let candidates := ((outbox.records.filter eligible).insertionSort fun l r => dispatchOrder l r).take limit
  let lease := fun event : OutboxEvent =>
    { event with
      dispatchAttempts := event.dispatchAttempts + 1
      dispatchClaimedAt := some input.now
      dispatchClaimId := some input.claimId
      dispatchLastError := none
      dispatchNextAttemptAt := none }
  let ids := candidates.map OutboxEvent.id
  -- the update finds every candidate again, so the check of the two counts cannot fail
  return (candidates.map lease,
    outbox.modify (fun event => event.id ∈ ids && eligible event) lease ⟨fun _ => rfl⟩)

/-- The condition of `completeSqliteOutboxEvent` and `retrySqliteOutboxEvent`. -/
def heldEvent (claimId eventId : String) (event : OutboxEvent) : Bool :=
  event.id = eventId && event.dispatchClaimId = some claimId && event.publishedAt.isNone

def completeSqliteOutboxEvent (outbox : Outbox) (claimId eventId : String) (publishedAt : Int) :
    Except StoreError Outbox := do
  requireThat (isClaimId claimId) (.validation "The outbox claim identifier is invalid.")
  requireThat (outbox.records.any (heldEvent claimId eventId))
    (.conflict "The outbox dispatch lease expired before completion.")
  return outbox.modify (heldEvent claimId eventId) (fun event =>
    { event with
      dispatchClaimedAt := none
      dispatchClaimId := none
      dispatchLastError := none
      dispatchNextAttemptAt := none
      publishedAt := some publishedAt }) ⟨fun _ => rfl⟩

def safeDispatchError (message : String) : String :=
  sliceUnits 500 (spaceBreaks message)

def retrySqliteOutboxEvent (outbox : Outbox) (claimId eventId errorMessage : String) (retryAt : Int) :
    Except StoreError Outbox := do
  requireThat (isClaimId claimId) (.validation "The outbox claim identifier is invalid.")
  requireThat (outbox.records.any (heldEvent claimId eventId))
    (.conflict "The outbox dispatch lease expired before retry scheduling.")
  return outbox.modify (heldEvent claimId eventId) (fun event =>
    { event with
      dispatchClaimedAt := none
      dispatchClaimId := none
      dispatchLastError := some (safeDispatchError errorMessage)
      dispatchNextAttemptAt := some retryAt }) ⟨fun _ => rfl⟩

end ByokGrid
