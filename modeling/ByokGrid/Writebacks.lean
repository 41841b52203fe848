import ByokGrid.Settlements

/-! The writebacks an operator asks for, and the worker which sends a delivery. -/

namespace ByokGrid

structure QueueWriteback where
  deliveryId : String
  destinationId : String
  rowId : String
  tableId : String
  userId : String
  eventId : String
  deriving Repr, DecidableEq

inductive DeliveryStart where
  | ready
  | succeeded
  | cancelled
  deriving Repr, DecidableEq

structure DeliveryFailure where
  errorCode : String
  errorMessage : String
  responseStatus : Option Nat
  retrying : Bool
  deriving Repr, DecidableEq

section Writebacks

variable {ν : Type}

def deliveryScope (input : DeliveryInput) (delivery : WritebackDelivery ν) : Bool :=
  delivery.id = input.deliveryId && delivery.destinationId = input.destinationId && delivery.tableId = input.tableId

def startDelivery (now : Int) (delivery : WritebackDelivery ν) : WritebackDelivery ν :=
  { delivery with
    attempt := delivery.attempt + 1
    errorCode := none
    errorMessage := none
    responseStatus := none
    startedAt := some (delivery.startedAt.getD now)
    status := .running }

def succeedDelivery (responseStatus : Nat) (now : Int) (delivery : WritebackDelivery ν) : WritebackDelivery ν :=
  { delivery with
    errorCode := none
    errorMessage := none
    finishedAt := some now
    responseStatus := some responseStatus
    status := .succeeded }

def failDelivery (failure : DeliveryFailure) (now : Int) (delivery : WritebackDelivery ν) : WritebackDelivery ν :=
  { delivery with
    errorCode := some failure.errorCode
    errorMessage := some (sliceUnits 500 (spaceBreaks failure.errorMessage))
    finishedAt := if failure.retrying then none else some now
    responseStatus := failure.responseStatus
    status := if failure.retrying then .queued else .failed }

def updateDeliveries (workspace : DeliveryWorkspace ν) (p : WritebackDelivery ν → Bool)
    (f : WritebackDelivery ν → WritebackDelivery ν) (hf : KeepsKey f) : DeliveryWorkspace ν :=
  { workspace with writebackDeliveries := workspace.writebackDeliveries.modify p f hf }

def markSqliteWritebackDeliveryRunning (workspace : DeliveryWorkspace ν) (input : DeliveryInput) (now : Int) :
    Except StoreError (DeliveryStart × DeliveryWorkspace ν) := do
  let delivery ← requireSome (workspace.writebackDeliveries.records.find? (deliveryScope input))
    (.access "The writeback delivery does not exist.")
  match delivery.status with
  | .succeeded => return (.succeeded, workspace)
  | .cancelled => return (.cancelled, workspace)
  | .failed =>
    .error (.conflict ("The writeback delivery cannot start from status " ++ delivery.status.name ++ "."))
  | .queued | .running =>
    return (.ready, updateDeliveries workspace (fun delivery => deliveryScope input delivery && delivery.status.active)
      (startDelivery now) ⟨fun _ => rfl⟩)

def markSqliteWritebackDeliverySucceeded (workspace : DeliveryWorkspace ν) (input : DeliveryInput) (responseStatus : Nat)
    (now : Int) : Except StoreError (DeliveryWorkspace ν) := do
  let running := fun (delivery : WritebackDelivery ν) => deliveryScope input delivery && delivery.status = .running
  requireThat (workspace.writebackDeliveries.records.any running)
    (.conflict "The writeback delivery is not running.")
  return updateDeliveries workspace running (succeedDelivery responseStatus now) ⟨fun _ => rfl⟩

def setSqliteWritebackDeliveryWorkerFailure (workspace : DeliveryWorkspace ν) (input : DeliveryInput)
    (failure : DeliveryFailure) (now : Int) : DeliveryWorkspace ν :=
  updateDeliveries workspace (fun delivery => deliveryScope input delivery && delivery.status.active)
    (failDelivery failure now) ⟨fun _ => rfl⟩

variable [JsRuntime ν] [ConnectorRuntime ν] [NumberComparison ν]

def assertSqliteWritebackTableAccess (db : Database ν) (tableId userId : String) : Except StoreError Unit :=
  requireThat
    ((db.grid.dataTables.get? tableId).any (fun table => table.archivedAt.isNone) &&
      (db.workspaceMembers.get? userId).isSome)
    (.access "The table is not accessible.")

def manualDelivery (input : QueueWriteback) (row : Row) (prepared : PreparedWriteback) : WritebackDelivery ν where
  id := input.deliveryId
  destinationId := input.destinationId
  tableId := input.tableId
  rowId := input.rowId
  rowVersion := row.version
  triggerMode := .manual
  filterTreeSnapshot := none
  payload := prepared.payload
  payloadFingerprint := prepared.payloadFingerprint

def insertManualDelivery (workspace : DeliveryWorkspace ν) (input : QueueWriteback) (destination : WritebackDestination ν)
    (row : Row) (context : DeliveryContext) : Except StoreError (WritebackDelivery ν × DeliveryWorkspace ν) := do
  requireThat (destination.status = .active) (.conflict "The writeback destination is paused.")
  let prepared ← prepareSqliteWritebackDelivery workspace.db.grid context input.deliveryId destination row
  let deliveries ← requireSome (workspace.writebackDeliveries.insert (manualDelivery input row prepared))
    (.conflict "The delivery idempotency key is already in use.")
  let queued ← enqueueWritebackDelivery { workspace with writebackDeliveries := deliveries }
    (manualDelivery input row prepared) input.eventId context.now
  return (manualDelivery input row prepared, queued)

def queueSqliteWritebackDelivery (workspace : DeliveryWorkspace ν) (input : QueueWriteback) (context : DeliveryContext) :
    Except StoreError (WritebackDelivery ν × DeliveryWorkspace ν) := do
  assertSqliteWritebackTableAccess workspace.db input.tableId input.userId
  let destination ← requireSome ((workspace.db.writebackDestinations.get? input.destinationId).filter
    fun destination => destination.tableId = input.tableId)
    (.access "The row or writeback destination is not accessible.")
  let row ← requireSome ((workspace.db.grid.rows.get? input.rowId).filter
    fun row => row.tableId = destination.tableId && row.archivedAt.isNone)
    (.access "The row or writeback destination is not accessible.")
  match workspace.writebackDeliveries.get? input.deliveryId with
  | some existing =>
    requireThat (existing.destinationId = input.destinationId && existing.rowId = input.rowId &&
      existing.tableId = input.tableId) (.conflict "The delivery idempotency key is already in use.")
    return (existing, workspace)
  | none => insertManualDelivery workspace input destination row context

end Writebacks

end ByokGrid
