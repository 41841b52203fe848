import ByokGrid.Database

/-! A change of a row moves its version, and queues a settlement when an
automatic destination or an automatic connector may have to follow. -/

namespace ByokGrid

section Watchers

variable {ν : Type} (db : Database ν) (tableId : String) (changedColumnIds : List String)

def dependentConnectors : List (Column ν) :=
  (db.grid.columnDependencies.records.filter fun d =>
    d.tableId = tableId && d.dependsOnColumnId ∈ changedColumnIds).filterMap fun d =>
      (db.grid.columns.get? d.columnId).filter fun column => column.tableId = tableId && column.kind = .connector

def Column.automatic (column : Column ν) : Bool :=
  column.configuration.connectorAction?.any fun configuration => configuration.runMode = .onChange

def automaticWebhooks : List WebhookDestination :=
  db.webhookDestinations.records.filter fun destination =>
    destination.tableId = tableId && destination.status = .active && destination.triggerMode = .rowSettled

def automaticWritebacks : List (WritebackDestination ν) :=
  db.writebackDestinations.records.filter fun destination =>
    destination.tableId = tableId && destination.status = .active && destination.triggerMode = .rowSettled

def hasRelevantAutomaticWriteback : Bool :=
  ((automaticWritebacks db tableId).take MAXIMUM_WRITEBACK_DESTINATIONS_PER_TABLE).any fun destination =>
    destination.relevantColumnIds.any fun columnId => columnId ∈ changedColumnIds

def pendingDeliverySettlement (rowId : String) (settlement : RowSettlement) : Bool :=
  settlement.rowId = rowId && settlement.tableId = tableId && settlement.status = .succeeded &&
    settlement.queuedRunCount > 0 && settlement.consumedById.isNone

def needsSettlement (rowId : String) : Bool :=
  !(automaticWebhooks db tableId).isEmpty || hasRelevantAutomaticWriteback db tableId changedColumnIds ||
    (dependentConnectors db tableId changedColumnIds).any Column.automatic ||
    db.rowSettlements.records.any (pendingDeliverySettlement tableId rowId)

end Watchers

structure RowMutation where
  changedColumnIds : List String
  rowId : String
  tableId : String
  deriving Repr, DecidableEq

structure MutationStamp where
  settlementId : String
  eventId : String
  now : Int
  deriving Repr, DecidableEq

section Record

variable {ν : Type}

def bumpRow (row : Row) : Row := { row with version := row.version + 1 }

def recordSqliteRowMutationAndMaybeQueueSettlement (db : Database ν) (input : RowMutation)
    (stamp : MutationStamp) : Except StoreError (Database ν) := do
  let row ← requireSome ((db.grid.rows.get? input.rowId).filter fun row => row.tableId = input.tableId)
    (.failure "The mutated row does not exist.")
  let rowVersion := row.version + 1
  let mutated : Database ν :=
    { db with
      grid := { db.grid with
        rows := db.grid.rows.modify (fun row => row.id = input.rowId && row.tableId = input.tableId)
          bumpRow ⟨fun _ => rfl⟩ } }
  let changedColumnIds := sortStrings (distinct input.changedColumnIds)
  if !needsSettlement db input.tableId changedColumnIds input.rowId then
    return mutated
  else if db.rowSettlements.records.any fun settlement =>
      settlement.rowId = input.rowId && settlement.rowVersion = rowVersion then
    return mutated
  else
    match db.rowSettlements.insert
      { id := stamp.settlementId
        tableId := input.tableId
        rowId := input.rowId
        rowVersion := rowVersion
        changedColumnIds := changedColumnIds } with
    | none => return mutated
    | some settlements =>
      let workerInput : RowSettlementInput :=
        { rowId := input.rowId, rowVersion := rowVersion, settlementId := stamp.settlementId,
          tableId := input.tableId }
      let events ← requireSome (db.outbox.insert
        { id := stamp.eventId, payload := .rowSettled workerInput, createdAt := stamp.now })
        (.constraint "outbox_events_id")
      return { mutated with rowSettlements := settlements, outbox := events }

end Record

end ByokGrid
