import ByokGrid.Connectors
import ByokGrid.GridView
import ByokGrid.Outbox

/-! The tables around the grid: the runs of connector cells, the batches they
are queued in, and the settlements and destinations of changed rows. -/

namespace ByokGrid

inductive CellRunStatus where
  | queued
  | running
  | succeeded
  | failed
  | cancelled
  deriving Repr, DecidableEq

def CellRunStatus.active : CellRunStatus → Bool
  | .queued | .running => true
  | .succeeded | .failed | .cancelled => false

structure CellRun (ν : Type) where
  id : String
  rowId : String
  columnId : String
  credentialId : Option String
  connectorId : String
  connectorVersion : String := "1.0.0"
  artifactSha256 : Option String := none
  publisherKeyIds : List String := []
  actionId : String
  input : String
  inputFingerprint : String
  allowedHosts : List String
  status : CellRunStatus := .queued
  attempt : Nat := 0
  output : Option (Json ν) := none
  errorCode : Option String := none
  errorMessage : Option String := none
  startedAt : Option Int := none
  finishedAt : Option Int := none

instance {ν : Type} : Keyed (CellRun ν) String := ⟨CellRun.id⟩

def CellRun.identity {ν : Type} (run : CellRun ν) : ConnectorExecutionIdentity :=
  ⟨run.artifactSha256, run.connectorId, run.connectorVersion, run.publisherKeyIds⟩

inductive BulkRunBatchStatus where
  | queued
  | running
  | completed
  | failed
  | cancelled
  deriving Repr, DecidableEq

structure BulkRunBatch where
  id : String
  tableId : String
  columnId : String
  createdByUserId : Option String
  mode : BulkRunMode
  selectedRowCount : Nat
  queuedRowCount : Nat := 0
  skippedRowCount : Nat := 0
  status : BulkRunBatchStatus := .queued
  errorMessage : Option String := none
  cancelledByUserId : Option String := none
  cancelledAt : Option Int := none
  startedAt : Option Int := none
  finishedAt : Option Int := none
  deriving Repr, DecidableEq

instance : Keyed BulkRunBatch String := ⟨BulkRunBatch.id⟩

inductive BulkRunItemStatus where
  | pending
  | queued
  | skipped
  deriving Repr, DecidableEq

structure BulkRunItem where
  batchId : String
  rowId : String
  sequence : Nat
  status : BulkRunItemStatus := .pending
  runId : Option String := none
  errorMessage : Option String := none
  deriving Repr, DecidableEq

instance : Keyed BulkRunItem (String × String) := ⟨fun item => (item.batchId, item.rowId)⟩

inductive RowSettlementStatus where
  | queued
  | running
  | succeeded
  | failed
  | skipped
  deriving Repr, DecidableEq

structure RowSettlement where
  id : String
  tableId : String
  rowId : String
  rowVersion : Nat
  changedColumnIds : List String
  consumedById : Option String := none
  status : RowSettlementStatus := .queued
  queuedDeliveryCount : Nat := 0
  queuedRunCount : Nat := 0
  errorMessage : Option String := none
  startedAt : Option Int := none
  finishedAt : Option Int := none
  deriving Repr, DecidableEq

instance : Keyed RowSettlement String := ⟨RowSettlement.id⟩

inductive DestinationStatus where
  | active
  | paused
  deriving Repr, DecidableEq

inductive TriggerMode where
  | manual
  | rowSettled
  deriving Repr, DecidableEq

structure WebhookDestination where
  id : String
  tableId : String
  status : DestinationStatus := .active
  triggerMode : TriggerMode
  createdAt : Int
  deriving Repr, DecidableEq

instance : Keyed WebhookDestination String := ⟨WebhookDestination.id⟩

structure WritebackFieldMapping where
  columnId : String
  propertyName : String
  deriving Repr, DecidableEq

structure WritebackDestination (ν : Type) where
  id : String
  tableId : String
  credentialId : String
  name : String
  recordIdColumnId : String
  fieldMappings : List WritebackFieldMapping
  filterTree : GridViewFilterGroup ν
  status : DestinationStatus := .active
  triggerMode : TriggerMode
  createdAt : Int

instance {ν : Type} : Keyed (WritebackDestination ν) String := ⟨WritebackDestination.id⟩

def MAXIMUM_WRITEBACK_DESTINATIONS_PER_TABLE : Nat := 20

def WritebackDestination.relevantColumnIds {ν : Type} (destination : WritebackDestination ν) : List String :=
  destination.recordIdColumnId :: destination.fieldMappings.map WritebackFieldMapping.columnId ++
    (gridViewFilterLeaves destination.filterTree).map GridViewFilter.columnId

structure Database (ν : Type) where
  grid : Grid ν
  workspaceMembers : Table WorkspaceMember
  credentials : Table Credential
  connectorRevocations : Table ConnectorRevocation
  cellRuns : Table (CellRun ν)
  bulkRunBatches : Table BulkRunBatch
  bulkRunItems : Table BulkRunItem
  rowSettlements : Table RowSettlement
  webhookDestinations : Table WebhookDestination
  writebackDestinations : Table (WritebackDestination ν)
  outbox : Outbox

section Permission

variable {ν : Type}

def requireTablePermission (db : Database ν) (tableId userId : String) (permission : WorkspacePermission) :
    Except StoreError Unit :=
  requireThat
    ((db.grid.dataTables.get? tableId).any (fun table => table.archivedAt.isNone) &&
      (db.workspaceMembers.get? userId).any fun member => hasWorkspacePermission member.role permission)
    (.access "The table is not accessible.")

end Permission

end ByokGrid
