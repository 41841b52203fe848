import ByokGrid.ColumnTypeConversion
import ByokGrid.Deliveries
import ByokGrid.SavedViews
import ByokGrid.Workspace

/-! The schema of a workspace: tables and columns are archived once nothing in use needs them, and
restored. A preview lists what blocks an archival, and the archival asks for the same preview again. -/

namespace ByokGrid

structure TableArchiveImpact where
  columns : Nat
  rows : Nat
  savedViews : Nat
  retainedRuns : Nat
  deriving Repr, DecidableEq

structure ColumnArchiveImpact where
  cells : Nat
  pausedSourceMappings : Nat
  pausedWritebackMappings : Nat
  savedViews : Nat
  deriving Repr, DecidableEq

inductive ArchiveSnapshot where
  | tableArchived (impact : TableArchiveImpact) (name : String)
  | tableRestored (archivedAt : Nat) (name : String)
  | columnArchived (impact : ColumnArchiveImpact) (kind : ColumnKind) (name : String)
  | columnRestored (archivedAt : Nat) (name tableName : String)
  deriving DecidableEq

structure ArchiveEvent where
  action : String
  actorUserId : String
  columnId : Option String := none
  snapshot : ArchiveSnapshot
  tableId : String
  deriving DecidableEq

/-- The store of one workspace with its saved views, its deliveries and the names of its tables. -/
structure SchemaWorkspace (ν : Type) where
  id : String
  workspace : Workspace ν
  savedGridViews : Table (SavedGridView ν)
  position : String → String
  tableName : String → String
  webhookDeliveries : Table (WebhookDelivery ν)
  writebackDeliveries : Table (WritebackDelivery ν)
  archiveEvents : List ArchiveEvent
  conversionEvents : List SchemaLifecycleEvent

structure TableScope extends SqliteWorkspaceScope where
  tableId : String
  deriving Repr, DecidableEq

def TableScope.columnScope (scope : TableScope) : ColumnScope :=
  { scope with columnId := "" }

def ImportJobStatus.record : ImportJobStatus → RecordStatus
  | .staging => .staging
  | .queued => .queued
  | .running => .running
  | .succeeded => .succeeded
  | .failed => .failed
  | .cancelled => .cancelled

def SourceRunStatus.record : SourceRunStatus → RecordStatus
  | .queued => .queued
  | .running => .running
  | .succeeded => .succeeded
  | .failed => .failed
  | .cancelled => .cancelled

def IngestionBatchStatus.record : IngestionBatchStatus → RecordStatus
  | .queued => .queued
  | .running => .running
  | .succeeded => .succeeded
  | .failed => .failed
  | .cancelled => .cancelled

def BulkRunBatchStatus.active : BulkRunBatchStatus → Bool
  | .queued | .running => true
  | .completed | .failed | .cancelled => false

def RowSettlementStatus.active : RowSettlementStatus → Bool
  | .queued | .running => true
  | .succeeded | .failed | .skipped => false

section Store

variable {ν : Type}

def Column.lifecycle (workspaceId : String) (column : Column ν) : LifecycleColumn where
  id := column.id
  workspaceId := workspaceId
  tableId := column.tableId
  name := column.name
  kind := column.kind
  valueType := column.valueType
  archivedAt := column.archivedAt.map Int.ofNat
  updatedAt := 0

def WritebackDestination.mapping (workspaceId : String) (destination : WritebackDestination ν) : WritebackMapping ν where
  workspaceId := workspaceId
  tableId := destination.tableId
  recordIdColumnId := destination.recordIdColumnId
  fieldMappings := destination.fieldMappings.map WritebackFieldMapping.columnId
  filterTree := .tree destination.filterTree

def SavedGridView.mapping (workspaceId : String) (view : SavedGridView ν) : SavedViewMapping ν where
  workspaceId := workspaceId
  tableId := view.tableId
  filters := view.filters
  sort := view.sort

namespace SchemaWorkspace

variable (s : SchemaWorkspace ν)

abbrev db : Database ν := s.workspace.db

abbrev grid : Grid ν := s.workspace.db.grid

def withGrid (grid : Grid ν) : SchemaWorkspace ν :=
  { s with workspace := s.workspace.withDatabase { s.db with grid := grid } }

def gridStore : GridStore ν where
  db := s.db
  savedGridViews := s.savedGridViews
  position := s.position

def lifecycle (cells : List (LifecycleCell ν)) : LifecycleStore ν where
  workspaceMembers := s.db.workspaceMembers.records.map fun member => ⟨s.id, member.userId, member.role⟩
  dataTables := s.grid.dataTables.records.map fun table => ⟨table.id, s.id, s.tableName table.id, table.archivedAt.map Int.ofNat⟩
  columns := s.grid.columns.records.map (Column.lifecycle s.id)
  columnDependencies := s.grid.columnDependencies.records.map fun dependency =>
    ⟨s.id, dependency.tableId, dependency.columnId, dependency.dependsOnColumnId⟩
  rows := s.grid.rows.records.map fun row => ⟨row.id, s.id, row.tableId, s.position row.id, row.archivedAt.map Int.ofNat⟩
  cells := cells
  importJobs := s.workspace.imports.jobs.records.map fun job => ⟨s.id, job.tableId, job.status.record⟩
  sourceRuns := s.workspace.sources.runs.records.map fun run => ⟨s.id, run.tableId, run.status.record⟩
  ingestionBatches := s.workspace.ingestion.batches.records.map fun batch => ⟨s.id, batch.tableId, batch.status.record⟩
  sourceDefinitions := s.workspace.sources.definitions.records.map fun source =>
    ⟨s.id, source.tableId, source.status = .active, source.fieldMapping.map (List.map SourceField.columnId)⟩
  ingestionEndpoints := s.workspace.ingestion.endpoints.records.map fun endpoint =>
    ⟨s.id, endpoint.tableId, endpoint.revokedAt.isNone, endpoint.fieldMapping.map (List.map SourceField.columnId)⟩
  writebackDestinations := s.db.writebackDestinations.records.map (WritebackDestination.mapping s.id)
  savedGridViews := s.savedGridViews.records.map (SavedGridView.mapping s.id)
  schemaLifecycleEvents := s.conversionEvents

end SchemaWorkspace

end Store

structure TableArchivePreview where
  blockers : List SchemaLifecycleBlocker
  canArchive : Bool
  impact : TableArchiveImpact
  table : LifecycleTable
  deriving Repr, DecidableEq

structure ColumnArchivePreview (ν : Type) where
  blockers : List SchemaLifecycleBlocker
  canArchive : Bool
  column : Column ν
  impact : ColumnArchiveImpact
  table : LifecycleTable

section Previews

variable {ν : Type}

def tableRows (grid : Grid ν) (tableId : String) : List Row :=
  grid.rows.records.filter fun row => row.tableId = tableId

def tableColumns (grid : Grid ν) (tableId : String) : List (Column ν) :=
  grid.columns.records.filter fun column => column.tableId = tableId

def storedColumnCells (grid : Grid ν) (tableId columnId : String) : List (Cell ν) :=
  (tableRows grid tableId).filterMap fun row => grid.cells row.id columnId

def countActiveCells (cells : List (Cell ν)) : Nat :=
  cells.countP fun cell => cell.status.active

def activeTableWork (s : SchemaWorkspace ν) (tableId : String) : Nat :=
  ((tableColumns s.grid tableId).map fun column => countActiveCells (storedColumnCells s.grid tableId column.id)).sum +
    s.workspace.imports.jobs.records.countP (fun job => job.tableId = tableId && (job.status = .staging || job.status.active)) +
    s.workspace.sources.runs.records.countP (fun run => run.tableId = tableId && run.status.active) +
    s.workspace.ingestion.batches.records.countP (fun batch => batch.tableId = tableId && batch.status.active) +
    s.webhookDeliveries.records.countP (fun delivery => delivery.tableId = tableId && delivery.status.active) +
    s.writebackDeliveries.records.countP (fun delivery => delivery.tableId = tableId && delivery.status.active) +
    s.db.bulkRunBatches.records.countP (fun batch => batch.tableId = tableId && batch.status.active) +
    s.db.rowSettlements.records.countP (fun settlement => settlement.tableId = tableId && settlement.status.active)

def retainedTableRuns (s : SchemaWorkspace ν) (tableId : String) : Nat :=
  s.workspace.sources.runs.records.countP (fun run => run.tableId = tableId) +
    s.webhookDeliveries.records.countP (fun delivery => delivery.tableId = tableId) +
    s.writebackDeliveries.records.countP (fun delivery => delivery.tableId = tableId) +
    s.db.bulkRunBatches.records.countP (fun batch => batch.tableId = tableId)

def activeTables (grid : Grid ν) : List DataTable :=
  grid.dataTables.records.filter fun table => table.archivedAt.isNone

def activeColumns (grid : Grid ν) (tableId : String) : List (Column ν) :=
  grid.columns.records.filter fun column => column.tableId = tableId && column.archivedAt.isNone

/-- The last one is kept: `counts.active <= 1 ? 1 : 0`. -/
def lastOne (active : Nat) : Nat :=
  if active ≤ 1 then 1 else 0

def tableArchiveBlockers (s : SchemaWorkspace ν) (tableId : String) : List SchemaLifecycleBlocker :=
  pushBlocker "last_table" (lastOne (activeTables s.grid).length) "A workspace must keep at least one active table." ++
    pushBlocker "active_work" (activeTableWork s tableId) "Wait for queued and running work to finish or cancel it." ++
    pushBlocker "active_sources"
      (s.workspace.sources.definitions.records.countP fun source => source.tableId = tableId && source.status = .active)
      "Pause active scheduled sources before archiving this table." ++
    pushBlocker "active_ingestion"
      (s.workspace.ingestion.endpoints.records.countP fun endpoint => endpoint.tableId = tableId && endpoint.revokedAt.isNone)
      "Revoke active ingestion endpoints before archiving this table." ++
    pushBlocker "active_webhooks"
      (s.db.webhookDestinations.records.countP fun destination => destination.tableId = tableId && destination.status = .active)
      "Pause active webhook destinations before archiving this table." ++
    pushBlocker "active_writebacks"
      (s.db.writebackDestinations.records.countP fun destination => destination.tableId = tableId && destination.status = .active)
      "Pause active writeback destinations before archiving this table."

def buildTableArchivePreview (s : SchemaWorkspace ν) (scope : TableScope) : Except StoreError TableArchivePreview := do
  let table ← requireLifecycleTable (s.lifecycle []) scope.columnScope
  let blockers := tableArchiveBlockers s scope.tableId
  return {
    blockers := blockers
    canArchive := blockers.isEmpty
    impact :=
      { columns := (activeColumns s.grid scope.tableId).length
        rows := (tableRows s.grid scope.tableId).countP fun row => row.archivedAt.isNone
        savedViews := (s.gridStore.tableViews scope.tableId).length
        retainedRuns := retainedTableRuns s scope.tableId }
    table := table
  }

def mappedSources (s : SchemaWorkspace ν) (scope : ColumnScope) : List SourceDefinition :=
  s.workspace.sources.definitions.records.filter fun source =>
    source.tableId = scope.tableId && ((source.fieldMapping.getD []).map SourceField.columnId).contains scope.columnId

def tableWritebacks (s : SchemaWorkspace ν) (tableId : String) : List (WritebackDestination ν) :=
  s.db.writebackDestinations.records.filter fun destination => destination.tableId = tableId

def columnArchiveBlockers (s : SchemaWorkspace ν) (scope : ColumnScope) (writebacks views : Nat) : List SchemaLifecycleBlocker :=
  pushBlocker "last_column" (lastOne (activeColumns s.grid scope.tableId).length) "A table must keep at least one active column." ++
    pushBlocker "active_work" (countActiveCells (storedColumnCells s.grid scope.tableId scope.columnId))
      "Wait for queued and running cells in this column to finish or cancel them." ++
    pushBlocker "dependent_columns" (conversionDependents (s.lifecycle []) scope).length "Archive dependent columns first." ++
    pushBlocker "source_mappings" (activeMappings scope (s.lifecycle []).sourceDefinitions).length
      "Pause sources that map into this column before archiving it." ++
    pushBlocker "active_ingestion" (activeMappings scope (s.lifecycle []).ingestionEndpoints).length
      "Revoke ingestion endpoints that map into this column before archiving it." ++
    pushBlocker "writeback_mappings" writebacks "Pause writebacks that reference this column before archiving it." ++
    pushBlocker "saved_views" views "Update or delete saved views that reference this column before archiving it."

variable [JsRuntime ν]

def buildColumnArchivePreview (s : SchemaWorkspace ν) (scope : ColumnScope) : Except StoreError (ColumnArchivePreview ν) := do
  let table ← requireLifecycleTable (s.lifecycle []) scope
  let column ← requireSome (activeColumn? s.grid scope.tableId scope.columnId) (.access "The column is not accessible.")
  let destinations := tableWritebacks s scope.tableId
  let mappedWritebacks ← countChecked (writebackReferencesColumn scope) (destinations.map (WritebackDestination.mapping s.id))
  let activeWritebacks ← countChecked (writebackReferencesColumn scope)
    ((destinations.filter fun destination => destination.status = .active).map (WritebackDestination.mapping s.id))
  let views ← countChecked (viewReferencesColumn scope)
    ((s.lifecycle []).savedGridViews.filter fun view => inTable scope view.workspaceId view.tableId)
  let blockers := columnArchiveBlockers s scope activeWritebacks views
  return {
    blockers := blockers
    canArchive := blockers.isEmpty
    column := column
    impact :=
      { cells := (storedColumnCells s.grid scope.tableId scope.columnId).length
        pausedSourceMappings := (mappedSources s scope).length - (activeMappings scope (s.lifecycle []).sourceDefinitions).length
        pausedWritebackMappings := mappedWritebacks - activeWritebacks
        savedViews := views }
    table := table
  }

end Previews

section Archive

variable {ν : Type}

def DataTable.setArchived (archivedAt : Option Nat) (table : DataTable) : DataTable :=
  { table with archivedAt := archivedAt }

def Column.setArchived (archivedAt : Option Nat) (column : Column ν) : Column ν :=
  { column with archivedAt := archivedAt }

def Grid.setTableArchived (grid : Grid ν) (tableId : String) (archivedAt : Option Nat) : Grid ν :=
  let dataTables := grid.dataTables.modify (fun table => table.id = tableId) (DataTable.setArchived archivedAt) ⟨fun _ => rfl⟩
  { grid with dataTables := dataTables }

def Grid.setColumnArchived (grid : Grid ν) (columnId : String) (archivedAt : Option Nat) : Grid ν :=
  let columns := grid.columns.modify (fun column => column.id = columnId) (Column.setArchived archivedAt) ⟨fun _ => rfl⟩
  { grid with columns := columns }

def requireArchiveConfirmation (actual expected : String) : Except StoreError Unit :=
  requireThat (actual = expected) (.validation ("Type “" ++ expected ++ "” exactly to confirm archival."))

def previewSqliteTableArchive (s : SchemaWorkspace ν) (scope : TableScope) : Except StoreError TableArchivePreview := do
  requireSchemaManager (s.lifecycle []) scope.columnScope
  buildTableArchivePreview s scope

def restoreSqliteWorkspaceTable (s : SchemaWorkspace ν) (input : TableScope) : Except StoreError (DataTable × SchemaWorkspace ν) := do
  requireSchemaManager (s.lifecycle []) input.columnScope
  let table ← requireSome (if input.workspaceId = s.id then s.grid.dataTables.get? input.tableId else none)
    (.access "The archived table is not accessible.")
  let archivedAt ← requireSome table.archivedAt (.access "The archived table is not accessible.")
  let event : ArchiveEvent :=
    { action := "table_restored", actorUserId := input.userId, snapshot := .tableRestored archivedAt (s.tableName table.id),
      tableId := table.id }
  return (table.setArchived none,
    { s.withGrid (s.grid.setTableArchived table.id none) with archiveEvents := s.archiveEvents ++ [event] })

def missingDependency? (grid : Grid ν) (tableId columnId : String) : Option (Column ν) :=
  ((grid.columnDependencies.records.filter fun dependency => dependency.tableId = tableId && dependency.columnId = columnId).flatMap
    fun dependency => grid.columns.records.filter fun column =>
      column.id = dependency.dependsOnColumnId && column.archivedAt.isSome).head?

def requireNoMissingDependency (missing : Option (Column ν)) : Except StoreError Unit :=
  match missing with
  | none => .ok ()
  | some column => .error (.conflict ("Restore the archived dependency “" ++ column.name ++ "” first."))

def restoreSqliteWorkspaceColumn (s : SchemaWorkspace ν) (input : ColumnScope) : Except StoreError (Column ν × SchemaWorkspace ν) := do
  requireSchemaManager (s.lifecycle []) input
  let table ← requireLifecycleTable (s.lifecycle []) input
  let column ← requireSome ((s.grid.columns.get? input.columnId).filter fun column => column.tableId = input.tableId)
    (.access "The archived column is not accessible.")
  let archivedAt ← requireSome column.archivedAt (.access "The archived column is not accessible.")
  requireNoMissingDependency (missingDependency? s.grid input.tableId input.columnId)
  let event : ArchiveEvent :=
    { action := "column_restored", actorUserId := input.userId, columnId := some column.id,
      snapshot := .columnRestored archivedAt column.name table.name, tableId := input.tableId }
  return (column.setArchived none,
    { s.withGrid (s.grid.setColumnArchived column.id none) with archiveEvents := s.archiveEvents ++ [event] })

variable [JsRuntime ν]

def archiveSqliteWorkspaceTable (s : SchemaWorkspace ν) (input : TableScope) (confirmationName : String) (now : Nat) :
    Except StoreError (String × SchemaWorkspace ν) := do
  let confirmed ← requireSome (parseDisplayName ν confirmationName) .request
  requireSchemaManager (s.lifecycle []) input.columnScope
  let preview ← buildTableArchivePreview s input
  requireArchiveConfirmation confirmed preview.table.name
  requireNoBlockers preview.blockers
  let event : ArchiveEvent :=
    { action := "table_archived", actorUserId := input.userId, snapshot := .tableArchived preview.impact preview.table.name,
      tableId := preview.table.id }
  return (preview.table.id,
    { s.withGrid (s.grid.setTableArchived input.tableId (some now)) with archiveEvents := s.archiveEvents ++ [event] })

def previewSqliteColumnArchive (s : SchemaWorkspace ν) (scope : ColumnScope) : Except StoreError (ColumnArchivePreview ν) := do
  requireSchemaManager (s.lifecycle []) scope
  buildColumnArchivePreview s scope

def archiveSqliteWorkspaceColumn (s : SchemaWorkspace ν) (input : ColumnScope) (confirmationName : String) (now : Nat) :
    Except StoreError (String × SchemaWorkspace ν) := do
  let confirmed ← requireSome (parseDisplayName ν confirmationName) .request
  requireSchemaManager (s.lifecycle []) input
  let preview ← buildColumnArchivePreview s input
  requireArchiveConfirmation confirmed preview.column.name
  requireNoBlockers preview.blockers
  let event : ArchiveEvent :=
    { action := "column_archived", actorUserId := input.userId, columnId := some preview.column.id,
      snapshot := .columnArchived preview.impact preview.column.kind preview.column.name, tableId := input.tableId }
  return (preview.column.id,
    { s.withGrid (s.grid.setColumnArchived input.columnId (some now)) with archiveEvents := s.archiveEvents ++ [event] })

def renameSqliteWorkspaceTable (s : SchemaWorkspace ν) (input : TableScope) (name : String) :
    Except StoreError (String × SchemaWorkspace ν) := do
  let renamed ← requireSome (parseDisplayName ν name) .request
  requireThat (input.workspaceId = s.id) (.access "The table is not accessible.")
  requireTableAccess s.db input.tableId input.userId
  requireThat (!s.grid.dataTables.records.any fun table => table.id ≠ input.tableId && sameName (s.tableName table.id) renamed)
    (.conflict "A table with this name already exists.")
  return (renamed, { s with tableName := Function.update s.tableName input.tableId renamed })

end Archive

section Conversion

variable {ν : Type}

def retypedColumn (columns : List LifecycleColumn) (column : Column ν) : Column ν :=
  { column with valueType := ((columns.find? fun other => other.id = column.id).map LifecycleColumn.valueType).getD column.valueType }

def Grid.retype (grid : Grid ν) (columns : List LifecycleColumn) : Grid ν :=
  { grid with columns := grid.columns.modify (fun _ => true) (retypedColumn columns) ⟨fun _ => rfl⟩ }

/-- The conversion of a column of the workspace: `stored` are the cells as it reads them, `cells` those it leaves behind. -/
def SchemaWorkspace.convertColumn [JsRuntime ν] [ValueRuntime ν] [DigestRuntime] (s : SchemaWorkspace ν) (scope : ColumnScope)
    (input : ColumnTypeConversionRequest) (now : Int) (stored : List (LifecycleCell ν)) (cells : String → String → Option (Cell ν)) :
    Except StoreError (ColumnTypeConversionResult × SchemaWorkspace ν) :=
  match convertSqliteWorkspaceColumnType (s.lifecycle stored) scope input now with
  | (.error error, _) => .error error
  | (.ok result, after) =>
    .ok (result, { s.withGrid { s.grid.retype after.columns with cells := cells } with
      conversionEvents := after.schemaLifecycleEvents })

end Conversion

end ByokGrid
