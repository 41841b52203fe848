import ByokGrid.Imports
import ByokGrid.WorkflowPolicy

/-! The write step of a workflow: each row of a batch is copied to a row of the
target table whose identifier the run, the step and the source row determine. -/

namespace ByokGrid

def MAXIMUM_WORKFLOW_WRITE_CELLS : Nat := 5000

structure WriteWorkflowRows where
  batch : List WorkflowRowReference
  columnMappings : List WorkflowColumnMapping
  runId : String
  stepId : String
  tableId : String
  mutation : Nat → MutationStamp

section Write

variable {ν : Type} [ConnectorRuntime ν]

def deterministicWorkflowUuid (ν : Type) [ConnectorRuntime ν] (value : String) : String :=
  let digits := (ConnectorRuntime.sha256 ν value).toList.take 32
  uuidText ((digits.set 12 '4').set 16 (variantDigit (digits.getD 16 '0')))

def targetRowId (ν : Type) [ConnectorRuntime ν] (input : WriteWorkflowRows) (source : WorkflowRowReference) : String :=
  deterministicWorkflowUuid ν
    (input.runId ++ ":" ++ input.stepId ++ ":" ++ source.tableId ++ ":" ++ source.rowId)

def activeColumnsIn (grid : Grid ν) (tableId : String) (columnIds : List String) : List (Column ν) :=
  grid.columns.records.filter fun column =>
    column.tableId = tableId && column.id ∈ columnIds && column.archivedAt.isNone

def columnTypeIn (selected : List (Column ν)) (columnId : String) : Option CellValueType :=
  (selected.find? fun column => column.id = columnId).map Column.valueType

def checkSourceTable (grid : Grid ν) (input : WriteWorkflowRows) (targetColumns : List (Column ν))
    (tableId : String) : Except StoreError Unit := do
  let sourceColumnIds := distinct (input.columnMappings.map WorkflowColumnMapping.sourceColumnId)
  let sourceColumns := activeColumnsIn grid tableId sourceColumnIds
  requireThat (sourceColumns.length = sourceColumnIds.length)
    (.validation "A write-table source column is unavailable.")
  requireThat (input.columnMappings.all fun mapping =>
    columnTypeIn sourceColumns mapping.sourceColumnId = columnTypeIn targetColumns mapping.targetColumnId)
    (.validation "A write-table mapping connects incompatible column types.")
  let rowIds := (input.batch.filter fun reference => reference.tableId = tableId).map WorkflowRowReference.rowId
  let existingRows := grid.rows.records.filter fun row =>
    row.tableId = tableId && row.id ∈ rowIds && row.archivedAt.isNone
  requireThat (existingRows.length = rowIds.length) (.validation "A write-table source row is unavailable.")

def checkSourceTables (grid : Grid ν) (input : WriteWorkflowRows) (targetColumns : List (Column ν)) :
    List String → Except StoreError Unit
  | [] => .ok ()
  | tableId :: tableIds => do
    checkSourceTable grid input targetColumns tableId
    checkSourceTables grid input targetColumns tableIds

def insertMissingRows (tableId : String) : List String → Grid ν → List String × Grid ν
  | [], grid => ([], grid)
  | rowId :: rowIds, grid =>
    match grid.rows.insert { id := rowId, tableId := tableId, version := 1, archivedAt := none } with
    | none => insertMissingRows tableId rowIds grid
    | some rows =>
      let rest := insertMissingRows tableId rowIds { grid with rows := rows }
      (rowId :: rest.1, rest.2)

structure WorkflowCell (ν : Type) where
  rowId : String
  columnId : String
  value : StoredValue ν

def workflowCells (grid : Grid ν) (input : WriteWorkflowRows) (source : WorkflowRowReference) :
    List (WorkflowCell ν) :=
  input.columnMappings.filterMap fun mapping =>
    (grid.cells source.rowId mapping.sourceColumnId).map fun cell =>
      ⟨targetRowId ν input source, mapping.targetColumnId, cell.value⟩

/-- `onConflictDoNothing`: a cell which exists keeps its value. -/
def insertMissingCells (tableId : String) : List (WorkflowCell ν) → Grid ν → Except StoreError (Grid ν)
  | [], grid => .ok grid
  | cell :: cells, grid =>
    match grid.cells cell.rowId cell.columnId with
    | some _ => insertMissingCells tableId cells grid
    | none => do
      requireThat ((grid.rows.get? cell.rowId).any fun row => row.tableId = tableId)
        (.constraint "cells_row_scope_fk")
      insertMissingCells tableId cells
        (grid.setCell cell.rowId cell.columnId { value := cell.value, status := .idle, version := 1 })

variable [JsRuntime ν]

def writeSqliteWorkflowRowBatch (db : Database ν) (input : WriteWorkflowRows) :
    Except StoreError (List WorkflowRowReference × Database ν) := do
  requireThat (input.batch.length ≤ MAXIMUM_WORKFLOW_ROW_BATCH_SIZE) .request
  requireThat (!input.columnMappings.isEmpty)
    (.validation "A write-table step needs at least one column mapping.")
  let targetColumnIds := input.columnMappings.map WorkflowColumnMapping.targetColumnId
  requireThat ((distinct targetColumnIds).length = input.columnMappings.length)
    (.validation "A write-table step cannot map a target column more than once.")
  requireThat (input.batch.length * input.columnMappings.length ≤ MAXIMUM_WORKFLOW_WRITE_CELLS)
    (.validation "A write-table step cannot materialize more than 5000 cells at once.")
  requireThat ((db.grid.dataTables.get? input.tableId).any fun table => table.archivedAt.isNone)
    (.validation "The write-table destination is unavailable.")
  let targetColumns := activeColumnsIn db.grid input.tableId targetColumnIds
  requireThat (targetColumns.length = targetColumnIds.length && targetColumns.all fun column => column.kind = .input)
    (.validation "Write-table targets must be active input columns.")
  checkSourceTables db.grid input targetColumns (distinct (input.batch.map WorkflowRowReference.tableId))
  let inserted := insertMissingRows input.tableId (input.batch.map (targetRowId ν input)) db.grid
  let written ← insertMissingCells input.tableId (input.batch.flatMap (workflowCells db.grid input)) inserted.2
  let settled ← settleNewRows input.tableId targetColumnIds input.mutation 0 inserted.1 { db with grid := written }
  return (input.batch.map fun source => ⟨targetRowId ν input source, input.tableId⟩, settled)

end Write

end ByokGrid
