import ByokGrid.ColumnConversion
import ByokGrid.ImportPolicy

/-! Rows and cells as a member of the workspace writes them. -/

namespace ByokGrid

section Writes

variable {ν : Type}

/-- `requireTableAccess`, and `requireTableMembership` of the tables. -/
def requireTableAccess (db : Database ν) (tableId userId : String) : Except StoreError Unit :=
  requireThat ((db.grid.dataTables.get? tableId).any (fun table => table.archivedAt.isNone) &&
    (db.workspaceMembers.get? userId).isSome) (.access "The table is not accessible.")

structure CreateGridRow where
  tableId : String
  userId : String
  rowId : String
  deriving Repr, DecidableEq

def createSqliteGridRow (db : Database ν) (input : CreateGridRow) : Except StoreError (Database ν) := do
  requireTableAccess db input.tableId input.userId
  let grid ← insertRow db.grid input.tableId input.rowId
  return { db with grid := grid }

variable [JsRuntime ν]

structure WriteGridCell (ν : Type) where
  rowId : String
  columnId : String
  tableId : String
  userId : String
  expectedVersion : Int
  value : CellValue ν
  mutation : MutationStamp

def editTarget (db : Database ν) (input : WriteGridCell ν) : Option (Column ν) :=
  (db.grid.columns.get? input.columnId).filter fun column =>
    column.tableId = input.tableId && column.archivedAt.isNone &&
      (db.grid.rows.get? input.rowId).any (fun row => row.tableId = input.tableId && row.archivedAt.isNone) &&
      (db.workspaceMembers.get? input.userId).isSome

/-- The cell after the write: a first version for a missing cell, and the next
one for a cell of the expected version. -/
def writtenCell (cell : Option (Cell ν)) (expectedVersion : Int) (value : StoredValue ν) :
    Except StoreError (Cell ν) :=
  match cell with
  | none =>
    if expectedVersion ≠ 0 then .error (.conflict "")
    else .ok { value := value, status := .idle, version := 1 }
  | some existing =>
    if existing.version ≠ expectedVersion then .error (.conflict "")
    else .ok { value := value, status := .idle, version := existing.version + 1 }

def writeSqliteGridCell (db : Database ν) (input : WriteGridCell ν) : Except StoreError (Cell ν × Database ν) := do
  requireThat input.value.editable .request
  let column ← requireSome (editTarget db input) (.access "The cell is not accessible.")
  requireThat (column.kind = .input) (.validation "Only input columns can be edited.")
  requireThat (input.value.type = .empty || input.value.type = column.valueType)
    (.validation ("This column requires " ++ column.valueType.name ++ " values."))
  let written ← writtenCell (db.grid.cells input.rowId input.columnId) input.expectedVersion
    (serializeSqliteCellValue input.value)
  let recomputed ← recomputeFormulas (db.grid.setCell input.rowId input.columnId written) input.tableId input.rowId
    [input.columnId]
  let recorded ← recordSqliteRowMutationAndMaybeQueueSettlement { db with grid := recomputed.2 }
    { changedColumnIds := input.columnId :: recomputed.1, rowId := input.rowId, tableId := input.tableId }
    input.mutation
  return (written, recorded)

end Writes

end ByokGrid
