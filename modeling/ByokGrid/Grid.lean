import ByokGrid.Formula

/-! The grid tables: data tables, columns with their configuration, column
dependencies, rows, and the cells a row holds. -/

namespace ByokGrid

inductive StoredValue (ν : Type) where
  | empty
  | text (value : String)
  | number (value : ν)
  | boolean (value : Bool)
  | timestamp (value : TimeValue)
  | json (value : Json ν)

section Stored

variable {ν : Type}

def StoredValue.type : StoredValue ν → CellValueType
  | .empty => .empty
  | .text _ => .text
  | .number _ => .number
  | .boolean _ => .boolean
  | .timestamp _ => .timestamp
  | .json _ => .json

variable [JsRuntime ν]

def serializeSqliteCellValue : CellValue ν → StoredValue ν
  | .empty => .empty
  | .text value => .text value
  | .number value => .number value
  | .boolean value => .boolean value
  | .timestamp value => .timestamp (JsRuntime.parseDate ν value)
  | .json value => .json value

def deserializeSqliteCellValue : StoredValue ν → CellValue ν
  | .empty => .empty
  | .text value => .text value
  | .number value => .number value
  | .boolean value => .boolean value
  | .timestamp value => .timestamp (JsRuntime.toISOString ν value)
  | .json value => .json value

@[simp] theorem serialize_deserialize (value : StoredValue ν) :
    serializeSqliteCellValue (deserializeSqliteCellValue value) = value := by
  cases value with
  | timestamp value => simp [serializeSqliteCellValue, deserializeSqliteCellValue, JsRuntime.parseDate_toISOString]
  | _ => rfl

@[simp] theorem serialize_type (value : CellValue ν) :
    (serializeSqliteCellValue value).type = value.type := by
  cases value <;> rfl

@[simp] theorem deserialize_type (value : StoredValue ν) :
    (deserializeSqliteCellValue value).type = value.type := by
  cases value <;> rfl

@[simp] theorem serialize_emptyValue : serializeSqliteCellValue (emptyValue : CellValue ν) = .empty := rfl

@[simp] theorem deserialize_empty : deserializeSqliteCellValue (.empty : StoredValue ν) = emptyValue := rfl

end Stored

theorem StoredValue.eq_empty_of_type {ν : Type} {v : StoredValue ν} (h : v.type = .empty) : v = .empty := by
  cases v with
  | empty => rfl
  | _ => simp [StoredValue.type] at h

inductive ColumnKind where
  | input
  | formula
  | connector
  | function
  deriving Repr, DecidableEq

inductive ConnectorRunMode where
  | manual
  | onChange
  deriving Repr, DecidableEq

inductive BulkRunMode where
  | pending
  | all
  deriving Repr, DecidableEq

inductive ConnectorActionInputBinding (ν : Type) where
  | column (columnId : String)
  | literal (value : Json ν)

structure ConnectorActionConfiguration (ν : Type) where
  actionId : String
  artifactSha256 : Option String
  connectorId : String
  connectorVersion : String
  credentialId : Option String
  inputBindings : List (String × ConnectorActionInputBinding ν)
  outputValueType : CellValueType
  publisherKeyIds : List String
  runMode : ConnectorRunMode

structure HttpEnrichmentConfiguration where
  baseUrl : String
  credentialId : Option String
  inputColumnId : String
  queryParameter : String
  runMode : ConnectorRunMode
  deriving Repr, DecidableEq

structure HttpWaterfallProvider where
  baseUrl : String
  credentialId : Option String
  id : String
  name : String
  queryParameter : String
  resultPath : String
  deriving Repr, DecidableEq

structure HttpWaterfallConfiguration where
  inputColumnId : String
  providers : List HttpWaterfallProvider
  runMode : ConnectorRunMode
  deriving Repr, DecidableEq

/-- What the configuration JSON of a column parses as. The schemas exclude
each other, so the first one to accept is the constructor. -/
inductive ColumnConfiguration (ν : Type) where
  | plain
  | formula (expression : FormulaExpression ν)
  | connectorAction (configuration : ConnectorActionConfiguration ν)
  | httpEnrichment (configuration : HttpEnrichmentConfiguration)
  | httpWaterfall (configuration : HttpWaterfallConfiguration)

/-- `formulaColumnConfigurationSchema.safeParse`. -/
def ColumnConfiguration.formula? {ν : Type} : ColumnConfiguration ν → Option (FormulaExpression ν)
  | .formula expression => some expression
  | _ => none

/-- `connectorActionColumnConfigurationSchema.safeParse`. -/
def ColumnConfiguration.connectorAction? {ν : Type} :
    ColumnConfiguration ν → Option (ConnectorActionConfiguration ν)
  | .connectorAction configuration => some configuration
  | _ => none

structure Column (ν : Type) where
  id : String
  tableId : String
  name : String
  kind : ColumnKind
  valueType : CellValueType
  configuration : ColumnConfiguration ν
  archivedAt : Option Nat

instance {ν : Type} : Keyed (Column ν) String := ⟨Column.id⟩

structure ColumnDependency where
  columnId : String
  dependsOnColumnId : String
  tableId : String
  deriving Repr, DecidableEq

instance : Keyed ColumnDependency (String × String) := ⟨fun d => (d.columnId, d.dependsOnColumnId)⟩

structure DataTable where
  id : String
  archivedAt : Option Nat
  deriving Repr, DecidableEq

instance : Keyed DataTable String := ⟨DataTable.id⟩

structure Row where
  id : String
  tableId : String
  version : Nat
  archivedAt : Option Nat
  deriving Repr, DecidableEq

instance : Keyed Row String := ⟨Row.id⟩

inductive CellStatus where
  | idle
  | stale
  | queued
  | running
  | succeeded
  | failed
  | cancelled
  deriving Repr, DecidableEq

def CellStatus.active : CellStatus → Bool
  | .queued | .running => true
  | _ => false

structure Cell (ν : Type) where
  value : StoredValue ν
  status : CellStatus
  version : Nat

/-- `cells` is a function of the row and the column, which the unique index
`cells_row_column_unique` makes the key of a cell. -/
structure Grid (ν : Type) where
  dataTables : Table DataTable
  columns : Table (Column ν)
  columnDependencies : Table ColumnDependency
  rows : Table Row
  cells : String → String → Option (Cell ν)

namespace Grid

variable {ν : Type}

def empty : Grid ν := ⟨Table.empty, Table.empty, Table.empty, Table.empty, fun _ _ => none⟩

def setCell (grid : Grid ν) (rowId columnId : String) (cell : Cell ν) : Grid ν :=
  { grid with cells := fun r c => if r = rowId ∧ c = columnId then some cell else grid.cells r c }

variable (grid : Grid ν) (rowId columnId : String) (cell : Cell ν)

@[simp] theorem setCell_dataTables : (grid.setCell rowId columnId cell).dataTables = grid.dataTables := rfl

@[simp] theorem setCell_columns : (grid.setCell rowId columnId cell).columns = grid.columns := rfl

@[simp] theorem setCell_columnDependencies :
    (grid.setCell rowId columnId cell).columnDependencies = grid.columnDependencies := rfl

@[simp] theorem setCell_rows : (grid.setCell rowId columnId cell).rows = grid.rows := rfl

@[simp] theorem setCell_self : (grid.setCell rowId columnId cell).cells rowId columnId = some cell := by
  simp [setCell]

theorem setCell_of_ne {r c : String} (h : ¬ (r = rowId ∧ c = columnId)) :
    (grid.setCell rowId columnId cell).cells r c = grid.cells r c := by
  simp [setCell, h]

def storedValue (grid : Grid ν) (rowId columnId : String) : StoredValue ν :=
  ((grid.cells rowId columnId).map Cell.value).getD .empty

end Grid

end ByokGrid
