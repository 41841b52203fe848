import ByokGrid.Grid
import ByokGrid.Store

/-! How the fields of incoming records become columns: a field is mapped to the
text input column of its name, or to a new column under a free name. -/

namespace ByokGrid

structure SourceField where
  columnId : String
  field : String
  deriving Repr, DecidableEq

structure NormalizedSourceRecord where
  key : String
  values : List (String × Option String)
  deriving Repr, DecidableEq

structure NormalizedSourceBatch where
  fields : List String
  records : List NormalizedSourceRecord
  deriving Repr, DecidableEq

section Plan

variable (ν : Type) [JsRuntime ν]

/-- `normalizeHeader`, and `normalizeField` of sources and ingestion. -/
def normalizeHeader (header : String) : String :=
  JsRuntime.toLocaleLowerCase ν (JsRuntime.normalizeNFKC ν (jsTrim header))

def validateHeader (header : String) : Except StoreError Unit := do
  requireThat (header ≠ "") (.failure "CSV headers cannot be empty.")
  requireThat (utf16Length header ≤ 120)
    (.failure ("CSV header “" ++ sliceUnits 32 header ++ "…” exceeds 120 characters."))
  requireThat (!header.toList.any isControlCharacter) (.failure "CSV headers cannot contain control characters.")

structure CsvColumnPlan where
  columnName : String
  existingColumnId : Option String
  header : String
  deriving Repr, DecidableEq

def importName (header : String) (suffix : Nat) : String :=
  header ++ " (import " ++ toString suffix ++ ")"

/-- The loop over the suffixes. Names with different suffixes differ, so one of
as many of them as there are reserved names, and one more, is free. -/
def freeSuffix (reservedNames : List String) (header : String) : Nat → Nat → Nat
  | 0, suffix => suffix
  | attempts + 1, suffix =>
    if normalizeHeader ν (importName header suffix) ∈ reservedNames then
      freeSuffix reservedNames header attempts (suffix + 1)
    else suffix

def trimEnd (s : String) : String :=
  String.ofList (trimStart s.toList.reverse).reverse

def suffixedName (reservedNames : List String) (header : String) : String :=
  let suffix := freeSuffix ν reservedNames header reservedNames.length 2
  if utf16Length (importName header suffix) > 120 then importName (trimEnd (sliceUnits 100 header)) suffix
  else importName header suffix

variable {ν}

def planHeader (existingColumns : List (Column ν)) (reservedNames : List String) (header : String) : CsvColumnPlan :=
  match existingColumns.find? fun column => normalizeHeader ν column.name = normalizeHeader ν header with
  | none => ⟨header, none, header⟩
  | some existing =>
    if existing.kind = .input ∧ existing.valueType = .text then ⟨existing.name, some existing.id, header⟩
    else ⟨suffixedName ν reservedNames header, none, header⟩

def planHeaders (existingColumns : List (Column ν)) :
    List String → List String → List String → Except StoreError (List CsvColumnPlan)
  | [], _, _ => .ok []
  | rawHeader :: headers, normalizedHeaders, reservedNames => do
    let header := jsTrim rawHeader
    validateHeader header
    requireThat (normalizeHeader ν header ∉ normalizedHeaders)
      (.failure ("CSV header “" ++ header ++ "” appears more than once."))
    let plan := planHeader existingColumns reservedNames header
    let plans ← planHeaders existingColumns headers (normalizeHeader ν header :: normalizedHeaders)
      (normalizeHeader ν plan.columnName :: reservedNames)
    return plan :: plans

def planCsvColumns (headers : List String) (existingColumns : List (Column ν)) :
    Except StoreError (List CsvColumnPlan) :=
  planHeaders existingColumns headers [] (existingColumns.map fun column => normalizeHeader ν column.name)

end Plan

section Mapping

variable {ν : Type} [JsRuntime ν]

def unarchivedColumns (grid : Grid ν) (tableId : String) (position : String → String) : List (Column ν) :=
  (grid.columns.records.filter fun column => column.tableId = tableId && column.archivedAt.isNone).insertionSort
    fun left right => position left.id ≤ position right.id

def insertColumn (grid : Grid ν) (column : Column ν) : Except StoreError (Grid ν) := do
  requireThat (!grid.columns.records.any fun other => other.tableId = column.tableId && other.name = column.name)
    (.constraint "columns_table_name_unique")
  let columns ← requireSome (grid.columns.insert column) (.constraint "columns_id")
  return { grid with columns := columns }

def textInputColumn (id tableId name : String) : Column ν :=
  { id := id, tableId := tableId, name := name, kind := .input, valueType := .text, configuration := .plain,
    archivedAt := none }

def createPlannedColumns (tableId : String) (columnId : Nat → String) :
    Nat → List CsvColumnPlan → Grid ν → Except StoreError (List SourceField × Grid ν)
  | _, [], grid => .ok ([], grid)
  | index, plan :: plans, grid =>
    match plan.existingColumnId with
    | some existingColumnId => do
      let rest ← createPlannedColumns tableId columnId (index + 1) plans grid
      return (⟨existingColumnId, plan.header⟩ :: rest.1, rest.2)
    | none => do
      let created ← insertColumn grid (textInputColumn (columnId index) tableId plan.columnName)
      let rest ← createPlannedColumns tableId columnId (index + 1) plans created
      return (⟨columnId index, plan.header⟩ :: rest.1, rest.2)

structure MapFields where
  tableId : String
  fieldMapping : Option (List SourceField)
  fields : List String
  tooManyFields : String
  position : String → String
  columnId : Nat → String

/-- What a page of a source and a chunk of an ingestion batch do first: the
stored mapping keeps its input columns in use, and the other fields are planned. -/
def mapFields (grid : Grid ν) (input : MapFields) : Except StoreError (List SourceField × Grid ν) := do
  let existingColumns := unarchivedColumns grid input.tableId input.position
  let inputColumnIds := (existingColumns.filter fun column => column.kind = .input).map Column.id
  let mapping := (input.fieldMapping.getD []).filter fun item => item.columnId ∈ inputColumnIds
  let mappedFields := mapping.map fun item => normalizeHeader ν item.field
  let newFields := input.fields.filter fun field => normalizeHeader ν field ∉ mappedFields
  requireThat (mapping.length + newFields.length ≤ 100) (.validation input.tooManyFields)
  let plans ← planCsvColumns newFields existingColumns
  let created ← createPlannedColumns input.tableId input.columnId 0 plans grid
  return (mapping ++ created.1, created.2)

/-- `currentFieldByNormalized`: a later field of the same normal form replaces an earlier one. -/
def currentField (fields : List String) (field : String) : Option String :=
  (fields.filter fun candidate => normalizeHeader ν candidate = normalizeHeader ν field).getLast?

end Mapping

section Cells

variable {ν : Type}

def Grid.deleteCells (grid : Grid ν) (deleted : String → String → Bool) : Grid ν :=
  { grid with cells := fun rowId columnId => if deleted rowId columnId then none else grid.cells rowId columnId }

structure TextCell where
  rowId : String
  columnId : String
  value : String
  deriving Repr, DecidableEq

def insertTextCell (grid : Grid ν) (cell : TextCell) : Except StoreError (Grid ν) := do
  requireThat (grid.cells cell.rowId cell.columnId).isNone (.constraint "cells_row_column_unique")
  requireThat (cell.value.length ≤ 8192) (.constraint "cells_search_text_bound")
  return grid.setCell cell.rowId cell.columnId { value := .text cell.value, status := .idle, version := 1 }

def insertTextCells : List TextCell → Grid ν → Except StoreError (Grid ν)
  | [], grid => .ok grid
  | cell :: cells, grid => do
    let next ← insertTextCell grid cell
    insertTextCells cells next

def insertRow (grid : Grid ν) (tableId rowId : String) : Except StoreError (Grid ν) := do
  let rows ← requireSome (grid.rows.insert { id := rowId, tableId := tableId, version := 1, archivedAt := none })
    (.constraint "rows_id")
  return { grid with rows := rows }

end Cells

end ByokGrid
