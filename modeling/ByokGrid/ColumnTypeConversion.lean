import ByokGrid.ColumnCreation
import ByokGrid.EditableValues
import ByokGrid.GridSelection
import ByokGrid.WorkspacePurge

/-! The conversion of an input column to another type: the preview which scans the cells of the
column page by page, and the transaction which applies it. -/

namespace ByokGrid

structure SerializedCellValue (ν : Type) where
  valueType : CellValueType
  valueText : Option JsString := none
  valueNumber : Option ν := none
  valueBoolean : Option Bool := none
  valueTimestamp : Option TimeValue := none
  valueJson : Option (JsonTree JsString ν) := none

section Serialized

variable {ν : Type} [SourceRuntime ν]

/-- A JSON `null` is stored as no value. -/
def SourceValue.serializeSqliteCellValue : SourceValue ν → SerializedCellValue ν
  | .empty => { valueType := .empty }
  | .text value => { valueType := .text, valueText := some value }
  | .number value => { valueType := .number, valueNumber := some value }
  | .boolean value => { valueType := .boolean, valueBoolean := some value }
  | .timestamp value => { valueType := .timestamp, valueTimestamp := SourceRuntime.parseDate ν value }
  | .json .null => { valueType := .json }
  | .json value => { valueType := .json, valueJson := some value }

def SerializedCellValue.deserializeSqliteCellValue (cell : SerializedCellValue ν) : Option (SourceValue ν) :=
  match cell.valueType with
  | .empty => some .empty
  | .text => some (.text (cell.valueText.getD (.ofString "")))
  | .number => some (.number (cell.valueNumber.getD SourceRuntime.zero))
  | .boolean => some (.boolean (cell.valueBoolean.getD false))
  | .timestamp => some (.timestamp (.ofString (SourceRuntime.toISOString ν (cell.valueTimestamp.getD .epoch))))
  | .json => readCellValueSchema (.json (cell.valueJson.getD .null))

end Serialized

structure LifecycleCell (ν : Type) where
  id : String
  workspaceId : String
  tableId : String
  rowId : String
  columnId : String
  value : SerializedCellValue ν
  status : CellStatus
  version : Nat
  updatedAt : Int

structure LifecycleTable where
  id : String
  workspaceId : String
  name : String
  archivedAt : Option Int
  deriving Repr, DecidableEq

structure LifecycleColumn where
  id : String
  workspaceId : String
  tableId : String
  name : String
  kind : ColumnKind
  valueType : CellValueType
  archivedAt : Option Int
  updatedAt : Int
  deriving DecidableEq

structure LifecycleRow where
  id : String
  workspaceId : String
  tableId : String
  position : String
  archivedAt : Option Int
  deriving Repr, DecidableEq

structure LifecycleDependency where
  workspaceId : String
  tableId : String
  columnId : String
  dependsOnColumnId : String
  deriving Repr, DecidableEq

structure TableWork where
  workspaceId : String
  tableId : String
  status : RecordStatus
  deriving Repr, DecidableEq

/-- A source or an ingestion endpoint, which is active unless it is paused or revoked, and the columns of its field mapping. -/
structure InboundMapping where
  workspaceId : String
  tableId : String
  active : Bool
  fieldMapping : Option (List String)
  deriving Repr, DecidableEq

structure WritebackMapping (ν : Type) where
  workspaceId : String
  tableId : String
  recordIdColumnId : String
  fieldMappings : List String
  filterTree : PersistedFilters ν

structure SavedViewMapping (ν : Type) where
  workspaceId : String
  tableId : String
  filters : PersistedFilters ν
  sort : Option GridViewSort

structure ConversionSnapshot where
  convertedCells : Nat
  emptyCells : Nat
  failurePolicy : String
  fromValueType : EditableInputValueType
  name : String
  previewDigest : String
  toValueType : EditableInputValueType
  deriving Repr, DecidableEq

structure SchemaLifecycleEvent where
  action : String
  actorUserId : String
  columnId : String
  snapshot : ConversionSnapshot
  tableId : String
  workspaceId : String
  deriving Repr, DecidableEq

structure LifecycleStore (ν : Type) where
  workspaceMembers : List MembershipRecord
  dataTables : List LifecycleTable
  columns : List LifecycleColumn
  columnDependencies : List LifecycleDependency
  rows : List LifecycleRow
  cells : List (LifecycleCell ν)
  importJobs : List TableWork
  sourceRuns : List TableWork
  ingestionBatches : List TableWork
  sourceDefinitions : List InboundMapping
  ingestionEndpoints : List InboundMapping
  writebackDestinations : List (WritebackMapping ν)
  savedGridViews : List (SavedViewMapping ν)
  schemaLifecycleEvents : List SchemaLifecycleEvent

structure ColumnScope extends SqliteWorkspaceScope where
  tableId : String
  columnId : String
  deriving Repr, DecidableEq

structure SchemaLifecycleBlocker where
  code : String
  count : Nat
  message : String
  deriving Repr, DecidableEq

structure ColumnTypeConversionFailure where
  code : String
  message : Option String
  rowId : String
  rowPosition : String
  deriving Repr, DecidableEq

structure ConversionImpact where
  convertibleCells : Nat := 0
  emptyCells : Nat := 0
  failedCells : Nat := 0
  totalCells : Nat := 0
  deriving Repr, DecidableEq

structure ConversionScan where
  digest : String
  failures : List ColumnTypeConversionFailure := []
  impact : ConversionImpact := {}
  deriving Repr, DecidableEq

structure ConversionColumn where
  id : String
  name : String
  valueType : EditableInputValueType
  deriving Repr, DecidableEq

structure ColumnTypeConversionPreview where
  blockers : List SchemaLifecycleBlocker
  canConvert : Bool
  column : ConversionColumn
  failures : List ColumnTypeConversionFailure
  impact : ConversionImpact
  previewDigest : String
  table : LifecycleTable
  targetType : EditableInputValueType
  deriving Repr, DecidableEq

def CONVERSION_PAGE_SIZE : Nat := 1000
def FAILURE_SAMPLE_SIZE : Nat := 10

def ColumnCellConversionErrorCode.name : ColumnCellConversionErrorCode → String
  | .ambiguousConversion => "ambiguous_conversion"
  | .invalidBoolean => "invalid_boolean"
  | .invalidJson => "invalid_json"
  | .invalidNumber => "invalid_number"
  | .invalidTimestamp => "invalid_timestamp"
  | .valueTooLarge => "value_too_large"

def CellValueType.editable? : CellValueType → Option EditableInputValueType
  | .empty => none
  | .text => some .text
  | .number => some .number
  | .boolean => some .boolean
  | .timestamp => some .timestamp
  | .json => some .json

section Scan

variable {ν : Type} [ValueRuntime ν]

def conversionFailure (currentType targetType : EditableInputValueType) (cell : LifecycleCell ν) : Option (String × Option String) :=
  if cell.value.valueType ≠ currentType.type then
    some ("stored_type_mismatch", some ("The stored " ++ cell.value.valueType.name ++ " value does not match the column's " ++
      currentType.type.name ++ " type."))
  else
    match cell.value.deserializeSqliteCellValue with
    | none => some ("conversion_failed", none)
    | some value =>
      match convertColumnCellValue value targetType with
      | .ok _ => none
      | .error error => some (error.code.name, some error.message)

def ConversionScan.fail (scan : ConversionScan) (failure : ColumnTypeConversionFailure) : ConversionScan :=
  { scan with
    impact := { scan.impact with failedCells := scan.impact.failedCells + 1 }
    failures := if scan.failures.length < FAILURE_SAMPLE_SIZE then scan.failures ++ [failure] else scan.failures }

def ConversionScan.count (scan : ConversionScan) (cell : LifecycleCell ν) : ConversionScan :=
  { scan with
    impact := { scan.impact with totalCells := scan.impact.totalCells + 1 }
    digest := scan.digest ++ cell.id ++ "\x00" ++ toString cell.version ++ "\x00" ++ cell.value.valueType.name ++ "\x00" }

def scanConversionCell (currentType targetType : EditableInputValueType) (scan : ConversionScan)
    (joined : LifecycleCell ν × String) : ConversionScan :=
  let counted := scan.count joined.1
  if joined.1.value.valueType = .empty then
    { counted with impact := { counted.impact with emptyCells := counted.impact.emptyCells + 1 } }
  else
    match conversionFailure currentType targetType joined.1 with
    | none => { counted with impact := { counted.impact with convertibleCells := counted.impact.convertibleCells + 1 } }
    | some (code, message) =>
      counted.fail { code := code, message := message, rowId := joined.1.rowId, rowPosition := joined.2 }

variable (store : LifecycleStore ν) (scope : ColumnScope)

def inColumn (cell : LifecycleCell ν) : Bool :=
  cell.workspaceId = scope.workspaceId && cell.tableId = scope.tableId && cell.columnId = scope.columnId

def joinRows (cells : List (LifecycleCell ν)) : List (LifecycleCell ν × String) :=
  cells.flatMap fun cell =>
    (store.rows.filter fun row => row.id = cell.rowId && row.tableId = cell.tableId && row.workspaceId = cell.workspaceId).map
      fun row => (cell, row.position)

/-- `lastCellId ? [gt(cells.id, lastCellId)] : []`. -/
def afterCell (lastCellId : Option String) (cell : LifecycleCell ν) : Bool :=
  match lastCellId with
  | none => true
  | some last => last = "" || last < cell.id

def conversionPage (lastCellId : Option String) : List (LifecycleCell ν × String) :=
  (joinRows store (orderedBy LifecycleCell.id
    (store.cells.filter fun cell => inColumn scope cell && afterCell lastCellId cell))).take CONVERSION_PAGE_SIZE

def scanPages (currentType targetType : EditableInputValueType) : Nat → Option String → ConversionScan → Option ConversionScan
  | 0, _, _ => none
  | fuel + 1, lastCellId, scan =>
    let page := conversionPage store scope lastCellId
    let scanned := page.foldl (scanConversionCell currentType targetType) scan
    if page.length < CONVERSION_PAGE_SIZE then some scanned
    else scanPages currentType targetType fuel (page.getLast?.map fun joined => joined.1.id) scanned

def startScan (currentType targetType : EditableInputValueType) : ConversionScan where
  digest := "column-conversion-v1\x00" ++ scope.workspaceId ++ "\x00" ++ scope.tableId ++ "\x00" ++ scope.columnId ++ "\x00" ++
    currentType.type.name ++ "\x00" ++ targetType.type.name ++ "\x00"

def scanColumnTypeConversion (currentType targetType : EditableInputValueType) : Option ConversionScan :=
  scanPages store scope currentType targetType (store.cells.length + 1) none (startScan scope currentType targetType)

end Scan

section Blockers

variable {ν : Type} [JsRuntime ν] (store : LifecycleStore ν) (scope : ColumnScope)

def inTable (workspaceId tableId : String) : Bool :=
  workspaceId = scope.workspaceId && tableId = scope.tableId

def countWork (statuses : List RecordStatus) (work : List TableWork) : Nat :=
  work.countP fun job => inTable scope job.workspaceId job.tableId && statuses.contains job.status

def countActiveColumnConversionWork : Nat :=
  store.cells.countP (fun cell => inColumn scope cell && cell.status.active) +
    countWork scope [.staging, .queued, .running] store.importJobs + countWork scope [.queued, .running] store.sourceRuns +
    countWork scope [.queued, .running] store.ingestionBatches

def conversionDependents : List LifecycleColumn :=
  (store.columnDependencies.filter fun dependency =>
    inTable scope dependency.workspaceId dependency.tableId && dependency.dependsOnColumnId = scope.columnId).flatMap
      fun dependency => store.columns.filter fun column => column.id = dependency.columnId && column.archivedAt.isNone

def activeMappings (mappings : List InboundMapping) : List InboundMapping :=
  mappings.filter fun mapping => inTable scope mapping.workspaceId mapping.tableId && mapping.active &&
    (mapping.fieldMapping.getD []).contains scope.columnId

/-- `gridViewFilterLeaves(normalizeGridViewFilterTree(filters)).some(…)`. -/
def filtersReference (filters : PersistedFilters ν) : Except StoreError Bool := do
  let tree ← requireSome (normalizeGridViewFilterTree filters) .request
  return (gridViewFilterLeaves tree).any fun filter => filter.columnId = scope.columnId

def writebackReferencesColumn (destination : WritebackMapping ν) : Except StoreError Bool :=
  if destination.recordIdColumnId = scope.columnId ∨ scope.columnId ∈ destination.fieldMappings then .ok true
  else filtersReference scope destination.filterTree

def viewReferencesColumn (view : SavedViewMapping ν) : Except StoreError Bool :=
  if (view.sort.map GridViewSort.columnId) = some scope.columnId then .ok true
  else filtersReference scope view.filters

def countChecked {α : Type} (check : α → Except StoreError Bool) : List α → Except StoreError Nat
  | [] => .ok 0
  | x :: xs => do
    let accepted ← check x
    let count ← countChecked check xs
    return (if accepted then 1 else 0) + count

def pushBlocker (code : String) (count : Nat) (message : String) : List SchemaLifecycleBlocker :=
  if count > 0 then [{ code := code, count := count, message := message }] else []

def conversionBlockers (writebacks views failedCells : Nat) : List SchemaLifecycleBlocker :=
  pushBlocker "active_work" (countActiveColumnConversionWork store scope)
      "Wait for active imports, source runs, ingestion batches, and cell work to finish." ++
    pushBlocker "dependent_columns" (conversionDependents store scope).length
      "Archive dependent formula and connector columns before converting this column." ++
    pushBlocker "source_mappings" (activeMappings scope store.sourceDefinitions).length
      "Pause sources that map into this column before converting it." ++
    pushBlocker "active_ingestion" (activeMappings scope store.ingestionEndpoints).length
      "Revoke ingestion endpoints that map into this column before converting it." ++
    pushBlocker "writeback_mappings" writebacks "Remove writebacks that reference this column before converting it." ++
    pushBlocker "saved_views" views "Update or delete saved views that reference this column before converting it." ++
    pushBlocker "conversion_failures" failedCells "Fix or clear cells that cannot be converted safely."

/-- `JSON.stringify` of the codes and the counts. -/
def blockersText (blockers : List SchemaLifecycleBlocker) : String :=
  "[" ++ ",".intercalate (blockers.map fun blocker =>
    "\x7b\"code\":\"" ++ blocker.code ++ "\",\"count\":" ++ toString blocker.count ++ "\x7d") ++ "]"

end Blockers

section Preview

variable {ν : Type} [JsRuntime ν] [ValueRuntime ν] [DigestRuntime] (store : LifecycleStore ν) (scope : ColumnScope)

def requireSchemaManager : Except StoreError Unit :=
  requireThat ((store.workspaceMembers.find? fun member =>
      member.workspaceId = scope.workspaceId && member.userId = scope.userId).any fun member =>
    hasWorkspacePermission member.role .schemaManage) (.access "The schema is not accessible.")

def requireLifecycleTable : Except StoreError LifecycleTable :=
  requireSome (store.dataTables.find? fun table =>
    table.id = scope.tableId && table.workspaceId = scope.workspaceId && table.archivedAt.isNone)
    (.access "The table is not accessible.")

def LifecycleColumn.inScope (column : LifecycleColumn) : Bool :=
  column.id = scope.columnId && column.workspaceId = scope.workspaceId && column.tableId = scope.tableId && column.archivedAt.isNone

def requireConvertibleColumn (targetType : EditableInputValueType) : Except StoreError ConversionColumn := do
  let stored ← requireSome (store.columns.find? (LifecycleColumn.inScope scope)) (.access "The column is not accessible.")
  let valueType ← requireSome (if stored.kind = .input then stored.valueType.editable? else none)
    (.validation "Only typed input columns can be converted.")
  requireThat (valueType ≠ targetType) (.validation ("The column already uses the " ++ targetType.type.name ++ " type."))
  return { id := stored.id, name := stored.name, valueType := valueType }

def buildColumnTypeConversionPreview (targetType : EditableInputValueType) : Except StoreError ColumnTypeConversionPreview := do
  let table ← requireLifecycleTable store scope
  let column ← requireConvertibleColumn store scope targetType
  let writebacks ← countChecked (writebackReferencesColumn scope)
    (store.writebackDestinations.filter fun destination => inTable scope destination.workspaceId destination.tableId)
  let views ← countChecked (viewReferencesColumn scope)
    (store.savedGridViews.filter fun view => inTable scope view.workspaceId view.tableId)
  let scan ← requireSome (scanColumnTypeConversion store scope column.valueType targetType) (.failure "The scan did not end.")
  let blockers := conversionBlockers store scope writebacks views scan.impact.failedCells
  return {
    blockers := blockers
    canConvert := blockers.isEmpty
    column := column
    failures := scan.failures
    impact := scan.impact
    previewDigest := DigestRuntime.sha256 (scan.digest ++ blockersText blockers)
    table := table
    targetType := targetType
  }

def previewSqliteColumnTypeConversion (targetType : EditableInputValueType) : Except StoreError ColumnTypeConversionPreview := do
  requireSchemaManager store scope
  buildColumnTypeConversionPreview store scope targetType

end Preview

structure ColumnTypeConversionRequest where
  confirmationName : String
  previewDigest : String
  targetType : EditableInputValueType
  deriving Repr, DecidableEq

structure ColumnTypeConversionResult where
  convertedCells : Nat
  fromValueType : EditableInputValueType
  id : String
  name : String
  toValueType : EditableInputValueType
  deriving Repr, DecidableEq

section Conversion

variable {ν : Type}

def LifecycleStore.updateCell (store : LifecycleStore ν) (id : String) (value : SerializedCellValue ν) (now : Int) : LifecycleStore ν :=
  { store with cells := store.cells.map fun cell =>
      if cell.id = id then { cell with value := value, status := .idle, updatedAt := now, version := cell.version + 1 } else cell }

/-- The cells which were read are converted one after the other; a failure leaves the store as it is by then. -/
def convertCells [ValueRuntime ν] (targetType : EditableInputValueType) (now : Int) :
    List (LifecycleCell ν) → LifecycleStore ν → Except StoreError Unit × LifecycleStore ν
  | [], store => (.ok (), store)
  | cell :: cells, store =>
    match cell.value.deserializeSqliteCellValue with
    | none => (.error .request, store)
    | some value =>
      match convertColumnCellValue value targetType with
      | .error error => (.error (.failure error.message), store)
      | .ok converted => convertCells targetType now cells (store.updateCell cell.id converted.serializeSqliteCellValue now)

def storedCells (store : LifecycleStore ν) (scope : ColumnScope) : List (LifecycleCell ν) :=
  orderedBy LifecycleCell.id (store.cells.filter fun cell => inColumn scope cell && cell.value.valueType ≠ .empty)

def LifecycleColumn.converts (scope : ColumnScope) (fromType : EditableInputValueType) (column : LifecycleColumn) : Bool :=
  column.inScope scope && column.kind = .input && column.valueType = fromType.type

def updateColumnType (store : LifecycleStore ν) (scope : ColumnScope) (fromType targetType : EditableInputValueType) (now : Int) :
    Option LifecycleColumn × LifecycleStore ν :=
  let updated := store.columns.map fun column =>
    if column.converts scope fromType = true then { column with valueType := targetType.type, updatedAt := now } else column
  (store.columns.find? (LifecycleColumn.converts scope fromType), { store with columns := updated })

def withWriteTransaction {σ α : Type} (body : σ → Except StoreError α × σ) (store : σ) : Except StoreError α × σ :=
  match body store with
  | (.ok result, after) => (.ok result, after)
  | (.error error, _) => (.error error, store)

variable [JsRuntime ν] [ValueRuntime ν] [DigestRuntime]

def requireNoBlockers (blockers : List SchemaLifecycleBlocker) : Except StoreError Unit :=
  requireThat blockers.isEmpty (.conflict (" ".intercalate (blockers.map SchemaLifecycleBlocker.message)))

def requireConfirmedPreview (store : LifecycleStore ν) (scope : ColumnScope) (request : ColumnTypeConversionRequest) :
    Except StoreError ColumnTypeConversionPreview := do
  requireSchemaManager store scope
  let preview ← buildColumnTypeConversionPreview store scope request.targetType
  requireThat (request.confirmationName = preview.column.name)
    (.validation ("Type “" ++ preview.column.name ++ "” exactly to confirm conversion."))
  requireThat (preview.previewDigest = request.previewDigest)
    (.conflict "The column changed after the preview. Review the conversion again.")
  requireNoBlockers preview.blockers
  return preview

def conversionEvent (scope : ColumnScope) (preview : ColumnTypeConversionPreview) (convertedCells : Nat) (updated : LifecycleColumn)
    (targetType : EditableInputValueType) : SchemaLifecycleEvent where
  action := "column_type_converted"
  actorUserId := scope.userId
  columnId := updated.id
  snapshot :=
    { convertedCells := convertedCells, emptyCells := preview.impact.emptyCells, failurePolicy := "atomic",
      fromValueType := preview.column.valueType, name := updated.name, previewDigest := preview.previewDigest,
      toValueType := targetType }
  tableId := scope.tableId
  workspaceId := scope.workspaceId

def applyConfirmedConversion (scope : ColumnScope) (preview : ColumnTypeConversionPreview) (targetType : EditableInputValueType)
    (now : Int) (store : LifecycleStore ν) : Except StoreError ColumnTypeConversionResult × LifecycleStore ν :=
  let cells := storedCells store scope
  match convertCells targetType now cells store with
  | (.error error, after) => (.error error, after)
  | (.ok _, converted) =>
    match updateColumnType converted scope preview.column.valueType targetType now with
    | (none, after) => (.error (.conflict "The column changed while the conversion was being applied."), after)
    | (some updated, after) =>
      (.ok { convertedCells := cells.length, fromValueType := preview.column.valueType, id := updated.id, name := updated.name,
             toValueType := targetType },
        { after with schemaLifecycleEvents := after.schemaLifecycleEvents ++
            [conversionEvent scope preview cells.length updated targetType] })

def convertInTransaction (scope : ColumnScope) (request : ColumnTypeConversionRequest) (now : Int) (store : LifecycleStore ν) :
    Except StoreError ColumnTypeConversionResult × LifecycleStore ν :=
  match requireConfirmedPreview store scope request with
  | .error error => (.error error, store)
  | .ok preview => applyConfirmedConversion scope preview request.targetType now store

/-- `columnTypeConversionRequestSchema`. -/
def readConversionRequest (ν : Type) [JsRuntime ν] (request : ColumnTypeConversionRequest) : Option ColumnTypeConversionRequest :=
  match parseDisplayName ν request.confirmationName with
  | some name => if isPurgeDigest request.previewDigest then some { request with confirmationName := name } else none
  | none => none

def convertSqliteWorkspaceColumnType (store : LifecycleStore ν) (scope : ColumnScope) (input : ColumnTypeConversionRequest) (now : Int) :
    Except StoreError ColumnTypeConversionResult × LifecycleStore ν :=
  match readConversionRequest ν input with
  | none => (.error .request, store)
  | some request => withWriteTransaction (convertInTransaction scope request now) store

end Conversion

end ByokGrid
