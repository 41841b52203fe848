import ByokGrid.CellRunSystem
import ByokGrid.Deliveries
import ByokGrid.GridSelection

/-! The selection of a bulk run: a preview shows which rows would be taken, with
the digest of their order, and the run is created while that digest still holds. -/

namespace ByokGrid

structure BulkRunLimits where
  maxOutputTokens : Int
  maxProviderRequests : Int
  maxRows : Int
  deriving Repr, DecidableEq

structure BulkRunRequest where
  columnId : String
  tableId : String
  userId : String
  limits : BulkRunLimits
  mode : BulkRunMode
  rowLimit : Int
  searchQuery : Option String
  viewId : Option String
  deriving Repr, DecidableEq

inductive BulkRunSelectionSnapshot (ν : Type) where
  | allRows (searchQuery : Option String)
  | savedView (view : SavedGridViewSummary ν) (searchQuery : Option String)

structure ResolvedBulkRunSelection (ν : Type) where
  filterTree : GridViewFilterGroup ν
  snapshot : BulkRunSelectionSnapshot ν
  searchQuery : Option String
  sort : Option TypedSort

section Request

variable (ν : Type) [JsRuntime ν]

def parseBulkRunSearchQuery (searchQuery : Option String) : Except StoreError (Option String) :=
  parseSearchRequest ν searchQuery

def isLimit (value : Int) : Bool :=
  1 ≤ value && value ≤ 9007199254740991

def validateBulkRunRequest (input : BulkRunRequest) : Except StoreError Unit := do
  let _ ← parseBulkRunSearchQuery ν input.searchQuery
  requireThat (input.viewId.all fun viewId => viewId = "" || isUuid viewId) (.validation "The saved view is invalid.")
  requireThat (1 ≤ input.rowLimit) (.validation "A bulk run must request at least one row.")
  requireThat (isLimit input.limits.maxOutputTokens) (.validation "The maxOutputTokens limit is invalid.")
  requireThat (isLimit input.limits.maxProviderRequests) (.validation "The maxProviderRequests limit is invalid.")
  requireThat (isLimit input.limits.maxRows) (.validation "The maxRows limit is invalid.")

end Request

section Snapshot

variable {ν : Type}

def GridViewFilter.value? : GridViewFilter ν → Option (Json ν)
  | .empty _ _ => none
  | .text _ _ value => some (.string value)
  | .number _ _ value => some (.number value)
  | .boolean _ value => some (.boolean value)
  | .timestamp _ _ value => some (.string value)
  | .status _ value => some (.string value.name)

def GridViewFilter.toJson (filter : GridViewFilter ν) : Json ν :=
  .object (("columnId", .string filter.columnId) :: ("operator", .string filter.operator) ::
    filter.value?.toList.map fun value => ("value", value))

def FilterCombinator.name : FilterCombinator → String
  | .and => "and"
  | .or => "or"

mutual

def GridViewFilterNode.toJson : GridViewFilterNode ν → Json ν
  | .leaf filter => filter.toJson
  | .group combinator children =>
    .object [("children", .array (GridViewFilterNode.toJsons children)), ("combinator", .string combinator.name)]

def GridViewFilterNode.toJsons : List (GridViewFilterNode ν) → List (Json ν)
  | [] => []
  | child :: children => child.toJson :: GridViewFilterNode.toJsons children

end

def GridViewFilterGroup.toJson (group : GridViewFilterGroup ν) : Json ν :=
  GridViewFilterNode.toJson (.group group.combinator group.children)

def GridViewSort.toJson (sort : GridViewSort) : Json ν :=
  .object [("columnId", .string sort.columnId), ("direction", .string sort.direction.name)]

def nullable (value : Option (Json ν)) : Json ν :=
  value.getD .null

variable [JsRuntime ν]

def BulkRunSelectionSnapshot.toJson : BulkRunSelectionSnapshot ν → Json ν
  | .allRows searchQuery => .object [("kind", .string "all_rows"), ("searchQuery", nullable (searchQuery.map .string))]
  | .savedView view searchQuery =>
    .object
      [("filterTree", view.filterTree.toJson),
        ("kind", .string "saved_view"),
        ("name", .string view.name),
        ("searchQuery", nullable (searchQuery.map .string)),
        ("sort", nullable (view.sort.map GridViewSort.toJson)),
        ("updatedAt", .string (JsRuntime.toISOString ν view.updatedAt)),
        ("viewId", .string view.id)]

/-- `bulkRunSelectionSnapshotSchema`. -/
def BulkRunSelectionSnapshot.accepted : BulkRunSelectionSnapshot ν → Bool
  | .allRows _ => true
  | .savedView view _ => view.filterTree.accepted && 1 ≤ utf16Length view.name && utf16Length view.name ≤ 80 &&
      view.sort.all (fun sort => isEntityId sort.columnId) &&
      JsRuntime.isIsoDatetime ν (JsRuntime.toISOString ν view.updatedAt) && isEntityId view.id

def selectionText (selection : BulkRunSelectionSnapshot ν) (rowIds : List String) : String :=
  "byok-grid:bulk-run-selection:v1\x00" ++ selection.toJson.stringify ++
    String.ofList (rowIds.flatMap fun rowId => '\x00' :: rowId.toList)

def digestBulkRunSelection [ConnectorRuntime ν] (selection : BulkRunSelectionSnapshot ν) (rowIds : List String) :
    String :=
  ConnectorRuntime.sha256 ν (selectionText selection rowIds)

end Snapshot

/-- The counts of a preview as numbers. -/
class CountNumbers (ν : Type) where
  ofInt : Int → ν

structure BulkColumnPlan (ν : Type) where
  columnName : String
  maxOutputTokensPerRow : Option ν
  providerRequestsPerRow : Nat
  sourceColumnIds : List String

structure BulkRunPreview (ν : Type) where
  columnId : String
  columnName : String
  estimatedMaxOutputTokens : Option ν
  estimatedProviderRequests : Nat
  excludedByModeRows : Int
  inputReadyRows : Nat
  limitViolations : List String
  limits : BulkRunLimits
  mode : BulkRunMode
  requestedRowLimit : Int
  scopedRows : Nat
  selectedRows : Nat
  selection : BulkRunSelectionSnapshot ν
  selectionDigest : String
  totalRows : Nat

section Preview

variable {ν : Type}

def bulkColumnPlan (db : Database ν) (input : BulkRunRequest) : Except StoreError (BulkColumnPlan ν) := do
  let configuration ← requireColumnPlan db input.columnId input.tableId input.userId
  let tokens := match configuration.inputBindings.lookup "max_output_tokens" with
    | some (.literal (.number value)) => if configuration.connectorId = "openai" then some value else none
    | _ => none
  return { columnName := ((db.grid.columns.get? input.columnId).map Column.name).getD ""
           maxOutputTokensPerRow := tokens
           providerRequestsPerRow := 1
           sourceColumnIds := boundColumnIds configuration }

def inputReady (grid : Grid ν) (sourceColumnIds : List String) (row : Row) : Bool :=
  sourceColumnIds.all fun columnId => (grid.storedValue row.id columnId).type ≠ .empty

def targetMode (grid : Grid ν) (columnId : String) (mode : BulkRunMode) (row : Row) : Bool :=
  shouldSelectCellForBulkRun ((grid.cells row.id columnId).map Cell.status) mode

variable [JsRuntime ν]

def resolveBulkRunSelection (store : GridStore ν) (input : BulkRunRequest) :
    Except StoreError (ResolvedBulkRunSelection ν) := do
  let searchQuery ← parseBulkRunSearchQuery ν input.searchQuery
  match input.viewId.filter fun viewId => viewId ≠ "" with
  | none =>
    return { filterTree := ⟨.and, []⟩, snapshot := .allRows searchQuery, searchQuery := searchQuery, sort := none }
  | some viewId =>
    let view ← getSqliteSavedGridView store ⟨input.tableId, input.userId⟩ viewId
    let sort ← requireSortColumn store.db.grid input.tableId view.sort
    let snapshot := BulkRunSelectionSnapshot.savedView view searchQuery
    requireThat snapshot.accepted (.failure "The selection is not a valid snapshot.")
    return { filterTree := view.filterTree, snapshot := snapshot, searchQuery := searchQuery, sort := sort }

variable [StoredNumbers ν]

def selectCandidateRows (store : GridStore ν) (input : BulkRunRequest) (plan : BulkColumnPlan ν)
    (selection : ResolvedBulkRunSelection ν) : List Row :=
  (store.orderRows selection.sort
    ((matchingRows store.db.grid input.tableId selection.filterTree selection.searchQuery).filter fun row =>
      inputReady store.db.grid plan.sourceColumnIds row &&
        targetMode store.db.grid input.columnId input.mode row)).take input.rowLimit.toNat

variable [CountNumbers ν]

def exceeds (estimate : ν) (limit : Int) : Bool :=
  NumberComparison.compareNumber estimate (CountNumbers.ofInt limit) = some .gt

def limitViolations (limits : BulkRunLimits) (selectedRows requests : Nat) (tokens : Option ν) : List String :=
  (if selectedRows > limits.maxRows then
    ["This run selects " ++ toString selectedRows ++ " rows; the deployment limit is " ++ toString limits.maxRows ++ "."]
    else []) ++
  (if requests > limits.maxProviderRequests then
    ["This run can make " ++ toString requests ++ " provider requests; the deployment limit is " ++
      toString limits.maxProviderRequests ++ "."]
    else []) ++
  (tokens.filter fun tokens => exceeds tokens limits.maxOutputTokens).toList.map fun tokens =>
    "This run allows up to " ++ JsRuntime.numberToString tokens ++ " output tokens; the deployment limit is " ++
      toString limits.maxOutputTokens ++ "."

variable [ConnectorRuntime ν]

def computeBulkRunPreview (store : GridStore ν) (input : BulkRunRequest) :
    Except StoreError (BulkRunPreview ν × List Row) := do
  let plan ← bulkColumnPlan store.db input
  let selection ← resolveBulkRunSelection store input
  let grid := store.db.grid
  let scopedRows := matchingRows grid input.tableId selection.filterTree selection.searchQuery
  let ready := scopedRows.filter (inputReady grid plan.sourceColumnIds)
  let selectable := ready.filter (targetMode grid input.columnId input.mode)
  let selected := selectCandidateRows store input plan selection
  let requests := selected.length * plan.providerRequestsPerRow * MAXIMUM_CELL_RUN_ATTEMPTS
  let tokens := plan.maxOutputTokensPerRow.map fun tokens =>
    JsRuntime.multiply (JsRuntime.multiply (CountNumbers.ofInt selected.length) tokens)
      (CountNumbers.ofInt MAXIMUM_CELL_RUN_ATTEMPTS)
  return (
    { columnId := input.columnId
      columnName := plan.columnName
      estimatedMaxOutputTokens := tokens
      estimatedProviderRequests := requests
      excludedByModeRows := (ready.length : Int) - selectable.length
      inputReadyRows := ready.length
      limitViolations := limitViolations input.limits selected.length requests tokens
      limits := input.limits
      mode := input.mode
      requestedRowLimit := input.rowLimit
      scopedRows := scopedRows.length
      selectedRows := selected.length
      selection := selection.snapshot
      selectionDigest := digestBulkRunSelection selection.snapshot (selected.map Row.id)
      totalRows := (tableScope grid input.tableId).length }, selected)

def previewSqliteBulkRun (store : GridStore ν) (input : BulkRunRequest) : Except StoreError (BulkRunPreview ν) := do
  validateBulkRunRequest ν input
  let result ← computeBulkRunPreview store input
  return result.1

structure ConfirmBulkRun where
  request : BulkRunRequest
  expectedSelectedRows : Int
  expectedSelectionDigest : String
  batchId : String
  eventId : String
  now : Int
  deriving Repr, DecidableEq

/-- `/^[0-9a-f]{64}$/`. -/
def isSelectionDigest (digest : String) : Bool :=
  digest.toList.length = 64 && digest.toList.all fun c => ('0' ≤ c && c ≤ '9') || ('a' ≤ c && c ≤ 'f')

def ConfirmBulkRun.batch (input : ConfirmBulkRun) (rows : List Row) : CreateBulkRunBatch where
  batchId := input.batchId
  columnId := input.request.columnId
  tableId := input.request.tableId
  userId := input.request.userId
  mode := input.request.mode
  selectedRowIds := rows.map Row.id
  eventId := input.eventId
  now := input.now

/-- `createSqliteBulkRunBatch` from its checks on: it takes the rows which a preview selects now. -/
def confirmBulkRunBatch (store : GridStore ν) (input : ConfirmBulkRun) : Except StoreError (Database ν) := do
  validateBulkRunRequest ν input.request
  requireThat (isSelectionDigest input.expectedSelectionDigest) (.validation "The confirmed bulk-run selection is invalid.")
  let (preview, selectedRows) ← computeBulkRunPreview store input.request
  requireThat (preview.selectedRows = input.expectedSelectedRows && preview.selectionDigest = input.expectedSelectionDigest)
    (.conflict "The eligible row selection changed. Preview the bulk run again.")
  requireThat (preview.selectedRows ≠ 0) (.validation "No rows are currently eligible for this bulk run.")
  match preview.limitViolations with
  | violation :: _ => .error (.validation violation)
  | [] => createSqliteBulkRunBatch store.db (input.batch selectedRows)

end Preview

end ByokGrid
