import Mathlib.Data.Sum.Order
import Mathlib.Order.WithBot
import Mathlib.Data.Prod.Lex
import ByokGrid.Database
import ByokGrid.GridViewQuery
import ByokGrid.Keyset

/-! The rows which a saved view and a search leave of a table, in the order of
the view. -/

namespace ByokGrid

inductive SortDirection where
  | asc
  | desc
  deriving Repr, DecidableEq

def SortDirection.name : SortDirection → String
  | .asc => "asc"
  | .desc => "desc"

structure GridViewSort where
  columnId : String
  direction : SortDirection
  deriving Repr, DecidableEq

inductive PersistedFilters (ν : Type) where
  | tree (group : GridViewFilterGroup ν)
  | legacy (children : List (GridViewFilter ν))

structure SavedGridView (ν : Type) where
  id : String
  tableId : String
  name : String
  filters : PersistedFilters ν
  sort : Option GridViewSort
  updatedAt : TimeValue

instance {ν : Type} : Keyed (SavedGridView ν) String := ⟨SavedGridView.id⟩

structure SavedGridViewSummary (ν : Type) where
  id : String
  name : String
  filterTree : GridViewFilterGroup ν
  sort : Option GridViewSort
  updatedAt : TimeValue

structure GridStore (ν : Type) where
  db : Database ν
  savedGridViews : Table (SavedGridView ν)
  position : String → String

structure GridScope where
  tableId : String
  userId : String
  deriving Repr, DecidableEq

structure TypedSort where
  sort : GridViewSort
  valueType : CellValueType
  deriving Repr, DecidableEq

section Views

variable {ν : Type}

def GridViewFilter.operator : GridViewFilter ν → String
  | .empty _ negated => if negated then "is_not_empty" else "is_empty"
  | .text _ contains _ => if contains then "text_contains" else "text_equals"
  | .number _ .eq _ => "number_equals"
  | .number _ .gt _ => "number_gt"
  | .number _ .lt _ => "number_lt"
  | .boolean _ _ => "boolean_is"
  | .timestamp _ after _ => if after then "timestamp_after" else "timestamp_before"
  | .status _ _ => "status_is"

/-- The operator up to its first underscore is `is`, `status` or the type of the column. -/
def gridViewFilterAcceptsValueType (filter : GridViewFilter ν) (valueType : CellValueType) : Bool :=
  match filter with
  | .empty _ _ | .status _ _ => true
  | .text _ _ _ => valueType = .text
  | .number _ _ _ => valueType = .number
  | .boolean _ _ => valueType = .boolean
  | .timestamp _ _ _ => valueType = .timestamp

def requireActiveTableMembership (db : Database ν) (scope : GridScope) : Except StoreError Unit :=
  requireThat ((db.grid.dataTables.get? scope.tableId).any (fun table => table.archivedAt.isNone) &&
    (db.workspaceMembers.get? scope.userId).isSome) (.access "The table is not accessible.")

def activeColumn? (grid : Grid ν) (tableId columnId : String) : Option (Column ν) :=
  (grid.columns.get? columnId).filter fun column => column.tableId = tableId && column.archivedAt.isNone

def validateViewFilters (grid : Grid ν) (tableId : String) : List (GridViewFilter ν) → Except StoreError Unit
  | [] => .ok ()
  | filter :: filters => do
    let column ← requireSome (activeColumn? grid tableId filter.columnId)
      (.validation "Every saved-view column must be active in this table.")
    requireThat (gridViewFilterAcceptsValueType filter column.valueType)
      (.validation ("The " ++ filter.operator ++ " operator cannot filter a " ++ column.valueType.name ++ " column."))
    validateViewFilters grid tableId filters

def validateViewColumns (grid : Grid ν) (tableId : String) (filterTree : GridViewFilterGroup ν)
    (sort : Option GridViewSort) : Except StoreError Unit := do
  let columnIds := distinct ((gridViewFilterLeaves filterTree).map GridViewFilter.columnId ++
    sort.toList.map GridViewSort.columnId)
  requireThat (columnIds.all fun columnId => (activeColumn? grid tableId columnId).isSome)
    (.validation "Every saved-view column must be active in this table.")
  validateViewFilters grid tableId (gridViewFilterLeaves filterTree)
  requireThat (!sort.any fun sort => (activeColumn? grid tableId sort.columnId).any fun column =>
    column.valueType = .json) (.validation "JSON columns cannot be sorted.")

def requireSortColumn (grid : Grid ν) (tableId : String) : Option GridViewSort → Except StoreError (Option TypedSort)
  | none => .ok none
  | some sort => do
    let column ← requireSome ((activeColumn? grid tableId sort.columnId).filter fun column =>
      column.valueType ≠ .empty && column.valueType ≠ .json) (.validation "The saved-view sort column is invalid.")
    return some ⟨sort, column.valueType⟩

variable [JsRuntime ν]

def normalizeGridViewFilterTree : PersistedFilters ν → Option (GridViewFilterGroup ν)
  | .tree group => if group.accepted then some group else none
  | .legacy children =>
    if children.length ≤ 5 ∧ children.all GridViewFilter.accepted then
      some ⟨.and, children.map GridViewFilterNode.leaf⟩
    else none

def getSqliteSavedGridView (store : GridStore ν) (scope : GridScope) (viewId : String) :
    Except StoreError (SavedGridViewSummary ν) := do
  requireActiveTableMembership store.db scope
  let view ← requireSome ((store.savedGridViews.get? viewId).filter fun view => view.tableId = scope.tableId)
    (.access "The saved view is not accessible.")
  let filterTree ← requireSome (normalizeGridViewFilterTree view.filters) (.failure "Invalid saved view.")
  validateViewColumns store.db.grid scope.tableId filterTree view.sort
  return { id := view.id, name := view.name, filterTree := filterTree, sort := view.sort, updatedAt := view.updatedAt }

end Views

section Requests

/-- `isUuid`: the schema of identifiers without the nil and the maximal one. -/
def isUuid (id : String) : Bool :=
  id.toList.length == 36 && id.toList.zipIdx.all fun c => isUuidCharacter c.2 c.1

variable (ν : Type) [JsRuntime ν]

def parseSearchRequest : Option String → Except StoreError (Option String)
  | none => .ok none
  | some query =>
    if jsTrim query = "" then .ok none
    else (requireSome (parseGridSearchQuery ν query)
      (.validation "Search must contain 3 to 120 normalized characters.")).map some

end Requests

/-- The texts which the query language makes of numbers and times, and the order of numbers:
no number is stored for `NaN`. -/
class StoredNumbers (ν : Type) extends NumberComparison ν where
  rank : ν → Option Int
  compareNumber_rank : ∀ left right, compareNumber left right =
    (rank left).bind fun x => (rank right).map fun y => compare x y
  numberText : ν → String
  timeText : TimeValue → Option String

def MAXIMUM_SEARCHABLE_CELL_CHARACTERS : Nat := 8192

section Search

variable {ν : Type} [JsRuntime ν] [StoredNumbers ν]

def cellSearchText (value : StoredValue ν) : String :=
  let text := match value with
    | .empty => ""
    | .text value => value
    | .number value => ((StoredNumbers.rank value).map fun _ => StoredNumbers.numberText value).getD ""
    | .boolean value => if value then "true" else "false"
    | .timestamp value => (StoredNumbers.timeText ν value).getD ""
    | .json value => value.stringify
  String.ofList (text.toList.take MAXIMUM_SEARCHABLE_CELL_CHARACTERS)

/-- `like '%…%'` without regard to the case of ASCII letters. Both texts end at their first null
character, and so does the pattern. -/
def likeContains (query text : String) : Bool :=
  let visible := fun text => (asciiLower text).takeWhile fun c => c ≠ '\x00'
  if query.toList.contains '\x00' then visible query <:+ visible text else visible query <:+: visible text

/-- `buildSqliteGridSearchPredicate` on one row. -/
def matchesSearch (grid : Grid ν) (row : Row) : Option String → Bool
  | none => true
  | some query => grid.columns.records.any fun column => column.tableId = row.tableId &&
      (grid.cells row.id column.id).any fun cell => likeContains query (cellSearchText cell.value)

def tableScope (grid : Grid ν) (tableId : String) : List Row :=
  grid.rows.records.filter fun row => row.tableId = tableId && row.archivedAt.isNone

def matchingRows (grid : Grid ν) (tableId : String) (filterTree : GridViewFilterGroup ν)
    (searchQuery : Option String) : List Row :=
  (tableScope grid tableId).filter fun row => filterTree.matches grid row.id && matchesSearch grid row searchQuery

end Search

inductive SqlValue where
  | number (value : Int)
  | text (value : String)
  deriving Repr, DecidableEq

def SqlValue.place : SqlValue → Int ⊕ₗ String
  | .number value => Sum.inlₗ value
  | .text value => Sum.inrₗ value

theorem SqlValue.place_injective : Function.Injective SqlValue.place := by
  intro left right h
  cases left with
  | number x =>
    cases right with
    | number y => exact congrArg _ (Sum.inl.inj h)
    | text y => cases h
  | text x =>
    cases right with
    | number y => cases h
    | text y => exact congrArg _ (Sum.inr.inj h)

instance : LinearOrder SqlValue := LinearOrder.lift' SqlValue.place SqlValue.place_injective

section Order

variable {ν : Type} [StoredNumbers ν]

/-- `sortValue`: the value column of the type which is sorted by, null for a cell of another type. -/
def sortValue (valueType : CellValueType) (value : StoredValue ν) : WithBot SqlValue :=
  match valueType, value with
  | .text, .text value => (SqlValue.text value : SqlValue)
  | .number, .number value =>
    match StoredNumbers.rank value with
    | some rank => (SqlValue.number rank : SqlValue)
    | none => ⊥
  | .boolean, .boolean value => (SqlValue.number (if value then 1 else 0) : SqlValue)
  | .timestamp, .timestamp value => (SqlValue.number value.milliseconds : SqlValue)
  | _, _ => ⊥

/-- `sortEmpty`: no cell, or an empty one. -/
def sortEmpty (value : StoredValue ν) : Bool :=
  value.type = .empty

def positionKey (position : String → String) (row : Row) : String ×ₗ String :=
  toLex (position row.id, row.id)

def ascendingKey (grid : Grid ν) (columnId : String) (valueType : CellValueType) (row : Row) :
    Bool ×ₗ WithBot SqlValue ×ₗ String :=
  let value := grid.storedValue row.id columnId
  toLex (sortEmpty value, toLex (sortValue valueType value, row.id))

def descendingKey (grid : Grid ν) (columnId : String) (valueType : CellValueType) (row : Row) :
    Bool ×ₗ (WithBot SqlValue)ᵒᵈ ×ₗ Stringᵒᵈ :=
  let value := grid.storedValue row.id columnId
  toLex (sortEmpty value, toLex (OrderDual.toDual (sortValue valueType value), OrderDual.toDual row.id))

def GridStore.orderRows (store : GridStore ν) (sort : Option TypedSort) (rows : List Row) : List Row :=
  match sort with
  | none => orderedBy (positionKey store.position) rows
  | some ⟨⟨columnId, .asc⟩, valueType⟩ => orderedBy (ascendingKey store.db.grid columnId valueType) rows
  | some ⟨⟨columnId, .desc⟩, valueType⟩ => orderedBy (descendingKey store.db.grid columnId valueType) rows

@[simp] theorem GridStore.mem_orderRows (store : GridStore ν) {sort : Option TypedSort} {rows : List Row} {row : Row} :
    row ∈ store.orderRows sort rows ↔ row ∈ rows := by
  unfold GridStore.orderRows
  split <;> exact mem_orderedBy

end Order

end ByokGrid
