import ByokGrid.Base64Url
import ByokGrid.ColumnConversion
import ByokGrid.GridSelection
import ByokGrid.JsonText

/-! The pages of a grid: a snapshot shows the rows after a cursor, and the cursor
of its last row when more rows follow. -/

namespace ByokGrid

inductive CursorValue where
  | null
  | boolean (value : Bool)
  | text (value : String)
  deriving Repr, DecidableEq

inductive GridCursor where
  | position (id position : String) (searchQuery : Option String)
  | sorted (sort : GridViewSort) (empty : Bool) (rowId : String) (searchQuery : Option String) (value : CursorValue)
      (viewId : String)
  deriving Repr, DecidableEq

def GridCursor.searchQuery : GridCursor → Option String
  | .position _ _ searchQuery => searchQuery
  | .sorted _ _ _ searchQuery _ _ => searchQuery

def MAXIMUM_CURSOR_CHARACTERS : Nat := 1024

def textBytes (s : String) : List UInt8 :=
  s.toByteArray.data.toList

/-- `toString('utf8')`: bytes which are no text give none that could be read. -/
def bytesText (bytes : List UInt8) : String :=
  (String.fromUTF8? ⟨bytes.toArray⟩).getD "\uFFFD"

section Cursor

variable {ν : Type}

def nullableText (value : Option String) : Json ν :=
  (value.map Json.string).getD .null

def CursorValue.toJson : CursorValue → Json ν
  | .null => .null
  | .boolean value => .boolean value
  | .text value => .string value

def GridCursor.toJson : GridCursor → Json ν
  | .position id place searchQuery =>
    .object [("id", .string id), ("kind", .string "position"), ("position", .string place),
      ("searchQuery", nullableText searchQuery)]
  | .sorted sort empty rowId searchQuery value viewId =>
    .object
      [("columnId", .string sort.columnId),
        ("direction", .string sort.direction.name),
        ("empty", .boolean empty),
        ("kind", .string "sorted"),
        ("rowId", .string rowId),
        ("searchQuery", nullableText searchQuery),
        ("value", value.toJson),
        ("viewId", .string viewId)]

def Json.field? (value : Json ν) (name : String) : Option (Json ν) :=
  match value with
  | .object fields => fields.reverse.lookup name
  | _ => none

def Json.isObject : Json ν → Bool
  | .object _ | .array _ => true
  | _ => false

def readUuid : Option (Json ν) → Option String
  | some (.string id) => if isUuid id then some id else none
  | _ => none

def readCursorSearch : Option (Json ν) → Option (Option String)
  | none | some .null => some none
  | some (.string query) => if utf16Length query ≤ 120 then some (some query) else none
  | _ => none

def readDirection : Option (Json ν) → Option SortDirection
  | some (.string "asc") => some .asc
  | some (.string "desc") => some .desc
  | _ => none

def readCursorValue : Option (Json ν) → Option CursorValue
  | some .null => some .null
  | some (.boolean value) => some (.boolean value)
  | some (.string value) => if utf16Length value ≤ 4096 then some (.text value) else none
  | _ => none

def readPosition : Option (Json ν) → Option String
  | some (.string position) => if utf16Length position ≤ 512 then some position else none
  | _ => none

def readEmpty : Option (Json ν) → Option Bool
  | some (.boolean empty) => some empty
  | _ => none

def readSortedCursor (candidate : Json ν) (searchQuery : Option String) : Option GridCursor := do
  let columnId ← readUuid (candidate.field? "columnId")
  let rowId ← readUuid (candidate.field? "rowId")
  let viewId ← readUuid (candidate.field? "viewId")
  let direction ← readDirection (candidate.field? "direction")
  let empty ← readEmpty (candidate.field? "empty")
  let value ← readCursorValue (candidate.field? "value")
  return .sorted ⟨columnId, direction⟩ empty rowId searchQuery value viewId

def readPositionCursor (candidate : Json ν) (searchQuery : Option String) : Option GridCursor := do
  let id ← readUuid (candidate.field? "id")
  let position ← readPosition (candidate.field? "position")
  return .position id position searchQuery

def readGridCursor (candidate : Json ν) : Option GridCursor :=
  if !candidate.isObject then none
  else do
    let searchQuery ← readCursorSearch (candidate.field? "searchQuery")
    match candidate.field? "kind" with
    | some (.string "sorted") => readSortedCursor candidate searchQuery
    | none | some (.string "position") => readPositionCursor candidate searchQuery
    | _ => none

variable (ν) [JsRuntime ν]

def GridCursor.text (cursor : GridCursor) : String :=
  (cursor.toJson : Json ν).stringify

def GridCursor.encode (cursor : GridCursor) : String :=
  encodeBase64Url (textBytes (cursor.text ν))

variable [ConversionRuntime ν]

def decodeGridCursor (cursor : String) : Except StoreError GridCursor :=
  if utf16Length cursor > MAXIMUM_CURSOR_CHARACTERS then .error (.validation "The cursor is invalid.")
  else
    let candidate : Option (Json ν) := parseJson ConversionRuntime.parseNumber (bytesText (decodeBase64Url cursor))
    requireSome (candidate.bind readGridCursor) (.validation "The cursor is invalid.")

end Cursor

structure SqliteGridCell (ν : Type) where
  status : CellStatus
  value : CellValue ν
  version : Nat

structure SqliteGridRow (ν : Type) where
  cells : String → Option (SqliteGridCell ν)
  id : String
  position : String
  version : Nat

structure GridPageInfo where
  hasMore : Bool
  nextCursor : Option String
  deriving Repr, DecidableEq

structure GridSnapshot (ν : Type) where
  activeView : Option (String × String)
  pageInfo : GridPageInfo
  rows : List (SqliteGridRow ν)
  searchQuery : Option String

structure GridOptions where
  cursor : Option String := none
  limit : Option Int := none
  searchQuery : Option String := none
  viewId : Option String := none
  deriving Repr, DecidableEq

def GridOptions.pageLimit (options : GridOptions) : Nat :=
  (max 1 (min (options.limit.getD 100) 200)).toNat

section Rows

variable {ν : Type}

def toGridRow [JsRuntime ν] (store : GridStore ν) (row : Row) : SqliteGridRow ν where
  cells columnId := (store.db.grid.cells row.id columnId).map fun cell =>
    { status := cell.status, value := deserializeSqliteCellValue cell.value, version := cell.version }
  id := row.id
  position := store.position row.id
  version := row.version

/-- The values which the sort column gives to a row: what the query returns, where the number column is null
for `NaN`. -/
def sortResult [StoredNumbers ν] (valueType : CellValueType) (value : StoredValue ν) : Option (StoredValue ν) :=
  match valueType, value with
  | .text, .text value => some (.text value)
  | .number, .number value => (StoredNumbers.rank value).map fun _ => .number value
  | .boolean, .boolean value => some (.boolean value)
  | .timestamp, .timestamp value => some (.timestamp value)
  | _, _ => none

def normalizeSortedCursorValue [JsRuntime ν] (value : Option (StoredValue ν)) (valueType : CellValueType) :
    Except StoreError CursorValue :=
  match valueType, value with
  | .text, some (.text value) => .ok (.text value)
  | .number, some (.number value) => .ok (.text (JsRuntime.numberToString value))
  | .boolean, some (.boolean value) => .ok (.boolean value)
  | .timestamp, some (.timestamp value) => .ok (.text (JsRuntime.toISOString ν value))
  | _, _ => .error (.validation "The sort cursor could not be created.")

variable [JsRuntime ν] [StoredNumbers ν]

def rowCursor (store : GridStore ν) (sort : Option TypedSort) (viewId : String) (searchQuery : Option String)
    (row : Row) : Except StoreError GridCursor :=
  match sort with
  | none => .ok (.position row.id (store.position row.id) searchQuery)
  | some ⟨sort, valueType⟩ => do
    let stored := store.db.grid.storedValue row.id sort.columnId
    let value ← if sortEmpty stored then .ok .null else normalizeSortedCursorValue (sortResult valueType stored) valueType
    return .sorted sort (sortEmpty stored) row.id searchQuery value viewId

def encodeGridCursor (store : GridStore ν) (tableId : String) (activeView : Option (SavedGridViewSummary ν))
    (searchQuery : Option String) (row : Row) : Except StoreError String := do
  let sort ← requireSortColumn store.db.grid tableId (activeView.bind SavedGridViewSummary.sort)
  let cursor ← rowCursor store sort ((activeView.map SavedGridViewSummary.id).getD "") searchQuery row
  return cursor.encode ν

variable [ConversionRuntime ν]

def parseSortedCursorValue (ν : Type) [JsRuntime ν] [StoredNumbers ν] [ConversionRuntime ν] (value : CursorValue)
    (valueType : CellValueType) : Except StoreError SqlValue :=
  match valueType, value with
  | .text, .text value => .ok (.text value)
  | .number, .text value =>
    let number : ν := ConversionRuntime.parseNumber value
    if JsRuntime.isFinite number then
      requireSome ((StoredNumbers.rank number).map .number) (.validation "The cursor is invalid.")
    else .error (.validation "The cursor is invalid.")
  | .boolean, .boolean value => .ok (.number (if value then 1 else 0))
  | .timestamp, .text value =>
    requireSome ((ConversionRuntime.parseInstant ν value).map fun instant => .number instant.milliseconds)
      (.validation "The cursor is invalid.")
  | _, _ => .error (.validation "The cursor is invalid.")

def rowAfter (direction : SortDirection) (rowId : String) (row : Row) : Bool :=
  match direction with
  | .asc => rowId < row.id
  | .desc => row.id < rowId

def valueAfter (direction : SortDirection) (value : SqlValue) (sortValue : WithBot SqlValue) : Bool :=
  match direction with
  | .asc => value < sortValue
  | .desc => sortValue ≠ ⊥ && sortValue < value

def buildSortedCursorPredicate (grid : Grid ν) (sort : GridViewSort) (valueType : CellValueType) (empty : Bool)
    (rowId : String) (value : CursorValue) : Except StoreError (Row → Bool) :=
  if empty then
    .ok fun row => sortEmpty (grid.storedValue row.id sort.columnId) && rowAfter sort.direction rowId row
  else if value = .null then .error (.validation "The cursor is invalid.")
  else do
    let value ← parseSortedCursorValue ν value valueType
    return fun row =>
      let stored := grid.storedValue row.id sort.columnId
      (!sortEmpty stored && (valueAfter sort.direction value (sortValue valueType stored) ||
        (sortValue valueType stored = (value : WithBot SqlValue) && rowAfter sort.direction rowId row))) ||
      sortEmpty stored

def cursorPredicate (store : GridStore ν) (sort : Option TypedSort) (viewId : String) :
    Option GridCursor → Except StoreError (Row → Bool)
  | none => .ok fun _ => true
  | some (.position id position _) =>
    match sort with
    | none => .ok fun row =>
      position < store.position row.id || (store.position row.id = position && id < row.id)
    | some _ => .error (.validation "The cursor does not match this view.")
  | some (.sorted cursorSort empty rowId _ value cursorViewId) =>
    match sort with
    | none => .error (.validation "The cursor does not match this view.")
    | some ⟨sort, valueType⟩ =>
      if cursorViewId ≠ viewId ∨ cursorSort ≠ sort then .error (.validation "The cursor does not match this view.")
      else buildSortedCursorPredicate store.db.grid sort valueType empty rowId value

def selectSqliteGridRows (store : GridStore ν) (tableId : String) (activeView : Option (SavedGridViewSummary ν))
    (cursor : Option GridCursor) (limit : Nat) (searchQuery : Option String) : Except StoreError (List Row) := do
  requireThat (cursor.all fun cursor => cursor.searchQuery = searchQuery)
    (.validation "The cursor does not match this search.")
  let sort ← requireSortColumn store.db.grid tableId (activeView.bind SavedGridViewSummary.sort)
  let predicate ← cursorPredicate store sort ((activeView.map SavedGridViewSummary.id).getD "") cursor
  let filterTree := (activeView.map SavedGridViewSummary.filterTree).getD ⟨.and, []⟩
  return (store.orderRows sort
    ((matchingRows store.db.grid tableId filterTree searchQuery).filter predicate)).take limit

def requireView (store : GridStore ν) (scope : GridScope) (viewId : Option String) :
    Except StoreError (Option (SavedGridViewSummary ν)) :=
  match viewId.filter fun viewId => viewId ≠ "" with
  | none => .ok none
  | some viewId => (getSqliteSavedGridView store scope viewId).map some

def decodeCursor (ν : Type) [JsRuntime ν] [ConversionRuntime ν] (cursor : Option String) :
    Except StoreError (Option GridCursor) :=
  match cursor.filter fun cursor => cursor ≠ "" with
  | none => .ok none
  | some cursor => (decodeGridCursor ν cursor).map some

def getSqliteGridSnapshot (store : GridStore ν) (scope : GridScope) (options : GridOptions) :
    Except StoreError (GridSnapshot ν) := do
  requireActiveTableMembership store.db scope
  let searchQuery ← parseSearchRequest ν options.searchQuery
  let cursor ← decodeCursor ν options.cursor
  let activeView ← requireView store scope options.viewId
  let selectedRows ← selectSqliteGridRows store scope.tableId activeView cursor (options.pageLimit + 1) searchQuery
  let gridRows := selectedRows.take options.pageLimit
  let nextCursor ← match gridRows.getLast? with
    | some row =>
      if options.pageLimit < selectedRows.length then
        (encodeGridCursor store scope.tableId activeView searchQuery row).map some
      else .ok none
    | none => .ok none
  return { activeView := activeView.map fun view => (view.id, view.name)
           pageInfo := { hasMore := decide (options.pageLimit < selectedRows.length), nextCursor := nextCursor }
           rows := gridRows.map (toGridRow store)
           searchQuery := searchQuery }

end Rows

end ByokGrid
