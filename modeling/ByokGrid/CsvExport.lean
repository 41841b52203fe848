import ByokGrid.CsvText
import ByokGrid.GridTraversal
import ByokGrid.ImportPolicy

/-! The CSV export of a table. Its stream has a header from the first page and a record for every row
of the pages, each with the columns which its own page had. -/

namespace ByokGrid

/-- `/^[=+\-@\t\r]/`. -/
def startsFormula (text : String) : Bool :=
  match text.toList with
  | [] => false
  | c :: _ => c = '=' || c = '+' || c = '-' || c = '@' || c = '\t' || c = '\r'

def spreadsheetSafe (value : String) : String :=
  if startsFormula value then "'" ++ value else value

def formatCsvField (value : String) : String :=
  String.ofList (quoteField (spreadsheetSafe value).toList)

section Export

variable {ν : Type} [JsRuntime ν]

def formatExportCell : Option (SqliteGridCell ν) → String
  | none => ""
  | some cell =>
    match cell.value with
    | .empty => ""
    | .json value => value.stringify
    | .text value => value
    | .number value => JsRuntime.numberToString value
    | .boolean value => if value then "true" else "false"
    | .timestamp value => value

def headerLine (columns : List (Column ν)) : String :=
  ",".intercalate (columns.map fun column => formatCsvField column.name) ++ "\r\n"

def rowLine (columns : List (Column ν)) (row : SqliteGridRow ν) : String :=
  ",".intercalate (columns.map fun column => formatCsvField (formatExportCell (row.cells column.id))) ++ "\r\n"

structure ExportSource (ν : Type) where
  store : GridStore ν
  columnPosition : String → String

def ExportSource.columns (source : ExportSource ν) (tableId : String) : List (Column ν) :=
  unarchivedColumns source.store.db.grid tableId source.columnPosition

structure ExportPage (ν : Type) where
  columns : List (Column ν)
  rows : List (SqliteGridRow ν)
  nextCursor : Option String

structure ExportRequest where
  scope : GridScope
  searchQuery : Option String
  viewId : Option String
  deriving Repr, DecidableEq

def ExportRequest.options (request : ExportRequest) : GridOptions :=
  { limit := some 200, searchQuery := request.searchQuery, viewId := request.viewId }

variable [StoredNumbers ν] [ConversionRuntime ν]

def readExportPage (request : ExportRequest) (source : ExportSource ν) (cursor : Option String) :
    Except StoreError (ExportPage ν) := do
  let snapshot ← getSqliteGridSnapshot source.store request.scope { request.options with cursor := cursor }
  return { columns := source.columns request.scope.tableId, rows := snapshot.rows, nextCursor := snapshot.pageInfo.nextCursor }

/-- One turn of the loop: whether the request is aborted by then, and what the read of the next page finds. -/
structure ExportTurn (ν : Type) where
  aborted : Bool
  source : ExportSource ν

inductive ExportState where
  | running
  | closed
  | failed (error : StoreError)
  deriving Repr, DecidableEq

def exportPages (request : ExportRequest) : ExportPage ν → List (ExportTurn ν) → List (ExportPage ν) × ExportState
  | _, [] => ([], .running)
  | page, turn :: turns =>
    if turn.aborted then ([], .closed)
    else
      match page.nextCursor with
      | none => ([page], .closed)
      | some cursor =>
        match readExportPage request turn.source (some cursor) with
        | .error error => ([page], .failed error)
        | .ok next =>
          let rest := exportPages request next turns
          (page :: rest.1, rest.2)

structure ExportStream (ν : Type) where
  columns : List (Column ν)
  pages : List (ExportPage ν)
  state : ExportState

def exportCsv (request : ExportRequest) (source : ExportSource ν) (turns : List (ExportTurn ν)) :
    Except StoreError (ExportStream ν) := do
  let firstPage ← readExportPage request source none
  let (pages, state) := exportPages request firstPage turns
  return { columns := firstPage.columns, pages, state }

omit [StoredNumbers ν] [ConversionRuntime ν] in
def ExportStream.text (stream : ExportStream ν) : String :=
  headerLine stream.columns ++ String.join (stream.pages.flatMap fun page => page.rows.map (rowLine page.columns))

def ExportStream.rows (stream : ExportStream ν) : List (SqliteGridRow ν) :=
  stream.pages.flatMap ExportPage.rows

def parseCsv (text : String) : Option (List (List String)) :=
  (readCsv text.toList).map fun records => records.map fun record => record.map String.ofList

def headerRecord (columns : List (Column ν)) : List String :=
  columns.map fun column => spreadsheetSafe column.name

def rowRecord (columns : List (Column ν)) (row : SqliteGridRow ν) : List String :=
  columns.map fun column => spreadsheetSafe (formatExportCell (row.cells column.id))

def parsedRecord (fields : List String) : List String :=
  if fields = [] then [""] else fields

omit [JsRuntime ν] [StoredNumbers ν] [ConversionRuntime ν] in
theorem toList_line {α : Type} (text : α → String) (xs : List α) :
    (",".intercalate (xs.map fun x => formatCsvField (text x)) ++ "\r\n").toList =
      quotedLine (xs.map fun x => (spreadsheetSafe (text x)).toList) := by
  have hcomma : ",".toList = [','] := by decide
  have hbreak : "\r\n".toList = ['\r', '\n'] := by decide
  have hfields : (xs.map fun x => formatCsvField (text x)).map String.toList =
      (xs.map fun x => (spreadsheetSafe (text x)).toList).map quoteField := by
    rw [List.map_map, List.map_map]
    apply List.map_congr_left
    intro x _
    exact String.toList_ofList
  rw [String.toList_append, String.toList_intercalate, hcomma, hbreak, hfields, quotedLine]

theorem ofList_readBack (fields : List String) :
    (readBack (fields.map String.toList)).map String.ofList = parsedRecord fields := by
  cases fields with
  | nil => rfl
  | cons field fields => simp [readBack, parsedRecord]

omit [StoredNumbers ν] [ConversionRuntime ν] in
theorem parseCsv_text (stream : ExportStream ν) : parseCsv stream.text = some
    (parsedRecord (headerRecord stream.columns) ::
      stream.pages.flatMap fun page => page.rows.map fun row => parsedRecord (rowRecord page.columns row)) := by
  have hheader : (headerLine stream.columns).toList = quotedLine ((headerRecord stream.columns).map String.toList) := by
    rw [headerLine, toList_line, headerRecord, List.map_map]
    rfl
  have hrow : ∀ (columns : List (Column ν)) (row : SqliteGridRow ν),
      (rowLine columns row).toList = quotedLine ((rowRecord columns row).map String.toList) := by
    intro columns row
    rw [rowLine, toList_line, rowRecord, List.map_map]
    rfl
  have hlines : stream.text.toList = List.flatMap quotedLine
      ((headerRecord stream.columns ::
        stream.pages.flatMap fun page => page.rows.map (rowRecord page.columns)).map (List.map String.toList)) := by
    rw [ExportStream.text, String.toList_append, hheader, String.toList_join, List.map_cons, List.flatMap_cons,
      List.flatMap_assoc, List.map_flatMap, List.flatMap_assoc]
    congr 1
    apply List.flatMap_congr
    intro page _
    rw [List.flatMap_map, List.map_map, List.flatMap_map]
    apply List.flatMap_congr
    intro row _
    exact hrow page.columns row
  rw [parseCsv, hlines, readCsv_quotedLines, Option.map_some, List.map_map, List.map_map, List.map_cons, List.map_flatMap]
  simp only [Function.comp_apply, ofList_readBack]
  congr 2
  apply List.flatMap_congr
  intro page _
  rw [List.map_map]
  apply List.map_congr_left
  intro row _
  exact ofList_readBack (rowRecord page.columns row)

theorem startsFormula_spreadsheetSafe (value : String) : startsFormula (spreadsheetSafe value) = false := by
  rw [spreadsheetSafe]
  split
  case isTrue =>
    have hquote : ("'" ++ value).toList = Char.ofNat 39 :: value.toList := by
      rw [String.toList_append]
      rfl
    rw [startsFormula, hquote]
    rfl
  case isFalse hplain => exact Bool.eq_false_iff.mpr hplain

theorem startsFormula_parsedRecord {fields : List String} (h : ∀ field ∈ fields, startsFormula field = false) :
    ∀ field ∈ parsedRecord fields, startsFormula field = false := by
  rw [parsedRecord]
  split
  case isTrue =>
    intro field hfield
    rw [List.mem_singleton.mp hfield]
    decide
  case isFalse => exact h

omit [StoredNumbers ν] [ConversionRuntime ν] in
theorem parseCsv_safe {stream : ExportStream ν} {records : List (List String)} (h : parseCsv stream.text = some records) :
    ∀ record ∈ records, ∀ field ∈ record, startsFormula field = false := by
  have hsafe : ∀ {α : Type} (text : α → String) (xs : List α), ∀ field ∈ xs.map fun x => spreadsheetSafe (text x),
      startsFormula field = false := by
    intro α text xs field hfield
    obtain ⟨x, -, rfl⟩ := List.mem_map.mp hfield
    exact startsFormula_spreadsheetSafe (text x)
  rw [parseCsv_text, Option.some.injEq] at h
  subst h
  intro record hrecord
  rcases List.mem_cons.mp hrecord with rfl | hrecord
  · exact startsFormula_parsedRecord (hsafe _ _)
  · obtain ⟨page, -, hpage⟩ := List.mem_flatMap.mp hrecord
    obtain ⟨row, -, rfl⟩ := List.mem_map.mp hpage
    exact startsFormula_parsedRecord (hsafe _ _)

def ExportStream.Aligned (stream : ExportStream ν) : Prop :=
  ∃ header records, parseCsv stream.text = some (header :: records) ∧
    header = stream.columns.map (fun column => spreadsheetSafe column.name) ∧
    (∀ record ∈ records, record.length = header.length) ∧
    records = stream.rows.map fun row =>
      stream.columns.map fun column => spreadsheetSafe (formatExportCell (row.cells column.id))

def KeepsColumns (request : ExportRequest) (source : ExportSource ν) (turns : List (ExportTurn ν)) : Prop :=
  ∀ turn ∈ turns, (turn.source.columns request.scope.tableId).map Column.id =
    (source.columns request.scope.tableId).map Column.id

omit [StoredNumbers ν] [ConversionRuntime ν] in
theorem rowRecord_of_ids {columns others : List (Column ν)} (h : columns.map Column.id = others.map Column.id)
    (row : SqliteGridRow ν) : rowRecord columns row = rowRecord others row := by
  have hids : ∀ columns : List (Column ν), rowRecord columns row =
      (columns.map Column.id).map fun id => spreadsheetSafe (formatExportCell (row.cells id)) := by
    intro columns
    rw [List.map_map]
    rfl
  rw [hids, hids, h]

omit [StoredNumbers ν] [ConversionRuntime ν] in
theorem aligned_of_pages {stream : ExportStream ν} (hcolumns : stream.columns ≠ [])
    (hpages : ∀ page ∈ stream.pages, page.columns.map Column.id = stream.columns.map Column.id) : stream.Aligned := by
  have hparsed : ∀ {fields : List String}, fields.length = stream.columns.length → parsedRecord fields = fields := by
    intro fields hlength
    refine if_neg fun hnil => hcolumns ?_
    rw [hnil] at hlength
    exact List.eq_nil_of_length_eq_zero hlength.symm
  have hheader : (headerRecord stream.columns).length = stream.columns.length := List.length_map _
  have hrow : ∀ row, (rowRecord stream.columns row).length = stream.columns.length := fun row => List.length_map _
  refine ⟨headerRecord stream.columns, stream.rows.map (rowRecord stream.columns), ?_, rfl, fun record hrecord => ?_, rfl⟩
  · rw [parseCsv_text, hparsed hheader, ExportStream.rows, List.map_flatMap]
    congr 2
    apply List.flatMap_congr
    intro page hpage
    apply List.map_congr_left
    intro row _
    rw [rowRecord_of_ids (hpages page hpage), hparsed (hrow row)]
  · obtain ⟨row, -, rfl⟩ := List.mem_map.mp hrecord
    rw [hrow row, hheader]

theorem readExportPage_eq_ok {request : ExportRequest} {source : ExportSource ν} {cursor : Option String} {page : ExportPage ν} :
    readExportPage request source cursor = .ok page ↔ page.columns = source.columns request.scope.tableId ∧
      gridPage source.store request.scope request.options cursor = .ok (page.rows, page.nextCursor) := by
  simp only [readExportPage, gridPage, except_bind_eq_ok, except_map_eq_ok, pure, Except.pure, Except.ok.injEq, Prod.mk.injEq]
  constructor
  · rintro ⟨snapshot, hsnapshot, rfl⟩
    exact ⟨rfl, snapshot, hsnapshot, rfl, rfl⟩
  · rintro ⟨hcolumns, snapshot, hsnapshot, hrows, hcursor⟩
    exact ⟨snapshot, hsnapshot, by rw [hrows, hcursor, ← hcolumns]⟩

theorem exportCsv_eq_ok {request : ExportRequest} {source : ExportSource ν} {turns : List (ExportTurn ν)} {stream : ExportStream ν} :
    exportCsv request source turns = .ok stream ↔ ∃ page, readExportPage request source none = .ok page ∧
      stream = ⟨page.columns, (exportPages request page turns).1, (exportPages request page turns).2⟩ := by
  simp only [exportCsv, except_bind_eq_ok, pure, Except.pure, Except.ok.injEq]
  exact exists_congr fun page => and_congr_right fun _ => eq_comm

theorem exportCsv_of_pages (request : ExportRequest) (source other : ExportSource ν) {rows more : List (SqliteGridRow ν)}
    {cursor : String} (hfirst : gridPage source.store request.scope request.options none = .ok (rows, some cursor))
    (hnext : gridPage other.store request.scope request.options (some cursor) = .ok (more, none)) :
    ∃ first second, exportCsv request source [⟨false, other⟩, ⟨false, other⟩] =
        .ok ⟨source.columns request.scope.tableId, [first, second], .closed⟩ ∧
      second.columns = other.columns request.scope.tableId ∧ second.rows = more := by
  have hread : readExportPage request source none = .ok ⟨source.columns request.scope.tableId, rows, some cursor⟩ :=
    readExportPage_eq_ok.mpr ⟨rfl, hfirst⟩
  have hfollowing : readExportPage request other (some cursor) = .ok ⟨other.columns request.scope.tableId, more, none⟩ :=
    readExportPage_eq_ok.mpr ⟨rfl, hnext⟩
  refine ⟨⟨source.columns request.scope.tableId, rows, some cursor⟩, ⟨other.columns request.scope.tableId, more, none⟩,
    exportCsv_eq_ok.mpr ⟨_, hread, ?_⟩, rfl, rfl⟩
  simp only [exportPages, Bool.false_eq_true, if_false, hfollowing]

theorem exportPages_columns {request : ExportRequest} {ids : List String} {turns : List (ExportTurn ν)}
    (hturns : ∀ turn ∈ turns, (turn.source.columns request.scope.tableId).map Column.id = ids) {page : ExportPage ν}
    (hpage : page.columns.map Column.id = ids) :
    ∀ written ∈ (exportPages request page turns).1, written.columns.map Column.id = ids := by
  induction turns generalizing page with
  | nil =>
    intro written hwritten
    cases hwritten
  | cons turn turns ih =>
    intro written hwritten
    rw [exportPages] at hwritten
    split at hwritten
    · cases hwritten
    · split at hwritten
      · rwa [List.mem_singleton.mp hwritten]
      · split at hwritten
        · rwa [List.mem_singleton.mp hwritten]
        · next next hread =>
          rcases List.mem_cons.mp hwritten with rfl | hwritten
          · exact hpage
          · have hnext : next.columns.map Column.id = ids := by
              rw [(readExportPage_eq_ok.mp hread).1]
              exact hturns turn List.mem_cons_self
            exact ih (fun turn hturn => hturns turn (List.mem_cons_of_mem _ hturn)) hnext written hwritten

theorem aligned_of_keepsColumns {request : ExportRequest} {source : ExportSource ν} {turns : List (ExportTurn ν)}
    {stream : ExportStream ν} (h : exportCsv request source turns = .ok stream) (hsome : source.columns request.scope.tableId ≠ [])
    (hkeeps : KeepsColumns request source turns) : stream.Aligned := by
  obtain ⟨page, hread, rfl⟩ := exportCsv_eq_ok.mp h
  obtain ⟨hcolumns, -⟩ := readExportPage_eq_ok.mp hread
  refine aligned_of_pages (hcolumns ▸ hsome) ?_
  exact exportPages_columns (fun turn hturn => (hkeeps turn hturn).trans (congrArg (List.map Column.id) hcolumns.symm)) rfl

def CompletesWith (request : ExportRequest) (source : ExportSource ν) (rows : List (SqliteGridRow ν)) : Prop :=
  ∃ count, ∀ more, ∃ stream, exportCsv request source (List.replicate (count + more) ⟨false, source⟩) = .ok stream ∧
    stream.state = .closed ∧ stream.rows = rows

theorem exportPages_of_traverses {request : ExportRequest} {source : ExportSource ν} {cursor : Option String}
    {rows : List (SqliteGridRow ν)}
    (h : Traverses (gridPage source.store request.scope request.options) cursor rows) {page : ExportPage ν}
    (hread : readExportPage request source cursor = .ok page) :
    ∃ count, ∀ more, ∃ pages, exportPages request page (List.replicate (count + more) ⟨false, source⟩) = (pages, .closed) ∧
      pages.flatMap ExportPage.rows = rows := by
  induction h generalizing page with
  | last hfetch =>
    obtain ⟨-, hpage⟩ := readExportPage_eq_ok.mp hread
    rw [hfetch] at hpage
    obtain ⟨hrows, hnext⟩ := Prod.mk.inj (Except.ok.inj hpage)
    refine ⟨1, fun more => ⟨[page], ?_, ?_⟩⟩
    · rw [Nat.add_comm, List.replicate_succ, exportPages, ← hnext]
      rfl
    · rw [List.flatMap_singleton, ← hrows]
  | @next cursor rows rest after hfetch hrest ih =>
    obtain ⟨-, hpage⟩ := readExportPage_eq_ok.mp hread
    rw [hfetch] at hpage
    obtain ⟨hrows, hnext⟩ := Prod.mk.inj (Except.ok.inj hpage)
    have hfollows : ∃ following, readExportPage request source (some after) = .ok following := by
      cases hrest with
      | last hfetch => exact ⟨⟨_, _, _⟩, readExportPage_eq_ok.mpr ⟨rfl, hfetch⟩⟩
      | next hfetch _ => exact ⟨⟨_, _, _⟩, readExportPage_eq_ok.mpr ⟨rfl, hfetch⟩⟩
    obtain ⟨following, hfollowing⟩ := hfollows
    obtain ⟨count, hcount⟩ := ih hfollowing
    refine ⟨count + 1, fun more => ?_⟩
    obtain ⟨pages, hpages, hall⟩ := hcount more
    refine ⟨page :: pages, ?_, ?_⟩
    · rw [Nat.add_right_comm, List.replicate_succ, exportPages, ← hnext]
      simp only [Bool.false_eq_true, if_false, hfollowing, hpages]
    · rw [List.flatMap_cons, hall, ← hrows]

theorem traverses_of_exportPages {request : ExportRequest} {source : ExportSource ν} (count : Nat) :
    ∀ {cursor : Option String} {page : ExportPage ν} {pages : List (ExportPage ν)},
      readExportPage request source cursor = .ok page →
      exportPages request page (List.replicate count ⟨false, source⟩) = (pages, .closed) →
      Traverses (gridPage source.store request.scope request.options) cursor (pages.flatMap ExportPage.rows) := by
  induction count with
  | zero =>
    intro cursor page pages _ hpages
    cases hpages
  | succ count ih =>
    intro cursor page pages hread hpages
    obtain ⟨-, hpage⟩ := readExportPage_eq_ok.mp hread
    rw [List.replicate_succ, exportPages] at hpages
    cases hnext : page.nextCursor with
    | none =>
      simp only [hnext, Bool.false_eq_true, if_false, Prod.mk.injEq, and_true] at hpages
      rw [← hpages, List.flatMap_singleton]
      exact .last (hnext ▸ hpage)
    | some after =>
      simp only [hnext, Bool.false_eq_true, if_false] at hpages
      cases hfollowing : readExportPage request source (some after) with
      | error error =>
        rw [hfollowing] at hpages
        cases hpages
      | ok following =>
        rw [hfollowing] at hpages
        obtain ⟨hwritten, hstate⟩ := Prod.mk.inj hpages
        have hrest := ih hfollowing (Prod.ext rfl hstate)
        rw [← hwritten, List.flatMap_cons]
        exact .next (hnext ▸ hpage) hrest

theorem completesWith_iff {request : ExportRequest} {source : ExportSource ν} {rows : List (SqliteGridRow ν)} :
    CompletesWith request source rows ↔ Traverses (gridPage source.store request.scope request.options) none rows := by
  constructor
  · rintro ⟨count, hcount⟩
    obtain ⟨stream, hstream, hstate, rfl⟩ := hcount 0
    obtain ⟨page, hread, rfl⟩ := exportCsv_eq_ok.mp hstream
    exact traverses_of_exportPages (count + 0) hread (Prod.ext rfl hstate)
  · intro htraverses
    have hfirst : ∃ page, readExportPage request source none = .ok page := by
      cases htraverses with
      | last hfetch => exact ⟨⟨_, _, _⟩, readExportPage_eq_ok.mpr ⟨rfl, hfetch⟩⟩
      | next hfetch _ => exact ⟨⟨_, _, _⟩, readExportPage_eq_ok.mpr ⟨rfl, hfetch⟩⟩
    obtain ⟨page, hread⟩ := hfirst
    obtain ⟨count, hcount⟩ := exportPages_of_traverses htraverses hread
    refine ⟨count, fun more => ?_⟩
    obtain ⟨pages, hpages, hall⟩ := hcount more
    refine ⟨⟨page.columns, pages, .closed⟩, exportCsv_eq_ok.mpr ⟨page, hread, by rw [hpages]⟩, rfl, hall⟩

end Export

section Sample

def ledgerPrefix : List Char :=
  "1b7f0c52-94de-4a3b-b6c8-2d5e7f801".toList

def ledgerChars (n : Nat) : List Char :=
  ledgerPrefix ++ [hexDigit (n / 100 % 10), hexDigit (n / 10 % 10), hexDigit (n % 10)]

def ledgerRow (n : Nat) : Row :=
  ⟨String.ofList (ledgerChars n), lettersTable, 1, none⟩

def ledgerNumber (chars : List Char) : Nat :=
  (chars.drop 33).foldl (fun n c => 10 * n + (c.toNat - 48)) 0

theorem hexDigit_value : ∀ k < 10, (hexDigit k).toNat - 48 = k := by
  decide

theorem ledgerNumber_ledgerChars {n : Nat} (h : n < 201) : ledgerNumber (ledgerChars n) = n := by
  have hlength : ledgerPrefix.length = 33 := by decide
  have hhundreds := hexDigit_value (n / 100 % 10) (Nat.mod_lt _ (by omega))
  have htens := hexDigit_value (n / 10 % 10) (Nat.mod_lt _ (by omega))
  have hones := hexDigit_value (n % 10) (Nat.mod_lt _ (by omega))
  rw [ledgerNumber, ledgerChars, List.drop_left' hlength]
  simp only [List.foldl_cons, List.foldl_nil, hhundreds, htens, hones]
  omega

theorem ledgerRows_nodup : (((List.range 201).map ledgerRow).map Keyed.key).Nodup := by
  refine List.Nodup.of_map (fun id : String => ledgerNumber id.toList) ?_
  have hsame : (((List.range 201).map ledgerRow).map Keyed.key).map (fun id : String => ledgerNumber id.toList) =
      (List.range 201).map id := by
    rw [List.map_map, List.map_map]
    apply List.map_congr_left
    intro n hn
    have hkey : Keyed.key (ledgerRow n) = String.ofList (ledgerChars n) := rfl
    rw [Function.comp_apply, Function.comp_apply, hkey, String.toList_ofList, ledgerNumber_ledgerChars (List.mem_range.mp hn), id]
  rw [hsame, List.map_id]
  exact List.nodup_range

theorem ledgerTables_nodup : ([lettersTable] : List String).Nodup :=
  List.nodup_singleton lettersTable

theorem ledgerColumns_nodup : ["amount", "note"].Nodup := by
  decide

def ledgerSource (archivedAt : Option Nat) : ExportSource SafeInteger where
  store :=
    { db :=
        { greetingDatabase with
          grid :=
            { dataTables := ⟨[⟨lettersTable, none⟩], ledgerTables_nodup⟩
              columns :=
                ⟨[{ greetingColumn with id := "amount", tableId := lettersTable, name := "Amount", archivedAt := archivedAt },
                  { greetingColumn with id := "note", tableId := lettersTable, name := "Note" }],
                  ledgerColumns_nodup⟩
              columnDependencies := Table.empty
              rows := ⟨(List.range 201).map ledgerRow, ledgerRows_nodup⟩
              cells := fun _ _ => none }
          workspaceMembers := Table.singleton { userId := "alan", role := .owner } }
      savedGridViews := Table.empty
      position := fun _ => "" }
  columnPosition := id

def ledgerRequest : ExportRequest := ⟨lettersScope, none, none⟩

def ledgerReading : GridReading SafeInteger := ⟨none, none, none⟩

theorem readGridRequest_ledger (archivedAt : Option Nat) :
    readGridRequest (ledgerSource archivedAt).store ledgerRequest.scope ledgerRequest.options = .ok ledgerReading :=
  rfl

theorem ledger_typed (archivedAt : Option Nat) : ledgerReading.Typed (ledgerSource archivedAt).store lettersTable :=
  fun _ _ => ⟨trivial, trivial⟩

theorem matchingRows_ledger (archivedAt : Option Nat) :
    matchingRows (ledgerSource archivedAt).store.db.grid lettersTable ⟨.and, []⟩ none = (List.range 201).map ledgerRow := by
  have hscope : tableScope (ledgerSource archivedAt).store.db.grid lettersTable = (List.range 201).map ledgerRow := by
    refine List.filter_eq_self.mpr fun row hrow => ?_
    obtain ⟨n, -, rfl⟩ := List.mem_map.mp hrow
    rfl
  rw [matchingRows, hscope]
  exact List.filter_eq_self.mpr fun row _ => rfl

theorem hexDigit_plain : ∀ d < 10, jsonEscape (hexDigit d) = [hexDigit d] ∧ (hexDigit d).utf8Size = 1 ∧ isHexDigit (hexDigit d) = true := by
  decide

theorem ledgerChars_plain (n : Nat) :
    (ledgerChars n).flatMap jsonEscape = ledgerChars n ∧ ((ledgerChars n).map Char.utf8Size).sum = 36 := by
  obtain ⟨hhundreds, hhundredsSize, -⟩ := hexDigit_plain _ (Nat.mod_lt (n / 100) (by decide : 0 < 10))
  obtain ⟨htens, htensSize, -⟩ := hexDigit_plain _ (Nat.mod_lt (n / 10) (by decide : 0 < 10))
  obtain ⟨hones, honesSize, -⟩ := hexDigit_plain _ (Nat.mod_lt n (by decide : 0 < 10))
  have hprefix : ledgerPrefix.flatMap jsonEscape = ledgerPrefix := by decide +kernel
  have hsize : (ledgerPrefix.map Char.utf8Size).sum = 33 := by decide +kernel
  constructor
  · rw [ledgerChars, List.flatMap_append, hprefix]
    simp only [List.flatMap_cons, List.flatMap_nil, hhundreds, htens, hones, List.append_nil, List.cons_append, List.nil_append]
  · rw [ledgerChars, List.map_append, List.sum_append, hsize]
    simp only [List.map_cons, List.map_nil, List.sum_cons, List.sum_nil, hhundredsSize, htensSize, honesSize]
    rfl

theorem isUuid_ledger (n : Nat) : isUuid (String.ofList (ledgerChars n)) = true := by
  obtain ⟨-, -, hhundreds⟩ := hexDigit_plain _ (Nat.mod_lt (n / 100) (by decide : 0 < 10))
  obtain ⟨-, -, htens⟩ := hexDigit_plain _ (Nat.mod_lt (n / 10) (by decide : 0 < 10))
  obtain ⟨-, -, hones⟩ := hexDigit_plain _ (Nat.mod_lt n (by decide : 0 < 10))
  have hlength : ledgerPrefix.length = 33 := by decide +kernel
  have hprefix : (ledgerPrefix.zipIdx.all fun c => isUuidCharacter c.2 c.1) = true := by decide +kernel
  have hall : ((ledgerChars n).zipIdx.all fun c => isUuidCharacter c.2 c.1) = true := by
    rw [ledgerChars, List.zipIdx_append, List.all_append, hprefix, hlength]
    simp [isUuidCharacter, hhundreds, htens, hones]
  rw [isUuid, String.toList_ofList, hall, ledgerChars, List.length_append, hlength]
  rfl

theorem ledger_fits (archivedAt : Option Nat) : ∀ row ∈ ledgerReading.rows (ledgerSource archivedAt).store lettersTable,
    (ledgerReading.cursor (ledgerSource archivedAt).store row).Fits SafeInteger := by
  intro row hrow
  have hmatching : row ∈ (List.range 201).map ledgerRow := by
    rw [← matchingRows_ledger archivedAt]
    exact (GridStore.mem_orderRows _).mp hrow
  obtain ⟨n, -, rfl⟩ := List.mem_map.mp hmatching
  constructor
  · have haccepted : (isUuid (String.ofList (ledgerChars n)) && utf16Length "" ≤ 512 && true) = true := by
      rw [isUuid_ledger n]
      rfl
    exact haccepted
  · obtain ⟨hplain, hsize⟩ := ledgerChars_plain n
    have hid : (jsonQuote (String.ofList (ledgerChars n))).utf8ByteSize = 38 := by
      rw [jsonQuote, String.toList_ofList, hplain, utf8ByteSize_ofList, List.map_append, List.sum_append, List.map_cons,
        List.sum_cons, hsize]
      rfl
    have hcursor : ledgerReading.cursor (ledgerSource archivedAt).store (ledgerRow n) =
        .position (String.ofList (ledgerChars n)) "" none := rfl
    rw [hcursor, MAXIMUM_CURSOR_BYTES]
    simp only [GridCursor.text, GridCursor.toJson, Json.stringify, Json.stringifyFields, nullableText, Option.map_none, Option.getD_none,
      String.intercalate_cons_cons, String.intercalate_singleton, String.utf8ByteSize_append, hid]
    decide +kernel

def ledgerOrder : List Row :=
  orderedBy (positionKey fun _ => "") ((List.range 201).map ledgerRow)

theorem rows_ledger (archivedAt : Option Nat) :
    ledgerReading.rows (ledgerSource archivedAt).store lettersTable = ledgerOrder :=
  congrArg (orderedBy (positionKey fun _ => "")) (matchingRows_ledger archivedAt)

theorem ledgerOrder_length : ledgerOrder.length = 201 := by
  rw [ledgerOrder, (orderedBy_perm _ _).length_eq, List.length_map, List.length_range]

theorem ledger_columns : ((ledgerSource none).columns lettersTable).length = 2 ∧
    ((ledgerSource (some 7)).columns lettersTable).length = 1 := by
  decide +kernel

def archivedTurns : List (ExportTurn SafeInteger) :=
  [⟨false, ledgerSource (some 7)⟩, ⟨false, ledgerSource (some 7)⟩]

theorem exportCsv_archived : ∃ first second : ExportPage SafeInteger,
    exportCsv ledgerRequest (ledgerSource none) archivedTurns =
      .ok ⟨(ledgerSource none).columns lettersTable, [first, second], .closed⟩ ∧
    second.columns = (ledgerSource (some 7)).columns lettersTable ∧ second.rows.length = 1 := by
  have hmore : 0 + 200 < ledgerOrder.length := by
    rw [ledgerOrder_length]
    decide
  have hsecond : ((ledgerOrder.drop 200).map (toGridRow (ledgerSource (some 7)).store)).length = 1 := by
    rw [List.length_map, List.length_drop, ledgerOrder_length]
  obtain ⟨row, hrow, hpage⟩ := pageFrom_next (toGridRow (ledgerSource none).store)
    (ledgerReading.token (ledgerSource none).store) (by decide) hmore
  have hfirst : gridPage (ledgerSource none).store lettersScope ledgerRequest.options none =
      .ok (((ledgerOrder.drop 0).take 200).map (toGridRow (ledgerSource none).store),
        some (ledgerReading.token (ledgerSource none).store row)) := by
    rw [← hpage, ← rows_ledger none]
    exact gridPage_first (readGridRequest_ledger none) (ledger_typed none)
  have hrows : (ledgerReading.rows (ledgerSource (some 7)).store lettersTable)[199]? = some row := by
    rw [rows_ledger]
    exact hrow
  have hnext : gridPage (ledgerSource (some 7)).store lettersScope ledgerRequest.options
        (some (ledgerReading.token (ledgerSource none).store row)) =
      .ok ((ledgerOrder.drop 200).map (toGridRow (ledgerSource (some 7)).store), none) := by
    have hend : ledgerOrder.length ≤ 200 + 200 := by
      rw [ledgerOrder_length]
      decide
    have hlast : pageFrom 200 (toGridRow (ledgerSource (some 7)).store) (ledgerReading.token (ledgerSource (some 7)).store)
        ledgerOrder 200 = ((ledgerOrder.drop 200).map (toGridRow (ledgerSource (some 7)).store), none) := pageFrom_last hend
    rw [← hlast, ← rows_ledger (some 7)]
    exact gridPage_after (readGridRequest_ledger (some 7)) (ledger_typed (some 7)) hrows
      (ledger_fits (some 7) row (List.mem_of_getElem? hrows))
  obtain ⟨first, second, hstream, hcolumns, hlast⟩ := 
    exportCsv_of_pages ledgerRequest (ledgerSource none) (ledgerSource (some 7)) hfirst hnext
  refine ⟨first, second, hstream, hcolumns, ?_⟩
  rw [hlast]
  exact hsecond

end Sample

end ByokGrid
