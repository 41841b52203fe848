import ByokGrid.CellRunContract
import ByokGrid.Workspace

/-! A write step which is executed again: its rows are there, so it can only add
the cells whose source cells were filled in after the first execution. -/

namespace ByokGrid

section Replay

variable {ν : Type}

def RowsStored (rows : Table Row) (rowIds : List String) : Prop :=
  ∀ rowId ∈ rowIds, (rows.get? rowId).isSome

theorem RowsStored.stay {rows rows' : Table Row} {rowIds : List String} (h : RowsStored rows rowIds)
    (hstay : RowsStay rows rows') : RowsStored rows' rowIds := by
  intro rowId hmem
  obtain ⟨row, hrow⟩ := Option.isSome_iff_exists.mp (h rowId hmem)
  obtain ⟨row', hrow', _⟩ := hstay rowId row hrow
  rw [hrow']
  rfl

theorem insertMissingRows_stored (tableId : String) (rowIds : List String) (grid : Grid ν) :
    RowsStored (insertMissingRows tableId rowIds grid).2.rows rowIds := by
  induction rowIds generalizing grid with
  | nil => exact fun _ hmem => absurd hmem List.not_mem_nil
  | cons rowId rowIds ih =>
    unfold insertMissingRows
    split
    · rename_i hnone
      have htaken : (grid.rows.get? rowId).isSome := Table.insert_eq_none.mp hnone
      obtain ⟨row, hrow⟩ := Option.isSome_iff_exists.mp htaken
      intro other hother
      rcases List.mem_cons.mp hother with rfl | hother
      · obtain ⟨row', hrow', _⟩ := (insertMissingRows_moves tableId rowIds grid).rows other row hrow
        rw [hrow']
        rfl
      · exact ih grid other hother
    · rename_i rows hrows
      intro other hother
      rcases List.mem_cons.mp hother with rfl | hother
      · have hnew : rows.get? other = some ⟨other, tableId, 1, none⟩ := by
          rw [Table.get?_insert hrows]
          exact if_pos rfl
        obtain ⟨row', hrow', _⟩ :=
          (insertMissingRows_moves tableId rowIds { grid with rows := rows }).rows other _ hnew
        rw [hrow']
        rfl
      · exact ih _ other hother

theorem insertMissingRows_none {tableId : String} {rowIds : List String} {grid : Grid ν}
    (h : RowsStored grid.rows rowIds) : insertMissingRows tableId rowIds grid = ([], grid) := by
  induction rowIds with
  | nil => rfl
  | cons rowId rowIds ih =>
    have hnone : grid.rows.insert ⟨rowId, tableId, 1, none⟩ = none :=
      Table.insert_eq_none.mpr (h rowId List.mem_cons_self)
    unfold insertMissingRows
    rw [hnone]
    exact ih fun other hother => h other (List.mem_cons_of_mem _ hother)

theorem insertMissingCells_none {tableId : String} {cells : List (WorkflowCell ν)} {grid : Grid ν}
    (h : ∀ cell ∈ cells, (grid.cells cell.rowId cell.columnId).isSome) :
    insertMissingCells tableId cells grid = .ok grid := by
  induction cells with
  | nil => rfl
  | cons cell cells ih =>
    obtain ⟨stored, hstored⟩ := Option.isSome_iff_exists.mp (h cell List.mem_cons_self)
    unfold insertMissingCells
    rw [hstored]
    exact ih fun other hother => h other (List.mem_cons_of_mem _ hother)

theorem insertMissingCells_stored {tableId : String} {cells : List (WorkflowCell ν)} {grid grid' : Grid ν}
    (h : insertMissingCells tableId cells grid = .ok grid') :
    (∀ rowId columnId, (grid.cells rowId columnId).isSome → (grid'.cells rowId columnId).isSome) ∧
      ∀ cell ∈ cells, (grid'.cells cell.rowId cell.columnId).isSome := by
  induction cells generalizing grid with
  | nil =>
    cases h
    exact ⟨fun _ _ h => h, fun _ hmem => absurd hmem List.not_mem_nil⟩
  | cons cell cells ih =>
    unfold insertMissingCells at h
    split at h
    · rename_i stored hstored
      obtain ⟨hkept, hcells⟩ := ih h
      refine ⟨hkept, fun other hother => ?_⟩
      rcases List.mem_cons.mp hother with rfl | hother
      · exact hkept _ _ (by rw [hstored]; rfl)
      · exact hcells other hother
    · simp only [except_bind_eq_ok] at h
      obtain ⟨_, _, hrest⟩ := h
      obtain ⟨hkept, hcells⟩ := ih hrest
      refine ⟨fun rowId columnId hsome => hkept rowId columnId ?_, fun other hother => ?_⟩
      · by_cases hcell : rowId = cell.rowId ∧ columnId = cell.columnId
        · obtain ⟨rfl, rfl⟩ := hcell
          rw [Grid.setCell_self]
          rfl
        · rw [Grid.setCell_of_ne _ _ _ _ hcell]
          exact hsome
      · rcases List.mem_cons.mp hother with rfl | hother
        · exact hkept _ _ (by rw [Grid.setCell_self]; rfl)
        · exact hcells other hother

variable [ConnectorRuntime ν]

def SourceCellsCopied (grid : Grid ν) (input : WriteWorkflowRows) : Prop :=
  ∀ source ∈ input.batch, ∀ mapping ∈ input.columnMappings,
    (grid.cells source.rowId mapping.sourceColumnId).isSome →
      (grid.cells (targetRowId ν input source) mapping.targetColumnId).isSome

theorem sourceCellsCopied_iff {grid : Grid ν} {input : WriteWorkflowRows} : SourceCellsCopied grid input ↔
    ∀ cell ∈ input.batch.flatMap (workflowCells grid input), (grid.cells cell.rowId cell.columnId).isSome := by
  constructor
  · intro h cell hcell
    obtain ⟨source, hsource, hcell⟩ := List.mem_flatMap.mp hcell
    obtain ⟨mapping, hmapping, hcopied⟩ := List.mem_filterMap.mp hcell
    obtain ⟨stored, hstored, rfl⟩ := Option.map_eq_some_iff.mp hcopied
    exact h source hsource mapping hmapping (by rw [hstored]; rfl)
  · intro h source hsource mapping hmapping hsome
    obtain ⟨stored, hstored⟩ := Option.isSome_iff_exists.mp hsome
    have hcell : (⟨targetRowId ν input source, mapping.targetColumnId, stored.value⟩ : WorkflowCell ν) ∈
        input.batch.flatMap (workflowCells grid input) := by
      refine List.mem_flatMap.mpr ⟨source, hsource, List.mem_filterMap.mpr ⟨mapping, hmapping, ?_⟩⟩
      rw [hstored]
      rfl
    have hcopied := h _ hcell
    exact hcopied

variable [JsRuntime ν]

theorem writeSqliteWorkflowRowBatch_stored {db db' : Database ν} {input : WriteWorkflowRows}
    {outputs : List WorkflowRowReference} (h : writeSqliteWorkflowRowBatch db input = .ok (outputs, db')) :
    RowsStored db'.grid.rows (input.batch.map (targetRowId ν input)) := by
  simp only [writeSqliteWorkflowRowBatch, except_bind_eq_ok, pure, Except.pure, Except.ok.injEq, Prod.mk.injEq] at h
  obtain ⟨_, _, _, _, _, _, _, _, _, _, _, _, _, _, written, hwritten, settled, hsettled, _, rfl⟩ := h
  have hinserted := insertMissingRows_stored input.tableId (input.batch.map (targetRowId ν input)) db.grid
  have hcells := (insertMissingCells_moves hwritten).rows
  exact hinserted.stay (hcells.trans (settleNewRows_moves hsettled).rows)

theorem replay_unchanged_iff {db db' : Database ν} {input : WriteWorkflowRows} {outputs : List WorkflowRowReference}
    (hrows : RowsStored db.grid.rows (input.batch.map (targetRowId ν input)))
    (h : writeSqliteWorkflowRowBatch db input = .ok (outputs, db')) :
    db' = db ↔ SourceCellsCopied db.grid input := by
  simp only [writeSqliteWorkflowRowBatch, except_bind_eq_ok, pure, Except.pure, Except.ok.injEq, Prod.mk.injEq,
    insertMissingRows_none hrows, settleNewRows] at h
  obtain ⟨_, _, _, _, _, _, _, _, _, _, _, _, _, _, written, hwritten, settled, rfl, _, rfl⟩ := h
  rw [sourceCellsCopied_iff]
  constructor
  · intro hsame
    have hgrid : written = db.grid := congrArg Database.grid hsame
    have hstored := (insertMissingCells_stored hwritten).2
    rw [hgrid] at hstored
    exact hstored
  · intro hcopied
    rw [insertMissingCells_none hcopied, Except.ok.injEq] at hwritten
    rw [← hwritten]

variable [FormulaLanguage ν]

/-- After a first execution and any run of other transactions, executing a write
step again changes nothing, when no source cell waits to be copied by then. -/
theorem writeSqliteWorkflowRowBatch_replayed {workspace : Workspace ν} {input : WriteWorkflowRows}
    {outputs : List WorkflowRowReference} {db : Database ν} {actions : List (WorkspaceAction ν)}
    (hfirst : writeSqliteWorkflowRowBatch workspace.db input = .ok (outputs, db))
    (hkeeps : EachStep Workspace.step KeepsRows (workspace.withDatabase db) actions)
    (hcopied : SourceCellsCopied ((workspace.withDatabase db).run actions).db.grid input)
    (mutation : Nat → MutationStamp) :
    ((workspace.withDatabase db).run actions).step (.writeRows { input with mutation := mutation }) =
      (workspace.withDatabase db).run actions := by
  have hfirstRows : RowsStored db.grid.rows (input.batch.map (targetRowId ν input)) :=
    writeSqliteWorkflowRowBatch_stored hfirst
  have hrows := hfirstRows.stay (Workspace.run_rowsStay hkeeps)
  generalize hlater : (workspace.withDatabase db).run actions = later at hrows hcopied
  rw [Workspace.step]
  cases hreplay : writeSqliteWorkflowRowBatch later.db { input with mutation := mutation } with
  | error _ => rfl
  | ok result =>
    obtain ⟨_, db'⟩ := result
    have hsame : db' = later.db ↔ SourceCellsCopied later.db.grid { input with mutation := mutation } :=
      replay_unchanged_iff hrows hreplay
    rw [hsame.mpr hcopied]
    rfl

end Replay

section Sample

def companyColumn (id tableId : String) : Column SafeInteger where
  id := id
  tableId := tableId
  name := "Company"
  kind := .input
  valueType := .text
  configuration := .plain
  archivedAt := none

def copyDatabase : Database SafeInteger where
  grid :=
    { dataTables := ⟨[⟨"people", none⟩, ⟨"customers", none⟩], by decide⟩
      columns := ⟨[companyColumn "company" "people", companyColumn "customer" "customers"], by decide⟩
      columnDependencies := Table.empty
      rows := Table.singleton ⟨"ada", "people", 1, none⟩
      cells := fun _ _ => none }
  workspaceMembers := Table.singleton ⟨"ada", .owner⟩
  credentials := Table.empty
  connectorRevocations := Table.empty
  cellRuns := Table.empty
  bulkRunBatches := Table.empty
  bulkRunItems := Table.empty
  rowSettlements := Table.empty
  webhookDestinations := Table.empty
  writebackDestinations := Table.empty
  outbox := Table.empty

def copyWorkspace : Workspace SafeInteger where
  db := copyDatabase
  sources := ⟨Table.empty, Table.empty, Table.empty⟩
  ingestion := ⟨Table.empty, Table.empty, Table.empty, Table.empty⟩
  imports := ⟨Table.empty, Table.empty⟩

def copyStep (now : Int) : WriteWorkflowRows where
  batch := [⟨"ada", "people"⟩]
  columnMappings := [⟨"company", "customer"⟩]
  runId := "run"
  stepId := "write"
  tableId := "customers"
  mutation _ := ⟨"settlement", "event", now⟩

def editCompany (value : String) (expectedVersion now : Int) : WorkspaceAction SafeInteger :=
  .writeCell
    { rowId := "ada", columnId := "company", tableId := "people", userId := "ada",
      expectedVersion := expectedVersion, value := .text value, mutation := ⟨"edit", "edited", now⟩ }

instance : FormulaLanguage SafeInteger where
  parseFormulaSource source _ := .error ⟨source⟩

def Workspace.copied (workspace : Workspace SafeInteger) : Workspace SafeInteger :=
  workspace.step (.writeRows (copyStep 2))

def copiedRow : String := targetRowId SafeInteger (copyStep 2) ⟨"ada", "people"⟩

def copiedCompany (workspace : Workspace SafeInteger) : Bool :=
  (workspace.db.grid.cells copiedRow "customer").isSome

def filledWorkspace : Workspace SafeInteger := copyWorkspace.step (editCompany "Acme" 0 1)

theorem sourceCellsCopied_of_company {workspace : Workspace SafeInteger} (h : copiedCompany workspace = true) :
    SourceCellsCopied workspace.db.grid (copyStep 2) := by
  intro source hsource mapping hmapping _
  rw [List.mem_singleton.mp hsource, List.mem_singleton.mp hmapping]
  exact h

/-- A company which was copied may change afterwards. -/
theorem writeSqliteWorkflowRowBatch_replayed_company : ∃ outputs db,
    writeSqliteWorkflowRowBatch filledWorkspace.db (copyStep 2) = .ok (outputs, db) ∧
      ((filledWorkspace.withDatabase db).run [editCompany "Initech" 1 3]).step (.writeRows (copyStep 4)) =
        (filledWorkspace.withDatabase db).run [editCompany "Initech" 1 3] := by
  cases hfirst : writeSqliteWorkflowRowBatch filledWorkspace.db (copyStep 2) with
  | error error =>
    have hok : (writeSqliteWorkflowRowBatch filledWorkspace.db (copyStep 2)).isOk = true := by decide +kernel
    rw [hfirst] at hok
    cases hok
  | ok result =>
    have hcopied : copiedCompany (filledWorkspace.copied.run [editCompany "Initech" 1 3]) = true := by decide +kernel
    have hworkspace : filledWorkspace.copied = filledWorkspace.withDatabase result.2 := by
      rw [Workspace.copied, Workspace.step, hfirst]
      rfl
    rw [hworkspace] at hcopied
    have hkeeps : EachStep Workspace.step KeepsRows (filledWorkspace.withDatabase result.2)
        [editCompany "Initech" 1 3] := ⟨trivial, trivial⟩
    refine ⟨result.1, result.2, rfl, ?_⟩
    exact writeSqliteWorkflowRowBatch_replayed hfirst hkeeps (sourceCellsCopied_of_company hcopied)
      (copyStep 4).mutation

/-- A company which is filled in after the step was executed is copied when it is
executed again. -/
theorem writeSqliteWorkflowRowBatch_not_idempotent :
    (writeSqliteWorkflowRowBatch copyWorkspace.db (copyStep 2)).isOk = true ∧
      copiedCompany (copyWorkspace.copied.run [editCompany "Acme" 0 3]) = false ∧
      copiedCompany ((copyWorkspace.copied.run [editCompany "Acme" 0 3]).step (.writeRows (copyStep 4))) = true := by
  decide +kernel

end Sample

end ByokGrid
