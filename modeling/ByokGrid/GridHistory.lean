import ByokGrid.CellRunAgreement
import ByokGrid.ColumnCreation
import ByokGrid.Ingestion
import ByokGrid.SourceRecords
import ByokGrid.Versions
import ByokGrid.WorkflowRows

/-! What the writers of the grid leave in place: every row stays in its table, and
the version of a cell goes up whenever its value changes. -/

namespace ByokGrid

section Moves

variable {ν : Type}

def RowsStay (rows rows' : Table Row) : Prop :=
  ∀ id row, rows.get? id = some row → ∃ row', rows'.get? id = some row' ∧ row'.tableId = row.tableId

theorem RowsStay.refl (rows : Table Row) : RowsStay rows rows :=
  fun _ row hrow => ⟨row, hrow, rfl⟩

theorem RowsStay.trans {a b c : Table Row} (hab : RowsStay a b) (hbc : RowsStay b c) : RowsStay a c := by
  intro id row hrow
  obtain ⟨row', hrow', htable⟩ := hab id row hrow
  obtain ⟨row'', hrow'', htable'⟩ := hbc id row' hrow'
  exact ⟨row'', hrow'', htable'.trans htable⟩

theorem RowsKept.stay {rows rows' : Table Row} (h : RowsKept rows rows') : RowsStay rows rows' := by
  intro id row hrow
  obtain ⟨row', hrow', htable, _⟩ := h id row hrow
  exact ⟨row', hrow', htable⟩

theorem RowsStay.modify {rows : Table Row} {p : Row → Bool} {f : Row → Row} (hf : KeepsKey f)
    (htable : ∀ row, (f row).tableId = row.tableId) : RowsStay rows (rows.modify p f hf) := by
  intro id row hrow
  refine ⟨if p row then f row else row, ?_, ?_⟩
  · rw [Table.get?_modify, hrow]
    rfl
  · split
    · exact htable row
    · rfl

def Grid.reading (grid : Grid ν) (rowId columnId : String) : Reading (StoredValue ν) :=
  match grid.cells rowId columnId with
  | none => ⟨0, .empty⟩
  | some cell => ⟨cell.version, cell.value⟩

theorem Grid.reading_of_cells {grid grid' : Grid ν} {rowId columnId : String}
    (h : grid'.cells rowId columnId = grid.cells rowId columnId) :
    grid'.reading rowId columnId = grid.reading rowId columnId := by
  rw [Grid.reading, Grid.reading, h]

theorem Grid.reading_none {grid : Grid ν} {rowId columnId : String} (h : grid.cells rowId columnId = none) :
    grid.reading rowId columnId = ⟨0, .empty⟩ := by
  rw [Grid.reading, h]

theorem Grid.reading_some {grid : Grid ν} {rowId columnId : String} {cell : Cell ν}
    (h : grid.cells rowId columnId = some cell) : grid.reading rowId columnId = ⟨cell.version, cell.value⟩ := by
  rw [Grid.reading, h]

structure GridMoves (before after : Grid ν) : Prop where
  rows : RowsStay before.rows after.rows
  cells : ∀ rowId columnId, (before.reading rowId columnId).Advances (after.reading rowId columnId)

theorem GridMoves.refl (grid : Grid ν) : GridMoves grid grid :=
  ⟨RowsStay.refl _, fun _ _ => Reading.Advances.refl _⟩

theorem GridMoves.trans {a b c : Grid ν} (hab : GridMoves a b) (hbc : GridMoves b c) : GridMoves a c :=
  ⟨hab.rows.trans hbc.rows, fun rowId columnId => (hab.cells rowId columnId).trans (hbc.cells rowId columnId)⟩

theorem GridMoves.of_cells {before after : Grid ν} (hrows : RowsStay before.rows after.rows)
    (hcells : after.cells = before.cells) : GridMoves before after := by
  refine ⟨hrows, fun rowId columnId => Or.inr ?_⟩
  rw [Grid.reading_of_cells (by rw [hcells])]

theorem GridMoves.setCell {grid : Grid ν} {rowId columnId : String} {cell : Cell ν}
    (h : (grid.reading rowId columnId).Advances ⟨cell.version, cell.value⟩) :
    GridMoves grid (grid.setCell rowId columnId cell) := by
  refine ⟨RowsStay.refl _, fun r c => ?_⟩
  by_cases hcell : r = rowId ∧ c = columnId
  · obtain ⟨rfl, rfl⟩ := hcell
    rw [Grid.reading_some (Grid.setCell_self grid r c cell)]
    exact h
  · exact Or.inr (Grid.reading_of_cells (Grid.setCell_of_ne _ _ _ _ hcell)).symm

theorem GridMoves.insertCell {grid : Grid ν} {rowId columnId : String} {cell : Cell ν}
    (hnone : grid.cells rowId columnId = none) (hversion : 0 < cell.version) :
    GridMoves grid (grid.setCell rowId columnId cell) := by
  apply GridMoves.setCell
  rw [Grid.reading_none hnone]
  exact Or.inl hversion

theorem GridMoves.updateCell {grid : Grid ν} {rowId columnId : String} {old cell : Cell ν}
    (hold : grid.cells rowId columnId = some old) (hversion : old.version < cell.version) :
    GridMoves grid (grid.setCell rowId columnId cell) := by
  apply GridMoves.setCell
  rw [Grid.reading_some hold]
  exact Or.inl hversion

theorem setCellStatus_moves (grid : Grid ν) (rowId columnId : String) (status : CellStatus) :
    GridMoves grid (grid.setCellStatus rowId columnId status) := by
  unfold Grid.setCellStatus
  split
  · exact GridMoves.refl grid
  · rename_i cell hcell
    apply GridMoves.setCell
    rw [Grid.reading_some hcell]
    exact Reading.Advances.refl _

theorem cancelCells_moves (grid : Grid ν) (cancelled : String → String → Bool) :
    GridMoves grid (cancelCells grid cancelled) := by
  refine ⟨RowsStay.refl _, fun rowId columnId => Or.inr ?_⟩
  cases hcell : grid.cells rowId columnId with
  | none =>
    rw [Grid.reading_none hcell, Grid.reading_none (by simp [cancelCells, hcell])]
  | some cell =>
    have hcancelled : (cancelCells grid cancelled).cells rowId columnId =
        some (if cancelled rowId columnId && cell.status.active then { cell with status := .cancelled } else cell) := by
      simp [cancelCells, hcell]
    rw [Grid.reading_some hcell, Grid.reading_some hcancelled]
    split <;> rfl

theorem insertRow_moves {grid grid' : Grid ν} {tableId rowId : String} (h : insertRow grid tableId rowId = .ok grid') :
    GridMoves grid grid' := by
  simp only [insertRow, except_bind_eq_ok, requireSome_eq_ok, pure, Except.pure, Except.ok.injEq] at h
  obtain ⟨rows, hrows, rfl⟩ := h
  exact GridMoves.of_cells (RowsKept.insert hrows).stay rfl

theorem insertTextCells_moves {cells : List TextCell} {grid grid' : Grid ν}
    (h : insertTextCells cells grid = .ok grid') : GridMoves grid grid' := by
  induction cells generalizing grid with
  | nil =>
    cases h
    exact GridMoves.refl _
  | cons cell cells ih =>
    simp only [insertTextCells, insertTextCell, except_bind_eq_ok, requireThat_eq_ok, pure, Except.pure,
      Except.ok.injEq] at h
    obtain ⟨next, ⟨_, hfree, _, _, rfl⟩, hrest⟩ := h
    refine GridMoves.trans ?_ (ih hrest)
    exact GridMoves.insertCell (Option.isNone_iff_eq_none.mp hfree) Nat.one_pos

theorem insertImportedCells_moves {cells : List TextCell} {grid grid' : Grid ν}
    (h : insertImportedCells cells grid = .ok grid') : GridMoves grid grid' := by
  induction cells generalizing grid with
  | nil =>
    cases h
    exact GridMoves.refl _
  | cons cell cells ih =>
    simp only [insertImportedCells, ByokGrid.insertCell, except_bind_eq_ok, requireThat_eq_ok, pure, Except.pure,
      Except.ok.injEq] at h
    obtain ⟨next, ⟨_, hfree, rfl⟩, hrest⟩ := h
    refine GridMoves.trans ?_ (ih hrest)
    exact GridMoves.insertCell (Option.isNone_iff_eq_none.mp hfree) Nat.one_pos

theorem insertRows_moves {tableId : String} {rowIds : List String} {grid grid' : Grid ν}
    (h : insertRows tableId rowIds grid = .ok grid') : GridMoves grid grid' := by
  induction rowIds generalizing grid with
  | nil =>
    cases h
    exact GridMoves.refl _
  | cons rowId rowIds ih =>
    simp only [insertRows, except_bind_eq_ok] at h
    obtain ⟨inserted, hinserted, hrest⟩ := h
    exact (insertRow_moves hinserted).trans (ih hrest)

theorem prepareTargetCell_moves {grid grid' : Grid ν} {rowId columnId : String}
    (h : prepareTargetCell grid rowId columnId = .ok grid') : GridMoves grid grid' := by
  cases hcell : grid.cells rowId columnId with
  | none =>
    simp only [prepareTargetCell, hcell, Except.ok.injEq] at h
    subst h
    exact GridMoves.insertCell hcell Nat.one_pos
  | some cell =>
    simp only [prepareTargetCell, hcell] at h
    split at h
    · cases h
    · cases h
      apply GridMoves.setCell
      rw [Grid.reading_some hcell]
      exact Reading.Advances.refl _

theorem record_moves {db db' : Database ν} {input : RowMutation} {stamp : MutationStamp}
    (h : recordSqliteRowMutationAndMaybeQueueSettlement db input stamp = .ok db') : GridMoves db.grid db'.grid := by
  apply GridMoves.of_cells
  · rw [record_rows h]
    exact RowsStay.modify _ fun _ => rfl
  · rw [record_eq_ok h]

end Moves

section Recompute

variable {ν : Type} [JsRuntime ν]

theorem recomputeFormula_moves {formulas : String → Option (Column ν)} {rowId formulaId : String}
    {state next : RecomputeState ν} (h : recomputeFormula formulas rowId state formulaId = .ok next) :
    GridMoves state.grid next.grid := by
  unfold recomputeFormula at h
  split at h
  · cases h
    exact GridMoves.refl _
  · split at h
    · cases h
    · dsimp only at h
      split at h
      · cases h
      · split at h
        · rename_i existing hexisting
          cases h
          exact GridMoves.updateCell hexisting (Nat.lt_succ_self _)
        · rename_i hmissing
          split at h
          · cases h
            exact GridMoves.refl _
          · cases h
            exact GridMoves.insertCell hmissing Nat.one_pos

theorem recomputeLoop_moves {formulas : String → Option (Column ν)} {rowId : String} {ordered : List String}
    {state : RecomputeState ν} {changed : List String} {after : Grid ν}
    (h : recomputeLoop formulas rowId ordered state = (.ok changed, after)) : GridMoves state.grid after := by
  induction ordered generalizing state with
  | nil =>
    cases h
    exact GridMoves.refl _
  | cons formulaId ordered ih =>
    unfold recomputeLoop at h
    split at h
    · cases h
    · rename_i next hnext
      exact (recomputeFormula_moves hnext).trans (ih h)

theorem recomputeFormulas_moves {grid grid' : Grid ν} {tableId rowId : String} {changed returned : List String}
    (h : recomputeFormulas grid tableId rowId changed = .ok (returned, grid')) : GridMoves grid grid' := by
  have hrun : recomputeDependentSqliteFormulasForRow grid tableId rowId changed = (.ok returned, grid') := by
    unfold recomputeFormulas at h
    split at h
    · rename_i hrun
      rw [Except.ok.injEq, Prod.mk.injEq] at h
      rw [hrun, h.1, h.2]
    · cases h
  rcases recompute_cases grid tableId rowId changed with ⟨_, hok⟩ | ⟨_, _, hcyclic⟩ | ⟨_, _, hloop⟩
  · rw [hok] at hrun
    cases hrun
    exact GridMoves.refl _
  · rw [hcyclic] at hrun
    cases hrun
  · rw [hloop] at hrun
    exact recomputeLoop_moves hrun

theorem settleRow_moves {db db' : Database ν} {tableId rowId : String} {changed : List String}
    {recomputed : List String × Grid ν} {input : RowMutation} {stamp : MutationStamp}
    (hrecomputed : recomputeFormulas db.grid tableId rowId changed = .ok recomputed)
    (hrecorded : recordSqliteRowMutationAndMaybeQueueSettlement { db with grid := recomputed.2 } input stamp = .ok db') :
    GridMoves db.grid db'.grid :=
  (recomputeFormulas_moves hrecomputed).trans (record_moves hrecorded)

theorem settleNewRows_moves {tableId : String} {changedColumnIds : List String} {mutation : Nat → MutationStamp}
    {index : Nat} {rowIds : List String} {db db' : Database ν}
    (h : settleNewRows tableId changedColumnIds mutation index rowIds db = .ok db') : GridMoves db.grid db'.grid := by
  induction rowIds generalizing index db with
  | nil =>
    cases h
    exact GridMoves.refl _
  | cons rowId rowIds ih =>
    simp only [settleNewRows, except_bind_eq_ok] at h
    obtain ⟨recomputed, hrecomputed, recorded, hrecorded, hrest⟩ := h
    exact (settleRow_moves hrecomputed hrecorded).trans (ih hrest)

theorem settleIngestionRows_moves {tableId : String} {fields : List String} {mapping : List SourceField}
    {mutation : Nat → MutationStamp} {index : Nat} {items : List ChunkItem} {db db' : Database ν}
    (h : settleIngestionRows tableId fields mapping mutation index items db = .ok db') :
    GridMoves db.grid db'.grid := by
  induction items generalizing index db with
  | nil =>
    cases h
    exact GridMoves.refl _
  | cons item items ih =>
    simp only [settleIngestionRows] at h
    split at h
    · exact ih h
    · simp only [except_bind_eq_ok] at h
      obtain ⟨recomputed, hrecomputed, recorded, hrecorded, hrest⟩ := h
      exact (settleRow_moves hrecomputed hrecorded).trans (ih hrest)

theorem evaluateRows_moves {tableId : String} {dependencyIds : List String} {mutation : Nat → MutationStamp}
    {index : Nat} {rowIds : List String} {db db' : Database ν}
    (h : evaluateRows tableId dependencyIds mutation index rowIds db = .ok db') : GridMoves db.grid db'.grid := by
  induction rowIds generalizing index db with
  | nil =>
    cases h
    exact GridMoves.refl _
  | cons rowId rowIds ih =>
    simp only [evaluateRows, except_bind_eq_ok] at h
    obtain ⟨recomputed, hrecomputed, h⟩ := h
    split at h
    · have hrest : GridMoves recomputed.2 db'.grid := ih h
      exact (recomputeFormulas_moves hrecomputed).trans hrest
    · simp only [except_bind_eq_ok] at h
      obtain ⟨recorded, hrecorded, hrest⟩ := h
      exact (settleRow_moves hrecomputed hrecorded).trans (ih hrest)

end Recompute

section Writers

variable {ν : Type}

theorem createSqliteGridRow_moves {db db' : Database ν} {input : CreateGridRow}
    (h : createSqliteGridRow db input = .ok db') : GridMoves db.grid db'.grid := by
  simp only [createSqliteGridRow, except_bind_eq_ok, pure, Except.pure, Except.ok.injEq] at h
  obtain ⟨_, _, grid, hgrid, rfl⟩ := h
  exact insertRow_moves hgrid

theorem insertColumn_moves {grid grid' : Grid ν} {column : Column ν} (h : insertColumn grid column = .ok grid') :
    GridMoves grid grid' := by
  simp only [insertColumn, except_bind_eq_ok, pure, Except.pure, Except.ok.injEq] at h
  obtain ⟨_, _, columns, _, rfl⟩ := h
  exact GridMoves.of_cells (RowsStay.refl _) rfl

theorem insertDependentColumn_moves {grid grid' : Grid ν} {column : Column ν} {dependencyIds : List String}
    (h : insertDependentColumn grid column dependencyIds = .ok grid') : GridMoves grid grid' := by
  simp only [insertDependentColumn, except_bind_eq_ok, pure, Except.pure, Except.ok.injEq] at h
  obtain ⟨created, hcreated, dependencies, _, rfl⟩ := h
  refine (insertColumn_moves hcreated).trans ?_
  exact GridMoves.of_cells (RowsStay.refl _) rfl

theorem createPlannedColumns_moves {tableId : String} {columnId : Nat → String} {index : Nat}
    {plans : List CsvColumnPlan} {grid grid' : Grid ν} {mapping : List SourceField}
    (h : createPlannedColumns tableId columnId index plans grid = .ok (mapping, grid')) : GridMoves grid grid' := by
  rw [createPlannedColumns_frame h]
  exact GridMoves.of_cells (RowsStay.refl _) rfl

theorem insertMissingRows_moves (tableId : String) (rowIds : List String) (grid : Grid ν) :
    GridMoves grid (insertMissingRows tableId rowIds grid).2 := by
  induction rowIds generalizing grid with
  | nil => exact GridMoves.refl grid
  | cons rowId rowIds ih =>
    unfold insertMissingRows
    split
    · exact ih grid
    · rename_i rows hrows
      have hfirst : GridMoves grid { grid with rows := rows } :=
        GridMoves.of_cells (RowsKept.insert hrows).stay rfl
      exact hfirst.trans (ih _)

theorem insertMissingCells_moves {tableId : String} {cells : List (WorkflowCell ν)} {grid grid' : Grid ν}
    (h : insertMissingCells tableId cells grid = .ok grid') : GridMoves grid grid' := by
  induction cells generalizing grid with
  | nil =>
    cases h
    exact GridMoves.refl _
  | cons cell cells ih =>
    unfold insertMissingCells at h
    split at h
    · exact ih h
    · rename_i hnone
      simp only [except_bind_eq_ok] at h
      obtain ⟨_, _, hrest⟩ := h
      refine GridMoves.trans ?_ (ih hrest)
      exact GridMoves.insertCell hnone Nat.one_pos

theorem createIngestionRows_moves {input : IngestionBatchInput} {rowId : Nat → String} {index : Nat}
    {items : List IngestionStagedRecord} {state state' : Grid ν × Table IngestionRecord}
    (h : createIngestionRows input rowId index items state = .ok state') : GridMoves state.1 state'.1 := by
  induction items generalizing index state with
  | nil =>
    cases h
    exact GridMoves.refl _
  | cons item items ih =>
    simp only [createIngestionRows, except_bind_eq_ok] at h
    obtain ⟨created, hcreated, _, _, identities, _, hrest⟩ := h
    have hrows : GridMoves created state'.1 := ih hrest
    exact (insertRow_moves hcreated).trans hrows

theorem createSourceRows_moves {input : SourcePage} {index : Nat} {items : List NormalizedSourceRecord}
    {state state' : SourceRows ν} (h : createSourceRows input index items state = .ok state') :
    GridMoves state.grid state'.grid := by
  induction items generalizing index state with
  | nil =>
    cases h
    exact GridMoves.refl _
  | cons item items ih =>
    simp only [createSourceRows, except_bind_eq_ok] at h
    obtain ⟨grid, hgrid, _, _, records, _, hrest⟩ := h
    have hrows : GridMoves grid state'.grid := ih hrest
    exact (insertRow_moves hgrid).trans hrows

theorem writtenCell_advances {grid : Grid ν} {rowId columnId : String} {expectedVersion : Int}
    {value : StoredValue ν} {written : Cell ν}
    (h : writtenCell (grid.cells rowId columnId) expectedVersion value = .ok written) :
    GridMoves grid (grid.setCell rowId columnId written) := by
  unfold writtenCell at h
  split at h
  · rename_i hnone
    split at h
    · cases h
    · cases h
      exact GridMoves.insertCell hnone Nat.one_pos
  · rename_i existing hsome
    split at h
    · cases h
    · cases h
      exact GridMoves.updateCell hsome (Nat.lt_succ_self _)

variable [JsRuntime ν]

theorem writeSqliteGridCell_moves {db db' : Database ν} {input : WriteGridCell ν} {cell : Cell ν}
    (h : writeSqliteGridCell db input = .ok (cell, db')) : GridMoves db.grid db'.grid := by
  simp only [writeSqliteGridCell, except_bind_eq_ok, pure, Except.pure, Except.ok.injEq, Prod.mk.injEq] at h
  obtain ⟨_, _, column, _, _, _, _, _, written, hwritten, recomputed, hrecomputed, recorded, hrecorded, rfl, rfl⟩ := h
  exact (writtenCell_advances hwritten).trans
    ((recomputeFormulas_moves hrecomputed).trans (record_moves hrecorded))

theorem importMapping_moves {grid grid' : Grid ν} {job : ImportJob} {input : PrepareCsvImport}
    {mapping : List CsvImportColumn} (h : importMapping grid job input = .ok (mapping, grid')) :
    GridMoves grid grid' := by
  unfold importMapping at h
  split at h
  · cases h
    exact GridMoves.refl _
  · simp only [except_bind_eq_ok, pure, Except.pure, Except.ok.injEq, Prod.mk.injEq] at h
    obtain ⟨plans, _, created, hcreated, _, rfl⟩ := h
    exact createPlannedColumns_moves hcreated

theorem prepareSqliteCsvImport_moves {workspace workspace' : ImportWorkspace ν} {input : PrepareCsvImport}
    {start : ImportStart} (h : prepareSqliteCsvImport workspace input = .ok (start, workspace')) :
    GridMoves workspace.db.grid workspace'.db.grid := by
  simp only [prepareSqliteCsvImport, except_bind_eq_ok] at h
  obtain ⟨job, _, h⟩ := h
  cases hstatus : job.status with
  | succeeded =>
    simp only [hstatus, pure, Except.pure, Except.ok.injEq, Prod.mk.injEq] at h
    rw [← h.2]
    exact GridMoves.refl _
  | cancelled =>
    simp only [hstatus, pure, Except.pure, Except.ok.injEq, Prod.mk.injEq] at h
    rw [← h.2]
    exact GridMoves.refl _
  | staging =>
    simp only [hstatus] at h
    cases h
  | failed =>
    simp only [hstatus] at h
    cases h
  | queued =>
    simp only [hstatus, except_bind_eq_ok, pure, Except.pure, Except.ok.injEq, Prod.mk.injEq] at h
    obtain ⟨mapped, hmapped, _, rfl⟩ := h
    exact importMapping_moves hmapped
  | running =>
    simp only [hstatus, except_bind_eq_ok, pure, Except.pure, Except.ok.injEq, Prod.mk.injEq] at h
    obtain ⟨mapped, hmapped, _, rfl⟩ := h
    exact importMapping_moves hmapped

theorem importRows_moves {workspace workspace' : ImportWorkspace ν} {input : CsvImportBatch} {job : ImportJob}
    {mapping : List CsvImportColumn} {staged : List ImportStagedRow}
    (h : importRows workspace input job mapping staged = .ok workspace') :
    GridMoves workspace.db.grid workspace'.db.grid := by
  simp only [importRows, except_bind_eq_ok, pure, Except.pure, Except.ok.injEq] at h
  obtain ⟨inserted, hinserted, cells, _, written, hwritten, settled, hsettled, rfl⟩ := h
  have hcells := insertImportedCells_moves hwritten
  exact (insertRows_moves hinserted).trans (hcells.trans (settleNewRows_moves hsettled))

theorem applySqliteCsvImportBatch_moves {workspace workspace' : ImportWorkspace ν} {input : CsvImportBatch}
    {completed : Bool} (h : applySqliteCsvImportBatch workspace input = .ok (completed, workspace')) :
    GridMoves workspace.db.grid workspace'.db.grid := by
  simp only [applySqliteCsvImportBatch, except_bind_eq_ok] at h
  obtain ⟨job, _, mapping, _, h⟩ := h
  split at h
  · simp only [completeCsvImport, except_bind_eq_ok, pure, Except.pure, Except.ok.injEq, Prod.mk.injEq] at h
    obtain ⟨_, ⟨_, _, _, _, rfl⟩, _, rfl⟩ := h
    exact GridMoves.refl _
  · simp only [except_bind_eq_ok, pure, Except.pure, Except.ok.injEq, Prod.mk.injEq] at h
    obtain ⟨imported, himported, _, rfl⟩ := h
    exact importRows_moves himported

theorem createSqliteFormulaColumn_moves [FormulaLanguage ν] {db db' : Database ν} {input : CreateFormulaColumn ν}
    {column : Column ν} (h : createSqliteFormulaColumn db input = .ok (column, db')) :
    GridMoves db.grid db'.grid := by
  simp only [createSqliteFormulaColumn, except_bind_eq_ok, pure, Except.pure, Except.ok.injEq, Prod.mk.injEq] at h
  obtain ⟨_, _, _, _, _, _, _, _, _, _, _, _, _, _, _, _, _, _, grid, hgrid, evaluated, hevaluated, _, rfl⟩ := h
  have hcolumn := insertDependentColumn_moves hgrid
  exact hcolumn.trans (evaluateRows_moves hevaluated)

omit [JsRuntime ν] in
theorem restoreIdentities_stay (input : SourcePage) (rowIds : List String) (state : SourceRows ν) :
    RowsStay state.grid.rows (restoreIdentities input rowIds state).grid.rows := by
  apply RowsStay.modify
  · exact ⟨fun _ => rfl⟩
  · exact fun _ => rfl

omit [JsRuntime ν] in
theorem sweepMissing_stay (input : SourcePage) (mode : SourceMissingRecordMode) (state : SourceRows ν) :
    RowsStay state.grid.rows (sweepMissing input mode state).2.grid.rows := by
  unfold sweepMissing
  split
  · apply RowsStay.modify
    · exact ⟨fun _ => rfl⟩
    · exact fun _ => rfl
  · exact RowsStay.refl _

theorem applyPageRecords_rows {db db' : Database ν} {records records' : Table SourceRecord} {input : SourcePage}
    {source : SourceDefinition} {counts : PageCounts} {mapping : List SourceField}
    (h : applyPageRecords db records input source = .ok (counts, mapping, db', records')) :
    RowsStay db.grid.rows db'.grid.rows := by
  simp only [applyPageRecords, except_bind_eq_ok, pure, Except.pure, Except.ok.injEq, Prod.mk.injEq] at h
  obtain ⟨⟨mapped, grid⟩, hmapped, _, _, created, hcreated, written, hwritten, _, _, rfl, _⟩ := h
  have hgrid : grid.rows = db.grid.rows := by
    rw [mapFields_frame hmapped]
  have hcreates := (createSourceRows_moves hcreated).rows
  have hwrites : RowsStay created.grid.rows written.grid.rows := (writeSourceCells_rows hwritten).stay
  rw [← hgrid]
  have hkept : RowsStay grid.rows written.grid.rows :=
    (restoreIdentities_stay input _ ⟨grid, records⟩).trans (hcreates.trans hwrites)
  exact hkept.trans (sweepMissing_stay input source.missingRecordMode ⟨written.grid, _⟩)

theorem applySqliteSourceRunPage_rows {workspace workspace' : SourceWorkspace ν} {input : SourcePage}
    (h : applySqliteSourceRunPage workspace input = .ok workspace') :
    RowsStay workspace.db.grid.rows workspace'.db.grid.rows := by
  simp only [applySqliteSourceRunPage, except_bind_eq_ok] at h
  obtain ⟨run, _, source, _, toApply, _, h⟩ := h
  cases toApply with
  | false =>
    cases h
    exact RowsStay.refl _
  | true =>
    simp only [if_true, except_bind_eq_ok, pure, Except.pure, Except.ok.injEq] at h
    obtain ⟨⟨counts, mapping, db, records⟩, happlied, _, _, rfl⟩ := h
    have hrows : RowsStay workspace.db.grid.rows db.grid.rows := applyPageRecords_rows happlied
    exact hrows

theorem writeIngestionCells_rows {db db' : Database ν} {input : IngestionChunk} {fields : List String}
    {mapping : List SourceField} {items : List ChunkItem}
    (h : writeIngestionCells db input fields mapping items = .ok db') : RowsStay db.grid.rows db'.grid.rows := by
  unfold writeIngestionCells at h
  split at h
  · cases h
    exact RowsStay.refl _
  · simp only [except_bind_eq_ok] at h
    obtain ⟨written, hwritten, hsettled⟩ := h
    have hinserted := (insertTextCells_moves hwritten).rows
    exact hinserted.trans (settleIngestionRows_moves hsettled).rows

theorem applySqliteIngestionBatchChunk_rows {workspace workspace' : IngestionWorkspace ν} {input : IngestionChunk}
    (h : applySqliteIngestionBatchChunk workspace input = .ok workspace') :
    RowsStay workspace.db.grid.rows workspace'.db.grid.rows := by
  simp only [applySqliteIngestionBatchChunk, except_bind_eq_ok] at h
  obtain ⟨batch, _, endpoint, _, h⟩ := h
  split at h
  · simp only [completeIngestionBatch, except_bind_eq_ok, pure, Except.pure, Except.ok.injEq] at h
    obtain ⟨_, _, _, _, rfl⟩ := h
    exact RowsStay.refl _
  · simp only [applyIngestionRecords, except_bind_eq_ok, pure, Except.pure, Except.ok.injEq] at h
    obtain ⟨⟨mapping, grid⟩, hmapped, created, hcreated, db, hwritten, rfl⟩ := h
    have hgrid : grid.rows = workspace.db.grid.rows := by
      rw [mapFields_frame hmapped]
    have hrows := (createIngestionRows_moves hcreated).rows
    rw [← hgrid]
    exact hrows.trans (writeIngestionCells_rows hwritten)

variable [ConnectorRuntime ν]

theorem writeSqliteWorkflowRowBatch_moves {db db' : Database ν} {input : WriteWorkflowRows}
    {outputs : List WorkflowRowReference} (h : writeSqliteWorkflowRowBatch db input = .ok (outputs, db')) :
    GridMoves db.grid db'.grid := by
  simp only [writeSqliteWorkflowRowBatch, except_bind_eq_ok, pure, Except.pure, Except.ok.injEq, Prod.mk.injEq] at h
  obtain ⟨_, _, _, _, _, _, _, _, _, _, _, _, _, _, written, hwritten, settled, hsettled, _, rfl⟩ := h
  have hcells := insertMissingCells_moves hwritten
  exact (insertMissingRows_moves _ _ _).trans (hcells.trans (settleNewRows_moves hsettled))

omit [JsRuntime ν] [ConnectorRuntime ν] in
theorem Queues.moves {db db' : Database ν} (h : Queues db db') : GridMoves db.grid db'.grid := by
  induction h with
  | refl => exact GridMoves.refl _
  | tail _ hstep ih =>
    rcases hstep with ⟨columnId, rowId, runId, hqueued⟩ | hframe
    · exact ih.trans (prepareTargetCell_moves hqueued.prepared)
    · rw [hframe]
      exact ih

omit [JsRuntime ν] [ConnectorRuntime ν] in
theorem mark_moves {db db' : Database ν} {input : CellRunInput} {now : Int} {start : CellRunStart}
    (h : markSqliteCellRunRunning db input now = .ok (start, db')) : GridMoves db.grid db'.grid := by
  rcases mark_eq_ok h with rfl | ⟨_, _, _, rfl⟩
  · exact GridMoves.refl _
  · exact setCellStatus_moves _ _ _ _

omit [ConnectorRuntime ν] in
theorem succeed_moves {db db' : Database ν} {input : CellRunInput} {success : CellRunSuccess ν}
    {stamp : MutationStamp} (h : markSqliteCellRunSucceeded db input success stamp = .ok db') :
    GridMoves db.grid db'.grid := by
  obtain ⟨cell, row, returned, grid, hcell, _, _, hrecomputed, hrecorded⟩ := succeed_eq_ok h
  have hset : GridMoves db.grid (db.grid.setCell input.rowId input.columnId
      { value := serializeSqliteCellValue success.value, status := .succeeded, version := cell.version + 1 }) :=
    GridMoves.updateCell hcell (Nat.lt_succ_self _)
  exact hset.trans ((recomputeFormulas_moves hrecomputed).trans (record_moves hrecorded))

omit [JsRuntime ν] [ConnectorRuntime ν] in
theorem setFailure_moves {db db' : Database ν} {input : CellRunInput} {failure : CellRunFailure}
    {stamp : MutationStamp} (h : setSqliteCellRunFailure db input failure stamp = .ok db') :
    GridMoves db.grid db'.grid := by
  have hstatus : GridMoves db.grid (writeCellRunFailure db input failure stamp.now).grid :=
    setCellStatus_moves _ _ _ _
  rcases setFailure_eq_ok h with rfl | ⟨row, _, _, _, hrecorded⟩
  · exact hstatus
  · exact hstatus.trans (record_moves hrecorded)

omit [JsRuntime ν] [ConnectorRuntime ν] in
theorem cancel_moves {db db' : Database ν} {input : CancelBulkRunBatch}
    (h : cancelSqliteBulkRunBatch db input = .ok db') : GridMoves db.grid db'.grid := by
  rcases cancel_eq_ok h with rfl | ⟨_, _, hdb⟩
  · exact GridMoves.refl _
  · rw [hdb]
    exact cancelCells_moves _ _

theorem stepCellRun_moves (db : Database ν) (action : CellRunAction ν) :
    GridMoves db.grid (db.stepCellRun action).grid := by
  rcases stepCellRun_cases db action with hqueues | ⟨_, hcancel⟩ | ⟨_, _, _, hmark⟩ | ⟨_, _, _, hsucceed⟩ |
    ⟨_, _, _, _, hfail⟩
  · exact hqueues.moves
  · exact cancel_moves hcancel
  · exact mark_moves hmark
  · exact succeed_moves hsucceed
  · exact setFailure_moves hfail

end Writers

end ByokGrid
