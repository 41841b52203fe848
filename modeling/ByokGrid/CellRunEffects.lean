import ByokGrid.CellRunSystem
import ByokGrid.Jobs
import ByokGrid.FormulaConsistency

/-! What each transaction on cell runs can do to the store, with its guards. -/

namespace ByokGrid

def CellRunStatus.phase : CellRunStatus → Option Phase
  | .queued => some .queued
  | .running => some .running
  | .succeeded | .failed | .cancelled => none

def CellStatus.phase : CellStatus → Option Phase
  | .queued => some .queued
  | .running => some .running
  | .idle | .stale | .succeeded | .failed | .cancelled => none

theorem CellRunStatus.phase_isSome {status : CellRunStatus} : status.phase.isSome = status.active := by
  cases status <;> rfl

theorem CellStatus.phase_isSome {status : CellStatus} : status.phase.isSome = status.active := by
  cases status <;> rfl

section Queue

variable {ν : Type}

def Grid.cellPhase (grid : Grid ν) (rowId columnId : String) : Option Phase :=
  (grid.cells rowId columnId).bind fun cell => cell.status.phase

theorem prepareTargetCell_eq_ok {grid grid' : Grid ν} {rowId columnId : String}
    (h : prepareTargetCell grid rowId columnId = .ok grid') :
    grid.cellPhase rowId columnId = none ∧
      ∃ cell : Cell ν, cell.status = .queued ∧ grid' = grid.setCell rowId columnId cell := by
  cases hcell : grid.cells rowId columnId with
  | none =>
    simp only [prepareTargetCell, hcell, Except.ok.injEq] at h
    exact ⟨by rw [Grid.cellPhase, hcell]; rfl, _, rfl, h.symm⟩
  | some cell =>
    simp only [prepareTargetCell, hcell] at h
    split at h
    · cases h
    · rename_i hactive
      rw [← CellStatus.phase_isSome, Option.not_isSome_iff_eq_none] at hactive
      cases h
      exact ⟨by rw [Grid.cellPhase, hcell]; exact hactive, _, rfl, rfl⟩

structure QueuedRun (db : Database ν) (columnId rowId runId : String) (db' : Database ν) : Prop where
  free : db.grid.cellPhase rowId columnId = none
  cell : ∃ cell : Cell ν, cell.status = .queued ∧ db'.grid = db.grid.setCell rowId columnId cell
  run : ∃ run : CellRun ν, run.id = runId ∧ run.rowId = rowId ∧ run.columnId = columnId ∧
    run.status = .queued ∧ db.cellRuns.insert run = some db'.cellRuns
  column : ∃ column ∈ db.grid.columns, column.id = columnId ∧ column.kind = .connector
  frame : db' = { db with grid := db'.grid, cellRuns := db'.cellRuns, outbox := db'.outbox }
  prepared : prepareTargetCell db.grid rowId columnId = .ok db'.grid

theorem insertCellRun_eq_ok {db db' : Database ν} {input : QueueCellRun} {run : CellRun ν} {output : CellRunInput}
    (h : insertCellRun db input run = .ok (output, db')) (hid : run.id = input.runId)
    (hrow : run.rowId = input.rowId) (hcolumnId : run.columnId = input.columnId) (hstatus : run.status = .queued)
    (hcolumn : ∃ column ∈ db.grid.columns, column.id = input.columnId ∧ column.kind = .connector) :
    QueuedRun db input.columnId input.rowId input.runId db' := by
  simp only [insertCellRun, except_bind_eq_ok, requireSome_eq_ok] at h
  obtain ⟨grid, hgrid, runs, hruns, h⟩ := h
  obtain ⟨hfree, cell, hcell, hset⟩ := prepareTargetCell_eq_ok hgrid
  have hdb : db'.grid = grid ∧ db'.cellRuns = runs ∧
      db' = { db with grid := db'.grid, cellRuns := db'.cellRuns, outbox := db'.outbox } := by
    split at h
    · simp only [except_bind_eq_ok, pure, Except.pure, Except.ok.injEq, Prod.mk.injEq] at h
      obtain ⟨events, _, _, hdb⟩ := h
      subst hdb
      exact ⟨rfl, rfl, rfl⟩
    · simp only [pure, Except.pure, Except.ok.injEq, Prod.mk.injEq] at h
      obtain ⟨_, hdb⟩ := h
      subst hdb
      exact ⟨rfl, rfl, rfl⟩
  obtain ⟨hgridEq, hrunsEq, hframe⟩ := hdb
  refine ⟨hfree, ⟨cell, hcell, hgridEq.trans hset⟩, ⟨run, hid, hrow, hcolumnId, hstatus, ?_⟩, hcolumn, hframe, ?_⟩
  · rw [hrunsEq, hruns]
  · rw [hgridEq, hgrid]

variable [JsRuntime ν] [ConnectorRuntime ν]

theorem queueConnectorActionRun_eq_ok {db db' : Database ν} {input : QueueCellRun} {output : CellRunInput}
    (h : queueConnectorActionRun db input = .ok (output, db')) :
    QueuedRun db input.columnId input.rowId input.runId db' := by
  simp only [queueConnectorActionRun, except_bind_eq_ok, requireSome_eq_ok] at h
  obtain ⟨configuration, htarget, h⟩ := h
  have hcolumn : ∃ column ∈ db.grid.columns, column.id = input.columnId ∧ column.kind = .connector := by
    obtain ⟨column, hfound, _⟩ := Option.map_eq_some_iff.mp htarget
    obtain ⟨hget, hchecks⟩ := Option.filter_eq_some_iff.mp hfound
    obtain ⟨hmem, hid⟩ := Table.get?_eq_some.mp hget
    simp only [Bool.and_eq_true, decide_eq_true_eq] at hchecks
    exact ⟨column, hmem, hid, hchecks.1.1.1.1⟩
  split at h
  · simp only [queueSqliteHttpWaterfallRun, except_bind_eq_ok] at h
    obtain ⟨_, _, _, _, h⟩ := h
    exact insertCellRun_eq_ok h rfl rfl rfl rfl hcolumn
  · simp only [queueSqliteHttpRun, except_bind_eq_ok] at h
    obtain ⟨_, _, _, _, h⟩ := h
    exact insertCellRun_eq_ok h rfl rfl rfl rfl hcolumn
  · simp only [queueConnectorAction, except_bind_eq_ok] at h
    obtain ⟨_, _, _, _, _, _, h⟩ := h
    exact insertCellRun_eq_ok h rfl rfl rfl rfl hcolumn
  · cases h

def QueueStep (db db' : Database ν) : Prop :=
  (∃ columnId rowId runId, QueuedRun db columnId rowId runId db') ∨
    db' = { db with
      bulkRunBatches := db'.bulkRunBatches
      bulkRunItems := db'.bulkRunItems
      outbox := db'.outbox }

def Queues : Database ν → Database ν → Prop := Relation.ReflTransGen QueueStep

omit [JsRuntime ν] [ConnectorRuntime ν] in
theorem QueuedRun.queues {db db' : Database ν} {columnId rowId runId : String}
    (h : QueuedRun db columnId rowId runId db') : Queues db db' :=
  Relation.ReflTransGen.single (Or.inl ⟨columnId, rowId, runId, h⟩)

theorem queueWorkflowRows_queues {input : QueueByWorkflow} {tableId : String} {rows : List WorkflowRowReference}
    {db db' : Database ν} {outputs : List CellRunInput}
    (h : queueWorkflowRows input tableId rows db = .ok (outputs, db')) : Queues db db' := by
  induction rows generalizing db outputs with
  | nil =>
    cases h
    exact Relation.ReflTransGen.refl
  | cons row rows ih =>
    simp only [queueWorkflowRows, except_bind_eq_ok, pure, Except.pure, Except.ok.injEq, Prod.mk.injEq] at h
    obtain ⟨first, hfirst, rest, hrest, _, hdb⟩ := h
    have hstep : Queues db first.2 := by
      unfold queueWorkflowRow at hfirst
      dsimp only at hfirst
      split at hfirst
      · cases hfirst
        exact Relation.ReflTransGen.refl
      · split at hfirst
        · cases hfirst
          exact Relation.ReflTransGen.refl
        · simp only [except_bind_eq_ok, pure, Except.pure, Except.ok.injEq] at hfirst
          obtain ⟨queued, hqueued, rfl⟩ := hfirst
          exact (queueConnectorActionRun_eq_ok hqueued).queues
    subst hdb
    exact hstep.trans (ih hrest)

theorem expandItem_queues {input : ExpandBulkRunBatch} {batch : BulkRunBatch} {userId : String}
    {state next : Expansion ν} {item : BulkRunItem} (h : expandItem input batch userId state item = .ok next) :
    Queues state.db next.db := by
  have hskip : ∀ message, Queues state.db (state.skip batch.id item.rowId message).db :=
    fun _ => Relation.ReflTransGen.single (Or.inr rfl)
  unfold expandItem at h
  split at h
  · cases h
    exact hskip _
  · split at h
    · rename_i run db hqueue
      cases h
      simp only [queueSqliteEnrichmentCellRunInTransaction, except_bind_eq_ok] at hqueue
      obtain ⟨_, _, hqueue⟩ := hqueue
      exact (queueConnectorActionRun_eq_ok hqueue).queues.tail (Or.inr rfl)
    · cases h
      exact hskip _
    · cases h
      exact hskip _
    · cases h

theorem expandItems_queues {input : ExpandBulkRunBatch} {batch : BulkRunBatch} {userId : String}
    {items : List BulkRunItem} {state next : Expansion ν}
    (h : expandItems input batch userId items state = .ok next) : Queues state.db next.db := by
  induction items generalizing state with
  | nil =>
    cases h
    exact Relation.ReflTransGen.refl
  | cons item items ih =>
    simp only [expandItems, except_bind_eq_ok] at h
    obtain ⟨middle, hmiddle, hrest⟩ := h
    exact (expandItem_queues hmiddle).trans (ih hrest)

theorem expandSqliteBulkRunBatchChunk_queues {db db' : Database ν} {input : ExpandBulkRunBatch} {processed : Nat}
    {status : BulkRunBatchStatus} (h : expandSqliteBulkRunBatchChunk db input = .ok (processed, status, db')) :
    Queues db db' := by
  simp only [expandSqliteBulkRunBatchChunk, except_bind_eq_ok] at h
  obtain ⟨batch, _, h⟩ := h
  split at h
  · cases h
    exact Relation.ReflTransGen.refl
  · split at h
    · cases h
      exact Relation.ReflTransGen.single (Or.inr rfl)
    · simp only [except_bind_eq_ok, pure, Except.pure, Except.ok.injEq, Prod.mk.injEq] at h
      obtain ⟨expanded, hexpanded, _, _, rfl⟩ := h
      have hstarted : QueueStep db (updateBatch db batch.id (startBatch input.now) (startBatch_keepsKey input.now)) :=
        Or.inr rfl
      exact ((Relation.ReflTransGen.single hstarted).trans (expandItems_queues hexpanded)).tail (Or.inr rfl)

omit [JsRuntime ν] [ConnectorRuntime ν] in
theorem createSqliteBulkRunBatch_queues {db db' : Database ν} {input : CreateBulkRunBatch}
    (h : createSqliteBulkRunBatch db input = .ok db') : Queues db db' := by
  simp only [createSqliteBulkRunBatch, except_bind_eq_ok, pure, Except.pure, Except.ok.injEq] at h
  obtain ⟨_, _, _, _, _, _, _, _, _, _, _, _, rfl⟩ := h
  exact Relation.ReflTransGen.single (Or.inr rfl)

end Queue

section Frame

variable {ν : Type} [JsRuntime ν]

structure RecomputeFrame (formulas : String → Option (Column ν)) (rowId : String) (before after : Grid ν) : Prop where
  cellsOnly : after = { before with cells := after.cells }
  cell : ∀ r c, after.cells r c = before.cells r c ∨
    r = rowId ∧ (formulas c).isSome = true ∧ ∃ cell, after.cells r c = some cell ∧ cell.status = .succeeded

theorem recomputeFormula_frame {formulas : String → Option (Column ν)} {rowId formulaId : String}
    {state next : RecomputeState ν} (hid : ∀ id column, formulas id = some column → column.id = id)
    (h : recomputeFormula formulas rowId state formulaId = .ok next) :
    RecomputeFrame formulas rowId state.grid next.grid := by
  have hset : ∀ (column : Column ν) (cell : Cell ν), formulas formulaId = some column → cell.status = .succeeded →
      RecomputeFrame formulas rowId state.grid (state.grid.setCell rowId column.id cell) := by
    intro column cell hcolumn hstatus
    refine ⟨rfl, fun r c => ?_⟩
    by_cases hrc : r = rowId ∧ c = column.id
    · obtain ⟨rfl, rfl⟩ := hrc
      have hsame := hid formulaId column hcolumn
      exact Or.inr ⟨rfl, by rw [hsame, hcolumn]; rfl, cell, Grid.setCell_self _ _ _ _, hstatus⟩
    · exact Or.inl (Grid.setCell_of_ne _ _ _ _ hrc)
  have hrefl : RecomputeFrame formulas rowId state.grid state.grid := ⟨rfl, fun _ _ => Or.inl rfl⟩
  unfold recomputeFormula at h
  split at h
  · cases h
    exact hrefl
  · rename_i column hcolumn
    split at h
    · cases h
    · dsimp only at h
      split at h
      · cases h
      · split at h
        · cases h
          exact hset column _ hcolumn rfl
        · split at h
          · cases h
            exact hrefl
          · cases h
            exact hset column _ hcolumn rfl

omit [JsRuntime ν] in
theorem RecomputeFrame.trans {formulas : String → Option (Column ν)} {rowId : String} {a b c : Grid ν}
    (hab : RecomputeFrame formulas rowId a b) (hbc : RecomputeFrame formulas rowId b c) :
    RecomputeFrame formulas rowId a c := by
  constructor
  · rw [hbc.cellsOnly, hab.cellsOnly]
  · intro r col
    rcases hbc.cell r col with hsame | hwritten
    · rcases hab.cell r col with hsame' | ⟨hr, hf, cell, hcell, hstatus⟩
      · exact Or.inl (hsame.trans hsame')
      · exact Or.inr ⟨hr, hf, cell, hsame.trans hcell, hstatus⟩
    · exact Or.inr hwritten

theorem recomputeLoop_frame {formulas : String → Option (Column ν)} {rowId : String} {ordered : List String}
    {state : RecomputeState ν} {changed : List String} {after : Grid ν}
    (hid : ∀ id column, formulas id = some column → column.id = id)
    (h : recomputeLoop formulas rowId ordered state = (.ok changed, after)) :
    RecomputeFrame formulas rowId state.grid after := by
  induction ordered generalizing state with
  | nil =>
    cases h
    exact ⟨rfl, fun _ _ => Or.inl rfl⟩
  | cons formulaId ordered ih =>
    unfold recomputeLoop at h
    split at h
    · cases h
    · rename_i next hnext
      exact (recomputeFormula_frame hid hnext).trans (ih h)

theorem recomputeFormulas_frame {grid grid' : Grid ν} {tableId rowId : String} {changed returned : List String}
    (h : recomputeFormulas grid tableId rowId changed = .ok (returned, grid')) :
    RecomputeFrame (grid.formulaColumn tableId) rowId grid grid' := by
  have hrun : recomputeDependentSqliteFormulasForRow grid tableId rowId changed = (.ok returned, grid') := by
    unfold recomputeFormulas at h
    split at h
    · rename_i hrun
      rw [Except.ok.injEq, Prod.mk.injEq] at h
      rw [hrun, h.1, h.2]
    · cases h
  rcases recompute_cases grid tableId rowId changed with ⟨_, hok⟩ | ⟨_, _, hcyclic⟩ | ⟨_, _, hloop⟩
  · rw [hok] at hrun
    cases hrun
    exact ⟨rfl, fun _ _ => Or.inl rfl⟩
  · rw [hcyclic] at hrun
    cases hrun
  · rw [hloop] at hrun
    exact recomputeLoop_frame (fun id column hcolumn => (Grid.formulaColumn_eq_some hcolumn).2) hrun

omit [JsRuntime ν] in
theorem record_eq_ok {db db' : Database ν} {input : RowMutation} {stamp : MutationStamp}
    (h : recordSqliteRowMutationAndMaybeQueueSettlement db input stamp = .ok db') :
    db' = { db with
      grid := { db.grid with rows := db'.grid.rows }
      rowSettlements := db'.rowSettlements
      outbox := db'.outbox } := by
  simp only [recordSqliteRowMutationAndMaybeQueueSettlement, except_bind_eq_ok] at h
  obtain ⟨row, _, h⟩ := h
  split at h
  · cases h
    rfl
  · split at h
    · cases h
      rfl
    · split at h
      · cases h
        rfl
      · simp only [except_bind_eq_ok, pure, Except.pure, Except.ok.injEq] at h
        obtain ⟨events, _, rfl⟩ := h
        rfl

end Frame

section Report

variable {ν : Type}

theorem runScope_iff {input : CellRunInput} {run : CellRun ν} : runScope input run = true ↔
    run.id = input.runId ∧ run.rowId = input.rowId ∧ run.columnId = input.columnId ∧
      run.inputFingerprint = input.inputFingerprint := by
  simp [runScope, and_assoc]

theorem runInScope_eq_some {db : Database ν} {input : CellRunInput} {run : CellRun ν} :
    db.runInScope input = some run ↔ run ∈ db.cellRuns ∧ runScope input run = true := by
  unfold Database.runInScope
  rw [Option.filter_eq_some_iff, Table.get?_eq_some]
  constructor
  · intro h
    exact ⟨h.1.1, h.2⟩
  · intro h
    exact ⟨⟨h.1, (runScope_iff.mp h.2).1⟩, h.2⟩

theorem runInScope_any {db : Database ν} {input : CellRunInput} {p : CellRun ν → Bool} :
    db.cellRuns.records.any (fun run => runScope input run && p run) = true ↔
      ∃ run, db.runInScope input = some run ∧ p run = true := by
  rw [List.any_eq_true]
  refine exists_congr fun run => ?_
  rw [runInScope_eq_some, Bool.and_eq_true, and_assoc]
  rfl

theorem mark_eq_ok {db db' : Database ν} {input : CellRunInput} {now : Int} {start : CellRunStart}
    (h : markSqliteCellRunRunning db input now = .ok (start, db')) :
    db' = db ∨ ∃ run, db.runInScope input = some run ∧ run.status = .queued ∧
      db' = { db with
        cellRuns := db.cellRuns.modify (fun candidate => candidate.id = run.id) (startCellRun now) ⟨fun _ => rfl⟩
        grid := db.grid.setCellStatus input.rowId input.columnId .running } := by
  simp only [markSqliteCellRunRunning, except_bind_eq_ok, requireSome_eq_ok] at h
  obtain ⟨run, hrun, h⟩ := h
  split at h
  · cases h
    exact Or.inl rfl
  · cases h
    exact Or.inl rfl
  · cases h
  · cases h
  · rename_i hstatus
    cases h
    exact Or.inr ⟨run, hrun, hstatus, rfl⟩

theorem cancel_eq_ok {db db' : Database ν} {input : CancelBulkRunBatch}
    (h : cancelSqliteBulkRunBatch db input = .ok db') :
    db' = db ∨ ∃ runIds, runIds = batchRunIds db.bulkRunItems input.batchId ∧
      db' = { db with
        bulkRunItems := db'.bulkRunItems
        bulkRunBatches := db'.bulkRunBatches
        cellRuns := db.cellRuns.modify (fun run => run.id ∈ runIds && run.status.active) (cancelCellRun input.now)
          ⟨fun _ => rfl⟩
        grid := cancelCells db.grid fun rowId columnId => db.cellRuns.records.any fun run =>
          (run.id ∈ runIds && run.status.active) && run.rowId = rowId && run.columnId = columnId } := by
  simp only [cancelSqliteBulkRunBatch, except_bind_eq_ok, requireSome_eq_ok] at h
  obtain ⟨batch, hbatch, _, _, h⟩ := h
  have hid : batch.id = input.batchId :=
    (Table.get?_eq_some.mp (Option.filter_eq_some_iff.mp hbatch).1).2
  split at h
  · cases h
    exact Or.inl rfl
  · cases h
  · cases h
  · cases h
    exact Or.inr ⟨_, rfl, by rw [← hid]⟩
  · cases h
    exact Or.inr ⟨_, rfl, by rw [← hid]⟩

variable [JsRuntime ν]

theorem succeed_eq_ok {db db' : Database ν} {input : CellRunInput} {success : CellRunSuccess ν}
    {stamp : MutationStamp} (h : markSqliteCellRunSucceeded db input success stamp = .ok db') :
    ∃ cell row returned grid, db.grid.cells input.rowId input.columnId = some cell ∧
      db.grid.rows.get? input.rowId = some row ∧
      (∃ run, db.runInScope input = some run ∧ run.status = .running) ∧
      recomputeFormulas (db.grid.setCell input.rowId input.columnId
          { value := serializeSqliteCellValue success.value, status := .succeeded, version := cell.version + 1 })
        row.tableId input.rowId [input.columnId] = .ok (returned, grid) ∧
      recordSqliteRowMutationAndMaybeQueueSettlement
        { db with
          cellRuns := db.cellRuns.modify (fun run => runScope input run && run.status = .running)
            (fun run => succeedCellRun stamp.now run success.output) ⟨fun _ => rfl⟩
          grid := grid }
        { changedColumnIds := input.columnId :: returned, rowId := input.rowId, tableId := row.tableId }
        stamp = .ok db' := by
  simp only [markSqliteCellRunSucceeded, except_bind_eq_ok, requireSome_eq_ok, requireThat_eq_ok] at h
  obtain ⟨cell, hcell, row, hrow, _, hrunning, recomputed, hrecomputed, h⟩ := h
  obtain ⟨run, hrun, hstatus⟩ := runInScope_any.mp hrunning
  exact ⟨cell, row, recomputed.1, recomputed.2, hcell, hrow, ⟨run, hrun, of_decide_eq_true hstatus⟩, hrecomputed, h⟩

omit [JsRuntime ν] in
theorem setFailure_eq_ok {db db' : Database ν} {input : CellRunInput} {failure : CellRunFailure}
    {stamp : MutationStamp} (h : setSqliteCellRunFailure db input failure stamp = .ok db') :
    db' = writeCellRunFailure db input failure stamp.now ∨
      ∃ row, db.grid.rows.get? input.rowId = some row ∧ failure.retrying = false ∧
        (∃ run, db.runInScope input = some run ∧ run.status.active = true) ∧
        recordSqliteRowMutationAndMaybeQueueSettlement (writeCellRunFailure db input failure stamp.now)
          { changedColumnIds := [input.columnId], rowId := input.rowId, tableId := row.tableId } stamp =
            .ok db' := by
  unfold setSqliteCellRunFailure at h
  dsimp only at h
  split at h
  · rename_i row htarget
    obtain ⟨_, _, hrow⟩ := Option.bind_eq_some_iff.mp htarget
    split at h
    · rename_i hfailed
      rw [Bool.and_eq_true, Bool.not_eq_true', runInScope_any] at hfailed
      exact Or.inr ⟨row, hrow, hfailed.1, hfailed.2, h⟩
    · cases h
      exact Or.inl rfl
  · cases h
    exact Or.inl rfl

end Report

end ByokGrid
