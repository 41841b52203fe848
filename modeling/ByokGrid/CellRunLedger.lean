import ByokGrid.CellRunEffects

/-! Cells and their runs agree: the transactions on cell runs are steps of jobs
which take the cells as their slots. -/

namespace ByokGrid

section Board

variable {ν : Type}

def CellRun.job (run : CellRun ν) : (String × String) × Option Phase :=
  ((run.rowId, run.columnId), run.status.phase)

def Database.board (db : Database ν) : JobBoard String (String × String) where
  job id := (db.cellRuns.get? id).map CellRun.job
  slot key := db.grid.cellPhase key.1 key.2

structure CellRunInvariant (db : Database ν) : Prop where
  agrees : db.board.Agrees
  connector : ∀ run ∈ db.cellRuns, ∃ column ∈ db.grid.columns, column.id = run.columnId ∧ column.kind = .connector

theorem CellRunInvariant.congr {db db' : Database ν} (h : CellRunInvariant db) (hruns : db'.cellRuns = db.cellRuns)
    (hcells : db'.grid.cells = db.grid.cells) (hcolumns : db'.grid.columns = db.grid.columns) :
    CellRunInvariant db' := by
  constructor
  · have hboard : db'.board = db.board := by
      simp only [Database.board, Grid.cellPhase, hruns, hcells]
    rw [hboard]
    exact h.agrees
  · rw [hruns, hcolumns]
    exact h.connector

theorem cellPhase_setCell (grid : Grid ν) (rowId columnId : String) (cell : Cell ν) (key : String × String) :
    (grid.setCell rowId columnId cell).cellPhase key.1 key.2 =
      if key = (rowId, columnId) then cell.status.phase else grid.cellPhase key.1 key.2 := by
  by_cases hkey : key = (rowId, columnId)
  · subst hkey
    rw [if_pos rfl, Grid.cellPhase, Grid.setCell_self]
    rfl
  · rw [if_neg hkey, Grid.cellPhase, Grid.setCell_of_ne]
    · rfl
    · exact fun hh => hkey (Prod.ext hh.1 hh.2)

theorem job_modify (runs : Table (CellRun ν)) (p : CellRun ν → Bool) (f : CellRun ν → CellRun ν) (hf : KeepsKey f)
    (id : String) : ((runs.modify p f hf).get? id).map CellRun.job =
      (runs.get? id).map fun run => if p run then (f run).job else run.job := by
  rw [Table.get?_modify, Option.map_map]
  congr 1
  funext run
  exact apply_ite CellRun.job _ _ _

end Board

section Queue

variable {ν : Type}

theorem CellRunInvariant.queued {db db' : Database ν} {columnId rowId runId : String} (h : CellRunInvariant db)
    (hqueued : QueuedRun db columnId rowId runId db') : CellRunInvariant db' := by
  obtain ⟨cell, hcell, hgrid⟩ := hqueued.cell
  obtain ⟨run, hid, hrow, hcolumn, hstatus, hinsert⟩ := hqueued.run
  have hfresh := (Table.insert_eq_some hinsert).2
  constructor
  · refine h.agrees.assign (i := runId) (s := (rowId, columnId)) .queued (Or.inl ⟨?_, hqueued.free⟩) ?_ ?_
    · have hnone : db.cellRuns.get? run.id = none := hfresh
      simp only [Database.board, ← hid, hnone, Option.map_none]
    · intro id
      have hkey : Keyed.key run = runId := hid
      simp only [Database.board, Table.get?_insert hinsert, hkey]
      split
      · simp only [Option.map_some, CellRun.job, hrow, hcolumn, hstatus]
        rfl
      · rfl
    · intro key
      simp only [Database.board, hgrid, cellPhase_setCell, hcell]
      rfl
  · intro other hother
    have hcolumns : db'.grid.columns = db.grid.columns := by
      rw [hgrid]
      rfl
    rw [hcolumns]
    rcases (Table.mem_insert hinsert).mp hother with hold | rfl
    · exact h.connector other hold
    · obtain ⟨column, hmem, hid', hkind⟩ := hqueued.column
      exact ⟨column, hmem, hid'.trans hcolumn.symm, hkind⟩

theorem CellRunInvariant.queues {db db' : Database ν} (h : CellRunInvariant db) (hqueues : Queues db db') :
    CellRunInvariant db' := by
  induction hqueues with
  | refl => exact h
  | tail _ hstep ih =>
    rcases hstep with ⟨columnId, rowId, runId, hqueued⟩ | hframe
    · exact ih.queued hqueued
    · rw [hframe]
      exact ih.congr rfl rfl rfl

end Queue

section Report

variable {ν : Type} {db db' : Database ν}

theorem board_job_of_mem {run : CellRun ν} (h : run ∈ db.cellRuns) : db.board.job run.id = some run.job := by
  have hget : db.cellRuns.get? run.id = some run := Table.get?_of_mem h
  simp only [Database.board, hget, Option.map_some]

theorem exists_run_of_job {id rowId columnId : String} {phase : Option Phase}
    (h : db.board.job id = some ((rowId, columnId), phase)) :
    ∃ run ∈ db.cellRuns, run.id = id ∧ run.rowId = rowId ∧ run.columnId = columnId ∧ run.status.phase = phase := by
  obtain ⟨run, hget, hjob⟩ := Option.map_eq_some_iff.mp h
  obtain ⟨hmem, hid⟩ := Table.get?_eq_some.mp hget
  simp only [CellRun.job, Prod.mk.injEq] at hjob
  exact ⟨run, hmem, hid, hjob.1.1, hjob.1.2, hjob.2⟩

theorem CellRunInvariant.of_agrees (h : CellRunInvariant db)
    (hruns : ∀ run' ∈ db'.cellRuns, ∃ run ∈ db.cellRuns, run.columnId = run'.columnId)
    (hcolumns : db'.grid.columns = db.grid.columns) (hagrees : db'.board.Agrees) : CellRunInvariant db' := by
  refine ⟨hagrees, fun run' hrun' => ?_⟩
  obtain ⟨run, hrun, hsame⟩ := hruns run' hrun'
  obtain ⟨column, hmem, hid, hkind⟩ := h.connector run hrun
  rw [hcolumns]
  exact ⟨column, hmem, hid.trans hsame, hkind⟩

theorem cellPhase_setCellStatus (grid : Grid ν) (rowId columnId : String) (status : CellStatus)
    (key : String × String) : (grid.setCellStatus rowId columnId status).cellPhase key.1 key.2 =
      if key = (rowId, columnId) then (grid.cells rowId columnId).bind fun _ => status.phase
      else grid.cellPhase key.1 key.2 := by
  unfold Grid.setCellStatus
  split
  · rename_i hcell
    split
    · rename_i hkey
      subst hkey
      simp only [Grid.cellPhase, hcell, Option.bind_none]
    · rfl
  · rename_i cell hcell
    rw [cellPhase_setCell, hcell]
    rfl

theorem setCellStatus_columns (grid : Grid ν) (rowId columnId : String) (status : CellStatus) :
    (grid.setCellStatus rowId columnId status).columns = grid.columns := by
  unfold Grid.setCellStatus
  split <;> rfl

theorem CellRunInvariant.exists_cell (h : CellRunInvariant db) {run : CellRun ν} (hrun : run ∈ db.cellRuns)
    (hactive : run.status.active = true) :
    ∃ cell, db.grid.cells run.rowId run.columnId = some cell ∧ cell.status.phase = run.status.phase := by
  obtain ⟨phase, hphase⟩ := Option.isSome_iff_exists.mp (CellRunStatus.phase_isSome.trans hactive)
  have hjob : db.board.job run.id = some ((run.rowId, run.columnId), some phase) := by
    rw [board_job_of_mem hrun, CellRun.job, hphase]
  obtain ⟨cell, hcell, hshown⟩ := Option.bind_eq_some_iff.mp (h.agrees.slot_eq hjob)
  exact ⟨cell, hcell, hshown.trans hphase.symm⟩

theorem CellRunInvariant.mark (h : CellRunInvariant db) {input : CellRunInput} {now : Int} {start : CellRunStart}
    (hok : markSqliteCellRunRunning db input now = .ok (start, db')) : CellRunInvariant db' := by
  rcases mark_eq_ok hok with rfl | ⟨run, hscope, hqueued, hdb⟩
  · exact h
  obtain ⟨hmem, hin⟩ := runInScope_eq_some.mp hscope
  obtain ⟨hid, hrow, hcolumn, _⟩ := runScope_iff.mp hin
  obtain ⟨cell, hcell, _⟩ := h.exists_cell hmem (by rw [hqueued]; rfl)
  refine h.of_agrees ?_ ?_ ?_
  · intro run' hrun'
    rw [hdb] at hrun'
    dsimp only at hrun'
    obtain ⟨old, hold, rfl⟩ := (Table.mem_modify _).mp hrun'
    refine ⟨old, hold, ?_⟩
    split <;> rfl
  · rw [hdb]
    exact setCellStatus_columns _ _ _ _
  · refine h.agrees.assign (i := run.id) (s := (run.rowId, run.columnId)) .running (Or.inr ⟨.queued, ?_⟩) ?_ ?_
    · rw [board_job_of_mem hmem, CellRun.job, hqueued]
      rfl
    · intro id
      rw [hdb]
      simp only [Database.board, job_modify]
      by_cases hsame : id = run.id
      · have hget : db.cellRuns.get? run.id = some run := Table.get?_of_mem hmem
        rw [if_pos hsame, hsame, hget, Option.map_some, if_pos (decide_eq_true rfl)]
        rfl
      · rw [if_neg hsame]
        refine Option.map_congr fun other hother => ?_
        have hother' : other.id ≠ run.id := by
          rw [(Table.get?_eq_some.mp hother).2.symm] at hsame
          exact hsame
        rw [if_neg (by simpa using hother')]
    · intro key
      rw [hdb]
      simp only [Database.board, cellPhase_setCellStatus, ← hrow, ← hcolumn, hcell]
      rfl

theorem cellPhase_cancelCells (grid : Grid ν) (cancelled : String → String → Bool) (rowId columnId : String) :
    (cancelCells grid cancelled).cellPhase rowId columnId =
      if cancelled rowId columnId = true then none else grid.cellPhase rowId columnId := by
  simp only [Grid.cellPhase, cancelCells]
  cases hcell : grid.cells rowId columnId with
  | none => simp
  | some cell =>
    simp only [Option.map_some, Option.bind_some, Bool.and_eq_true]
    by_cases hcancelled : cancelled rowId columnId = true
    · rw [if_pos hcancelled]
      split
      · rfl
      · rename_i hnot
        have hinactive : ¬ cell.status.active = true := fun hactive => hnot ⟨hcancelled, hactive⟩
        rw [← CellStatus.phase_isSome, Option.not_isSome_iff_eq_none] at hinactive
        exact hinactive
    · rw [if_neg hcancelled, if_neg fun hh => hcancelled hh.1]

theorem CellRunInvariant.cancel (h : CellRunInvariant db) {input : CancelBulkRunBatch}
    (hok : cancelSqliteBulkRunBatch db input = .ok db') : CellRunInvariant db' := by
  rcases cancel_eq_ok hok with rfl | ⟨runIds, _, hdb⟩
  · exact h
  have hruns : ∀ run' ∈ db'.cellRuns, ∃ run ∈ db.cellRuns, run.columnId = run'.columnId := by
    intro run' hrun'
    rw [hdb] at hrun'
    dsimp only at hrun'
    obtain ⟨old, hold, rfl⟩ := (Table.mem_modify _).mp hrun'
    refine ⟨old, hold, ?_⟩
    split <;> rfl
  refine h.of_agrees hruns (by rw [hdb]; rfl) ?_
  have hphase : ∀ key : String × String, db'.board.slot key =
      if db.cellRuns.records.any (fun run =>
        (run.id ∈ runIds && run.status.active) && run.rowId = key.1 && run.columnId = key.2) = true then none
      else db.board.slot key := by
    intro key
    rw [hdb]
    exact cellPhase_cancelCells _ _ _ _
  have hmatch : ∀ key : String × String, db.cellRuns.records.any (fun run =>
        (run.id ∈ runIds && run.status.active) && run.rowId = key.1 && run.columnId = key.2) = true ↔
      ∃ id phase, id ∈ runIds ∧ db.board.job id = some (key, some phase) := by
    intro key
    rw [List.any_eq_true]
    constructor
    · intro hany
      obtain ⟨run, hrun, hchecks⟩ := hany
      simp only [Bool.and_eq_true, decide_eq_true_eq] at hchecks
      obtain ⟨⟨⟨hid, hactive⟩, hrow⟩, hcolumn⟩ := hchecks
      obtain ⟨phase, hphase⟩ := Option.isSome_iff_exists.mp (CellRunStatus.phase_isSome.trans hactive)
      refine ⟨run.id, phase, hid, ?_⟩
      rw [board_job_of_mem hrun, CellRun.job, hphase, hrow, hcolumn]
    · intro hany
      obtain ⟨id, phase, hid, hjob⟩ := hany
      obtain ⟨rowId, columnId⟩ := key
      obtain ⟨run, hrun, hrunId, hrow, hcolumn, hstatus⟩ := exists_run_of_job hjob
      refine ⟨run, hrun, ?_⟩
      simp only [Bool.and_eq_true, decide_eq_true_eq]
      refine ⟨⟨⟨hrunId ▸ hid, ?_⟩, hrow⟩, hcolumn⟩
      rw [← CellRunStatus.phase_isSome, hstatus]
      rfl
  refine h.agrees.finish (fun id => id ∈ runIds) ?_ ?_ ?_ ?_
  · intro id hid
    rw [hdb]
    simp only [Database.board, job_modify, Option.map_map]
    refine Option.map_congr fun run hrun => ?_
    have hrunId : run.id = id := (Table.get?_eq_some.mp hrun).2
    rw [hrunId]
    split
    · rfl
    · rename_i hnot
      have hinactive : ¬ run.status.active = true := by simpa [hid] using hnot
      rw [← CellRunStatus.phase_isSome, Option.not_isSome_iff_eq_none] at hinactive
      simp only [CellRun.job, Function.comp_apply, hinactive]
  · intro id hid
    rw [hdb]
    simp only [Database.board, job_modify]
    refine Option.map_congr fun run hrun => ?_
    have hrunId : run.id = id := (Table.get?_eq_some.mp hrun).2
    rw [hrunId, if_neg (by simp [hid])]
  · intro key hany
    obtain ⟨id, phase, hid, hjob⟩ := hany
    rw [hphase, if_pos ((hmatch key).mpr ⟨id, phase, hid, hjob⟩)]
  · intro key hnone
    rw [hphase, if_neg]
    intro hany
    obtain ⟨id, phase, hid, hjob⟩ := (hmatch key).mp hany
    exact hnone id phase hid hjob

theorem CellRunInvariant.record (h : CellRunInvariant db) {input : RowMutation} {stamp : MutationStamp}
    (hok : recordSqliteRowMutationAndMaybeQueueSettlement db input stamp = .ok db') : CellRunInvariant db' := by
  rw [record_eq_ok hok]
  exact h.congr rfl rfl rfl

theorem job_modify_scope {input : CellRunInput} {run : CellRun ν} (hscope : db.runInScope input = some run)
    (p : CellRun ν → Bool) (hp : p run = true) (f : CellRun ν → CellRun ν) (hf : KeepsKey f) (id : String) :
    ((db.cellRuns.modify (fun run => runScope input run && p run) f hf).get? id).map CellRun.job =
      if id = run.id then some (f run).job else db.board.job id := by
  obtain ⟨hmem, hin⟩ := runInScope_eq_some.mp hscope
  rw [job_modify]
  by_cases hsame : id = run.id
  · have hget : db.cellRuns.get? run.id = some run := Table.get?_of_mem hmem
    rw [if_pos hsame, hsame, hget, Option.map_some, hin, hp]
    rfl
  · rw [if_neg hsame]
    refine Option.map_congr fun other hother => ?_
    have hother' : other.id = id := (Table.get?_eq_some.mp hother).2
    rw [if_neg]
    intro hchecks
    rw [Bool.and_eq_true, runScope_iff] at hchecks
    exact hsame (hother'.symm.trans (hchecks.1.1.trans (runScope_iff.mp hin).1.symm))

theorem CellRunInvariant.formula_free (h : CellRunInvariant db) {tableId columnId : String} (rowId : String)
    (hformula : (db.grid.formulaColumn tableId columnId).isSome = true) : db.grid.cellPhase rowId columnId = none := by
  cases hphase : db.grid.cellPhase rowId columnId with
  | none => rfl
  | some phase =>
    obtain ⟨id, hjob⟩ := (h.agrees.slot_iff (rowId, columnId) phase).mp hphase
    obtain ⟨run, hrun, _, _, hcolumn, _⟩ := exists_run_of_job hjob
    obtain ⟨column, hmem, hid, hkind⟩ := h.connector run hrun
    obtain ⟨formula, hformula⟩ := Option.isSome_iff_exists.mp hformula
    obtain ⟨hin, hformulaId⟩ := Grid.formulaColumn_eq_some hformula
    obtain ⟨hmem', hchecks⟩ := List.mem_filter.mp hin
    have hsame : column = formula := Table.eq_of_key hmem hmem' (hid.trans (hcolumn.trans hformulaId.symm))
    simp only [decide_eq_true_eq] at hchecks
    rw [← hsame, hkind] at hchecks
    cases hchecks.1

theorem CellRunInvariant.succeed [JsRuntime ν] (h : CellRunInvariant db) {input : CellRunInput}
    {success : CellRunSuccess ν} {stamp : MutationStamp}
    (hok : markSqliteCellRunSucceeded db input success stamp = .ok db') : CellRunInvariant db' := by
  obtain ⟨cell, row, returned, grid, _, _, ⟨run, hscope, hrunning⟩, hrecompute, hrecord⟩ := succeed_eq_ok hok
  refine CellRunInvariant.record ?_ hrecord
  obtain ⟨hmem, hin⟩ := runInScope_eq_some.mp hscope
  obtain ⟨hid, hrow, hcolumn, _⟩ := runScope_iff.mp hin
  have hframe := recomputeFormulas_frame hrecompute
  have hjob := job_modify_scope hscope (fun run => run.status = .running) (decide_eq_true hrunning)
    (fun run => succeedCellRun stamp.now run success.output) ⟨fun _ => rfl⟩
  have hslot : ∀ key : String × String, grid.cellPhase key.1 key.2 =
      if key = (input.rowId, input.columnId) then none else db.grid.cellPhase key.1 key.2 := by
    intro key
    rcases hframe.cell key.1 key.2 with hsame | ⟨_, hformula, written, hwritten, hstatus⟩
    · have hset := cellPhase_setCell db.grid input.rowId input.columnId
        { value := serializeSqliteCellValue success.value, status := .succeeded, version := cell.version + 1 } key
      refine Eq.trans ?_ hset
      rw [Grid.cellPhase, hsame]
      rfl
    · rw [Grid.cellPhase, hwritten, Option.bind_some, hstatus, h.formula_free key.1 hformula, ite_self]
      rfl
  have hactive : db.board.job run.id = some ((input.rowId, input.columnId), some .running) := by
    rw [board_job_of_mem hmem, CellRun.job, hrow, hcolumn, hrunning]
    rfl
  refine h.of_agrees ?_ ?_ ?_
  · intro run' hrun'
    dsimp only at hrun'
    obtain ⟨old, hold, rfl⟩ := (Table.mem_modify _).mp hrun'
    refine ⟨old, hold, ?_⟩
    split <;> rfl
  · dsimp only
    rw [hframe.cellsOnly]
    rfl
  · refine h.agrees.finish (fun id => id = run.id) ?_ ?_ ?_ ?_
    · intro id hsame
      refine (hjob id).trans ?_
      rw [if_pos hsame, hsame, hactive, Option.map_some, CellRun.job]
      exact congrArg some (Prod.ext (Prod.ext hrow hcolumn) rfl)
    · intro id hother
      exact (hjob id).trans (if_neg hother)
    · intro key hany
      obtain ⟨id, phase, hsame, hkey⟩ := hany
      rw [hsame, hactive, Option.some.injEq, Prod.mk.injEq] at hkey
      exact (hslot key).trans (if_pos hkey.1.symm)
    · intro key hnone
      refine (hslot key).trans (if_neg ?_)
      intro hkey
      exact hnone run.id .running rfl (hkey ▸ hactive)

theorem CellRunInvariant.writeFailure (h : CellRunInvariant db) {input : CellRunInput} {failure : CellRunFailure}
    {now : Int} {run : CellRun ν} (hscope : db.runInScope input = some run) (hrunning : run.status = .running) :
    CellRunInvariant (writeCellRunFailure db input failure now) := by
  obtain ⟨hmem, hin⟩ := runInScope_eq_some.mp hscope
  obtain ⟨hid, hrow, hcolumn, _⟩ := runScope_iff.mp hin
  have hstatus : run.status.active = true := by
    rw [hrunning]
    rfl
  obtain ⟨cell, hcell, _⟩ := h.exists_cell hmem hstatus
  rw [hrow, hcolumn] at hcell
  have hactive : db.board.job run.id = some ((input.rowId, input.columnId), some .running) := by
    rw [board_job_of_mem hmem, CellRun.job, hrow, hcolumn, hrunning]
    rfl
  have hjob := job_modify_scope hscope (fun run => run.status.active) hstatus (fun run => failCellRun now run
    (safeRunError failure.errorCode 80) (safeRunError failure.errorMessage 500) failure.retrying) ⟨fun _ => rfl⟩
  have hslot := cellPhase_setCellStatus db.grid input.rowId input.columnId
    (if failure.retrying then .queued else .failed)
  rw [hcell] at hslot
  refine h.of_agrees ?_ (setCellStatus_columns _ _ _ _) ?_
  · intro run' hrun'
    dsimp only [writeCellRunFailure] at hrun'
    obtain ⟨old, hold, rfl⟩ := (Table.mem_modify _).mp hrun'
    refine ⟨old, hold, ?_⟩
    split <;> rfl
  · cases hretrying : failure.retrying with
    | true =>
      rw [hretrying] at hjob hslot
      refine h.agrees.assign (i := run.id) (s := (input.rowId, input.columnId)) .queued
        (Or.inr ⟨.running, hactive⟩) ?_ ?_
      · intro id
        refine Eq.trans ?_ ((hjob id).trans ?_)
        · simp only [Database.board, writeCellRunFailure, hretrying]
        · split
          · exact congrArg some (Prod.ext (Prod.ext hrow hcolumn) rfl)
          · rfl
      · intro key
        refine Eq.trans ?_ (hslot key)
        simp only [Database.board, writeCellRunFailure, hretrying]
    | false =>
      rw [hretrying] at hjob hslot
      refine h.agrees.finish (fun id => id = run.id) ?_ ?_ ?_ ?_
      · intro id hsame
        refine Eq.trans ?_ ((hjob id).trans ?_)
        · simp only [Database.board, writeCellRunFailure, hretrying]
        · rw [if_pos hsame, hsame, hactive, Option.map_some]
          exact congrArg some (Prod.ext (Prod.ext hrow hcolumn) rfl)
      · intro id hother
        refine Eq.trans ?_ ((hjob id).trans (if_neg hother))
        simp only [Database.board, writeCellRunFailure, hretrying]
      · intro key hany
        obtain ⟨id, phase, hsame, hkey⟩ := hany
        rw [hsame, hactive, Option.some.injEq, Prod.mk.injEq] at hkey
        refine Eq.trans ?_ ((hslot key).trans (if_pos hkey.1.symm))
        simp only [Database.board, writeCellRunFailure, hretrying]
      · intro key hnone
        refine Eq.trans ?_ ((hslot key).trans (if_neg ?_))
        · simp only [Database.board, writeCellRunFailure, hretrying]
        · intro hkey
          exact hnone run.id .running rfl (hkey ▸ hactive)

end Report

end ByokGrid
