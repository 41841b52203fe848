import ByokGrid.CellRunLedger

/-! Cell runs over whole sequences of transactions, when every failure is reported
of a run that is still running. -/

namespace ByokGrid

def CellRunStatus.cell : CellRunStatus → CellStatus
  | .queued => .queued
  | .running => .running
  | .succeeded => .succeeded
  | .failed => .failed
  | .cancelled => .cancelled

section Agreement

variable {ν : Type}

structure CellRunAgreement (db : Database ν) : Prop where
  unique : ∀ run ∈ db.cellRuns, ∀ other ∈ db.cellRuns, run.status.active = true → other.status.active = true →
    run.rowId = other.rowId → run.columnId = other.columnId → run = other
  shown : ∀ run ∈ db.cellRuns, run.status.active = true →
    ∃ cell, db.grid.cells run.rowId run.columnId = some cell ∧ cell.status = run.status.cell
  taken : ∀ rowId columnId cell, db.grid.cells rowId columnId = some cell → cell.status.active = true →
    ∃ run ∈ db.cellRuns, run.rowId = rowId ∧ run.columnId = columnId ∧ run.status.active = true ∧
      run.status.cell = cell.status

theorem cell_eq_of_phase {status : CellRunStatus} {cell : CellStatus} (h : cell.phase = status.phase)
    (hactive : status.active = true) : cell = status.cell := by
  cases status with
  | queued => cases cell <;> first | rfl | cases h
  | running => cases cell <;> first | rfl | cases h
  | succeeded => cases hactive
  | failed => cases hactive
  | cancelled => cases hactive

theorem CellRunInvariant.agreement {db : Database ν} (h : CellRunInvariant db) : CellRunAgreement db := by
  have hjob : ∀ run ∈ db.cellRuns, run.status.active = true →
      ∃ phase, db.board.job run.id = some ((run.rowId, run.columnId), some phase) := by
    intro run hrun hactive
    obtain ⟨phase, hphase⟩ := Option.isSome_iff_exists.mp (CellRunStatus.phase_isSome.trans hactive)
    exact ⟨phase, by rw [board_job_of_mem hrun, CellRun.job, hphase]⟩
  refine ⟨?_, ?_, ?_⟩
  · intro run hrun other hother hactive hactive' hrow hcolumn
    obtain ⟨phase, hphase⟩ := hjob run hrun hactive
    obtain ⟨phase', hphase'⟩ := hjob other hother hactive'
    rw [hrow, hcolumn] at hphase
    exact Table.eq_of_key hrun hother (h.agrees.unique _ _ _ _ _ hphase hphase')
  · intro run hrun hactive
    obtain ⟨cell, hcell, hphase⟩ := h.exists_cell hrun hactive
    exact ⟨cell, hcell, cell_eq_of_phase hphase hactive⟩
  · intro rowId columnId cell hcell hactive
    obtain ⟨phase, hphase⟩ := Option.isSome_iff_exists.mp (CellStatus.phase_isSome.trans hactive)
    have hslot : db.board.slot (rowId, columnId) = some phase := by
      rw [← hphase]
      simp only [Database.board, Grid.cellPhase, hcell, Option.bind_some]
    obtain ⟨id, hid⟩ := (h.agrees.slot_iff _ _).mp hslot
    obtain ⟨run, hrun, _, hrow, hcolumn, hstatus⟩ := exists_run_of_job hid
    have hrunning : run.status.active = true := by
      rw [← CellRunStatus.phase_isSome, hstatus]
      rfl
    exact ⟨run, hrun, hrow, hcolumn, hrunning, (cell_eq_of_phase (hphase.trans hstatus.symm) hrunning).symm⟩

structure FreshRuns (db : Database ν) : Prop where
  runs : db.cellRuns.records = []
  cells : ∀ rowId columnId cell, db.grid.cells rowId columnId = some cell → cell.status.active = false

theorem FreshRuns.invariant {db : Database ν} (h : FreshRuns db) : CellRunInvariant db := by
  have hjob : ∀ id, db.board.job id = none := by
    intro id
    simp only [Database.board, Table.get?, h.runs, List.find?_nil, Option.map_none]
  have hslot : ∀ key, db.board.slot key = none := by
    intro key
    simp only [Database.board, Grid.cellPhase]
    cases hcell : db.grid.cells key.1 key.2 with
    | none => rfl
    | some cell =>
      have hinactive := h.cells _ _ cell hcell
      rw [← CellStatus.phase_isSome, Option.isSome_eq_false_iff, Option.isNone_iff_eq_none] at hinactive
      exact hinactive
  refine ⟨⟨?_, ?_⟩, ?_⟩
  · intro i j s p q hi
    rw [hjob] at hi
    cases hi
  · intro s p
    rw [hslot]
    constructor
    · intro hnone
      cases hnone
    · intro hany
      obtain ⟨i, hi⟩ := hany
      rw [hjob] at hi
      cases hi
  · intro run hrun
    rw [Table.mem_def, h.runs] at hrun
    cases hrun

end Agreement

section Reports

variable {ν : Type}

def ReportsRunning (db : Database ν) (input : CellRunInput) : Prop :=
  ∃ run, db.runInScope input = some run ∧ run.status = .running

/-- The report is what the store already holds: no run of its scope is active, or
the run is queued with the same error, and the cell has the reported status. -/
structure ReportRepeats (db : Database ν) (input : CellRunInput) (failure : CellRunFailure) : Prop where
  run : ∀ run, db.runInScope input = some run → run.status.active = true →
    run.status = .queued ∧ failure.retrying = true ∧
      run.errorCode = some (safeRunError failure.errorCode 80) ∧
      run.errorMessage = some (safeRunError failure.errorMessage 500) ∧ run.finishedAt = none
  cell : ∀ cell, db.grid.cells input.rowId input.columnId = some cell →
    cell.status = if failure.retrying then .queued else .failed

def TimelyReport (db : Database ν) : CellRunAction ν → Prop
  | .fail input failure _ => ReportsRunning db input ∨ ReportRepeats db input failure
  | _ => True

def CellRunAction.reported : CellRunAction ν → Option CellRunInput
  | .succeed input _ _ | .fail input _ _ => some input
  | _ => none

theorem ReportRepeats.setCellStatus {db : Database ν} {input : CellRunInput} {failure : CellRunFailure}
    (h : ReportRepeats db input failure) : db.grid.setCellStatus input.rowId input.columnId
      (if failure.retrying then .queued else .failed) = db.grid := by
  unfold Grid.setCellStatus
  split
  · rfl
  · rename_i cell hcell
    have hsame : ({ cell with status := if failure.retrying then .queued else .failed } : Cell ν) = cell := by
      rw [← h.cell cell hcell]
    rw [hsame]
    have hcells : (fun r c => if r = input.rowId ∧ c = input.columnId then some cell else db.grid.cells r c) =
        db.grid.cells := by
      funext r c
      split
      · rename_i hrc
        rw [hrc.1, hrc.2, hcell]
      · rfl
    rw [Grid.setCell, hcells]

theorem ReportRepeats.unchanged {db : Database ν} {input : CellRunInput} {failure : CellRunFailure}
    (h : ReportRepeats db input failure) (stamp : MutationStamp) :
    setSqliteCellRunFailure db input failure stamp = .ok db := by
  have hruns : db.cellRuns.modify (fun run => runScope input run && run.status.active)
      (fun run => failCellRun stamp.now run (safeRunError failure.errorCode 80)
        (safeRunError failure.errorMessage 500) failure.retrying) ⟨fun _ => rfl⟩ = db.cellRuns := by
    refine Table.modify_eq_self _ fun run hrun hchecks => ?_
    obtain ⟨hscope, hactive⟩ := Bool.and_eq_true_iff.mp hchecks
    obtain ⟨hstatus, hretrying, hcode, hmessage, hfinished⟩ :=
      h.run run (runInScope_eq_some.mpr ⟨hrun, hscope⟩) hactive
    simp only [failCellRun, hretrying, if_true, ← hstatus, ← hcode, ← hmessage, ← hfinished]
  have hwritten : writeCellRunFailure db input failure stamp.now = db := by
    rw [writeCellRunFailure, hruns, h.setCellStatus]
  have hnone : (!failure.retrying && db.cellRuns.records.any fun run => runScope input run && run.status.active) =
      false := by
    cases hretrying : failure.retrying with
    | true => rfl
    | false =>
      rw [Bool.not_false, Bool.true_and, ← Bool.not_eq_true, runInScope_any]
      intro hany
      obtain ⟨run, hrun, hactive⟩ := hany
      have hretry := (h.run run hrun hactive).2.1
      rw [hretrying] at hretry
      cases hretry
  unfold setSqliteCellRunFailure
  rw [hwritten]
  dsimp only
  split
  · rw [hnone]
    rfl
  · rfl

structure ReportIgnored (before after : Database ν) (input : CellRunInput) : Prop where
  run : after.cellRuns.get? input.runId = before.cellRuns.get? input.runId
  cell : after.grid.cells input.rowId input.columnId = before.grid.cells input.rowId input.columnId

theorem reportRepeats_of_ignored {db db' : Database ν} {input : CellRunInput} {failure : CellRunFailure}
    {stamp : MutationStamp} (hlate : ¬ ReportsRunning db input)
    (hok : setSqliteCellRunFailure db input failure stamp = .ok db')
    (hignored : ReportIgnored db db' input) : ReportRepeats db input failure := by
  obtain ⟨hruns, hcell⟩ := hignored
  obtain ⟨hwrittenRuns, hwrittenCells⟩ : db'.cellRuns = (writeCellRunFailure db input failure stamp.now).cellRuns ∧
      db'.grid.cells = (writeCellRunFailure db input failure stamp.now).grid.cells := by
    rcases setFailure_eq_ok hok with hdb | ⟨_, _, _, _, hrecord⟩
    · rw [hdb]
      exact ⟨rfl, rfl⟩
    · rw [record_eq_ok hrecord]
      exact ⟨rfl, rfl⟩
  refine ⟨?_, ?_⟩
  · intro run hscope hactive
    obtain ⟨hrun, hmatch⟩ := runInScope_eq_some.mp hscope
    have hget : db.cellRuns.get? input.runId = some run :=
      Table.get?_eq_some.mpr ⟨hrun, (runScope_iff.mp hmatch).1⟩
    have hsame : failCellRun stamp.now run (safeRunError failure.errorCode 80) (safeRunError failure.errorMessage 500)
        failure.retrying = run := by
      rw [hwrittenRuns, writeCellRunFailure, Table.get?_modify, hget, Option.map_some, hmatch, hactive] at hruns
      exact Option.some.inj hruns
    have hqueued : run.status = .queued := by
      cases hstatus : run.status with
      | queued => rfl
      | running => exact absurd ⟨run, hscope, hstatus⟩ hlate
      | _ =>
        rw [hstatus] at hactive
        cases hactive
    have hretrying : failure.retrying = true := by
      have hstatus := congrArg CellRun.status hsame
      rw [hqueued] at hstatus
      cases hflag : failure.retrying with
      | true => rfl
      | false =>
        rw [hflag] at hstatus
        cases hstatus
    rw [hretrying] at hsame
    exact ⟨hqueued, hretrying, (congrArg CellRun.errorCode hsame).symm, (congrArg CellRun.errorMessage hsame).symm,
      (congrArg CellRun.finishedAt hsame).symm⟩
  · intro cell hcellBefore
    rw [hwrittenCells, writeCellRunFailure, Grid.setCellStatus, hcellBefore] at hcell
    dsimp only at hcell
    rw [Grid.setCell_self, Option.some.injEq] at hcell
    exact (congrArg Cell.status hcell).symm

end Reports

section Runs

variable {ν : Type}

def Endures (db db' : Database ν) : Prop :=
  ∀ run ∈ db.cellRuns, run.status.active = false → run ∈ db'.cellRuns

theorem Endures.trans {a b c : Database ν} (hab : Endures a b) (hbc : Endures b c) : Endures a c :=
  fun run hrun hended => hbc run (hab run hrun hended) hended

theorem endures_refl (db : Database ν) : Endures db db := fun _ hrun _ => hrun

theorem endures_of_eq {db db' : Database ν} (h : db'.cellRuns = db.cellRuns) : Endures db db' := by
  intro run hrun _
  rw [h]
  exact hrun

theorem endures_modify {db db' : Database ν} {p : CellRun ν → Bool} {f : CellRun ν → CellRun ν} (hf : KeepsKey f)
    (h : db'.cellRuns = db.cellRuns.modify p f hf) (hp : ∀ run ∈ db.cellRuns, p run = true → run.status.active = true) :
    Endures db db' := by
  intro run hrun hended
  rw [h]
  refine (Table.mem_modify hf).mpr ⟨run, hrun, ?_⟩
  rw [if_neg]
  intro hmatch
  rw [hp run hrun hmatch] at hended
  cases hended

theorem Queues.endures {db db' : Database ν} (h : Queues db db') : Endures db db' := by
  induction h with
  | refl => exact endures_refl _
  | tail _ hstep ih =>
    refine ih.trans ?_
    rcases hstep with ⟨columnId, rowId, runId, hqueued⟩ | hframe
    · intro run hrun _
      obtain ⟨_, _, _, _, _, hinsert⟩ := hqueued.run
      exact (Table.mem_insert hinsert).mpr (Or.inl hrun)
    · rw [hframe]
      exact endures_of_eq rfl

theorem record_cellRuns {db db' : Database ν} {input : RowMutation} {stamp : MutationStamp}
    (h : recordSqliteRowMutationAndMaybeQueueSettlement db input stamp = .ok db') : db'.cellRuns = db.cellRuns := by
  rw [record_eq_ok h]

theorem mark_endures {db db' : Database ν} {input : CellRunInput} {now : Int} {start : CellRunStart}
    (h : markSqliteCellRunRunning db input now = .ok (start, db')) : Endures db db' := by
  rcases mark_eq_ok h with rfl | ⟨run, hscope, hqueued, hdb⟩
  · exact endures_refl _
  refine endures_modify ?_ (congrArg Database.cellRuns hdb) ?_
  · exact ⟨fun _ => rfl⟩
  intro other hother hsame
  have hrun := (runInScope_eq_some.mp hscope).1
  have heq : other = run := Table.eq_of_key hother hrun (of_decide_eq_true hsame)
  rw [heq, hqueued]
  rfl

theorem cancel_endures {db db' : Database ν} {input : CancelBulkRunBatch}
    (h : cancelSqliteBulkRunBatch db input = .ok db') : Endures db db' := by
  rcases cancel_eq_ok h with rfl | ⟨runIds, _, hdb⟩
  · exact endures_refl _
  refine endures_modify ?_ (congrArg Database.cellRuns hdb) ?_
  · exact ⟨fun _ => rfl⟩
  intro run _ hmatch
  exact (Bool.and_eq_true_iff.mp hmatch).2

theorem setFailure_endures {db db' : Database ν} {input : CellRunInput} {failure : CellRunFailure}
    {stamp : MutationStamp} (h : setSqliteCellRunFailure db input failure stamp = .ok db') : Endures db db' := by
  have hwritten : Endures db (writeCellRunFailure db input failure stamp.now) := by
    refine endures_modify _ (by rw [writeCellRunFailure]) ?_
    intro run _ hmatch
    exact (Bool.and_eq_true_iff.mp hmatch).2
  rcases setFailure_eq_ok h with rfl | ⟨_, _, _, _, hrecord⟩
  · exact hwritten
  · exact hwritten.trans (endures_of_eq (record_cellRuns hrecord))

variable [JsRuntime ν]

theorem succeed_endures {db db' : Database ν} {input : CellRunInput} {success : CellRunSuccess ν}
    {stamp : MutationStamp} (h : markSqliteCellRunSucceeded db input success stamp = .ok db') : Endures db db' := by
  obtain ⟨_, _, _, _, _, _, _, _, hrecord⟩ := succeed_eq_ok h
  refine endures_modify ?_ (record_cellRuns hrecord) ?_
  · exact ⟨fun _ => rfl⟩
  intro run _ hmatch
  rw [of_decide_eq_true (Bool.and_eq_true_iff.mp hmatch).2]
  rfl

theorem late_success {db : Database ν} {input : CellRunInput} (hlate : ¬ ReportsRunning db input)
    (success : CellRunSuccess ν) (stamp : MutationStamp) :
    db.commit (markSqliteCellRunSucceeded db input success stamp) = db := by
  cases hok : markSqliteCellRunSucceeded db input success stamp with
  | error _ => rfl
  | ok db' =>
    obtain ⟨_, _, _, _, _, _, hrunning, _, _⟩ := succeed_eq_ok hok
    exact absurd hrunning hlate

variable [ConnectorRuntime ν]

theorem stepCellRun_cases (db : Database ν) (action : CellRunAction ν) :
    Queues db (db.stepCellRun action) ∨
      (∃ input, cancelSqliteBulkRunBatch db input = .ok (db.stepCellRun action)) ∨
      (∃ input now start, markSqliteCellRunRunning db input now = .ok (start, db.stepCellRun action)) ∨
      (∃ input success stamp, markSqliteCellRunSucceeded db input success stamp = .ok (db.stepCellRun action)) ∨
      ∃ input failure stamp, action = .fail input failure stamp ∧
        setSqliteCellRunFailure db input failure stamp = .ok (db.stepCellRun action) := by
  have hrefl : Queues db db := Relation.ReflTransGen.refl
  cases action with
  | queue input =>
    refine Or.inl ?_
    cases hok : queueSqliteEnrichmentCellRunInTransaction db input with
    | error _ => simpa only [Database.stepCellRun, hok, Except.map, Database.commit] using hrefl
    | ok result =>
      simp only [queueSqliteEnrichmentCellRunInTransaction, except_bind_eq_ok] at hok
      obtain ⟨_, hpermission, hqueue⟩ := hok
      simp only [Database.stepCellRun, queueSqliteEnrichmentCellRunInTransaction, hpermission, hqueue, bind,
        Except.bind, Except.map, Database.commit]
      exact (queueConnectorActionRun_eq_ok hqueue).queues
  | queueAutomatic input =>
    refine Or.inl ?_
    cases hok : queueAutomaticSqliteEnrichmentCellRunInTransaction db input with
    | error _ => simpa only [Database.stepCellRun, hok, Except.map, Database.commit] using hrefl
    | ok result =>
      simp only [Database.stepCellRun, hok, Except.map, Database.commit]
      exact (queueConnectorActionRun_eq_ok hok).queues
  | queueWorkflow input =>
    refine Or.inl ?_
    cases hok : queueSqliteWorkflowEnrichmentCellRuns db input with
    | error _ => simpa only [Database.stepCellRun, hok, Except.map, Database.commit] using hrefl
    | ok result =>
      simp only [Database.stepCellRun, hok, Except.map, Database.commit]
      simp only [queueSqliteWorkflowEnrichmentCellRuns, except_bind_eq_ok] at hok
      obtain ⟨_, _, _, _, _, _, hrows⟩ := hok
      exact queueWorkflowRows_queues hrows
  | createBatch input =>
    refine Or.inl ?_
    cases hok : createSqliteBulkRunBatch db input with
    | error _ => simpa only [Database.stepCellRun, hok, Database.commit] using hrefl
    | ok next =>
      simp only [Database.stepCellRun, hok, Database.commit]
      exact createSqliteBulkRunBatch_queues hok
  | expandBatch input =>
    refine Or.inl ?_
    cases hok : expandSqliteBulkRunBatchChunk db input with
    | error _ => simpa only [Database.stepCellRun, hok, Except.map, Database.commit] using hrefl
    | ok result =>
      simp only [Database.stepCellRun, hok, Except.map, Database.commit]
      exact expandSqliteBulkRunBatchChunk_queues hok
  | cancelBatch input =>
    cases hok : cancelSqliteBulkRunBatch db input with
    | error _ => exact Or.inl (by simpa only [Database.stepCellRun, hok, Database.commit] using hrefl)
    | ok next => exact Or.inr (Or.inl ⟨input, by rw [Database.stepCellRun, hok]; rfl⟩)
  | mark input now =>
    cases hok : markSqliteCellRunRunning db input now with
    | error _ => exact Or.inl (by simpa only [Database.stepCellRun, hok, Except.map, Database.commit] using hrefl)
    | ok result => exact Or.inr (Or.inr (Or.inl ⟨input, now, result.1, by rw [Database.stepCellRun, hok]; rfl⟩))
  | succeed input success stamp =>
    cases hok : markSqliteCellRunSucceeded db input success stamp with
    | error _ => exact Or.inl (by simpa only [Database.stepCellRun, hok, Database.commit] using hrefl)
    | ok next =>
      exact Or.inr (Or.inr (Or.inr (Or.inl ⟨input, success, stamp, by rw [Database.stepCellRun, hok]; rfl⟩)))
  | fail input failure stamp =>
    cases hok : setSqliteCellRunFailure db input failure stamp with
    | error _ => exact Or.inl (by simpa only [Database.stepCellRun, hok, Database.commit] using hrefl)
    | ok next =>
      exact Or.inr (Or.inr (Or.inr (Or.inr ⟨input, failure, stamp, rfl, by rw [Database.stepCellRun, hok]; rfl⟩)))

theorem stepCellRun_endures (db : Database ν) (action : CellRunAction ν) : Endures db (db.stepCellRun action) := by
  rcases stepCellRun_cases db action with hqueues | ⟨_, hcancel⟩ | ⟨_, _, _, hmark⟩ | ⟨_, _, _, hsucceed⟩ |
    ⟨_, _, _, _, hfail⟩
  · exact hqueues.endures
  · exact cancel_endures hcancel
  · exact mark_endures hmark
  · exact succeed_endures hsucceed
  · exact setFailure_endures hfail

theorem CellRunInvariant.step {db : Database ν} (h : CellRunInvariant db) {action : CellRunAction ν}
    (htimely : TimelyReport db action) : CellRunInvariant (db.stepCellRun action) := by
  rcases stepCellRun_cases db action with hqueues | ⟨_, hcancel⟩ | ⟨_, _, _, hmark⟩ | ⟨_, _, _, hsucceed⟩ |
    ⟨input, failure, stamp, rfl, hfail⟩
  · exact h.queues hqueues
  · exact h.cancel hcancel
  · exact h.mark hmark
  · exact h.succeed hsucceed
  · rcases htimely with ⟨run, hscope, hrunning⟩ | hrepeats
    · rcases setFailure_eq_ok hfail with hdb | ⟨_, _, _, _, hrecord⟩
      · rw [hdb]
        exact h.writeFailure hscope hrunning
      · exact (h.writeFailure hscope hrunning).record hrecord
    · rw [hrepeats.unchanged stamp, Except.ok.injEq] at hfail
      rw [← hfail]
      exact h

theorem late_report {db : Database ν} {action : CellRunAction ν} {input : CellRunInput}
    (hreported : action.reported = some input) (hlate : ¬ ReportsRunning db input)
    (htimely : TimelyReport db action) : db.stepCellRun action = db := by
  cases action with
  | succeed other success stamp =>
    cases hreported
    exact late_success hlate success stamp
  | fail other failure stamp =>
    cases hreported
    have hrepeats := htimely.resolve_left hlate
    rw [Database.stepCellRun, hrepeats.unchanged stamp]
    rfl
  | _ => cases hreported

end Runs

end ByokGrid
