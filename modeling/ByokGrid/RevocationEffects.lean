import ByokGrid.RevocationGates

/-! What a transaction does to the runs, the columns, the revocations and the credentials: which columns and runs it
adds, and that it moves a run of nobody else than to cancel it. -/

namespace ByokGrid

section Standing

variable {ν : Type}

def CellRunStatus.Settles (before after : CellRunStatus) : Prop :=
  after = before ∨ before.active = true ∧ after = .cancelled

theorem CellRunStatus.Settles.trans {a b c : CellRunStatus} (hab : a.Settles b) (hbc : b.Settles c) : a.Settles c := by
  obtain rfl | ⟨hactive, rfl⟩ := hab
  · exact hbc
  · obtain rfl | ⟨hcancelled, _⟩ := hbc
    · exact Or.inr ⟨hactive, rfl⟩
    · cases hcancelled

def RunsSettle (touched : Option String) (db db' : Database ν) : Prop :=
  ∀ input run, some input.runId ≠ touched → db.runInScope input = some run →
    ∃ run', db'.runInScope input = some run' ∧ run.status.Settles run'.status

theorem RunsSettle.trans {touched : Option String} {a b c : Database ν} (hab : RunsSettle touched a b)
    (hbc : RunsSettle touched b c) : RunsSettle touched a c := by
  intro input run htouched hrun
  obtain ⟨middle, hmiddle, hfirst⟩ := hab input run htouched hrun
  obtain ⟨last, hlast, hsecond⟩ := hbc input middle htouched hmiddle
  exact ⟨last, hlast, hfirst.trans hsecond⟩

theorem RunsSettle.of_mem {touched : Option String} {db db' : Database ν} (h : ∀ run ∈ db.cellRuns, run ∈ db'.cellRuns) :
    RunsSettle touched db db' := by
  intro input run _ hrun
  obtain ⟨hmem, hscope⟩ := runInScope_eq_some.mp hrun
  exact ⟨run, runInScope_eq_some.mpr ⟨h run hmem, hscope⟩, Or.inl rfl⟩

structure RunsStand (touched : Option String) (db db' : Database ν) : Prop where
  settles : RunsSettle touched db db'
  old : ∀ run ∈ db'.cellRuns, ∃ run' ∈ db.cellRuns, run'.id = run.id

theorem RunsStand.of_eq {touched : Option String} {db db' : Database ν} (h : db'.cellRuns = db.cellRuns) :
    RunsStand touched db db' where
  settles := RunsSettle.of_mem fun _ hrun => h ▸ hrun
  old run hrun := ⟨run, h ▸ hrun, rfl⟩

theorem RunsStand.trans {touched : Option String} {a b c : Database ν} (hab : RunsStand touched a b)
    (hbc : RunsStand touched b c) : RunsStand touched a c where
  settles := hab.settles.trans hbc.settles
  old run hrun := by
    obtain ⟨middle, hmiddle, hid⟩ := hbc.old run hrun
    obtain ⟨first, hfirst, hid'⟩ := hab.old middle hmiddle
    exact ⟨first, hfirst, hid'.trans hid⟩

theorem runInScope_modify {db db' : Database ν} {p : CellRun ν → Bool} {f : CellRun ν → CellRun ν} (hf : KeepsKey f)
    (h : db'.cellRuns = db.cellRuns.modify p f hf) {input : CellRunInput}
    (hscope : ∀ run, runScope input (f run) = runScope input run) {run : CellRun ν}
    (hrun : db.runInScope input = some run) : db'.runInScope input = some (if p run then f run else run) := by
  obtain ⟨hmem, hin⟩ := runInScope_eq_some.mp hrun
  refine runInScope_eq_some.mpr ⟨?_, ?_⟩
  · rw [h]
    exact (Table.mem_modify hf).mpr ⟨run, hmem, rfl⟩
  · split
    · rw [hscope, hin]
    · exact hin

theorem RunsStand.modify {touched : Option String} {db db' : Database ν} {p : CellRun ν → Bool}
    {f : CellRun ν → CellRun ν} (hf : KeepsKey f) (h : db'.cellRuns = db.cellRuns.modify p f hf)
    (hscope : ∀ input run, runScope input (f run) = runScope input run)
    (hsettles : ∀ run ∈ db.cellRuns, some run.id ≠ touched → p run = true → run.status.Settles (f run).status) :
    RunsStand touched db db' where
  settles input run htouched hrun := by
    refine ⟨_, runInScope_modify hf h (hscope input) hrun, ?_⟩
    obtain ⟨hmem, hin⟩ := runInScope_eq_some.mp hrun
    by_cases hp : p run = true
    · rw [if_pos hp]
      have hid : run.id = input.runId := (runScope_iff.mp hin).1
      exact hsettles run hmem (hid ▸ htouched) hp
    · rw [if_neg hp]
      exact Or.inl rfl
  old run hrun := by
    rw [h] at hrun
    obtain ⟨run', hmem, rfl⟩ := (Table.mem_modify hf).mp hrun
    refine ⟨run', hmem, ?_⟩
    split
    · exact (hf.key run').symm
    · rfl

end Standing

section Leaves

variable {ν : Type}

structure Leaves (db db' : Database ν) : Prop where
  columns : db'.grid.columns = db.grid.columns
  connectorRevocations : db'.connectorRevocations = db.connectorRevocations
  credentials : db'.credentials = db.credentials

theorem Leaves.refl (db : Database ν) : Leaves db db := ⟨rfl, rfl, rfl⟩

theorem Leaves.trans {a b c : Database ν} (hab : Leaves a b) (hbc : Leaves b c) : Leaves a c where
  columns := hbc.columns.trans hab.columns
  connectorRevocations := hbc.connectorRevocations.trans hab.connectorRevocations
  credentials := hbc.credentials.trans hab.credentials

theorem Leaves.revoked {db db' : Database ν} (h : Leaves db db') (identity : ConnectorExecutionIdentity) :
    ConnectorRevoked db' identity = ConnectorRevoked db identity := by
  rw [ConnectorRevoked, getActiveSqliteConnectorRevocations, h.connectorRevocations]
  rfl

theorem Leaves.insertCellRun {db db' : Database ν} {input : QueueCellRun} {run : CellRun ν} {output : CellRunInput}
    (h : insertCellRun db input run = .ok (output, db')) :
    Leaves db db' ∧ db.cellRuns.insert run = some db'.cellRuns := by
  simp only [ByokGrid.insertCellRun, except_bind_eq_ok, requireSome_eq_ok] at h
  obtain ⟨grid, hgrid, runs, hruns, h⟩ := h
  obtain ⟨_, cell, _, hset⟩ := prepareTargetCell_eq_ok hgrid
  have hcolumns : grid.columns = db.grid.columns := by
    rw [hset]
    rfl
  split at h
  · simp only [except_bind_eq_ok, pure, Except.pure, Except.ok.injEq, Prod.mk.injEq] at h
    obtain ⟨_, _, _, rfl⟩ := h
    exact ⟨⟨hcolumns, rfl, rfl⟩, hruns⟩
  · cases h
    exact ⟨⟨hcolumns, rfl, rfl⟩, hruns⟩

theorem setCellStatus_leaves (grid : Grid ν) (rowId columnId : String) (status : CellStatus) :
    (grid.setCellStatus rowId columnId status).columns = grid.columns := by
  unfold Grid.setCellStatus
  split <;> rfl

theorem record_leaves {db db' : Database ν} {input : RowMutation} {stamp : MutationStamp}
    (h : recordSqliteRowMutationAndMaybeQueueSettlement db input stamp = .ok db') : Leaves db db' := by
  rw [record_eq_ok h]
  exact ⟨rfl, rfl, rfl⟩

theorem cancel_leaves {db db' : Database ν} {input : CancelBulkRunBatch}
    (h : cancelSqliteBulkRunBatch db input = .ok db') : Leaves db db' ∧ RunsStand none db db' := by
  rcases cancel_eq_ok h with rfl | ⟨runIds, _, hdb⟩
  · exact ⟨Leaves.refl _, RunsStand.of_eq rfl⟩
  · rw [hdb]
    refine ⟨⟨rfl, rfl, rfl⟩, RunsStand.modify (f := cancelCellRun input.now) ⟨fun _ => rfl⟩ rfl (fun _ _ => rfl) ?_⟩
    intro run _ _ hcancels
    exact Or.inr ⟨(Bool.and_eq_true_iff.mp hcancels).2, rfl⟩

theorem mark_ready {db db' : Database ν} {input : CellRunInput} {now : Int}
    (h : markSqliteCellRunRunning db input now = .ok (.ready, db')) :
    Leaves db db' ∧ RunsStand (some input.runId) db db' ∧
      ∃ run, db.runInScope input = some run ∧ run.status = .queued ∧ db'.runInScope input = some (startCellRun now run) := by
  simp only [markSqliteCellRunRunning, except_bind_eq_ok, requireSome_eq_ok] at h
  obtain ⟨run, hrun, h⟩ := h
  split at h
  · cases h
  · cases h
  · cases h
  · cases h
  · rename_i hstatus
    cases h
    have hid : run.id = input.runId := (runScope_iff.mp (runInScope_eq_some.mp hrun).2).1
    refine ⟨⟨setCellStatus_leaves _ _ _ _, rfl, rfl⟩, RunsStand.modify (f := startCellRun now) ⟨fun _ => rfl⟩ rfl
      (fun _ _ => rfl) ?_, run, hrun, hstatus, ?_⟩
    · intro other _ htouched hsame
      exact absurd (congrArg some ((of_decide_eq_true hsame).trans hid)) htouched
    · refine (runInScope_modify (f := startCellRun now) ⟨fun _ => rfl⟩ rfl (fun _ => rfl) hrun).trans ?_
      rw [if_pos (decide_eq_true rfl)]

def failureOf (failure : CellRunFailure) (now : Int) (run : CellRun ν) : CellRun ν :=
  failCellRun now run (safeRunError failure.errorCode 80) (safeRunError failure.errorMessage 500) failure.retrying

theorem writeFailure_leaves (db : Database ν) (input : CellRunInput) (failure : CellRunFailure) (now : Int) :
    Leaves db (writeCellRunFailure db input failure now) ∧
      RunsStand (some input.runId) db (writeCellRunFailure db input failure now) := by
  refine ⟨⟨setCellStatus_leaves _ _ _ _, rfl, rfl⟩, RunsStand.modify (f := failureOf failure now) ⟨fun _ => rfl⟩ rfl
    (fun _ _ => rfl) ?_⟩
  intro run _ htouched hmatch
  exact absurd (congrArg some (runScope_iff.mp (Bool.and_eq_true_iff.mp hmatch).1).1) htouched

theorem setFailure_leaves {db db' : Database ν} {input : CellRunInput} {failure : CellRunFailure} {stamp : MutationStamp}
    (h : setSqliteCellRunFailure db input failure stamp = .ok db') :
    Leaves db db' ∧ RunsStand (some input.runId) db db' ∧ ∀ run, db.runInScope input = some run →
      ∃ run', db'.runInScope input = some run' ∧
        run'.status = if run.status.active then (if failure.retrying then .queued else .failed) else run.status := by
  obtain ⟨hleaves, hstand⟩ := writeFailure_leaves db input failure stamp.now
  have hwritten : ∀ run, db.runInScope input = some run →
      ∃ run', (writeCellRunFailure db input failure stamp.now).runInScope input = some run' ∧
        run'.status = if run.status.active then (if failure.retrying then .queued else .failed) else run.status := by
    intro run hrun
    refine ⟨_, runInScope_modify (f := failureOf failure stamp.now) ⟨fun _ => rfl⟩ rfl (fun _ => rfl) hrun, ?_⟩
    rw [(runInScope_eq_some.mp hrun).2, Bool.true_and]
    split <;> rfl
  rcases setFailure_eq_ok h with rfl | ⟨_, _, _, _, hrecord⟩
  · exact ⟨hleaves, hstand, hwritten⟩
  · have hruns := record_cellRuns hrecord
    refine ⟨hleaves.trans (record_leaves hrecord), hstand.trans (RunsStand.of_eq hruns), fun run hrun => ?_⟩
    obtain ⟨run', hrun', hstatus⟩ := hwritten run hrun
    refine ⟨run', ?_, hstatus⟩
    rw [Database.runInScope, hruns]
    exact hrun'

theorem succeed_leaves [JsRuntime ν] {db db' : Database ν} {input : CellRunInput} {success : CellRunSuccess ν}
    {stamp : MutationStamp} (h : markSqliteCellRunSucceeded db input success stamp = .ok db') :
    Leaves db db' ∧ RunsStand (some input.runId) db db' ∧
      ∃ run', db'.runInScope input = some run' ∧ run'.status = .succeeded := by
  obtain ⟨cell, row, returned, grid, _, _, ⟨run, hrun, hrunning⟩, hrecompute, hrecord⟩ := succeed_eq_ok h
  have hgrid : grid.columns = db.grid.columns := by
    rw [(recomputeFormulas_frame hrecompute).cellsOnly]
    rfl
  have hruns := record_cellRuns hrecord
  have hrecorded := record_leaves hrecord
  refine ⟨⟨hrecorded.columns.trans hgrid, hrecorded.connectorRevocations, hrecorded.credentials⟩, ?_, ?_⟩
  · refine RunsStand.modify (f := fun run => succeedCellRun stamp.now run success.output) ⟨fun _ => rfl⟩ hruns
      (fun _ _ => rfl) ?_
    intro run _ htouched hmatch
    exact absurd (congrArg some (runScope_iff.mp (Bool.and_eq_true_iff.mp hmatch).1).1) htouched
  · refine ⟨_, runInScope_modify (f := fun run => succeedCellRun stamp.now run success.output) ⟨fun _ => rfl⟩ hruns
      (fun _ => rfl) hrun, ?_⟩
    rw [(runInScope_eq_some.mp hrun).2, hrunning, Bool.true_and, if_pos (decide_eq_true rfl)]
    rfl

end Leaves

/-- A run of the column executes the built-in connector for HTTP, whatever its own configuration names. -/
def Grid.columnExecutesHttp {ν : Type} (grid : Grid ν) (columnId : String) : Bool :=
  (grid.columns.get? columnId).any fun column =>
    match column.configuration with
    | .connectorAction configuration => configuration.connectorId = "http_waterfall"
    | .httpEnrichment _ => true
    | .httpWaterfall _ => true
    | .plain => false
    | .formula _ => false

section Admits

variable {ν : Type}

def AvoidsHttp (db : Database ν) (columnId : String) : Prop :=
  ConnectorRevoked db httpIdentity = true → db.grid.columnExecutesHttp columnId = false

structure Admits (db db' : Database ν) : Prop where
  leaves : Leaves db db'
  runs : ∀ run ∈ db'.cellRuns, run ∈ db.cellRuns ∨ ConnectorRevoked db run.executed = false

theorem Admits.of_eq {db db' : Database ν} (hleaves : Leaves db db') (h : db'.cellRuns = db.cellRuns) : Admits db db' where
  leaves := hleaves
  runs _ hrun := Or.inl (h ▸ hrun)

theorem Admits.trans {a b c : Database ν} (hab : Admits a b) (hbc : Admits b c) : Admits a c where
  leaves := hab.leaves.trans hbc.leaves
  runs run hrun := by
    obtain hold | hallowed := hbc.runs run hrun
    · exact hab.runs run hold
    · exact Or.inr (hab.leaves.revoked _ ▸ hallowed)

theorem AvoidsHttp.admits {a b : Database ν} (hab : Admits a b) {columnId : String} (h : AvoidsHttp a columnId) :
    AvoidsHttp b columnId := by
  intro hrevoked
  rw [Grid.columnExecutesHttp, hab.leaves.columns]
  rw [hab.leaves.revoked] at hrevoked
  exact h hrevoked

theorem insertCellRun_admits {db db' : Database ν} {input : QueueCellRun} {run : CellRun ν} {output : CellRunInput}
    (h : insertCellRun db input run = .ok (output, db')) (hallowed : ConnectorRevoked db run.executed = false) :
    Admits db db' := by
  obtain ⟨hleaves, hinsert⟩ := Leaves.insertCellRun h
  refine ⟨hleaves, fun other hother => ?_⟩
  obtain hold | rfl := (Table.mem_insert hinsert).mp hother
  · exact Or.inl hold
  · exact Or.inr hallowed

theorem requireAllowed_eq_ok {db : Database ν} {identity : ConnectorExecutionIdentity} {u : Unit} :
    requireSqliteConnectorExecutionAllowed db.connectorRevocations identity = .ok u ↔ ConnectorRevoked db identity = false := by
  rw [requireSqliteConnectorExecutionAllowed, requireThat_eq_ok, Bool.not_eq_true']
  rfl

theorem executed_allowed {db : Database ν} {identity : ConnectorExecutionIdentity}
    (hallowed : ConnectorRevoked db identity = false)
    (hhttp : ConnectorRevoked db httpIdentity = true → identity.connectorId ≠ "http_waterfall") :
    ConnectorRevoked db (executedIdentity identity) = false := by
  unfold executedIdentity
  split
  · rename_i hwaterfall
    by_contra hrevoked
    exact hhttp (Bool.of_not_eq_false hrevoked) hwaterfall
  · exact hallowed

variable [JsRuntime ν] [ConnectorRuntime ν]

theorem queueConnectorActionRun_admits {db db' : Database ν} {input : QueueCellRun} {output : CellRunInput}
    (h : queueConnectorActionRun db input = .ok (output, db')) (havoids : AvoidsHttp db input.columnId) : Admits db db' := by
  simp only [queueConnectorActionRun, except_bind_eq_ok, requireSome_eq_ok] at h
  obtain ⟨configuration, htarget, h⟩ := h
  obtain ⟨column, hfound, rfl⟩ := Option.map_eq_some_iff.mp htarget
  obtain ⟨hget, _⟩ := Option.filter_eq_some_iff.mp hfound
  unfold AvoidsHttp Grid.columnExecutesHttp at havoids
  rw [hget, Option.any_some] at havoids
  -- What executes the connector for HTTP is queued only while that is not revoked.
  have hhttp : ∀ {condition : Bool}, (ConnectorRevoked db httpIdentity = true → condition = false) → condition = true →
      ConnectorRevoked db httpIdentity = false := by
    intro condition hcondition htrue
    by_contra hrevoked
    rw [hcondition (Bool.of_not_eq_false hrevoked)] at htrue
    cases htrue
  split at h
  · rename_i configuration hconfiguration
    rw [hconfiguration] at havoids
    simp only [queueSqliteHttpWaterfallRun, except_bind_eq_ok] at h
    obtain ⟨_, _, _, _, h⟩ := h
    exact insertCellRun_admits h (hhttp havoids rfl)
  · rename_i configuration hconfiguration
    rw [hconfiguration] at havoids
    simp only [queueSqliteHttpRun, except_bind_eq_ok] at h
    obtain ⟨_, _, _, _, h⟩ := h
    exact insertCellRun_admits h (hhttp havoids rfl)
  · rename_i configuration hconfiguration
    rw [hconfiguration] at havoids
    simp only [queueConnectorAction, except_bind_eq_ok, requireAllowed_eq_ok] at h
    obtain ⟨_, hallowed, _, _, _, _, h⟩ := h
    refine insertCellRun_admits h (executed_allowed hallowed fun hrevoked => ?_)
    exact of_decide_eq_false (havoids hrevoked)
  · cases h

theorem queueDependents_admits {settlement : RowSettlement} {stamp : SettlementStamp} {columnIds : List String}
    {db db' : Database ν} (h : queueDependents settlement stamp columnIds db = .ok db')
    (havoids : ∀ columnId ∈ columnIds, AvoidsHttp db columnId) : Admits db db' := by
  induction columnIds generalizing db with
  | nil =>
    cases h
    exact Admits.of_eq (Leaves.refl _) rfl
  | cons columnId columnIds ih =>
    simp only [queueDependents, except_bind_eq_ok] at h
    obtain ⟨⟨output, next⟩, hqueue, hrest⟩ := h
    have hfirst : Admits db next := queueConnectorActionRun_admits hqueue (havoids columnId List.mem_cons_self)
    refine hfirst.trans (ih hrest fun other hother => ?_)
    exact (havoids other (List.mem_cons_of_mem _ hother)).admits hfirst

theorem queueWorkflowRows_admits {input : QueueByWorkflow} {tableId : String} {rows : List WorkflowRowReference}
    {db db' : Database ν} {outputs : List CellRunInput} (h : queueWorkflowRows input tableId rows db = .ok (outputs, db'))
    (havoids : AvoidsHttp db input.columnId) : Admits db db' := by
  induction rows generalizing db outputs with
  | nil =>
    cases h
    exact Admits.of_eq (Leaves.refl _) rfl
  | cons row rows ih =>
    simp only [queueWorkflowRows, except_bind_eq_ok, pure, Except.pure, Except.ok.injEq, Prod.mk.injEq] at h
    obtain ⟨first, hfirst, rest, hrest, _, rfl⟩ := h
    have hstep : Admits db first.2 := by
      unfold queueWorkflowRow at hfirst
      dsimp only at hfirst
      split at hfirst
      · cases hfirst
        exact Admits.of_eq (Leaves.refl _) rfl
      · split at hfirst
        · cases hfirst
          exact Admits.of_eq (Leaves.refl _) rfl
        · simp only [except_bind_eq_ok, pure, Except.pure, Except.ok.injEq] at hfirst
          obtain ⟨queued, hqueued, rfl⟩ := hfirst
          exact queueConnectorActionRun_admits hqueued havoids
    exact hstep.trans (ih hrest (havoids.admits hstep))

theorem expandItem_admits {input : ExpandBulkRunBatch} {batch : BulkRunBatch} {userId : String} {state next : Expansion ν}
    {item : BulkRunItem} (h : expandItem input batch userId state item = .ok next)
    (havoids : AvoidsHttp state.db batch.columnId) : Admits state.db next.db := by
  have hskip : ∀ message, Admits state.db (state.skip batch.id item.rowId message).db :=
    fun _ => Admits.of_eq ⟨rfl, rfl, rfl⟩ rfl
  unfold expandItem at h
  split at h
  · cases h
    exact hskip _
  · split at h
    · rename_i run db hqueue
      cases h
      simp only [queueSqliteEnrichmentCellRunInTransaction, except_bind_eq_ok] at hqueue
      obtain ⟨_, _, hqueue⟩ := hqueue
      exact (queueConnectorActionRun_admits hqueue havoids).trans (Admits.of_eq ⟨rfl, rfl, rfl⟩ rfl)
    · cases h
      exact hskip _
    · cases h
      exact hskip _
    · cases h

theorem expandItems_admits {input : ExpandBulkRunBatch} {batch : BulkRunBatch} {userId : String} {items : List BulkRunItem}
    {state next : Expansion ν} (h : expandItems input batch userId items state = .ok next)
    (havoids : AvoidsHttp state.db batch.columnId) : Admits state.db next.db := by
  induction items generalizing state with
  | nil =>
    cases h
    exact Admits.of_eq (Leaves.refl _) rfl
  | cons item items ih =>
    simp only [expandItems, except_bind_eq_ok] at h
    obtain ⟨middle, hmiddle, hrest⟩ := h
    have hfirst := expandItem_admits hmiddle havoids
    exact hfirst.trans (ih hrest (havoids.admits hfirst))

theorem expandSqliteBulkRunBatchChunk_admits {db db' : Database ν} {input : ExpandBulkRunBatch} {processed : Nat}
    {status : BulkRunBatchStatus} (h : expandSqliteBulkRunBatchChunk db input = .ok (processed, status, db'))
    (havoids : ∀ batch, db.bulkRunBatches.get? input.batchId = some batch → AvoidsHttp db batch.columnId) : Admits db db' := by
  simp only [expandSqliteBulkRunBatchChunk, except_bind_eq_ok, requireSome_eq_ok] at h
  obtain ⟨batch, hbatch, h⟩ := h
  split at h
  · cases h
    exact Admits.of_eq (Leaves.refl _) rfl
  · split at h
    · cases h
      exact Admits.of_eq ⟨rfl, rfl, rfl⟩ rfl
    · simp only [except_bind_eq_ok, pure, Except.pure, Except.ok.injEq, Prod.mk.injEq] at h
      obtain ⟨expanded, hexpanded, _, _, rfl⟩ := h
      have hstarted : Admits db (updateBatch db batch.id (startBatch input.now) (startBatch_keepsKey input.now)) :=
        Admits.of_eq ⟨rfl, rfl, rfl⟩ rfl
      have hitems := expandItems_admits hexpanded ((havoids batch hbatch).admits hstarted)
      exact (hstarted.trans hitems).trans (Admits.of_eq ⟨rfl, rfl, rfl⟩ rfl)

end Admits

section Transactions

variable {ν : Type}

theorem Queues.leaves {db db' : Database ν} (h : Queues db db') : Leaves db db' ∧ RunsSettle none db db' := by
  induction h with
  | refl => exact ⟨Leaves.refl _, RunsSettle.of_mem fun _ hrun => hrun⟩
  | tail _ hstep ih =>
    obtain ⟨hleaves, hsettles⟩ := ih
    rcases hstep with ⟨columnId, rowId, runId, hqueued⟩ | hframe
    · obtain ⟨cell, _, hgrid⟩ := hqueued.cell
      obtain ⟨run, _, _, _, _, hinsert⟩ := hqueued.run
      refine ⟨hleaves.trans ⟨?_, ?_, ?_⟩, hsettles.trans (RunsSettle.of_mem fun run hrun => ?_)⟩
      · rw [hgrid]
        rfl
      · rw [hqueued.frame]
      · rw [hqueued.frame]
      · exact (Table.mem_insert hinsert).mpr (Or.inl hrun)
    · rw [hframe]
      exact ⟨hleaves.trans ⟨rfl, rfl, rfl⟩, hsettles.trans (RunsSettle.of_mem fun _ hrun => hrun)⟩

def StoreAction.usesHttp (db : Database ν) : StoreAction ν → Bool
  | .createActionColumn input => input.configuration.connectorId = "http_waterfall"
  | .createHttpColumn _ => true
  | .createWaterfallColumn _ => true
  | .queue input => db.grid.columnExecutesHttp input.columnId
  | .queueDependents _ _ columnIds => columnIds.any db.grid.columnExecutesHttp
  | .queueWorkflow input => db.grid.columnExecutesHttp input.columnId
  | .expandBatch input => (db.bulkRunBatches.get? input.batchId).any fun batch => db.grid.columnExecutesHttp batch.columnId
  | .createRevocation _ => false
  | .liftRevocation _ _ => false
  | .revokeCredential _ _ => false
  | .createBatch _ => false
  | .cancelBatch _ => false

def StoreAction.AvoidsHttp (db : Database ν) (action : StoreAction ν) : Prop :=
  ConnectorRevoked db httpIdentity = true → action.usesHttp db = false

/-- What a transaction does: runs of others are moved to cancel them only, new columns and runs execute connectors which
are not revoked, and a revocation ends by being lifted only. -/
structure Transacted (db : Database ν) (action : StoreAction ν) (db' : Database ν) : Prop where
  settles : RunsSettle none db db'
  runs : action.AvoidsHttp db → ∀ run ∈ db'.cellRuns,
    (∃ old ∈ db.cellRuns, old.id = run.id) ∨ ConnectorRevoked db run.executed = false
  columns : action.AvoidsHttp db → ∀ column ∈ db'.grid.columns,
    column ∈ db.grid.columns ∨ ∀ identity, column.configuration.executed = some identity → ConnectorRevoked db identity = false
  active : ∀ revocation ∈ getActiveSqliteConnectorRevocations db,
    (∀ input now, action = .liftRevocation input now → revocation.id ≠ input.revocationId) →
      revocation ∈ getActiveSqliteConnectorRevocations db'
  credentials : ∀ credentialId, CredentialRevoked db credentialId = true → CredentialRevoked db' credentialId = true

theorem Leaves.transacted {db db' : Database ν} {action : StoreAction ν} (h : Leaves db db')
    (hsettles : RunsSettle none db db') (hruns : action.AvoidsHttp db → ∀ run ∈ db'.cellRuns,
      (∃ old ∈ db.cellRuns, old.id = run.id) ∨ ConnectorRevoked db run.executed = false) : Transacted db action db' where
  settles := hsettles
  runs := hruns
  columns _ column hcolumn := Or.inl (h.columns ▸ hcolumn)
  active revocation hactive _ := by
    rw [getActiveSqliteConnectorRevocations, h.connectorRevocations]
    exact hactive
  credentials credentialId hrevoked := by
    rw [CredentialRevoked, h.credentials]
    exact hrevoked

theorem Transacted.refl (db : Database ν) (action : StoreAction ν) : Transacted db action db :=
  (Leaves.refl db).transacted (RunsSettle.of_mem fun _ hrun => hrun) fun _ run hrun => Or.inl ⟨run, hrun, rfl⟩

theorem Queues.transacted {db db' : Database ν} {action : StoreAction ν} (h : Queues db db')
    (hadmits : action.AvoidsHttp db → Admits db db') : Transacted db action db' := by
  refine h.leaves.1.transacted h.leaves.2 fun havoids run hrun => ?_
  obtain hold | hallowed := (hadmits havoids).runs run hrun
  · exact Or.inl ⟨run, hold, rfl⟩
  · exact Or.inr hallowed

theorem insertDependentColumn_transacted {db : Database ν} {action : StoreAction ν} {column : Column ν}
    {dependencyIds : List String} {grid : Grid ν} (h : insertDependentColumn db.grid column dependencyIds = .ok grid)
    (hallowed : action.AvoidsHttp db → ∀ identity, column.configuration.executed = some identity →
      ConnectorRevoked db identity = false) : Transacted db action { db with grid := grid } where
  settles := RunsSettle.of_mem fun _ hrun => hrun
  runs _ run hrun := Or.inl ⟨run, hrun, rfl⟩
  columns havoids other hother := by
    simp only [insertDependentColumn, except_bind_eq_ok, pure, Except.pure, Except.ok.injEq] at h
    obtain ⟨created, hcreated, dependencies, _, rfl⟩ := h
    simp only [insertColumn, except_bind_eq_ok, requireSome_eq_ok, pure, Except.pure, Except.ok.injEq] at hcreated
    obtain ⟨_, _, columns, hinsert, rfl⟩ := hcreated
    obtain hold | rfl := (Table.mem_insert hinsert).mp hother
    · exact Or.inl hold
    · exact Or.inr (hallowed havoids)
  active _ hactive _ := hactive
  credentials _ hrevoked := hrevoked

theorem createSqliteHttpColumn_transacted {db : Database ν} {action : StoreAction ν} {input : HttpColumn ν}
    {result : Column ν × Database ν} (h : createSqliteHttpColumn db input = .ok result)
    (huses : action.usesHttp db = true) (hconfiguration : ∀ identity, input.configuration.executed = some identity →
      identity = httpIdentity) : Transacted db action result.2 := by
  simp only [createSqliteHttpColumn, except_bind_eq_ok, pure, Except.pure, Except.ok.injEq] at h
  obtain ⟨_, _, _, _, _, _, _, _, _, _, grid, hgrid, rfl⟩ := h
  refine insertDependentColumn_transacted hgrid fun havoids identity hidentity => ?_
  rw [hconfiguration identity hidentity]
  by_contra hrevoked
  rw [havoids (Bool.of_not_eq_false hrevoked)] at huses
  cases huses

theorem revokeSqliteCredential_eq_ok {db db' : Database ν} {input : RevokeCredential} {now : Int}
    (h : revokeSqliteCredential db input now = .ok db') :
    db' = { db with
      credentials := db.credentials.modify (fun credential => credential.id = input.credentialId)
        (fun credential => { credential with revokedAt := some now }) ⟨fun _ => rfl⟩ } := by
  simp only [revokeSqliteCredential, except_bind_eq_ok, pure, Except.pure, Except.ok.injEq] at h
  obtain ⟨_, _, _, _, rfl⟩ := h
  rfl

theorem credentialRevoked_modify {db : Database ν} {p : Credential → Bool} {f : Credential → Credential} (hf : KeepsKey f)
    (hrevoked : ∀ credential, credential.revokedAt.isSome = true → (f credential).revokedAt.isSome = true)
    {credentialId : String} (h : CredentialRevoked db credentialId = true) :
    CredentialRevoked { db with credentials := db.credentials.modify p f hf } credentialId = true := by
  rw [CredentialRevoked, Option.any_eq_true] at h ⊢
  obtain ⟨credential, hget, hsome⟩ := h
  refine ⟨if p credential then f credential else credential, ?_, ?_⟩
  · rw [Table.get?_modify, hget, Option.map_some]
  · split
    · exact hrevoked credential hsome
    · exact hsome

variable [JsRuntime ν] [ConnectorRuntime ν]

theorem queueDependents_queues {settlement : RowSettlement} {stamp : SettlementStamp} {columnIds : List String}
    {db db' : Database ν} (h : queueDependents settlement stamp columnIds db = .ok db') : Queues db db' := by
  induction columnIds generalizing db with
  | nil =>
    cases h
    exact Relation.ReflTransGen.refl
  | cons columnId columnIds ih =>
    simp only [queueDependents, except_bind_eq_ok] at h
    obtain ⟨⟨output, next⟩, hqueue, hrest⟩ := h
    have hfirst : Queues db next := (queueConnectorActionRun_eq_ok hqueue).queues
    exact hfirst.trans (ih hrest)

variable [EndpointRuntime]

theorem transact_eq_ok {db db' : Database ν} {action : StoreAction ν} (h : db.transact action = .ok db') :
    Transacted db action db' := by
  cases action with
  | createActionColumn input =>
    rw [Database.transact, except_map_eq_ok] at h
    obtain ⟨⟨created, next⟩, h, rfl⟩ := h
    simp only [createSqliteConnectorActionColumn, except_bind_eq_ok, requireAllowed_eq_ok, pure, Except.pure, Except.ok.injEq,
      Prod.mk.injEq] at h
    obtain ⟨_, _, _, _, _, _, _, hallowed, _, _, _, _, _, _, grid, hgrid, rfl, rfl⟩ := h
    refine insertDependentColumn_transacted hgrid fun havoids identity hidentity => ?_
    cases hidentity
    exact executed_allowed hallowed fun hrevoked => of_decide_eq_false (havoids hrevoked)
  | createHttpColumn input =>
    rw [Database.transact, except_map_eq_ok] at h
    obtain ⟨⟨created, next⟩, h, rfl⟩ := h
    simp only [createSqliteHttpEnrichmentColumn, except_bind_eq_ok] at h
    obtain ⟨_, _, h⟩ := h
    refine createSqliteHttpColumn_transacted h rfl fun identity hidentity => ?_
    cases hidentity
    rfl
  | createWaterfallColumn input =>
    rw [Database.transact, except_map_eq_ok] at h
    obtain ⟨⟨created, next⟩, h, rfl⟩ := h
    simp only [createSqliteHttpWaterfallColumn, except_bind_eq_ok] at h
    obtain ⟨_, _, _, _, h⟩ := h
    refine createSqliteHttpColumn_transacted h rfl fun identity hidentity => ?_
    cases hidentity
    rfl
  | createRevocation input =>
    have hactive := createSqliteWorkspaceConnectorRevocation_active h
    simp only [Database.transact, createSqliteWorkspaceConnectorRevocation, except_bind_eq_ok, pure, Except.pure,
      Except.ok.injEq] at h
    obtain ⟨_, _, _, _, _, _, _, _, created, _, rfl⟩ := h
    exact
      { settles := RunsSettle.of_mem fun _ hrun => hrun
        runs := fun _ run hrun => Or.inl ⟨run, hrun, rfl⟩
        columns := fun _ column hcolumn => Or.inl hcolumn
        active := fun revocation hmem _ => hactive ▸ List.mem_append_left _ hmem
        credentials := fun _ hrevoked => hrevoked }
  | liftRevocation input now =>
    have hactive := liftSqliteWorkspaceConnectorRevocation_active h
    simp only [Database.transact, liftSqliteWorkspaceConnectorRevocation, except_bind_eq_ok, pure, Except.pure,
      Except.ok.injEq] at h
    obtain ⟨_, _, _, _, _, _, _, _, rfl⟩ := h
    exact
      { settles := RunsSettle.of_mem fun _ hrun => hrun
        runs := fun _ run hrun => Or.inl ⟨run, hrun, rfl⟩
        columns := fun _ column hcolumn => Or.inl hcolumn
        active := fun revocation hmem hkept =>
          hactive ▸ List.mem_filter.mpr ⟨hmem, decide_eq_true (hkept input now rfl)⟩
        credentials := fun _ hrevoked => hrevoked }
  | revokeCredential input now =>
    rw [revokeSqliteCredential_eq_ok h]
    exact
      { settles := RunsSettle.of_mem fun _ hrun => hrun
        runs := fun _ run hrun => Or.inl ⟨run, hrun, rfl⟩
        columns := fun _ column hcolumn => Or.inl hcolumn
        active := fun revocation hmem _ => hmem
        credentials := fun _ hrevoked => credentialRevoked_modify
          (f := fun credential => { credential with revokedAt := some now }) ⟨fun _ => rfl⟩ (fun _ _ => rfl) hrevoked }
  | queue input =>
    rw [Database.transact, except_map_eq_ok] at h
    obtain ⟨⟨output, next⟩, h, rfl⟩ := h
    simp only [queueSqliteEnrichmentCellRunInTransaction, except_bind_eq_ok] at h
    obtain ⟨_, _, h⟩ := h
    exact (queueConnectorActionRun_eq_ok h).queues.transacted fun havoids => queueConnectorActionRun_admits h havoids
  | queueDependents settlement stamp columnIds =>
    refine (queueDependents_queues h).transacted fun havoids => queueDependents_admits h fun columnId hcolumn hrevoked => ?_
    exact Bool.eq_false_iff.mpr (List.any_eq_false.mp (havoids hrevoked) columnId hcolumn)
  | queueWorkflow input =>
    rw [Database.transact, except_map_eq_ok] at h
    obtain ⟨⟨outputs, next⟩, h, rfl⟩ := h
    simp only [queueSqliteWorkflowEnrichmentCellRuns, except_bind_eq_ok] at h
    obtain ⟨_, _, _, _, _, _, hrows⟩ := h
    exact (queueWorkflowRows_queues hrows).transacted fun havoids => queueWorkflowRows_admits hrows havoids
  | createBatch input =>
    have hqueues := createSqliteBulkRunBatch_queues h
    simp only [Database.transact, createSqliteBulkRunBatch, except_bind_eq_ok, pure, Except.pure, Except.ok.injEq] at h
    obtain ⟨_, _, _, _, _, _, _, _, _, _, _, _, rfl⟩ := h
    exact hqueues.transacted fun _ => Admits.of_eq ⟨rfl, rfl, rfl⟩ rfl
  | expandBatch input =>
    rw [Database.transact, except_map_eq_ok] at h
    obtain ⟨⟨processed, status, next⟩, h, rfl⟩ := h
    refine (expandSqliteBulkRunBatchChunk_queues h).transacted fun havoids => ?_
    refine expandSqliteBulkRunBatchChunk_admits h fun batch hbatch hrevoked => ?_
    have hany := havoids hrevoked
    rw [StoreAction.usesHttp, hbatch, Option.any_some] at hany
    exact hany
  | cancelBatch input =>
    obtain ⟨hleaves, hstand⟩ := cancel_leaves h
    exact hleaves.transacted hstand.settles fun _ run hrun => Or.inl (hstand.old run hrun)

end Transactions

end ByokGrid
