import ByokGrid.ImportSystem

/-! Every staged row becomes one row of the table, in the order of the file, whatever
the batches, the failures and the retries. -/

namespace ByokGrid

section Steps

variable {ν : Type} [JsRuntime ν]

theorem createSqliteCsvImportJob_eq_ok {workspace workspace' : ImportWorkspace ν} {input : CreateCsvImportJob}
    (h : createSqliteCsvImportJob workspace input = .ok workspace') :
    ∃ (job : ImportJob) (jobs : Table ImportJob), workspace.imports.jobs.insert job = some jobs ∧
      job.id = input.importJobId ∧ job.columnMapping = none ∧ job.status = .staging ∧ job.stagedRowCount = 0 ∧
      job.importedRowCount = 0 ∧
      workspace' = { workspace with imports := { workspace.imports with jobs := jobs } } := by
  simp only [createSqliteCsvImportJob, except_bind_eq_ok, requireSome_eq_ok, pure, Except.pure, Except.ok.injEq] at h
  obtain ⟨filename, _, _, _, _, _, _, _, jobs, hinsert, rfl⟩ := h
  exact ⟨_, jobs, hinsert, rfl, rfl, rfl, rfl, rfl, rfl⟩

theorem prepareSqliteCsvImport_eq_ok {workspace workspace' : ImportWorkspace ν} {input : PrepareCsvImport}
    {start : ImportStart} (h : prepareSqliteCsvImport workspace input = .ok (start, workspace')) :
    workspace' = workspace ∨
      ∃ (job : ImportJob) (mapping : List CsvImportColumn),
        workspace.imports.jobs.get? input.job.importJobId = some job ∧ job.tableId = input.job.tableId ∧
        job.status.active = true ∧
        importMapping workspace.db.grid job input = .ok (mapping, workspace'.db.grid) ∧
        workspace'.imports = workspace.imports.updateJob (fun candidate =>
          candidate.id = job.id && candidate.status.active) (fun candidate =>
          { candidate with
            columnMapping := some mapping
            errorMessage := none
            startedAt := some (job.startedAt.getD input.now)
            status := .running }) ⟨fun _ => rfl⟩ := by
  simp only [prepareSqliteCsvImport, except_bind_eq_ok, requireSome_eq_ok, Option.filter_eq_some_iff,
    decide_eq_true_eq] at h
  obtain ⟨job, ⟨hjob, htable⟩, h⟩ := h
  cases hstatus : job.status with
  | succeeded =>
    simp only [hstatus, pure, Except.pure, Except.ok.injEq, Prod.mk.injEq] at h
    exact Or.inl h.2.symm
  | cancelled =>
    simp only [hstatus, pure, Except.pure, Except.ok.injEq, Prod.mk.injEq] at h
    exact Or.inl h.2.symm
  | staging =>
    simp only [hstatus] at h
    cases h
  | failed =>
    simp only [hstatus] at h
    cases h
  | queued =>
    simp only [hstatus, except_bind_eq_ok, pure, Except.pure, Except.ok.injEq, Prod.mk.injEq] at h
    obtain ⟨mapped, hmapped, _, rfl⟩ := h
    exact Or.inr ⟨job, mapped.1, hjob, htable, by rw [hstatus]; rfl, hmapped, rfl⟩
  | running =>
    simp only [hstatus, except_bind_eq_ok, pure, Except.pure, Except.ok.injEq, Prod.mk.injEq] at h
    obtain ⟨mapped, hmapped, _, rfl⟩ := h
    exact Or.inr ⟨job, mapped.1, hjob, htable, by rw [hstatus]; rfl, hmapped, rfl⟩

theorem applySqliteCsvImportBatch_eq_ok {workspace workspace' : ImportWorkspace ν} {input : CsvImportBatch}
    {completed : Bool} (h : applySqliteCsvImportBatch workspace input = .ok (completed, workspace')) :
    ∃ (job : ImportJob) (mapping : List CsvImportColumn),
      workspace.imports.jobs.get? input.job.importJobId = some job ∧ job.status = .running ∧
      job.columnMapping = some mapping ∧
      ((completed = true ∧ stagedImportRows workspace.imports job input.batchSize = [] ∧
        job.importedRowCount = job.stagedRowCount ∧ workspace'.db.grid = workspace.db.grid ∧
        workspace'.imports = (workspace.imports.updateJob (fun candidate =>
          candidate.id = job.id && candidate.status = .running)
          (fun candidate => { candidate with finishedAt := some input.now, status := .succeeded })
          ⟨fun _ => rfl⟩).dropStagedRows job.id) ∨
      (completed = false ∧ stagedImportRows workspace.imports job input.batchSize ≠ [] ∧
        importRows workspace input job mapping (stagedImportRows workspace.imports job input.batchSize) =
          .ok workspace')) := by
  simp only [applySqliteCsvImportBatch, except_bind_eq_ok, requireSome_eq_ok, Option.filter_eq_some_iff,
    Bool.and_eq_true, decide_eq_true_eq] at h
  obtain ⟨job, ⟨hjob, _, hstatus⟩, mapping, hmapping, h⟩ := h
  refine ⟨job, mapping, hjob, hstatus, hmapping, ?_⟩
  split at h
  · rename_i hempty
    simp only [completeCsvImport, except_bind_eq_ok, requireThat_eq_ok, pure, Except.pure, Except.ok.injEq,
      Prod.mk.injEq, decide_eq_true_eq] at h
    obtain ⟨_, ⟨_, hcount, _, _, rfl⟩, rfl, rfl⟩ := h
    exact Or.inl ⟨rfl, hempty, hcount, rfl, rfl⟩
  · rename_i hstaged
    simp only [except_bind_eq_ok, pure, Except.pure, Except.ok.injEq, Prod.mk.injEq] at h
    obtain ⟨imported, himported, rfl, rfl⟩ := h
    exact Or.inr ⟨rfl, hstaged, himported⟩

theorem importMapping_eq_ok {grid grid' : Grid ν} {job : ImportJob} {input : PrepareCsvImport}
    {mapping : List CsvImportColumn} (h : importMapping grid job input = .ok (mapping, grid')) :
    (job.columnMapping = some mapping ∧ grid' = grid) ∨
      (job.columnMapping = none ∧ ∃ plans fields,
        planCsvColumns job.headers (unarchivedColumns grid job.tableId input.position) = .ok plans ∧
        createPlannedColumns job.tableId input.columnId 0 plans grid = .ok (fields, grid') ∧
        mapping = fields.map fun field => ⟨field.columnId, field.field⟩) := by
  unfold importMapping at h
  split at h
  · rename_i stored hstored
    cases h
    exact Or.inl ⟨hstored, rfl⟩
  · rename_i hnone
    simp only [except_bind_eq_ok, pure, Except.pure, Except.ok.injEq, Prod.mk.injEq] at h
    obtain ⟨plans, hplans, created, hcreated, rfl, rfl⟩ := h
    unfold planImport at hplans
    split at hplans
    · rename_i hok
      cases hplans
      exact Or.inr ⟨hnone, plans, created.1, hok, hcreated, rfl⟩
    · cases hplans
    · cases hplans

theorem importMapping_grows {grid grid' : Grid ν} {job : ImportJob} {input : PrepareCsvImport}
    {mapping : List CsvImportColumn} (h : importMapping grid job input = .ok (mapping, grid')) :
    GridGrows grid grid' := by
  rcases importMapping_eq_ok h with ⟨_, rfl⟩ | ⟨_, _, _, _, hcreated, _⟩
  · exact GridGrows.refl _
  · exact (createPlannedColumns_grows hcreated).1

theorem importMapping_mapped {grid grid' : Grid ν} {job : ImportJob} {input : PrepareCsvImport}
    {mapping : List CsvImportColumn} (h : importMapping grid job input = .ok (mapping, grid'))
    (hmapped : MappedColumns grid job) : MappedColumns grid' { job with columnMapping := some mapping } := by
  rcases importMapping_eq_ok h with ⟨hstored, rfl⟩ | ⟨_, plans, fields, hplans, hcreated, rfl⟩
  · exact fun mapping' hmapping' => hmapped mapping' (hstored.trans hmapping')
  · have hheaders := planHeaders_planned hplans
    have hplanned := createPlannedColumns_planned hcreated
    obtain ⟨hgrows, hfields⟩ := createPlannedColumns_grows hcreated
    rintro _ ⟨⟩
    constructor
    · have hlength := congrArg List.length (hplanned.headers.trans hheaders.trimmed)
      simpa using hlength
    · intro column hcolumn
      obtain ⟨field, hfield, rfl⟩ := List.mem_map.mp hcolumn
      rcases hfields field hfield with hfound | ⟨name, hnew⟩
      · rw [hheaders.existing] at hfound
        obtain ⟨header, _, hnamed⟩ := List.mem_map.mp hfound
        obtain ⟨stored, hstored, hid⟩ := Option.map_eq_some_iff.mp hnamed
        obtain ⟨hfind, hkind⟩ := Option.filter_eq_some_iff.mp hstored
        have hin := mem_unarchivedColumns (List.mem_of_find?_eq_some hfind)
        simp only [Bool.and_eq_true, decide_eq_true_eq] at hkind
        refine ⟨stored, ?_, hkind.1⟩
        rw [← hid]
        exact hgrows.columns _ _ (Table.get?_of_mem hin)
      · exact ⟨_, hnew, rfl⟩

theorem importRows_eq_ok {workspace workspace' : ImportWorkspace ν} {input : CsvImportBatch} {job : ImportJob}
    {mapping : List CsvImportColumn} {staged : List ImportStagedRow} (howned : CellsHaveRows workspace.db.grid)
    (h : importRows workspace input job mapping staged = .ok workspace') :
    BatchImported workspace.db.grid workspace'.db.grid job.tableId mapping
        (staged.zip ((List.range staged.length).map input.rowId)) ∧
      workspace'.imports = workspace.imports.updateJob (fun candidate =>
        candidate.id = job.id && candidate.status = .running) (fun candidate =>
        { candidate with importedRowCount := (staged.getLast?.map ImportStagedRow.rowNumber).getD job.importedRowCount })
        ⟨fun _ => rfl⟩ := by
  simp only [importRows, except_bind_eq_ok, pure, Except.pure, Except.ok.injEq] at h
  obtain ⟨inserted, hinserted, cells, hcells, written, hwritten, settled, hsettled, rfl⟩ := h
  have hrowIds : (staged.zip ((List.range staged.length).map input.rowId)).map Prod.snd =
      (List.range staged.length).map input.rowId := List.map_snd_zip (by simp)
  refine ⟨?_, rfl⟩
  rw [← hrowIds] at hinserted hsettled
  exact batchImported howned hinserted hcells hwritten rfl hsettled

theorem ImportWorkspace.step_grows {workspace : ImportWorkspace ν} (howned : CellsHaveRows workspace.db.grid)
    (action : ImportAction) : GridGrows workspace.db.grid (workspace.step action).db.grid := by
  cases action with
  | create input =>
    cases hresult : createSqliteCsvImportJob workspace input with
    | error _ =>
      simp only [ImportWorkspace.step, hresult]
      exact GridGrows.refl _
    | ok next =>
      obtain ⟨_, _, _, _, _, _, _, _, rfl⟩ := createSqliteCsvImportJob_eq_ok hresult
      simp only [ImportWorkspace.step, hresult]
      exact GridGrows.refl _
  | stage input =>
    cases hresult : stageSqliteCsvImportRows workspace input with
    | error _ =>
      simp only [ImportWorkspace.step, hresult]
      exact GridGrows.refl _
    | ok next =>
      simp only [ImportWorkspace.step, hresult]
      rcases stageSqliteCsvImportRows_eq_ok hresult with ⟨_, rfl⟩ | ⟨_, _, _, _, _, _, rfl⟩ <;> exact GridGrows.refl _
  | queue input =>
    cases hresult : queueSqliteCsvImport workspace input with
    | error _ =>
      simp only [ImportWorkspace.step, hresult]
      exact GridGrows.refl _
    | ok next =>
      have hgrid : next.db.grid = workspace.db.grid := (queueSqliteCsvImport_eq_ok hresult).1
      simp only [ImportWorkspace.step, hresult, Except.toOption, Option.getD_some, hgrid]
      exact GridGrows.refl _
  | failUpload input => exact GridGrows.refl _
  | prepare input =>
    cases hresult : prepareSqliteCsvImport workspace input with
    | error _ =>
      simp only [ImportWorkspace.step, hresult]
      exact GridGrows.refl _
    | ok result =>
      obtain ⟨start, next⟩ := result
      simp only [ImportWorkspace.step, hresult, Except.toOption, Option.map_some, Option.getD_some]
      rcases prepareSqliteCsvImport_eq_ok hresult with rfl | ⟨_, _, _, _, _, hmapping, _⟩
      · exact GridGrows.refl _
      · exact importMapping_grows hmapping
  | apply input =>
    cases hresult : applySqliteCsvImportBatch workspace input with
    | error _ =>
      simp only [ImportWorkspace.step, hresult]
      exact GridGrows.refl _
    | ok result =>
      obtain ⟨completed, next⟩ := result
      obtain ⟨job, mapping, _, _, _, hcases⟩ := applySqliteCsvImportBatch_eq_ok hresult
      simp only [ImportWorkspace.step, hresult, Except.toOption, Option.map_some, Option.getD_some]
      rcases hcases with ⟨_, _, _, hgrid, _⟩ | ⟨_, _, himported⟩
      · rw [hgrid]
        exact GridGrows.refl _
      · exact (importRows_eq_ok howned himported).1.grows
  | fail failure => exact GridGrows.refl _

theorem ImportWorkspace.step_kept (workspace : ImportWorkspace ν) {action : ImportAction} {importJobId : String}
    (howned : CellsHaveRows workspace.db.grid) (hne : action.importJobId ≠ importJobId) :
    JobKept workspace.imports (workspace.step action).imports importJobId := by
  cases action with
  | create input =>
    cases hresult : createSqliteCsvImportJob workspace input with
    | error _ =>
      simp only [ImportWorkspace.step, hresult]
      exact JobKept.refl _ _
    | ok next =>
      obtain ⟨job, jobs, hinsert, hid, _, _, _, _, rfl⟩ := createSqliteCsvImportJob_eq_ok hresult
      simp only [ImportWorkspace.step, hresult, Except.toOption, Option.getD_some]
      refine ⟨(Table.get?_insert hinsert importJobId).trans (if_neg ?_), fun _ _ => Iff.rfl⟩
      exact fun heq => hne (hid.symm.trans heq.symm)
  | stage input =>
    cases hresult : stageSqliteCsvImportRows workspace input with
    | error _ =>
      simp only [ImportWorkspace.step, hresult]
      exact JobKept.refl _ _
    | ok next =>
      simp only [ImportWorkspace.step, hresult, Except.toOption, Option.getD_some]
      rcases stageSqliteCsvImportRows_eq_ok hresult with ⟨_, rfl⟩ | ⟨job, staged, _, _, _, hstaged, rfl⟩
      · exact JobKept.refl _ _
      · have hjobs : JobKept workspace.imports (workspace.imports.updateJob (fun candidate =>
            candidate.id = input.importJobId && candidate.status = .staging) (fun candidate =>
            { candidate with
              stagedRowCount := job.stagedRowCount + input.rows.length
              uploadedBytes := input.uploadedBytes }) ⟨fun _ => rfl⟩) importJobId := by
          refine updateJob_kept _ _ fun candidate hcandidate hid => ?_
          simp only [Bool.and_eq_true, decide_eq_true_eq] at hcandidate
          exact hne (hcandidate.1.symm.trans hid)
        refine ⟨hjobs.job, fun row hrow => ?_⟩
        rw [Table.mem_insertAll hstaged]
        refine or_iff_left fun hnew => ?_
        obtain ⟨_, _, rfl⟩ := List.mem_map.mp hnew
        exact hne hrow
  | queue input =>
    cases hresult : queueSqliteCsvImport workspace input with
    | error _ =>
      simp only [ImportWorkspace.step, hresult]
      exact JobKept.refl _ _
    | ok next =>
      simp only [ImportWorkspace.step, hresult, Except.toOption, Option.getD_some]
      rw [(queueSqliteCsvImport_eq_ok hresult).2]
      refine updateJob_kept _ _ fun candidate hcandidate hid => ?_
      simp only [Bool.and_eq_true, decide_eq_true_eq] at hcandidate
      exact hne (hcandidate.1.symm.trans hid)
  | failUpload input => exact failSqliteCsvImportUpload_kept hne
  | prepare input =>
    cases hresult : prepareSqliteCsvImport workspace input with
    | error _ =>
      simp only [ImportWorkspace.step, hresult]
      exact JobKept.refl _ _
    | ok result =>
      obtain ⟨start, next⟩ := result
      simp only [ImportWorkspace.step, hresult, Except.toOption, Option.map_some, Option.getD_some]
      rcases prepareSqliteCsvImport_eq_ok hresult with rfl | ⟨job, _, hjob, _, _, _, himports⟩
      · exact JobKept.refl _ _
      · have hid : job.id = input.job.importJobId := (Table.get?_eq_some.mp hjob).2
        rw [himports]
        refine updateJob_kept _ _ fun candidate hcandidate hcid => ?_
        simp only [Bool.and_eq_true, decide_eq_true_eq] at hcandidate
        exact hne (hid.symm.trans (hcandidate.1.symm.trans hcid))
  | apply input =>
    cases hresult : applySqliteCsvImportBatch workspace input with
    | error _ =>
      simp only [ImportWorkspace.step, hresult]
      exact JobKept.refl _ _
    | ok result =>
      obtain ⟨completed, next⟩ := result
      obtain ⟨job, mapping, hjob, _, _, hcases⟩ := applySqliteCsvImportBatch_eq_ok hresult
      have hid : job.id = input.job.importJobId := (Table.get?_eq_some.mp hjob).2
      have hother : job.id ≠ importJobId := fun heq => hne (hid.symm.trans heq)
      simp only [ImportWorkspace.step, hresult, Except.toOption, Option.map_some, Option.getD_some]
      rcases hcases with ⟨_, _, _, _, himports⟩ | ⟨_, _, himported⟩
      · rw [himports]
        refine JobKept.trans (updateJob_kept _ _ fun candidate hcandidate hcid => ?_) (dropStagedRows_kept _ hother)
        simp only [Bool.and_eq_true, decide_eq_true_eq] at hcandidate
        exact hother (hcandidate.1.symm.trans hcid)
      · rw [(importRows_eq_ok howned himported).2]
        refine updateJob_kept _ _ fun candidate hcandidate hcid => ?_
        simp only [Bool.and_eq_true, decide_eq_true_eq] at hcandidate
        exact hother (hcandidate.1.symm.trans hcid)
  | fail failure => exact setSqliteCsvImportWorkerFailure_kept hne

structure ImportAccount (importJobId : String) (workspace : ImportWorkspace ν) (log : List ImportEntry) : Prop where
  owned : CellsHaveRows workspace.db.grid
  absent : workspace.imports.jobs.get? importJobId = none →
    log = [] ∧ ∀ row ∈ workspace.imports.stagedRows, row.importJobId ≠ importJobId
  present : ∀ job, workspace.imports.jobs.get? importJobId = some job →
    ImportProgress workspace.db.grid workspace.imports.stagedRows job log

omit [JsRuntime ν] in
theorem ImportAccount.kept {importJobId : String} {workspace workspace' : ImportWorkspace ν} {log : List ImportEntry}
    (h : ImportAccount importJobId workspace log) (hgrows : GridGrows workspace.db.grid workspace'.db.grid)
    (hkept : JobKept workspace.imports workspace'.imports importJobId) : ImportAccount importJobId workspace' log where
  owned := hgrows.owned h.owned
  absent hnone := by
    rw [hkept.job] at hnone
    obtain ⟨hlog, hrows⟩ := h.absent hnone
    exact ⟨hlog, fun row hrow hid => hrows row ((hkept.staged row hid).mp hrow) hid⟩
  present job hjob := by
    rw [hkept.job] at hjob
    have hid : job.id = importJobId := (Table.get?_eq_some.mp hjob).2
    exact (h.present job hjob).grows hgrows fun row hrow => hkept.staged row (hrow.trans hid)

omit [JsRuntime ν] in
theorem ImportAccount.stored {importJobId : String} {workspace : ImportWorkspace ν} {log : List ImportEntry}
    {job : ImportJob} (howned : CellsHaveRows workspace.db.grid)
    (hjob : workspace.imports.jobs.get? importJobId = some job)
    (hprogress : ImportProgress workspace.db.grid workspace.imports.stagedRows job log) :
    ImportAccount importJobId workspace log := by
  refine ⟨howned, fun hnone => ?_, fun job' hjob' => ?_⟩
  · rw [hjob] at hnone
    cases hnone
  · rw [hjob, Option.some.injEq] at hjob'
    exact hjob' ▸ hprogress

section Own

variable {importJobId : String} {workspace workspace' : ImportWorkspace ν} {log : List ImportEntry}

theorem ImportAccount.create {input : CreateCsvImportJob} (h : ImportAccount input.importJobId workspace log)
    (hok : createSqliteCsvImportJob workspace input = .ok workspace') :
    ImportAccount input.importJobId workspace' log := by
  obtain ⟨job, jobs, hinsert, hid, hmapping, hstatus, hstaged, himported, rfl⟩ := createSqliteCsvImportJob_eq_ok hok
  have hnone : workspace.imports.jobs.get? input.importJobId = none := hid ▸ (Table.insert_eq_some hinsert).2
  have hjob : jobs.get? input.importJobId = some job := by
    rw [Table.get?_insert hinsert, ← hid]
    exact if_pos rfl
  obtain ⟨rfl, hrows⟩ := h.absent hnone
  refine ImportAccount.stored h.owned hjob ⟨hstaged, fun _ hvalues => absurd hvalues List.not_mem_nil, ?_, ?_,
    List.nodup_nil, fun _ hrow => absurd hrow List.not_mem_nil, ?_, fun _ hrow => absurd hrow List.not_mem_nil, ?_, ?_⟩
  · rw [himported]
    exact Nat.zero_le _
  · rw [himported]
    rfl
  · intro mapping hsome
    rw [hmapping] at hsome
    cases hsome
  · intro _ rowNumber values
    refine iff_of_false (fun hrow => hrows _ hrow hid) List.not_mem_nil
  · intro hsucceeded
    rw [hstatus] at hsucceeded
    cases hsucceeded

omit [JsRuntime ν] in
theorem ImportAccount.stage {input : StageCsvImportRows} (h : ImportAccount input.importJobId workspace log)
    (hok : stageSqliteCsvImportRows workspace input = .ok workspace') :
    ImportAccount input.importJobId workspace' (log ++ input.rows.map fun row => .staged row.values) := by
  rcases stageSqliteCsvImportRows_eq_ok hok with ⟨hempty, rfl⟩ | ⟨job, staged, hjob, hstatus, hcheck, hstaged, rfl⟩
  · rw [hempty, List.map_nil, List.append_nil]
    exact h
  · have hid : job.id = input.importJobId := (Table.get?_eq_some.mp hjob).2
    rw [← hid] at hstaged
    have hprogress := (h.present job hjob).stage input.uploadedBytes hstatus hcheck hstaged
    refine ImportAccount.stored h.owned ?_ hprogress
    refine (updateJob_get? _ (by exact ⟨fun _ => rfl⟩) _).trans ?_
    rw [hjob, Option.map_some, if_pos (by simp [hid, hstatus])]

omit [JsRuntime ν] in
theorem ImportAccount.queue {input : QueueCsvImport} (h : ImportAccount input.importJobId workspace log)
    (hok : queueSqliteCsvImport workspace input = .ok workspace') :
    ImportAccount input.importJobId workspace' log := by
  have hstaging : ∃ job, workspace.imports.jobs.get? input.importJobId = some job ∧ job.status = .staging := by
    simp only [queueSqliteCsvImport, except_bind_eq_ok] at hok
    obtain ⟨job, hjob, _⟩ := hok
    exact ⟨job, stagingJob_eq_ok hjob⟩
  obtain ⟨job, hjob, hstatus⟩ := hstaging
  obtain ⟨hgrid, himports⟩ := queueSqliteCsvImport_eq_ok hok
  have hid : job.id = input.importJobId := (Table.get?_eq_some.mp hjob).2
  have hprogress := h.present job hjob
  have hjob' : workspace'.imports.jobs.get? input.importJobId =
      some { job with errorMessage := none, status := .queued } := by
    rw [himports, updateJob_get?, hjob, Option.map_some, if_pos (by simp [hid, hstatus])]
  refine ImportAccount.stored (hgrid ▸ h.owned) hjob' ?_
  rw [hgrid, himports]
  refine hprogress.moves rfl (Or.inr rfl) hprogress.mapped (fun _ => ⟨by rw [hstatus]; rfl, rfl⟩) ?_
  exact fun hsucceeded => by cases hsucceeded

omit [JsRuntime ν] in
theorem ImportAccount.failUpload {input : FailCsvImportUpload} (h : ImportAccount input.importJobId workspace log) :
    ImportAccount input.importJobId
      { workspace with imports := failSqliteCsvImportUpload workspace.imports input } log := by
  unfold failSqliteCsvImportUpload
  dsimp only
  split
  · rename_i hany
    obtain ⟨job, hin, hfailing⟩ := List.any_eq_true.mp hany
    have hfailing' := hfailing
    simp only [Bool.and_eq_true, decide_eq_true_eq] at hfailing'
    have hjob : workspace.imports.jobs.get? input.importJobId = some job :=
      Table.get?_eq_some.mpr ⟨hin, hfailing'.1.1⟩
    have hprogress := h.present job hjob
    have hget := updateJob_get? workspace.imports (p := fun job =>
        job.id = input.importJobId && job.createdByUserId = some input.userId && job.status = .staging)
      (f := fun job =>
        { job with
          errorMessage := some (sliceUnits 500 (spaceBreaks input.errorMessage))
          finishedAt := some input.now
          status := .failed }) ⟨fun _ => rfl⟩ input.importJobId
    rw [hjob, Option.map_some, if_pos hfailing] at hget
    refine ImportAccount.stored h.owned hget (hprogress.moves rfl (Or.inr rfl) hprogress.mapped ?_ ?_)
    · exact fun hopen => by cases hopen
    · exact fun hsucceeded => by cases hsucceeded
  · exact h

theorem ImportAccount.prepare {input : PrepareCsvImport} {start : ImportStart}
    (h : ImportAccount input.job.importJobId workspace log)
    (hok : prepareSqliteCsvImport workspace input = .ok (start, workspace')) :
    ImportAccount input.job.importJobId workspace' log := by
  rcases prepareSqliteCsvImport_eq_ok hok with rfl | ⟨job, mapping, hjob, _, hactive, hmapping, himports⟩
  · exact h
  · have hgrows := importMapping_grows hmapping
    have hprogress := (h.present job hjob).grows hgrows fun _ _ => Iff.rfl
    have hjob' : workspace'.imports.jobs.get? input.job.importJobId =
        some { job with
          columnMapping := some mapping
          errorMessage := none
          startedAt := some (job.startedAt.getD input.now)
          status := .running } := by
      rw [himports, updateJob_get?, hjob, Option.map_some, if_pos (by simp [hactive])]
    have hopen : job.status.open = true := by
      cases hstatus : job.status <;> simp_all [ImportJobStatus.active, ImportJobStatus.open]
    have hsame : job.columnMapping = none ∨ some mapping = job.columnMapping := by
      rcases importMapping_eq_ok hmapping with ⟨hstored, _⟩ | ⟨hnone, _⟩
      · exact Or.inr hstored.symm
      · exact Or.inl hnone
    refine ImportAccount.stored (hgrows.owned h.owned) hjob' ?_
    refine hprogress.moves rfl hsame (importMapping_mapped hmapping (h.present job hjob).mapped) ?_ ?_
    · exact fun _ => ⟨hopen, by rw [himports]; rfl⟩
    · exact fun hsucceeded => by cases hsucceeded

omit [JsRuntime ν] in
theorem ImportAccount.fail {failure : CsvImportFailure} (h : ImportAccount failure.importJobId workspace log) :
    ImportAccount failure.importJobId
      { workspace with imports := setSqliteCsvImportWorkerFailure workspace.imports failure } log := by
  have hget := updateJob_get? workspace.imports (p := fun job => job.id = failure.importJobId && job.status.active)
    (f := fun job =>
      { job with
        errorMessage := some (sliceUnits 500 (spaceBreaks failure.errorMessage))
        finishedAt := if failure.retrying then none else some failure.now
        status := if failure.retrying then .queued else .failed }) ⟨fun _ => rfl⟩ failure.importJobId
  cases hjob : workspace.imports.jobs.get? failure.importJobId with
  | none =>
    rw [hjob] at hget
    refine ⟨h.owned, fun _ => h.absent hjob, fun job hsome => ?_⟩
    have hcontra := hget.symm.trans hsome
    cases hcontra
  | some job =>
    rw [hjob, Option.map_some] at hget
    have hprogress := h.present job hjob
    refine ImportAccount.stored h.owned hget ?_
    split
    · rename_i hactive
      simp only [Bool.and_eq_true, decide_eq_true_eq] at hactive
      refine hprogress.moves rfl (Or.inr rfl) hprogress.mapped (fun _ => ⟨?_, rfl⟩) ?_
      · cases hstatus : job.status <;> simp_all [ImportJobStatus.active, ImportJobStatus.open]
      · intro hsucceeded
        cases hretrying : failure.retrying <;> simp [hretrying] at hsucceeded
    · exact hprogress

theorem ImportAccount.complete {input : CsvImportBatch} (h : ImportAccount input.job.importJobId workspace log)
    (hok : applySqliteCsvImportBatch workspace input = .ok (true, workspace')) :
    ImportAccount input.job.importJobId workspace' log := by
  obtain ⟨job, mapping, hjob, hrunning, _, hcases⟩ := applySqliteCsvImportBatch_eq_ok hok
  rcases hcases with ⟨_, _, hcount, hgrid, himports⟩ | ⟨hfalse, _⟩
  · have hprogress := h.present job hjob
    have hjob' : workspace'.imports.jobs.get? input.job.importJobId =
        some { job with finishedAt := some input.now, status := .succeeded } := by
      rw [himports, ImportStore.dropStagedRows]
      refine (updateJob_get? workspace.imports (by exact ⟨fun _ => rfl⟩) input.job.importJobId).trans ?_
      rw [hjob, Option.map_some, if_pos (by simp [hrunning])]
    refine ImportAccount.stored (hgrid ▸ h.owned) hjob' ?_
    rw [hgrid]
    exact hprogress.moves rfl (Or.inr rfl) hprogress.mapped (fun hopen => by cases hopen) fun _ => hcount
  · cases hfalse

theorem ImportAccount.imports {input : CsvImportBatch} (h : ImportAccount input.job.importJobId workspace log)
    (hok : applySqliteCsvImportBatch workspace input = .ok (false, workspace')) :
    ImportAccount input.job.importJobId workspace' (log ++ (createdRows workspace input).map .imported) := by
  obtain ⟨job, mapping, hjob, hrunning, hmapping, hcases⟩ := applySqliteCsvImportBatch_eq_ok hok
  rcases hcases with ⟨htrue, _⟩ | ⟨_, hsome, himported⟩
  · cases htrue
  · obtain ⟨hbatch, himports⟩ := importRows_eq_ok h.owned himported
    have hprogress := (h.present job hjob).imports hrunning hmapping hsome hbatch
    have hcreated : createdRows workspace input =
        batchRows job (stagedImportRows workspace.imports job input.batchSize) input.rowId := by
      rw [createdRows, hjob]
    have hrows : workspace'.imports.stagedRows = workspace.imports.stagedRows := by
      rw [himports]
      rfl
    rw [hcreated]
    refine ImportAccount.stored (hbatch.grows.owned h.owned) ?_ (by rw [hrows]; exact hprogress)
    rw [himports]
    refine (updateJob_get? workspace.imports (by exact ⟨fun _ => rfl⟩) input.job.importJobId).trans ?_
    rw [hjob, Option.map_some, if_pos (by simp [hrunning])]

end Own

theorem ImportAccount.step {importJobId : String} {workspace : ImportWorkspace ν} {log : List ImportEntry}
    (h : ImportAccount importJobId workspace log) (action : ImportAction) :
    ImportAccount importJobId (workspace.step action) (log ++ importEntries importJobId workspace action) := by
  by_cases hown : action.importJobId = importJobId
  · subst hown
    cases action with
    | create input =>
      simp only [importEntries, if_true, List.append_nil, ImportWorkspace.step]
      cases hok : createSqliteCsvImportJob workspace input with
      | error _ => exact h
      | ok next => exact h.create hok
    | stage input =>
      simp only [importEntries, if_true, ImportWorkspace.step]
      cases hok : stageSqliteCsvImportRows workspace input with
      | error _ =>
        simp only [List.append_nil]
        exact h
      | ok next => exact h.stage hok
    | queue input =>
      simp only [importEntries, if_true, List.append_nil, ImportWorkspace.step]
      cases hok : queueSqliteCsvImport workspace input with
      | error _ => exact h
      | ok next => exact h.queue hok
    | failUpload input =>
      simp only [importEntries, if_true, List.append_nil, ImportWorkspace.step]
      exact h.failUpload
    | prepare input =>
      simp only [importEntries, if_true, List.append_nil, ImportWorkspace.step]
      cases hok : prepareSqliteCsvImport workspace input with
      | error _ => exact h
      | ok result => exact h.prepare hok
    | apply input =>
      simp only [importEntries, if_true, ImportWorkspace.step]
      cases hok : applySqliteCsvImportBatch workspace input with
      | error _ =>
        simp only [List.append_nil]
        exact h
      | ok result =>
        obtain ⟨completed, next⟩ := result
        cases completed with
        | true =>
          simp only [List.append_nil]
          exact h.complete hok
        | false => exact h.imports hok
    | fail failure =>
      simp only [importEntries, if_true, List.append_nil, ImportWorkspace.step]
      exact h.fail
  · have hnothing : importEntries importJobId workspace action = [] := if_neg hown
    rw [hnothing, List.append_nil]
    exact h.kept (workspace.step_grows h.owned action) (workspace.step_kept h.owned hown)

omit [JsRuntime ν] in
theorem ImportProgress.exactly {grid : Grid ν} {stagedRows : Table ImportStagedRow} {job : ImportJob}
    {log : List ImportEntry} (h : ImportProgress grid stagedRows job log) :
    ImportsExactly grid job (stagedFile log) (importedRows log) where
  counted := h.counted
  bounded := h.counted ▸ h.bounded
  numbers := h.numbers
  nodup := h.nodup
  order hbound := by
    have hpositions : (importedRows log).map ImportedRow.position =
        (List.range' 1 job.importedRowCount).map (importRowPosition job.createdAt job.id) := by
      rw [← h.numbers, List.map_map]
      exact List.map_congr_left fun row hrow => h.positions row hrow
    rw [hpositions, List.pairwise_map]
    have hrange : (List.range' 1 job.importedRowCount).Pairwise (· < ·) := List.pairwise_lt_range'
    refine hrange.imp_of_mem ?_
    intro m n hm hn hlt
    rw [List.mem_range'_1] at hm hn
    exact importRowPosition_lt _ _ hm.1 hlt (by omega)
  content row hrow := by
    obtain ⟨mapping, values, hmapping, hvalues, himported⟩ := h.content row hrow
    obtain ⟨hlength, hcolumns⟩ := h.mapped mapping hmapping
    refine ⟨mapping, values, hmapping, hvalues, ?_, fun column hcolumn => ?_, himported⟩
    · rw [hlength, h.widths values (List.mem_of_getElem? hvalues)]
    · obtain ⟨stored, hstored, hkind⟩ := hcolumns column hcolumn
      rw [Grid.isFormula, hstored, Option.any_some, hkind]
      rfl
  complete hsucceeded := by rw [h.complete hsucceeded, h.counted]

/-- A file is imported exactly once: whatever the batches, the failures and the retries,
its rows up to the counter are rows of the table, and a failed batch changes nothing. -/
theorem csvImport_exactlyOnce {importJobId : String} {workspace : ImportWorkspace ν}
    (howned : CellsHaveRows workspace.db.grid) (hnew : workspace.imports.jobs.get? importJobId = none)
    (hstaged : ∀ row ∈ workspace.imports.stagedRows, row.importJobId ≠ importJobId) (actions : List ImportAction) :
    (∀ job, (workspace.run actions).imports.jobs.get? importJobId = some job →
      ImportsExactly (workspace.run actions).db.grid job (stagedFile (importLog importJobId workspace actions))
        (importedRows (importLog importJobId workspace actions))) ∧
      ∀ input error, applySqliteCsvImportBatch (workspace.run actions) input = .error error →
        (workspace.run actions).step (.apply input) = workspace.run actions := by
  have hinitial : ImportAccount importJobId workspace [] := by
    refine ⟨howned, fun _ => ⟨rfl, hstaged⟩, fun job hjob => ?_⟩
    rw [hnew] at hjob
    cases hjob
  have haccount : ImportAccount importJobId (workspace.run actions) ([] ++ importLog importJobId workspace actions) :=
    runOutputs_invariant (fun _ action _ h => h.step action) hinitial actions
  refine ⟨fun job hjob => (haccount.present job hjob).exactly, fun input error herror => ?_⟩
  simp only [ImportWorkspace.step, herror]
  rfl

end Steps

section Sample

def peopleDatabase : Database SafeInteger where
  grid :=
    { dataTables := Table.singleton ⟨"people", none⟩
      columns := ⟨[textInputColumn "name" "people" "Name",
        ⟨"shout", "people", "Shout", .formula, .text, .formula (.call .upper [.column "name"]), none⟩], by decide⟩
      columnDependencies := Table.singleton ⟨"shout", "name", "people"⟩
      rows := Table.empty
      cells := fun _ _ => none }
  workspaceMembers := Table.singleton ⟨"ada", .owner⟩
  credentials := Table.empty
  connectorRevocations := Table.empty
  cellRuns := Table.empty
  bulkRunBatches := Table.empty
  bulkRunItems := Table.empty
  rowSettlements := Table.empty
  webhookDestinations := Table.empty
  writebackDestinations := Table.empty
  outbox := Table.empty

def peopleWorkspace : ImportWorkspace SafeInteger := ⟨peopleDatabase, ⟨Table.empty, Table.empty⟩⟩

def peopleBatch (batch : String) (batchSize : Int) : CsvImportBatch where
  job := ⟨"import", "people"⟩
  batchSize := batchSize
  rowId index := batch ++ toString index
  mutation index := ⟨batch ++ toString index, batch ++ toString index, 0⟩
  eventId := "imported"
  now := 0

def preparePeople : ImportAction :=
  .prepare ⟨⟨"import", "people"⟩, id, fun index => "column" ++ toString index, 0⟩

def peopleActions : List ImportAction :=
  [.create ⟨"import", "people", "ada", "people.csv", ["Name", "Mail"], 0⟩,
    .stage ⟨"import", [⟨1, ["Ada", "ada@example.com"]⟩, ⟨2, ["Grace", ""]⟩], 42, "ada"⟩,
    .queue ⟨"import", "ada", "requested", 0⟩,
    preparePeople,
    .apply (peopleBatch "first" 1),
    .fail ⟨"import", "The worker stopped.", true, 0⟩,
    preparePeople,
    .apply (peopleBatch "second" 1),
    .apply (peopleBatch "third" 1)]

theorem csvImport_exactlyOnce_people :
    (∀ job, (peopleWorkspace.run peopleActions).imports.jobs.get? "import" = some job →
      ImportsExactly (peopleWorkspace.run peopleActions).db.grid job
        (stagedFile (importLog "import" peopleWorkspace peopleActions))
        (importedRows (importLog "import" peopleWorkspace peopleActions))) ∧
      ∀ input error, applySqliteCsvImportBatch (peopleWorkspace.run peopleActions) input = .error error →
        (peopleWorkspace.run peopleActions).step (.apply input) = peopleWorkspace.run peopleActions :=
  csvImport_exactlyOnce (fun _ _ _ => rfl) rfl (fun _ hrow => absurd hrow Table.not_mem_empty) peopleActions

/-- The values of the file are not all the cells of an imported row: the formula of the
first row has one. -/
theorem csvImport_formulaCell :
    ¬ ∀ row ∈ importedRows (importLog "import" peopleWorkspace peopleActions), ∀ job mapping values,
      (peopleWorkspace.run peopleActions).imports.jobs.get? "import" = some job → job.columnMapping = some mapping →
      (stagedFile (importLog "import" peopleWorkspace peopleActions))[row.rowNumber - 1]? = some values →
      ∀ columnId cell, (peopleWorkspace.run peopleActions).db.grid.cells row.rowId columnId = some cell ↔
        ∃ value, (columnId, value) ∈ importedFields mapping values ∧ cell = importedCell value := by
  intro hexact
  have hrows : (importedRows (importLog "import" peopleWorkspace peopleActions)).map
      (fun row => (row.rowNumber, row.rowId)) = [(1, "first0"), (2, "second0")] := by decide +kernel
  have hfile : stagedFile (importLog "import" peopleWorkspace peopleActions) =
      [["Ada", "ada@example.com"], ["Grace", ""]] := by decide +kernel
  have hmapping : ((peopleWorkspace.run peopleActions).imports.jobs.get? "import").bind ImportJob.columnMapping =
      some [⟨"name", "Name"⟩, ⟨"column1", "Mail"⟩] := by decide +kernel
  have hcell : ((peopleWorkspace.run peopleActions).db.grid.cells "first0" "shout").isSome = true := by decide +kernel
  have hfirst : (1, "first0") ∈ (importedRows (importLog "import" peopleWorkspace peopleActions)).map
      fun row => (row.rowNumber, row.rowId) := by
    rw [hrows]
    exact List.mem_cons_self
  obtain ⟨row, hrow, hkey⟩ := List.mem_map.mp hfirst
  obtain ⟨hnumber, hid⟩ := Prod.mk.inj hkey
  obtain ⟨job, hjob, hcolumns⟩ := Option.bind_eq_some_iff.mp hmapping
  obtain ⟨cell, hcell⟩ := Option.isSome_iff_exists.mp hcell
  have hvalues := hexact row hrow job _ ["Ada", "ada@example.com"] hjob hcolumns (by rw [hnumber, hfile]; rfl)
  rw [hid] at hvalues
  obtain ⟨value, hfield, _⟩ := (hvalues "shout" cell).mp hcell
  have hcolumn : "shout" ∈ (importedFields [⟨"name", "Name"⟩, ⟨"column1", "Mail"⟩] ["Ada", "ada@example.com"]).map
      Prod.fst := List.mem_map_of_mem hfield
  exact absurd hcolumn (by decide +kernel)

end Sample

end ByokGrid
