import ByokGrid.SourcePages
import ByokGrid.Transition

/-! The transactions on sources under any interleaving, with the changes each of
them makes to the definitions, the runs and the record identities. -/

namespace ByokGrid

section System

variable {ν : Type} [JsRuntime ν]

inductive SourceAction (ν : Type) where
  | createHttpJson (input : CreateHttpJsonSource)
  | createHubSpot (input : CreateHubSpotContactsSource)
  | setStatus (input : SetSourceStatus)
  | queueManual (input : QueueManualSourceRun)
  | queueDue (input : QueueDueSourceRuns)
  | start (sourceId sourceRunId : String) (now : Int)
  | fail (failure : SourceRunFailure)
  | applyPage (input : SourcePage)
  | other (db : Database ν)

def SourceWorkspace.commit (workspace : SourceWorkspace ν) :
    Except StoreError (SourceWorkspace ν) → SourceWorkspace ν
  | .ok next => next
  | .error _ => workspace

def SourceWorkspace.withStore (workspace : SourceWorkspace ν) (store : SourceStore) : SourceWorkspace ν :=
  { workspace with sources := store }

def SourceWorkspace.step (workspace : SourceWorkspace ν) : SourceAction ν → SourceWorkspace ν
  | .createHttpJson input => workspace.commit (createSqliteHttpJsonSource workspace input)
  | .createHubSpot input => workspace.commit (createSqliteHubSpotContactsSource workspace input)
  | .setStatus input => workspace.commit (setSqliteSourceStatus workspace input)
  | .queueManual input => workspace.commit (queueSqliteManualSourceRun workspace input)
  | .queueDue input => workspace.commit (queueDueSqliteSourceRuns workspace input)
  | .start sourceId sourceRunId now => workspace.commit
      ((markSqliteSourceRunRunning workspace.sources sourceId sourceRunId now).map fun result =>
        workspace.withStore result.2)
  | .fail failure => workspace.withStore (setSqliteSourceRunWorkerFailure workspace.sources failure)
  | .applyPage input => workspace.commit (applySqliteSourceRunPage workspace input)
  | .other db => { workspace with db := db }

def SourceWorkspace.run (workspace : SourceWorkspace ν) (actions : List (SourceAction ν)) : SourceWorkspace ν :=
  runActions SourceWorkspace.step workspace actions

end System

section Quiet

structure SameSource (source source' : SourceDefinition) : Prop where
  id : source'.id = source.id
  tableId : source'.tableId = source.tableId
  adapter : source'.adapter = source.adapter
  maxRecords : source'.maxRecords = source.maxRecords
  maxPages : source'.maxPages = source.maxPages
  missingRecordMode : source'.missingRecordMode = source.missingRecordMode

structure NewRun (ν : Type) [JsRuntime ν] (store : SourceStore) (run : SourceRun) (source : SourceDefinition)
    (observedAt : Int) : Prop where
  definition : store.definitions.get? run.sourceId = some source
  free : activeSourceRun store.runs run.sourceId = false
  window : sourceIncrementalWindow ν source observedAt = .ok run.incrementalWindow
  status : run.status = .queued
  pageCount : run.pageCount = 0
  received : run.receivedRecordCount = 0
  created : run.createdRowCount = 0
  updated : run.updatedRowCount = 0
  restored : run.restoredRowCount = 0

structure Reports (p : SourceRun → Bool) (f : SourceRun → SourceRun) : Prop where
  keepsKey : KeepsKey f
  active : ∀ run, p run = true → run.status.active = true
  unfinished : ∀ run, (f run).status ≠ .succeeded
  frame : ∀ run, f run = { run with
    status := (f run).status
    attempt := (f run).attempt
    errorCode := (f run).errorCode
    errorMessage := (f run).errorMessage
    startedAt := (f run).startedAt
    finishedAt := (f run).finishedAt }

inductive QuietChange (ν : Type) [JsRuntime ν] (store : SourceStore) : SourceStore → Prop
  | defined (definition : SourceDefinition) (definitions : Table SourceDefinition)
      (hinsert : store.definitions.insert definition = some definitions)
      (hwatermark : definition.incrementalWatermark = none) (hmapping : definition.fieldMapping = none)
      (hfull : definition.incremental = true → definition.missingRecordMode = .preserve) :
      QuietChange ν store { store with definitions := definitions }
  | redefined (sourceId : String) (f : SourceDefinition → SourceDefinition) (hf : KeepsKey f)
      (hsame : ∀ source, SameSource source (f source))
      (hwatermark : ∀ source, (f source).incrementalWatermark = source.incrementalWatermark)
      (hmapping : ∀ source, (f source).fieldMapping = source.fieldMapping) :
      QuietChange ν store (store.updateDefinition sourceId f hf)
  | queued (run : SourceRun) (source : SourceDefinition) (observedAt : Int) (runs : Table SourceRun)
      (hnew : NewRun ν store run source observedAt) (hinsert : store.runs.insert run = some runs) :
      QuietChange ν store { store with runs := runs }
  | reported (p : SourceRun → Bool) (f : SourceRun → SourceRun) (h : Reports p f) :
      QuietChange ν store (store.updateRun p f h.keepsKey)

def Quiet (ν : Type) [JsRuntime ν] : SourceStore → SourceStore → Prop :=
  Relation.ReflTransGen (QuietChange ν)

variable {ν : Type} [JsRuntime ν]

theorem QuietChange.quiet {store store' : SourceStore} (h : QuietChange ν store store') : Quiet ν store store' :=
  Relation.ReflTransGen.single h

theorem startSourceRun_reports (runId : String) (now : Int) :
    Reports (fun candidate => candidate.id = runId && candidate.status.active) (startSourceRun now) where
  keepsKey := ⟨fun _ => rfl⟩
  active _ h := by
    rw [Bool.and_eq_true] at h
    exact h.2
  unfinished _ h := by cases h
  frame _ := rfl

theorem failSourceRun_reports (failure : SourceRunFailure) :
    Reports (fun run => run.id = failure.sourceRunId && run.status.active) (failSourceRun failure) where
  keepsKey := ⟨fun _ => rfl⟩
  active _ h := by
    rw [Bool.and_eq_true] at h
    exact h.2
  unfinished _ h := by
    simp only [failSourceRun] at h
    split at h <;> cases h
  frame _ := rfl

theorem insertSourceDefinition_quiet {workspace workspace' : SourceWorkspace ν} {definition : SourceDefinition}
    (hwatermark : definition.incrementalWatermark = none) (hmapping : definition.fieldMapping = none)
    (hfull : definition.incremental = true → definition.missingRecordMode = .preserve)
    (h : insertSourceDefinition workspace definition = .ok workspace') :
    Quiet ν workspace.sources workspace'.sources := by
  simp only [insertSourceDefinition, except_bind_eq_ok, requireSome_eq_ok, pure, Except.pure, Except.ok.injEq] at h
  obtain ⟨_, _, definitions, hinsert, rfl⟩ := h
  exact (QuietChange.defined definition definitions hinsert hwatermark hmapping hfull).quiet

theorem createHttpJson_quiet {workspace workspace' : SourceWorkspace ν} {input : CreateHttpJsonSource}
    (h : createSqliteHttpJsonSource workspace input = .ok workspace') :
    Quiet ν workspace.sources workspace'.sources := by
  simp only [createSqliteHttpJsonSource, except_bind_eq_ok] at h
  obtain ⟨_, _, _, _, hinsert⟩ := h
  exact insertSourceDefinition_quiet rfl rfl (fun h => by cases h) hinsert

theorem createHubSpot_quiet {workspace workspace' : SourceWorkspace ν} {input : CreateHubSpotContactsSource}
    (h : createSqliteHubSpotContactsSource workspace input = .ok workspace') :
    Quiet ν workspace.sources workspace'.sources := by
  simp only [createSqliteHubSpotContactsSource, except_bind_eq_ok] at h
  obtain ⟨_, _, _, _, _, _, _, _, _, _, hinsert⟩ := h
  exact insertSourceDefinition_quiet rfl rfl (fun _ => rfl) hinsert

theorem setStatus_quiet {workspace workspace' : SourceWorkspace ν} {input : SetSourceStatus}
    (h : setSqliteSourceStatus workspace input = .ok workspace') : Quiet ν workspace.sources workspace'.sources := by
  simp only [setSqliteSourceStatus, except_bind_eq_ok, pure, Except.pure, Except.ok.injEq] at h
  obtain ⟨_, _, source, _, _, _, rfl⟩ := h
  exact (QuietChange.redefined source.id (setSourceStatus input) ⟨fun _ => rfl⟩ (fun _ => ⟨rfl, rfl, rfl, rfl, rfl, rfl⟩)
    (fun _ => rfl) fun _ => rfl).quiet

omit [JsRuntime ν] in
theorem insertSourceRun_sources {workspace workspace' : SourceWorkspace ν} {runs : Table SourceRun} {run : SourceRun}
    {eventId : String} {now : Int} (h : insertSourceRun workspace runs run eventId now = .ok workspace') :
    workspace'.sources = { workspace.sources with runs := runs } := by
  simp only [insertSourceRun, except_bind_eq_ok, pure, Except.pure, Except.ok.injEq] at h
  obtain ⟨_, _, rfl⟩ := h
  rfl

theorem queueManual_quiet {workspace workspace' : SourceWorkspace ν} {input : QueueManualSourceRun}
    (h : queueSqliteManualSourceRun workspace input = .ok workspace') :
    Quiet ν workspace.sources workspace'.sources := by
  simp only [queueSqliteManualSourceRun, except_bind_eq_ok, requireThat_eq_ok, requireSome_eq_ok] at h
  obtain ⟨_, _, source, hsource, _, _, _, hfree, incrementalWindow, hwindow, _, _, runs, hinsert, hrest⟩ := h
  simp only [requireAccessibleSource, requireSome_eq_ok] at hsource
  obtain ⟨hget, _⟩ := Option.filter_eq_some_iff.mp hsource
  have hid : source.id = input.sourceId := (Table.get?_eq_some.mp hget).2
  rw [Bool.not_eq_true'] at hfree
  rw [insertSourceRun_sources hrest]
  refine (QuietChange.queued _ source input.now runs ?_ hinsert).quiet
  exact ⟨hid ▸ hget, hfree, hwindow, rfl, rfl, rfl, rfl, rfl, rfl⟩

theorem queueScheduledRun_quiet {workspace workspace' : SourceWorkspace ν} {input : QueueDueSourceRuns}
    {source : SourceDefinition} {scheduledFor : Int} {intervalMinutes : Nat}
    (hget : workspace.sources.definitions.get? source.id = some source)
    (h : queueScheduledRun input source scheduledFor intervalMinutes workspace = .ok workspace') :
    Quiet ν workspace.sources workspace'.sources ∧ ∀ other, other ≠ source.id →
      workspace'.sources.definitions.get? other = workspace.sources.definitions.get? other := by
  simp only [queueScheduledRun, except_bind_eq_ok] at h
  obtain ⟨nextRunAt, _, h⟩ := h
  have hkeeps : KeepsKey fun candidate : SourceDefinition => { candidate with nextRunAt := some nextRunAt } :=
    ⟨fun _ => rfl⟩
  have hmoved : Quiet ν workspace.sources (workspace.sources.updateDefinition source.id _ hkeeps) :=
    (QuietChange.redefined source.id _ hkeeps (fun _ => ⟨rfl, rfl, rfl, rfl, rfl, rfl⟩) (fun _ => rfl) fun _ => rfl).quiet
  have hothers : ∀ other, other ≠ source.id →
      (workspace.sources.updateDefinition source.id _ hkeeps).definitions.get? other =
        workspace.sources.definitions.get? other := by
    intro other hother
    show (workspace.sources.definitions.modify _ _ hkeeps).get? other = _
    rw [Table.get?_modify]
    cases hdefinition : workspace.sources.definitions.get? other with
    | none => rfl
    | some definition =>
      have hid : definition.id = other := (Table.get?_eq_some.mp hdefinition).2
      rw [Option.map_some, if_neg (by simp [hid, hother])]
  split at h
  · cases h
    exact ⟨hmoved, hothers⟩
  · rename_i hfree
    simp only [except_bind_eq_ok] at h
    obtain ⟨incrementalWindow, hwindow, h⟩ := h
    split at h
    · cases h
      exact ⟨hmoved, hothers⟩
    · simp only [except_bind_eq_ok, requireSome_eq_ok] at h
      obtain ⟨runs, hinsert, h⟩ := h
      have hdefinition : (workspace.sources.updateDefinition source.id _ hkeeps).definitions.get? source.id =
          some { source with nextRunAt := some nextRunAt } := by
        show (workspace.sources.definitions.modify _ _ hkeeps).get? source.id = _
        rw [Table.get?_modify, hget, Option.map_some, if_pos (by simp)]
      rw [insertSourceRun_sources h]
      refine ⟨hmoved.trans (QuietChange.queued _ { source with nextRunAt := some nextRunAt } input.now runs ?_
        hinsert).quiet, hothers⟩
      exact ⟨hdefinition, Bool.eq_false_iff.mpr hfree, hwindow, rfl, rfl, rfl, rfl, rfl, rfl⟩

theorem queueDueSources_quiet {input : QueueDueSourceRuns} {sources : List SourceDefinition}
    {workspace workspace' : SourceWorkspace ν}
    (hget : ∀ source ∈ sources, workspace.sources.definitions.get? source.id = some source)
    (hnd : (sources.map SourceDefinition.id).Nodup) (h : queueDueSources input sources workspace = .ok workspace') :
    Quiet ν workspace.sources workspace'.sources := by
  induction sources generalizing workspace with
  | nil =>
    cases h
    exact Relation.ReflTransGen.refl
  | cons source sources ih =>
    obtain ⟨hfresh, hrest⟩ := List.nodup_cons.mp hnd
    simp only [queueDueSources, except_bind_eq_ok] at h
    obtain ⟨next, hnext, h⟩ := h
    have hstep : Quiet ν workspace.sources next.sources ∧ ∀ other, other ≠ source.id →
        next.sources.definitions.get? other = workspace.sources.definitions.get? other := by
      unfold queueDueSource at hnext
      split at hnext
      · exact queueScheduledRun_quiet (hget source List.mem_cons_self) hnext
      · cases hnext
        exact ⟨Relation.ReflTransGen.refl, fun _ _ => rfl⟩
    refine hstep.1.trans (ih ?_ hrest h)
    intro other hother
    rw [hstep.2 other.id fun hid => hfresh (hid ▸ List.mem_map_of_mem hother)]
    exact hget other (List.mem_cons_of_mem source hother)

theorem queueDue_quiet {workspace workspace' : SourceWorkspace ν} {input : QueueDueSourceRuns}
    (h : queueDueSqliteSourceRuns workspace input = .ok workspace') :
    Quiet ν workspace.sources workspace'.sources := by
  refine queueDueSources_quiet ?_ Table.nodup_selection h
  intro source hsource
  exact Table.get?_of_mem (Table.mem_selection hsource).1

theorem start_quiet {store : SourceStore} {sourceId sourceRunId : String} {now : Int}
    {result : SourceRunStart × SourceStore} (h : markSqliteSourceRunRunning store sourceId sourceRunId now = .ok result) :
    Quiet ν store result.2 := by
  simp only [markSqliteSourceRunRunning, except_bind_eq_ok] at h
  obtain ⟨run, _, h⟩ := h
  have hstarted : Quiet ν store (store.updateRun _ _ (startSourceRun_reports run.id now).keepsKey) :=
    (QuietChange.reported _ _ (startSourceRun_reports run.id now)).quiet
  cases hstatus : run.status with
  | queued | running =>
    rw [hstatus] at h
    cases h
    exact hstarted
  | failed =>
    rw [hstatus] at h
    cases h
  | succeeded | cancelled =>
    rw [hstatus] at h
    cases h
    exact Relation.ReflTransGen.refl

theorem fail_quiet (store : SourceStore) (failure : SourceRunFailure) :
    Quiet ν store (setSqliteSourceRunWorkerFailure store failure) :=
  (QuietChange.reported _ _ (failSourceRun_reports failure)).quiet

end Quiet

section Apply

variable {ν : Type} [JsRuntime ν]

structure PageApplied (workspace : SourceWorkspace ν) (input : SourcePage) (run : SourceRun)
    (source : SourceDefinition) (counts : PageCounts) (mapping : List SourceField)
    (workspace' : SourceWorkspace ν) : Prop where
  found : workspace.sources.runs.get? input.sourceRunId = some run
  sourceId : run.sourceId = input.sourceId
  running : run.status = .running
  defined : workspace.sources.definitions.get? input.sourceId = some source
  page : run.pageCount + 1 = input.expectedPage
  limit : run.receivedRecordCount + input.batch.records.length ≤ source.maxRecords
  applied : ∃ db, applyPageRecords workspace.db workspace.sources.records input source =
    .ok (counts, mapping, db, workspace'.sources.records) ∧ workspace'.db = { db with outbox := workspace'.db.outbox }
  definitions : workspace'.sources.definitions = workspace.sources.definitions.modify
    (fun candidate => candidate.id = input.sourceId) (advanceDefinition input run source mapping) ⟨fun _ => rfl⟩
  runs : workspace'.sources.runs = workspace.sources.runs.modify (checkpointedRun input run)
    (advanceSourceRun input counts) ⟨fun _ => rfl⟩

theorem pageToApply_eq_true {run : SourceRun} {source : SourceDefinition} {input : SourcePage}
    (h : pageToApply run source input = .ok true) :
    run.status = .running ∧ run.pageCount + 1 = input.expectedPage ∧
      run.receivedRecordCount + input.batch.records.length ≤ source.maxRecords := by
  unfold pageToApply at h
  split at h
  · cases h
  · simp only [except_bind_eq_ok, requireThat_eq_ok, decide_eq_true_eq] at h
    obtain ⟨_, hrunning, _, _, h⟩ := h
    split at h
    · cases h
    · simp only [except_bind_eq_ok, requireThat_eq_ok, decide_eq_true_eq] at h
      obtain ⟨_, hpage, _, hlimit, _⟩ := h
      exact ⟨hrunning, hpage, hlimit⟩

theorem applyPage_eq_ok {workspace workspace' : SourceWorkspace ν} {input : SourcePage}
    (h : applySqliteSourceRunPage workspace input = .ok workspace') :
    workspace' = workspace ∨
      ∃ run source counts mapping, PageApplied workspace input run source counts mapping workspace' := by
  simp only [applySqliteSourceRunPage, except_bind_eq_ok, requireSome_eq_ok] at h
  obtain ⟨run, hrun, source, hsource, toApply, hpage, h⟩ := h
  obtain ⟨hget, hscope⟩ := Option.filter_eq_some_iff.mp hrun
  simp only [Bool.and_eq_true, decide_eq_true_eq] at hscope
  cases toApply with
  | false =>
    cases h
    exact Or.inl rfl
  | true =>
    obtain ⟨hrunning, hexpected, hlimit⟩ := pageToApply_eq_true hpage
    simp only [if_true, except_bind_eq_ok, pure, Except.pure, Except.ok.injEq] at h
    obtain ⟨⟨counts, mapping, db, records⟩, happlied, events, _, rfl⟩ := h
    exact Or.inr ⟨run, source, counts, mapping, hget, hscope.1, hrunning, hsource, hexpected, hlimit,
      ⟨db, happlied, rfl⟩, rfl, rfl⟩

theorem step_sources (workspace : SourceWorkspace ν) (action : SourceAction ν) :
    Quiet ν workspace.sources (workspace.step action).sources ∨
      ∃ input run source counts mapping, action = .applyPage input ∧
        PageApplied workspace input run source counts mapping (workspace.step action) := by
  have hcommit : ∀ result : Except StoreError (SourceWorkspace ν),
      (∀ next, result = .ok next → Quiet ν workspace.sources next.sources) →
      Quiet ν workspace.sources (workspace.commit result).sources := by
    intro result hresult
    cases result with
    | error _ => exact Relation.ReflTransGen.refl
    | ok next => exact hresult next rfl
  cases action with
  | createHttpJson input =>
    exact Or.inl (hcommit (createSqliteHttpJsonSource workspace input) fun _ => createHttpJson_quiet)
  | createHubSpot input =>
    exact Or.inl (hcommit (createSqliteHubSpotContactsSource workspace input) fun _ => createHubSpot_quiet)
  | setStatus input => exact Or.inl (hcommit (setSqliteSourceStatus workspace input) fun _ => setStatus_quiet)
  | queueManual input => exact Or.inl (hcommit (queueSqliteManualSourceRun workspace input) fun _ => queueManual_quiet)
  | queueDue input => exact Or.inl (hcommit (queueDueSqliteSourceRuns workspace input) fun _ => queueDue_quiet)
  | start sourceId sourceRunId now =>
    left
    cases hok : markSqliteSourceRunRunning workspace.sources sourceId sourceRunId now with
    | error _ =>
      rw [SourceWorkspace.step, hok]
      exact Relation.ReflTransGen.refl
    | ok result =>
      rw [SourceWorkspace.step, hok]
      exact start_quiet hok
  | fail failure => exact Or.inl (fail_quiet workspace.sources failure)
  | applyPage input =>
    cases hok : applySqliteSourceRunPage workspace input with
    | error _ =>
      left
      rw [SourceWorkspace.step, hok]
      exact Relation.ReflTransGen.refl
    | ok workspace' =>
      rw [SourceWorkspace.step, hok]
      rcases applyPage_eq_ok hok with hsame | ⟨run, source, counts, mapping, happlied⟩
      · rw [hsame]
        exact Or.inl Relation.ReflTransGen.refl
      · exact Or.inr ⟨input, run, source, counts, mapping, rfl, happlied⟩
  | other db => exact Or.inl Relation.ReflTransGen.refl

end Apply

end ByokGrid
