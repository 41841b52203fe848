import ByokGrid.CellRunEffects
import ByokGrid.Settlements

/-! The connectors a settlement queues: when each of them can take a run, and
that one which cannot stops the whole settlement. -/

namespace ByokGrid

section Ready

variable {ν : Type} [JsRuntime ν]

def bindingReady (grid : Grid ν) (rowId : String) : ConnectorActionInputBinding ν → Bool
  | .literal _ => true
  | .column columnId => (readSourceCellValue (grid.storedValue rowId columnId)).isSome

def ConnectorActionConfiguration.ready (configuration : ConnectorActionConfiguration ν) (db : Database ν)
    (rowId : String) : Bool :=
  !connectorExecutionIsRevoked ⟨configuration.artifactSha256, configuration.connectorId,
      configuration.connectorVersion, configuration.publisherKeyIds⟩
    (db.connectorRevocations.records.filter fun revocation => revocation.liftedAt.isNone) &&
  configuration.credentialId.all (usableCredential db.credentials configuration.connectorId) &&
  configuration.inputBindings.all fun binding => bindingReady db.grid rowId binding.2

def dependentReady (db : Database ν) (tableId rowId columnId : String) : Bool :=
  ((enrichmentTarget db.grid columnId rowId tableId).bind ColumnConfiguration.connectorAction?).any fun configuration =>
    configuration.ready db rowId

theorem actionInput_isOk (grid : Grid ν) (rowId : String) (bindings : List (String × ConnectorActionInputBinding ν)) :
    (∃ fields, actionInput grid rowId bindings = .ok fields) ↔
      bindings.all (fun binding => bindingReady grid rowId binding.2) = true := by
  induction bindings with
  | nil => simp [actionInput]
  | cons binding bindings ih =>
    obtain ⟨key, binding⟩ := binding
    have hvalue : (∃ value, actionInputValue grid rowId key binding = .ok value) ↔
        bindingReady grid rowId binding = true := by
      cases binding with
      | literal value => simp [actionInputValue, bindingReady]
      | column columnId =>
        simp only [actionInputValue, requireSome_eq_ok, bindingReady]
        exact Option.isSome_iff_exists.symm
    simp only [actionInput, except_bind_eq_ok, pure, Except.pure, Except.ok.injEq, List.all_cons, Bool.and_eq_true]
    rw [← ih, ← hvalue]
    constructor
    · intro hfields
      obtain ⟨_, value, hok, fields, hrest, _⟩ := hfields
      exact ⟨⟨value, hok⟩, fields, hrest⟩
    · intro hfields
      obtain ⟨⟨value, hok⟩, fields, hrest⟩ := hfields
      exact ⟨(key, value) :: fields, value, hok, fields, hrest, rfl⟩

theorem sortedBindings_all (configuration : ConnectorActionConfiguration ν)
    (p : String × ConnectorActionInputBinding ν → Bool) :
    (sortedBindings configuration).all p = configuration.inputBindings.all p := by
  have hperm : (sortedBindings configuration).Perm configuration.inputBindings := List.perm_insertionSort _ _
  rw [Bool.eq_iff_iff, List.all_eq_true, List.all_eq_true]
  constructor
  · intro hall binding hbinding
    exact hall binding (hperm.mem_iff.mpr hbinding)
  · intro hall binding hbinding
    exact hall binding (hperm.mem_iff.mp hbinding)

omit [JsRuntime ν] in
theorem prepareTargetCell_isOk (grid : Grid ν) (rowId columnId : String) :
    (∃ grid', prepareTargetCell grid rowId columnId = .ok grid') ↔ activeCell grid rowId columnId = false := by
  unfold prepareTargetCell activeCell
  cases grid.cells rowId columnId with
  | none => simp
  | some cell =>
    cases hactive : cell.status.active with
    | true => simp [hactive]
    | false => simp [hactive]

omit [JsRuntime ν] in
theorem prepareTargetCell_storedValue {grid grid' : Grid ν} {rowId columnId : String}
    (h : prepareTargetCell grid rowId columnId = .ok grid') (r c : String) :
    grid'.storedValue r c = grid.storedValue r c := by
  by_cases hcell : r = rowId ∧ c = columnId
  · obtain ⟨rfl, rfl⟩ := hcell
    unfold prepareTargetCell at h
    unfold Grid.storedValue
    split at h
    · rename_i hnone
      cases h
      rw [Grid.setCell_self, hnone]
      rfl
    · rename_i cell hsome
      split at h
      · cases h
      · cases h
        rw [Grid.setCell_self, hsome]
        rfl
  · obtain ⟨_, cell, _, rfl⟩ := prepareTargetCell_eq_ok h
    rw [Grid.storedValue, Grid.storedValue, Grid.setCell_of_ne _ _ _ _ hcell]

end Ready

section Dependent

variable {ν : Type} [JsRuntime ν] [ConnectorRuntime ν]

structure DependentQueued (db : Database ν) (rowId columnId runId eventId : String) (db' : Database ν) : Prop where
  queued : QueuedRun db columnId rowId runId db'
  values : ∀ r c, db'.grid.storedValue r c = db.grid.storedValue r c
  event : ∃ event : OutboxEvent, event.id = eventId ∧ db.outbox.insert event = some db'.outbox

def runEvent (input : QueueCellRun) (run : CellRun ν) : OutboxEvent :=
  { id := input.eventId, payload := .cellRunRequested run.durableInput, createdAt := input.now }

omit [JsRuntime ν] [ConnectorRuntime ν] in
theorem insertCellRun_isOk {db : Database ν} {input : QueueCellRun} {run : CellRun ν} (hdispatch : input.dispatch = true)
    (hid : run.id = input.runId) (hrun : db.cellRuns.get? input.runId = none)
    (hevent : db.outbox.get? input.eventId = none) : (∃ result, insertCellRun db input run = .ok result) ↔ activeCell db.grid input.rowId input.columnId = false := by
  rw [← prepareTargetCell_isOk]
  constructor
  · intro hok
    obtain ⟨result, hresult⟩ := hok
    simp only [insertCellRun, except_bind_eq_ok] at hresult
    obtain ⟨grid, hgrid, _⟩ := hresult
    exact ⟨grid, hgrid⟩
  · intro hok
    obtain ⟨grid, hgrid⟩ := hok
    rw [← hid] at hrun
    obtain ⟨runs, hruns⟩ : ∃ runs, db.cellRuns.insert run = some runs := insert_isSome hrun
    obtain ⟨events, hevents⟩ : ∃ events, db.outbox.insert (runEvent input run) = some events := insert_isSome hevent
    refine ⟨(run.durableInput, { db with grid := grid, cellRuns := runs, outbox := events }), ?_⟩
    simp only [runEvent] at hevents
    simp only [insertCellRun, hgrid, hruns, if_pos hdispatch, hevents, requireSome]
    rfl

omit [JsRuntime ν] [ConnectorRuntime ν] in
theorem insertCellRun_event {db db' : Database ν} {input : QueueCellRun} {run : CellRun ν} {output : CellRunInput}
    (hdispatch : input.dispatch = true) (h : insertCellRun db input run = .ok (output, db')) :
    (∀ r c, db'.grid.storedValue r c = db.grid.storedValue r c) ∧
      ∃ event : OutboxEvent, event.id = input.eventId ∧ db.outbox.insert event = some db'.outbox := by
  simp only [insertCellRun, except_bind_eq_ok, requireSome_eq_ok] at h
  obtain ⟨grid, hgrid, runs, hruns, h⟩ := h
  rw [if_pos hdispatch] at h
  simp only [except_bind_eq_ok, requireSome_eq_ok, pure, Except.pure, Except.ok.injEq, Prod.mk.injEq] at h
  obtain ⟨events, hevents, _, rfl⟩ := h
  exact ⟨prepareTargetCell_storedValue hgrid, _, rfl, hevents⟩

def ActionColumn (db : Database ν) (columnId : String) : Prop :=
  ∃ column configuration, db.grid.columns.get? columnId = some column ∧
    column.configuration = .connectorAction configuration

omit [JsRuntime ν] [ConnectorRuntime ν] in
theorem enrichmentTarget_action {db : Database ν} {tableId rowId columnId : String}
    {configuration : ColumnConfiguration ν} (haction : ActionColumn db columnId)
    (h : enrichmentTarget db.grid columnId rowId tableId = some configuration) :
    ∃ action, configuration = .connectorAction action := by
  obtain ⟨column, action, hget, hcolumn⟩ := haction
  obtain ⟨found, hfound, rfl⟩ := Option.map_eq_some_iff.mp h
  obtain ⟨hsome, _⟩ := Option.filter_eq_some_iff.mp hfound
  rw [hget, Option.some.injEq] at hsome
  subst hsome
  exact ⟨action, hcolumn⟩

def actionRun (input : QueueCellRun) (configuration : ConnectorActionConfiguration ν) (fields : List (String × Json ν)) :
    CellRun ν where
  id := input.runId
  rowId := input.rowId
  columnId := input.columnId
  credentialId := configuration.credentialId
  connectorId := configuration.connectorId
  connectorVersion := configuration.connectorVersion
  artifactSha256 := configuration.artifactSha256
  publisherKeyIds := configuration.publisherKeyIds
  actionId := configuration.actionId
  input := (Json.object fields).stringify
  inputFingerprint := ConnectorRuntime.sha256 ν (Json.object fields).stringify
  allowedHosts := []

theorem queueConnectorAction_isOk {db : Database ν} {input : QueueCellRun}
    {configuration : ConnectorActionConfiguration ν} (hdispatch : input.dispatch = true)
    (hrun : db.cellRuns.get? input.runId = none) (hevent : db.outbox.get? input.eventId = none) :
    (∃ result, queueConnectorAction db input configuration = .ok result) ↔
      configuration.ready db input.rowId = true ∧ activeCell db.grid input.rowId input.columnId = false := by
  simp only [queueConnectorAction, requireSqliteConnectorExecutionAllowed, except_bind_eq_ok, requireThat_eq_ok,
    ConnectorActionConfiguration.ready, Bool.and_eq_true]
  rw [← sortedBindings_all, ← actionInput_isOk]
  constructor
  · intro hok
    obtain ⟨result, _, hallowed, _, hcredential, fields, hfields, hinsert⟩ := hok
    have hid : (actionRun input configuration fields).id = input.runId := rfl
    exact ⟨⟨⟨hallowed, hcredential⟩, fields, hfields⟩,
      (insertCellRun_isOk hdispatch hid hrun hevent).mp ⟨result, hinsert⟩⟩
  · intro hok
    obtain ⟨⟨⟨hallowed, hcredential⟩, fields, hfields⟩, hfree⟩ := hok
    have hid : (actionRun input configuration fields).id = input.runId := rfl
    obtain ⟨result, hinsert⟩ := (insertCellRun_isOk hdispatch hid hrun hevent).mpr hfree
    exact ⟨result, (), hallowed, (), hcredential, fields, hfields, hinsert⟩

theorem queueAutomatic_isOk {db : Database ν} {input : QueueAutomatically} (haction : ActionColumn db input.columnId)
    (hrun : db.cellRuns.get? input.runId = none) (hevent : db.outbox.get? input.eventId = none) :
    (∃ result, queueAutomaticSqliteEnrichmentCellRunInTransaction db input = .ok result) ↔
      dependentReady db input.tableId input.rowId input.columnId = true ∧
        activeCell db.grid input.rowId input.columnId = false := by
  simp only [queueAutomaticSqliteEnrichmentCellRunInTransaction, queueConnectorActionRun, except_bind_eq_ok,
    requireSome_eq_ok, dependentReady]
  cases htarget : enrichmentTarget db.grid input.columnId input.rowId input.tableId with
  | none => simp
  | some configuration =>
    obtain ⟨action, rfl⟩ := enrichmentTarget_action haction htarget
    rw [show ((some (ColumnConfiguration.connectorAction action)).bind ColumnConfiguration.connectorAction?) =
      some action from rfl, Option.any_some]
    have hqueue := @queueConnectorAction_isOk ν _ _ db
      { columnId := input.columnId, rowId := input.rowId, tableId := input.tableId, runId := input.runId,
        dispatch := true, eventId := input.eventId, now := input.now } action rfl hrun hevent
    constructor
    · intro hok
      obtain ⟨result, configuration, hsame, hresult⟩ := hok
      cases hsame
      exact hqueue.mp ⟨result, hresult⟩
    · intro hready
      obtain ⟨result, hresult⟩ := hqueue.mpr hready
      exact ⟨result, _, rfl, hresult⟩

theorem queueAutomatic_eq_ok {db db' : Database ν} {input : QueueAutomatically} {output : CellRunInput}
    (haction : ActionColumn db input.columnId)
    (h : queueAutomaticSqliteEnrichmentCellRunInTransaction db input = .ok (output, db')) :
    DependentQueued db input.rowId input.columnId input.runId input.eventId db' := by
  have hqueued := queueConnectorActionRun_eq_ok h
  simp only [queueAutomaticSqliteEnrichmentCellRunInTransaction, queueConnectorActionRun, except_bind_eq_ok,
    requireSome_eq_ok] at h
  obtain ⟨configuration, htarget, h⟩ := h
  obtain ⟨action, rfl⟩ := enrichmentTarget_action haction htarget
  simp only [queueConnectorAction, except_bind_eq_ok] at h
  obtain ⟨_, _, _, _, _, _, hinsert⟩ := h
  obtain ⟨hvalues, hevent⟩ := insertCellRun_event rfl hinsert
  exact ⟨hqueued, hvalues, hevent⟩

structure DispatchFrame (db db' : Database ν) : Prop where
  frame : db' = { db with grid := db'.grid, cellRuns := db'.cellRuns, outbox := db'.outbox }
  grid : db'.grid = { db.grid with cells := db'.grid.cells }
  values : ∀ r c, db'.grid.storedValue r c = db.grid.storedValue r c

omit [JsRuntime ν] [ConnectorRuntime ν] in
theorem DependentQueued.dispatchFrame {db db' : Database ν} {rowId columnId runId eventId : String}
    (h : DependentQueued db rowId columnId runId eventId db') : DispatchFrame db db' := by
  obtain ⟨cell, _, hgrid⟩ := h.queued.cell
  refine ⟨h.queued.frame, ?_, h.values⟩
  rw [hgrid]
  rfl

omit [ConnectorRuntime ν] in
theorem DispatchFrame.ready {db db' : Database ν} (h : DispatchFrame db db') (tableId rowId columnId : String) :
    dependentReady db' tableId rowId columnId = dependentReady db tableId rowId columnId := by
  have hbinding : ∀ binding, bindingReady db'.grid rowId binding = bindingReady db.grid rowId binding := by
    intro binding
    cases binding with
    | literal _ => rfl
    | column source => rw [bindingReady, bindingReady, h.values]
  have hready : ∀ configuration : ConnectorActionConfiguration ν,
      configuration.ready db' rowId = configuration.ready db rowId := by
    intro configuration
    unfold ConnectorActionConfiguration.ready
    simp only [hbinding]
    rw [h.frame]
  unfold dependentReady
  have htarget : enrichmentTarget db'.grid columnId rowId tableId = enrichmentTarget db.grid columnId rowId tableId := by
    rw [h.grid]
    rfl
  rw [htarget]
  congr 1
  funext configuration
  exact hready configuration

omit [JsRuntime ν] [ConnectorRuntime ν] in
theorem DispatchFrame.action {db db' : Database ν} (h : DispatchFrame db db') {columnId : String}
    (haction : ActionColumn db columnId) : ActionColumn db' columnId := by
  obtain ⟨column, configuration, hget, hcolumn⟩ := haction
  refine ⟨column, configuration, ?_, hcolumn⟩
  rw [h.grid]
  exact hget

omit [JsRuntime ν] [ConnectorRuntime ν] in
theorem DependentQueued.activeCell_other {db db' : Database ν} {rowId columnId runId eventId : String}
    (h : DependentQueued db rowId columnId runId eventId db') {other : String} (hother : other ≠ columnId) :
    activeCell db'.grid rowId other = activeCell db.grid rowId other := by
  obtain ⟨cell, _, hgrid⟩ := h.queued.cell
  rw [activeCell, activeCell, hgrid, Grid.setCell_of_ne _ _ _ _ fun hboth => hother hboth.2]

structure FreshDispatch (db : Database ν) (stamp : SettlementStamp) (columnIds : List String) : Prop where
  runs : ∀ columnId ∈ columnIds, db.cellRuns.get? (stamp.runId columnId) = none
  events : ∀ columnId ∈ columnIds, db.outbox.get? (stamp.runEventId columnId) = none
  runIds : (columnIds.map stamp.runId).Nodup
  eventIds : (columnIds.map stamp.runEventId).Nodup

omit [JsRuntime ν] [ConnectorRuntime ν] in
theorem FreshDispatch.tail {db db' : Database ν} {stamp : SettlementStamp} {rowId columnId : String}
    {columnIds : List String} (h : FreshDispatch db stamp (columnId :: columnIds))
    (hqueued : DependentQueued db rowId columnId (stamp.runId columnId) (stamp.runEventId columnId) db') :
    FreshDispatch db' stamp columnIds := by
  obtain ⟨hrunFresh, hruns⟩ := List.nodup_cons.mp h.runIds
  obtain ⟨heventFresh, hevents⟩ := List.nodup_cons.mp h.eventIds
  obtain ⟨run, hid, _, _, _, hinsert⟩ := hqueued.queued.run
  obtain ⟨event, hevent, hoinsert⟩ := hqueued.event
  refine ⟨?_, ?_, hruns, hevents⟩
  · intro other hother
    rw [Table.get?_insert hinsert, if_neg]
    · exact h.runs other (List.mem_cons_of_mem columnId hother)
    · intro hsame
      rw [show Keyed.key run = run.id from rfl, hid] at hsame
      exact hrunFresh (hsame ▸ List.mem_map_of_mem hother)
  · intro other hother
    rw [Table.get?_insert hoinsert, if_neg]
    · exact h.events other (List.mem_cons_of_mem columnId hother)
    · intro hsame
      rw [show Keyed.key event = event.id from rfl, hevent] at hsame
      exact heventFresh (hsame ▸ List.mem_map_of_mem hother)

theorem queueDependents_isOk {db : Database ν} {settlement : RowSettlement} {stamp : SettlementStamp}
    {columnIds : List String} (hnd : columnIds.Nodup) (haction : ∀ columnId ∈ columnIds, ActionColumn db columnId)
    (hfree : ∀ columnId ∈ columnIds, activeCell db.grid settlement.rowId columnId = false)
    (hfresh : FreshDispatch db stamp columnIds) :
    (∃ db', queueDependents settlement stamp columnIds db = .ok db') ↔
      ∀ columnId ∈ columnIds, dependentReady db settlement.tableId settlement.rowId columnId = true := by
  induction columnIds generalizing db with
  | nil => simp [queueDependents]
  | cons columnId columnIds ih =>
    obtain ⟨hnew, hrest⟩ := List.nodup_cons.mp hnd
    have hhead := @queueAutomatic_isOk ν _ _ db (dependentInput settlement stamp columnId)
      (haction columnId List.mem_cons_self) (hfresh.runs columnId List.mem_cons_self)
      (hfresh.events columnId List.mem_cons_self)
    have hcell : activeCell db.grid settlement.rowId columnId = false := hfree columnId List.mem_cons_self
    -- the rest of the loop runs on a store in which the other columns are as before
    have hloop : ∀ output db', queueAutomaticSqliteEnrichmentCellRunInTransaction db
        (dependentInput settlement stamp columnId) = .ok (output, db') →
        ((∃ db'', queueDependents settlement stamp columnIds db' = .ok db'') ↔
          ∀ other ∈ columnIds, dependentReady db settlement.tableId settlement.rowId other = true) := by
      intro output db' hok
      have hqueued := queueAutomatic_eq_ok (haction columnId List.mem_cons_self) hok
      have hframe := hqueued.dispatchFrame
      rw [ih hrest (fun other hother => hframe.action (haction other (List.mem_cons_of_mem columnId hother))) _
        (hfresh.tail hqueued)]
      · simp only [hframe.ready]
      · intro other hother
        have hne : other ≠ columnId := fun heq => hnew (heq ▸ hother)
        exact (hqueued.activeCell_other hne).trans (hfree other (List.mem_cons_of_mem columnId hother))
    simp only [queueDependents, except_bind_eq_ok]
    rw [List.forall_mem_cons]
    constructor
    · intro hok
      obtain ⟨db'', ⟨output, db'⟩, hqueue, hdependents⟩ := hok
      exact ⟨(hhead.mp ⟨_, hqueue⟩).1, (hloop output db' hqueue).mp ⟨db'', hdependents⟩⟩
    · intro hready
      obtain ⟨⟨output, db'⟩, hqueue⟩ := hhead.mpr ⟨hready.1, hcell⟩
      obtain ⟨db'', hdependents⟩ := (hloop output db' hqueue).mpr hready.2
      exact ⟨db'', (output, db'), hqueue, hdependents⟩

structure DependentsQueued (db : Database ν) (rowId : String) (columnIds : List String) (db' : Database ν) : Prop where
  frame : db' = { db with grid := db'.grid, cellRuns := db'.cellRuns, outbox := db'.outbox }
  kept : ∀ run ∈ db.cellRuns, run ∈ db'.cellRuns
  queued : ∀ columnId ∈ columnIds, ∃ run ∈ db'.cellRuns, run.rowId = rowId ∧ run.columnId = columnId ∧
    run.status = .queued

theorem queueDependents_eq_ok {db db' : Database ν} {settlement : RowSettlement} {stamp : SettlementStamp}
    {columnIds : List String} (h : queueDependents settlement stamp columnIds db = .ok db') :
    DependentsQueued db settlement.rowId columnIds db' := by
  induction columnIds generalizing db with
  | nil =>
    cases h
    exact ⟨rfl, fun _ hrun => hrun, nofun⟩
  | cons columnId columnIds ih =>
    simp only [queueDependents, except_bind_eq_ok] at h
    obtain ⟨⟨output, next⟩, hqueue, hrest⟩ := h
    have hqueued := queueConnectorActionRun_eq_ok hqueue
    obtain ⟨run, _, hrow, hcolumn, hstatus, hinsert⟩ := hqueued.run
    have hdone := ih hrest
    refine ⟨?_, ?_, ?_⟩
    · rw [hdone.frame, hqueued.frame]
    · intro other hother
      exact hdone.kept other ((Table.mem_insert hinsert).mpr (Or.inl hother))
    · intro other hother
      rcases List.mem_cons.mp hother with rfl | hlater
      · exact ⟨run, hdone.kept run ((Table.mem_insert hinsert).mpr (Or.inr rfl)), hrow, hcolumn, hstatus⟩
      · exact hdone.queued other hlater

end Dependent

end ByokGrid
