import ByokGrid.DraftHistory

/-! The catalog of workflows is the store of drafts without layouts and digests: what an
editor commits, the catalog commits too. -/

namespace ByokGrid

section Forget

variable {ν : Type}

def StoredWorkflow.forget (workflow : StoredWorkflow ν) : Workflow ν where
  id := workflow.id
  name := workflow.name
  state := workflow.state
  draftGraph := workflow.draftGraph.graph
  draftRevision := workflow.draftRevision
  publishedVersion := workflow.publishedVersion

def StoredWorkflowVersion.forget (record : StoredWorkflowVersion ν) : WorkflowVersion ν where
  workflowId := record.workflowId
  version := record.version
  graph := record.graph.graph
  compiledPlan := some record.compiledPlan

structure Forgets (store : WorkflowStore ν) (catalog : WorkflowCatalog ν) : Prop where
  workflows : ∀ id, catalog.workflows.get? id = (store.workflows.get? id).map StoredWorkflow.forget
  versions : ∀ key, catalog.versions.get? key = (store.versions.get? key).map StoredWorkflowVersion.forget

theorem Forgets.nameFree {store : WorkflowStore ν} {catalog : WorkflowCatalog ν} (h : Forgets store catalog)
    {id name : String} (hfree : store.nameFree id name = true) : catalog.nameFree id name = true := by
  refine List.all_eq_true.mpr fun workflow hworkflow => ?_
  have hget : catalog.workflows.get? workflow.id = some workflow := Table.get?_of_mem hworkflow
  rw [h.workflows] at hget
  obtain ⟨stored, hstored, rfl⟩ := Option.map_eq_some_iff.mp hget
  exact List.all_eq_true.mp hfree stored (Table.get?_eq_some.mp hstored).1

end Forget

section Simulation

variable {ν : Type} [JsRuntime ν] [CountNumbers ν]

theorem withGraph_graph_of_shape {input : AuthoredWorkflowGraph ν} {graph : WorkflowGraph ν}
    (h : parseWorkflowGraphShape input.graph = some graph) : (input.withGraph graph).graph = graph := by
  have hlength := (parseWorkflowGraphShape_again h).1
  exact AuthoredWorkflowGraph.graph_withGraph (by simpa [AuthoredWorkflowGraph.graph] using hlength)

variable [NumberBounds ν]

theorem parseDefinitionRequest_forget {graph : AuthoredWorkflowGraph ν} {name : String}
    {definition : AuthoredWorkflowGraph ν × String} (h : parseDefinitionRequest graph name = .ok definition) :
    parseWorkflowDefinition graph.graph name = .ok (definition.1.graph, definition.2) := by
  unfold parseDefinitionRequest at h
  split at h
  · rename_i parsed value hparsed hname
    cases h
    obtain ⟨_, draft, hdraft, rfl⟩ := parseDraftGraph_eq_ok.mp hparsed
    have hshape := (workflowDraftGraphSchema_eq_ok.mp hdraft).1
    simp only [parseWorkflowDefinition, hdraft, hname, withGraph_graph_of_shape hshape]
  · cases h

variable {store next : WorkflowStore ν} {catalog : WorkflowCatalog ν} {userId : String}

theorem publishSqliteWorkflow_forgets (hforgets : Forgets store catalog) {workflowId : String} {expectedRevision : Nat}
    {summary : SqliteWorkflowSummary ν}
    (h : store.publishSqliteWorkflow userId workflowId expectedRevision = .ok (summary, next)) :
    ∃ catalog', publishSqliteWorkflow catalog workflowId expectedRevision = .ok catalog' ∧ Forgets next catalog' := by
  obtain ⟨current, graph, compiledPlan, hselected, rfl, hparsed, hcompiled, hversions, hworkflows⟩ :=
    publishSqliteWorkflow_ok h
  have hstored := (selectScopedWorkflow_eq_some.mp hselected).2
  have hid : current.id = workflowId := (Table.get?_eq_some.mp hstored).2
  obtain ⟨_, parsed, hschema, rfl⟩ := parsePublishableGraph_eq_ok.mp hparsed
  have hsame : (current.draftGraph.withGraph parsed).graph = parsed :=
    withGraph_graph_of_shape (workflowGraphSchema_eq_ok hschema).1
  have hplan : compileWorkflowGraph parsed = .ok compiledPlan := by
    unfold compileAuthoredGraph at hcompiled
    split at hcompiled
    · rwa [hsame] at hcompiled
    · cases hcompiled
  have hcatalog : catalog.workflows.get? workflowId = some current.forget := by
    rw [hforgets.workflows, hstored, Option.map_some]
  let record : WorkflowVersion ν :=
    (publishedVersionOf current (current.draftGraph.withGraph parsed) compiledPlan).forget
  have hfree : catalog.versions.get? (Keyed.key record) = none := by
    have hnew := (Table.insert_eq_some hversions).2
    rw [hforgets.versions]
    exact Option.map_eq_none_iff.mpr hnew
  obtain ⟨versions, hinsert⟩ := insert_isSome hfree
  have hrecord : record = ⟨current.id, current.publishedVersion.getD 0 + 1, parsed, some compiledPlan⟩ := by
    simp only [record, StoredWorkflowVersion.forget, publishedVersionOf, hsame]
  refine ⟨{
    versions := versions
    workflows := catalog.workflows.modify (fun w => w.id = workflowId) (fun w =>
      { w with publishedVersion := some current.nextVersion, state := .active }) ⟨fun _ => rfl⟩ }, ?_, ?_, ?_⟩
  · rw [hrecord] at hinsert
    simp only [publishSqliteWorkflow, hcatalog, requireSome, StoredWorkflow.forget, requireThat, decide_true, if_true,
      hschema, hplan, hinsert, bind, Except.bind, pure, Except.pure, StoredWorkflow.nextVersion]
  · intro other
    have hnext := hworkflows other
    rw [← Table.get?_modify_key (p := fun w => w.id = workflowId)
      (f := fun w => w.withVersion current.nextVersion) ⟨fun _ => rfl⟩ hstored (decide_eq_true hid)
      (fun _ h => of_decide_eq_true h)] at hnext
    rw [hnext]
    exact Table.get?_modify_map (p := fun w => w.id = workflowId) (q := fun w => w.id = workflowId)
      (f := fun w => w.withVersion current.nextVersion)
      (e := fun w => { w with publishedVersion := some current.nextVersion, state := .active })
      ⟨fun _ => rfl⟩ ⟨fun _ => rfl⟩ hforgets.workflows (fun _ => rfl) (fun _ => rfl) other
  · exact Table.get?_insert_map hforgets.versions rfl hversions hinsert

variable [ConnectorRuntime ν]

theorem createSqliteWorkflow_forgets (hforgets : Forgets store catalog) {id name : String}
    {graph : AuthoredWorkflowGraph ν} {summary : SqliteWorkflowSummary ν}
    (h : store.createSqliteWorkflow userId id name graph = .ok (summary, next)) :
    ∃ catalog', createSqliteWorkflow catalog id name graph.graph = .ok catalog' ∧ Forgets next catalog' := by
  unfold WorkflowStore.createSqliteWorkflow at h
  simp only [except_bind_eq_ok, requireThat_eq_ok, requireSome_eq_ok] at h
  obtain ⟨definition, hdefinition, _, -, _, hname, workflows, hworkflows, _, -, hnext⟩ := h
  cases hnext
  have hfree : catalog.workflows.get? id = none := by
    rw [hforgets.workflows]
    exact Option.map_eq_none_iff.mpr (Table.insert_eq_some hworkflows).2
  obtain ⟨workflows', hinsert⟩ :=
    insert_isSome (x := (firstDraft id definition.2 definition.1).forget) hfree
  refine ⟨{ catalog with workflows := workflows' }, ?_, fun other => ?_, hforgets.versions⟩
  · have hcreated : workflows' = workflows' ∧ catalog.workflows.insert
        ⟨id, definition.2, .draft, definition.1.graph, 1, none⟩ = some workflows' := ⟨rfl, hinsert⟩
    simp only [createSqliteWorkflow, parseDefinitionRequest_forget hdefinition, requireThat, hforgets.nameFree hname,
      if_true, hcreated.2, requireSome, bind, Except.bind, pure, Except.pure]
  · exact Table.get?_insert_map hforgets.workflows rfl hworkflows hinsert other

theorem updateSqliteWorkflowDraft_forgets (hforgets : Forgets store catalog) {workflowId name : String}
    {expectedRevision : Nat} {graph : AuthoredWorkflowGraph ν}
    (h : store.updateSqliteWorkflowDraft userId workflowId name expectedRevision graph = .ok next) :
    ∃ catalog', updateSqliteWorkflowDraft catalog workflowId name expectedRevision graph.graph = .ok catalog' ∧
      Forgets next catalog' := by
  unfold WorkflowStore.updateSqliteWorkflowDraft at h
  simp only [except_bind_eq_ok, requireThat_eq_ok] at h
  obtain ⟨_, hexpected, definition, hdefinition, hrest⟩ := h
  split at hrest
  · cases hrest
  · rename_i workflow hselected
    simp only [except_bind_eq_ok, requireThat_eq_ok] at hrest
    obtain ⟨_, hrevision, _, hname, hnext⟩ := hrest
    cases hnext
    have hstored := (selectScopedWorkflow_eq_some.mp hselected).2
    have hid : workflow.id = workflowId := (Table.get?_eq_some.mp hstored).2
    have hcatalog : catalog.workflows.get? workflowId = some workflow.forget := by
      rw [hforgets.workflows, hstored, Option.map_some]
    refine ⟨{ catalog with workflows := catalog.workflows.modify (fun w => w.id = workflowId) (fun w =>
      { w with draftGraph := definition.1.graph, draftRevision := w.draftRevision + 1, name := definition.2 }) ⟨fun _ => rfl⟩ },
      ?_, fun other => ?_, hforgets.versions⟩
    · have hforgotten : decide (workflow.forget.draftRevision = expectedRevision) = true := hrevision
      simp only [updateSqliteWorkflowDraft, requireThat, hexpected, if_true, parseDefinitionRequest_forget hdefinition,
        hcatalog, hforgotten, hforgets.nameFree hname, bind, Except.bind, pure, Except.pure]
    · exact Table.get?_modify_map (p := fun w => w.id = workflowId) (q := fun w => w.id = workflowId)
        (f := fun w => w.withDraft definition.2 definition.1)
        (e := fun w => { w with
          draftGraph := definition.1.graph, draftRevision := w.draftRevision + 1, name := definition.2 })
        ⟨fun _ => rfl⟩ ⟨fun _ => rfl⟩ hforgets.workflows (fun _ => rfl) (fun _ => rfl) other

/-- An edit as the catalog commits it: without the layout of its graph, and by whoever it was made. -/
def WorkflowCatalog.commit (catalog : WorkflowCatalog ν) : EditorAction ν → Except StoreError (WorkflowCatalog ν)
  | .create _ id name graph => createSqliteWorkflow catalog id name graph.graph
  | .update _ workflowId name expectedRevision graph =>
    updateSqliteWorkflowDraft catalog workflowId name expectedRevision graph.graph
  | .publish _ workflowId expectedRevision => publishSqliteWorkflow catalog workflowId expectedRevision
  | .setMembers _ => .ok catalog

theorem commit_forgets (hforgets : Forgets store catalog) {action : EditorAction ν} (h : store.commit action = .ok next) :
    ∃ catalog', catalog.commit action = .ok catalog' ∧ Forgets next catalog' := by
  cases action with
  | create userId id name graph =>
    obtain ⟨⟨summary, created⟩, hcreated, hnext⟩ := except_map_eq_ok.mp h
    subst hnext
    exact createSqliteWorkflow_forgets hforgets hcreated
  | update userId workflowId name expectedRevision graph => exact updateSqliteWorkflowDraft_forgets hforgets h
  | publish userId workflowId expectedRevision =>
    obtain ⟨⟨summary, published⟩, hpublished, hnext⟩ := except_map_eq_ok.mp h
    subst hnext
    exact publishSqliteWorkflow_forgets hforgets hpublished
  | setMembers members =>
    cases h
    exact ⟨catalog, rfl, hforgets.workflows, hforgets.versions⟩

def acceptedEdits (store : WorkflowStore ν) (actions : List (EditorAction ν)) : List (EditorAction ν) :=
  runOutputs WorkflowStore.step (fun store action => if (store.commit action).isOk then [action] else []) store actions

theorem acceptedEdits_forgets (hforgets : Forgets store catalog) (actions : List (EditorAction ν)) :
    ∃ catalog', (acceptedEdits store actions).foldlM WorkflowCatalog.commit catalog = .ok catalog' ∧
      Forgets (runActions WorkflowStore.step store actions) catalog' := by
  induction actions generalizing store catalog with
  | nil => exact ⟨catalog, rfl, hforgets⟩
  | cons action actions ih =>
    cases hcommit : store.commit action with
    | error error =>
      have hstep : store.step action = store := by rw [WorkflowStore.step, hcommit]
      obtain ⟨catalog', hrest, hlast⟩ := ih hforgets
      refine ⟨catalog', ?_, ?_⟩
      · rw [acceptedEdits, runOutputs, hcommit, hstep]
        exact hrest
      · change Forgets (runActions WorkflowStore.step (store.step action) actions) catalog'
        rw [hstep]
        exact hlast
    | ok next =>
      have hstep : store.step action = next := by rw [WorkflowStore.step, hcommit]
      obtain ⟨middle, hmiddle, hforgets'⟩ := commit_forgets hforgets hcommit
      obtain ⟨catalog', hrest, hlast⟩ := ih hforgets'
      refine ⟨catalog', ?_, ?_⟩
      · rw [acceptedEdits, runOutputs, hcommit, hstep]
        change (catalog.commit action >>= fun catalog => (acceptedEdits next actions).foldlM WorkflowCatalog.commit catalog) = _
        rw [hmiddle]
        exact hrest
      · change Forgets (runActions WorkflowStore.step (store.step action) actions) catalog'
        rw [hstep]
        exact hlast

/-- Whatever editors do, the catalog commits the edits which the store accepted, in their order, and holds the same
workflows and versions. -/
theorem editor_run_replayed (actions : List (EditorAction ν)) :
    ∃ catalog, (acceptedEdits WorkflowStore.empty actions).foldlM WorkflowCatalog.commit WorkflowCatalog.empty = .ok catalog ∧
      Forgets (editorRun actions) catalog :=
  acceptedEdits_forgets ⟨fun _ => rfl, fun _ => rfl⟩ actions

end Simulation

end ByokGrid
