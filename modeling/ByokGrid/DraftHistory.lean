import ByokGrid.DraftSchemas
import ByokGrid.Transition

/-! Editors save and publish the drafts of a workspace in any order. The saves of a
workflow form one chain of revisions, its publications one chain of versions, and a
version holds the confirmed draft with its names trimmed. -/

namespace ByokGrid

section Commits

variable {ν : Type}

theorem selectScopedWorkflow_eq_some {store : WorkflowStore ν} {userId : String} {workflowId : String} {workflow : StoredWorkflow ν} :
    store.selectScopedWorkflow userId workflowId = some workflow ↔
      userId ∈ store.members ∧ store.workflows.get? workflowId = some workflow := by
  simp [WorkflowStore.selectScopedWorkflow]

variable [JsRuntime ν] [NumberBounds ν] [CountNumbers ν]

theorem parseDefinitionRequest_eq_ok {graph : AuthoredWorkflowGraph ν} {name : String}
    {definition : AuthoredWorkflowGraph ν × String} (h : parseDefinitionRequest graph name = .ok definition) :
    AcceptedDraft definition.1 := by
  unfold parseDefinitionRequest at h
  split at h
  · rename_i parsed _ hparsed _
    cases h
    exact ⟨graph, hparsed⟩
  · cases h

variable {store next : WorkflowStore ν} {userId : String}

def StoredWorkflow.withVersion (workflow : StoredWorkflow ν) (version : Nat) : StoredWorkflow ν :=
  { workflow with publishedVersion := some version, state := .active }

def StoredWorkflow.nextVersion (workflow : StoredWorkflow ν) : Nat :=
  workflow.publishedVersion.getD 0 + 1

theorem publishSqliteWorkflow_ok {workflowId : String} {expectedRevision : Nat} {summary : SqliteWorkflowSummary ν}
    (h : store.publishSqliteWorkflow userId workflowId expectedRevision = .ok (summary, next)) :
    ∃ current graph compiledPlan, store.selectScopedWorkflow userId workflowId = some current ∧
      current.draftRevision = expectedRevision ∧ parsePublishableGraph current.draftGraph = .ok graph ∧
      compileAuthoredGraph graph = .ok compiledPlan ∧
      store.versions.insert (publishedVersionOf current graph compiledPlan) = some next.versions ∧
      ∀ other, next.workflows.get? other =
        if other = workflowId then some (current.withVersion current.nextVersion)
        else store.workflows.get? other := by
  unfold WorkflowStore.publishSqliteWorkflow at h
  simp only [except_bind_eq_ok, requireSome_eq_ok, requireThat_eq_ok, decide_eq_true_eq] at h
  obtain ⟨current, hselected, _, hrevision, hrest⟩ := h
  split at hrest
  · cases hrest
  · rename_i graph hgraph
    split at hrest
    · cases hrest
    · cases hrest
    · rename_i compiledPlan hplan
      simp only [except_bind_eq_ok, requireSome_eq_ok] at hrest
      obtain ⟨versions, hversions, _, -, hnext⟩ := hrest
      cases hnext
      refine ⟨current, graph, compiledPlan, hselected, hrevision, hgraph, hplan, hversions, fun other => ?_⟩
      have hworkflow := (selectScopedWorkflow_eq_some.mp hselected).2
      have hid : current.id = workflowId := (Table.get?_eq_some.mp hworkflow).2
      have hscope : (current.id = workflowId && current.draftRevision = expectedRevision : Bool) = true := by
        simp [hid, hrevision]
      have hkeeps : KeepsKey fun w : StoredWorkflow ν => w.withVersion current.nextVersion := ⟨fun _ => rfl⟩
      exact Table.get?_modify_key hkeeps hworkflow hscope
        (fun _ h => of_decide_eq_true (Bool.and_eq_true_iff.mp h).1) other

variable [ConnectorRuntime ν]

def firstDraft (id name : String) (graph : AuthoredWorkflowGraph ν) : StoredWorkflow ν where
  id := id
  name := name
  state := .draft
  draftDigest := digestWorkflowGraph graph
  draftGraph := graph
  draftRevision := 1
  publishedVersion := none

def StoredWorkflow.withDraft (workflow : StoredWorkflow ν) (name : String) (graph : AuthoredWorkflowGraph ν) :
    StoredWorkflow ν :=
  { workflow with
    draftDigest := digestWorkflowGraph graph, draftGraph := graph,
    draftRevision := workflow.draftRevision + 1, name := name }

theorem createSqliteWorkflow_ok {id name : String} {graph : AuthoredWorkflowGraph ν}
    {summary : SqliteWorkflowSummary ν} (h : store.createSqliteWorkflow userId id name graph = .ok (summary, next)) :
    ∃ draft name', AcceptedDraft draft ∧ store.workflows.get? id = none ∧ next.versions = store.versions ∧
      ∀ other, next.workflows.get? other =
        if other = id then some (firstDraft id name' draft) else store.workflows.get? other := by
  unfold WorkflowStore.createSqliteWorkflow at h
  simp only [except_bind_eq_ok] at h
  obtain ⟨definition, hdefinition, _, -, _, -, workflows, hworkflows, created, -, hnext⟩ := h
  have hinsert := requireSome_eq_ok.mp hworkflows
  cases hnext
  refine ⟨definition.1, definition.2, parseDefinitionRequest_eq_ok hdefinition, ?_, rfl, fun other => ?_⟩
  · have hnot := mt Table.insert_eq_none.mpr (by rw [hinsert]; exact Option.some_ne_none _)
    exact Option.not_isSome_iff_eq_none.mp hnot
  · exact Table.get?_insert hinsert other

theorem updateSqliteWorkflowDraft_ok {workflowId name : String} {expectedRevision : Nat}
    {graph : AuthoredWorkflowGraph ν}
    (h : store.updateSqliteWorkflowDraft userId workflowId name expectedRevision graph = .ok next) :
    ∃ draft name' workflow, AcceptedDraft draft ∧ store.workflows.get? workflowId = some workflow ∧
      workflow.draftRevision = expectedRevision ∧ next.versions = store.versions ∧
      ∀ other, next.workflows.get? other =
        if other = workflowId then some (workflow.withDraft name' draft) else store.workflows.get? other := by
  unfold WorkflowStore.updateSqliteWorkflowDraft at h
  simp only [except_bind_eq_ok] at h
  obtain ⟨_, -, definition, hdefinition, hrest⟩ := h
  split at hrest
  · cases hrest
  · rename_i workflow hselected
    simp only [except_bind_eq_ok, requireThat_eq_ok, decide_eq_true_eq] at hrest
    obtain ⟨_, hrevision, _, -, hnext⟩ := hrest
    have hworkflow := (selectScopedWorkflow_eq_some.mp hselected).2
    cases hnext
    refine ⟨definition.1, definition.2, workflow, parseDefinitionRequest_eq_ok hdefinition, hworkflow, hrevision, rfl,
      fun other => ?_⟩
    have hid : workflow.id = workflowId := (Table.get?_eq_some.mp hworkflow).2
    have hkeeps : KeepsKey fun w : StoredWorkflow ν => w.withDraft definition.2 definition.1 := ⟨fun _ => rfl⟩
    exact Table.get?_modify_key hkeeps hworkflow (decide_eq_true hid) (fun _ h => of_decide_eq_true h) other

end Commits

inductive EditorAction (ν : Type) where
  | create (userId id name : String) (graph : AuthoredWorkflowGraph ν)
  | update (userId workflowId name : String) (expectedRevision : Nat) (graph : AuthoredWorkflowGraph ν)
  | publish (userId workflowId : String) (expectedRevision : Nat)
  | setMembers (members : List String)

/-- An accepted save: the revision its author had read, which is zero for a new
workflow, and the revision and graph it stored. -/
structure SavedDraft (ν : Type) where
  workflowId : String
  read : Nat
  revision : Nat
  graph : AuthoredWorkflowGraph ν

structure PublishedDraft where
  workflowId : String
  confirmed : Nat
  version : Nat
  deriving DecidableEq

inductive EditorEntry (ν : Type) where
  | saved (draft : SavedDraft ν)
  | published (publication : PublishedDraft)

section Log

variable {ν : Type}

def EditorEntry.savedIn (workflowId : String) : EditorEntry ν → Option (SavedDraft ν)
  | .saved draft => if draft.workflowId = workflowId then some draft else none
  | .published _ => none

def EditorEntry.publishedIn (workflowId : String) : EditorEntry ν → Option PublishedDraft
  | .saved _ => none
  | .published publication => if publication.workflowId = workflowId then some publication else none

def savesOf (workflowId : String) (log : List (EditorEntry ν)) : List (SavedDraft ν) :=
  log.filterMap (EditorEntry.savedIn workflowId)

def publicationsOf (workflowId : String) (log : List (EditorEntry ν)) : List PublishedDraft :=
  log.filterMap (EditorEntry.publishedIn workflowId)

theorem savesOf_append (workflowId : String) (log more : List (EditorEntry ν)) :
    savesOf workflowId (log ++ more) = savesOf workflowId log ++ savesOf workflowId more :=
  List.filterMap_append

theorem publicationsOf_append (workflowId : String) (log more : List (EditorEntry ν)) :
    publicationsOf workflowId (log ++ more) = publicationsOf workflowId log ++ publicationsOf workflowId more :=
  List.filterMap_append

theorem mem_savesOf {workflowId : String} {log : List (EditorEntry ν)} {draft : SavedDraft ν} :
    draft ∈ savesOf workflowId log ↔ .saved draft ∈ log ∧ draft.workflowId = workflowId := by
  simp only [savesOf, List.mem_filterMap]
  constructor
  · rintro ⟨entry, hentry, hsaved⟩
    cases entry with
    | saved other =>
      simp only [EditorEntry.savedIn, Option.ite_none_right_eq_some, Option.some.injEq] at hsaved
      exact hsaved.2 ▸ ⟨hentry, hsaved.1⟩
    | published publication => cases hsaved
  · rintro ⟨hentry, hid⟩
    exact ⟨.saved draft, hentry, if_pos hid⟩

theorem mem_publicationsOf {workflowId : String} {log : List (EditorEntry ν)} {publication : PublishedDraft} :
    publication ∈ publicationsOf workflowId log ↔
      .published publication ∈ log ∧ publication.workflowId = workflowId := by
  simp only [publicationsOf, List.mem_filterMap]
  constructor
  · rintro ⟨entry, hentry, hpublished⟩
    cases entry with
    | saved draft => cases hpublished
    | published other =>
      simp only [EditorEntry.publishedIn, Option.ite_none_right_eq_some, Option.some.injEq] at hpublished
      exact hpublished.2 ▸ ⟨hentry, hpublished.1⟩
  · rintro ⟨hentry, hid⟩
    exact ⟨.published publication, hentry, if_pos hid⟩

@[simp] theorem savesOf_saved (workflowId : String) (draft : SavedDraft ν) :
    savesOf workflowId [.saved draft] = if draft.workflowId = workflowId then [draft] else [] := by
  by_cases h : draft.workflowId = workflowId
  · simp [savesOf, EditorEntry.savedIn, h]
  · simp [savesOf, EditorEntry.savedIn, h]

@[simp] theorem savesOf_published (workflowId : String) (publication : PublishedDraft) :
    savesOf workflowId ([.published publication] : List (EditorEntry ν)) = [] := rfl

@[simp] theorem publicationsOf_saved (workflowId : String) (draft : SavedDraft ν) :
    publicationsOf workflowId [.saved draft] = [] := rfl

@[simp] theorem publicationsOf_published (workflowId : String) (publication : PublishedDraft) :
    publicationsOf workflowId ([.published publication] : List (EditorEntry ν)) =
      if publication.workflowId = workflowId then [publication] else [] := by
  by_cases h : publication.workflowId = workflowId
  · simp [publicationsOf, EditorEntry.publishedIn, h]
  · simp [publicationsOf, EditorEntry.publishedIn, h]

end Log

section Runs

variable {ν : Type} [JsRuntime ν] [NumberBounds ν] [CountNumbers ν] [ConnectorRuntime ν]

def WorkflowStore.commit (store : WorkflowStore ν) : EditorAction ν → Except StoreError (WorkflowStore ν)
  | .create userId id name graph => (store.createSqliteWorkflow userId id name graph).map Prod.snd
  | .update userId workflowId name expectedRevision graph =>
    store.updateSqliteWorkflowDraft userId workflowId name expectedRevision graph
  | .publish userId workflowId expectedRevision =>
    (store.publishSqliteWorkflow userId workflowId expectedRevision).map Prod.snd
  | .setMembers members => .ok { store with members := members }

def WorkflowStore.step (store : WorkflowStore ν) (action : EditorAction ν) : WorkflowStore ν :=
  match store.commit action with
  | .ok next => next
  | .error _ => store

def savedEntry (next : WorkflowStore ν) (workflowId : String) (read : Nat) : List (EditorEntry ν) :=
  (next.workflows.get? workflowId).toList.map fun workflow =>
    .saved ⟨workflowId, read, workflow.draftRevision, workflow.draftGraph⟩

def publishedEntry (next : WorkflowStore ν) (workflowId : String) (confirmed : Nat) : List (EditorEntry ν) :=
  ((next.workflows.get? workflowId).bind StoredWorkflow.publishedVersion).toList.map fun version =>
    .published ⟨workflowId, confirmed, version⟩

def editorEntries (store : WorkflowStore ν) (action : EditorAction ν) : List (EditorEntry ν) :=
  match action, store.commit action with
  | .create _ id _ _, .ok next => savedEntry next id 0
  | .update _ workflowId _ expectedRevision _, .ok next => savedEntry next workflowId expectedRevision
  | .publish _ workflowId expectedRevision, .ok next => publishedEntry next workflowId expectedRevision
  | _, _ => []

def editorRun (actions : List (EditorAction ν)) : WorkflowStore ν :=
  runActions WorkflowStore.step WorkflowStore.empty actions

def editorLog (actions : List (EditorAction ν)) : List (EditorEntry ν) :=
  runOutputs WorkflowStore.step editorEntries WorkflowStore.empty actions

inductive EditorMove (store : WorkflowStore ν) : WorkflowStore ν → List (EditorEntry ν) → Prop where
  | same {next : WorkflowStore ν} (workflows : next.workflows = store.workflows)
    (versions : next.versions = store.versions) : EditorMove store next []
  | created {next : WorkflowStore ν} {id name : String} {draft : AuthoredWorkflowGraph ν}
    (accepted : AcceptedDraft draft) (fresh : store.workflows.get? id = none)
    (versions : next.versions = store.versions)
    (workflows : ∀ other, next.workflows.get? other =
      if other = id then some (firstDraft id name draft) else store.workflows.get? other) :
    EditorMove store next [.saved ⟨id, 0, 1, draft⟩]
  | updated {next : WorkflowStore ν} {id name : String} {draft : AuthoredWorkflowGraph ν}
    {workflow : StoredWorkflow ν} (accepted : AcceptedDraft draft) (stored : store.workflows.get? id = some workflow)
    (versions : next.versions = store.versions)
    (workflows : ∀ other, next.workflows.get? other =
      if other = id then some (workflow.withDraft name draft) else store.workflows.get? other) :
    EditorMove store next [.saved ⟨id, workflow.draftRevision, workflow.draftRevision + 1, draft⟩]
  | published {next : WorkflowStore ν} {id : String} {current : StoredWorkflow ν} {graph : AuthoredWorkflowGraph ν}
    {compiledPlan : CompiledWorkflowPlan ν} (stored : store.workflows.get? id = some current)
    (parsed : parsePublishableGraph current.draftGraph = .ok graph)
    (compiled : compileAuthoredGraph graph = .ok compiledPlan)
    (versions : store.versions.insert (publishedVersionOf current graph compiledPlan) = some next.versions)
    (workflows : ∀ other, next.workflows.get? other =
      if other = id then some (current.withVersion current.nextVersion) else store.workflows.get? other) :
    EditorMove store next [.published ⟨id, current.draftRevision, current.nextVersion⟩]

theorem editorMove (store : WorkflowStore ν) (action : EditorAction ν) :
    EditorMove store (store.step action) (editorEntries store action) := by
  cases hcommit : store.commit action with
  | error _ =>
    have hstep : store.step action = store := by rw [WorkflowStore.step, hcommit]
    have hentries : editorEntries store action = [] := by
      cases action <;> simp only [editorEntries, hcommit]
    rw [hstep, hentries]
    exact .same rfl rfl
  | ok next =>
    have hstep : store.step action = next := by rw [WorkflowStore.step, hcommit]
    rw [hstep]
    cases action with
    | create userId id name graph =>
      obtain ⟨⟨summary, _⟩, hcreate, rfl⟩ := except_map_eq_ok.mp hcommit
      obtain ⟨draft, name', haccepted, hfresh, hversions, hworkflows⟩ := createSqliteWorkflow_ok hcreate
      have hentries : editorEntries store (.create userId id name graph) = [.saved ⟨id, 0, 1, draft⟩] := by
        simp [editorEntries, hcommit, savedEntry, hworkflows, firstDraft]
      rw [hentries]
      exact .created haccepted hfresh hversions hworkflows
    | update userId workflowId name expectedRevision graph =>
      obtain ⟨draft, name', workflow, haccepted, hstored, rfl, hversions, hworkflows⟩ :=
        updateSqliteWorkflowDraft_ok hcommit
      have hentries : editorEntries store (.update userId workflowId name workflow.draftRevision graph) =
          [.saved ⟨workflowId, workflow.draftRevision, workflow.draftRevision + 1, draft⟩] := by
        simp [editorEntries, hcommit, savedEntry, hworkflows, StoredWorkflow.withDraft]
      rw [hentries]
      exact .updated haccepted hstored hversions hworkflows
    | publish userId workflowId expectedRevision =>
      obtain ⟨⟨summary, _⟩, hpublish, rfl⟩ := except_map_eq_ok.mp hcommit
      obtain ⟨current, graph, compiledPlan, hselected, rfl, hparsed, hcompiled, hversions, hworkflows⟩ :=
        publishSqliteWorkflow_ok hpublish
      have hentries : editorEntries store (.publish userId workflowId current.draftRevision) =
          [.published ⟨workflowId, current.draftRevision, current.nextVersion⟩] := by
        simp [editorEntries, hcommit, publishedEntry, hworkflows, StoredWorkflow.withVersion]
      rw [hentries]
      exact .published (selectScopedWorkflow_eq_some.mp hselected).2 hparsed hcompiled hversions hworkflows
    | setMembers members =>
      cases hcommit
      exact .same rfl rfl

def WorkflowStore.revisionOf (store : WorkflowStore ν) (workflowId : String) : Nat :=
  ((store.workflows.get? workflowId).map StoredWorkflow.draftRevision).getD 0

def WorkflowStore.versionOf (store : WorkflowStore ν) (workflowId : String) : Nat :=
  ((store.workflows.get? workflowId).bind StoredWorkflow.publishedVersion).getD 0

/-- A version record holds a saved draft with its names trimmed, and the digest of
the draft as it was saved. -/
structure PublishedFrom (record : StoredWorkflowVersion ν) (draft : AuthoredWorkflowGraph ν) : Prop where
  graph : record.graph = draft.trimNames
  graphDigest : record.graphDigest = digestWorkflowGraph draft
  compiled : compileAuthoredGraph record.graph = .ok record.compiledPlan

structure DraftLedger (store : WorkflowStore ν) (log : List (EditorEntry ν)) : Prop where
  saves : ∀ id, (savesOf id log).map SavedDraft.revision = List.range' 1 (store.revisionOf id)
  reads : ∀ draft, .saved draft ∈ log → draft.read + 1 = draft.revision
  drafts : ∀ id workflow, store.workflows.get? id = some workflow → AcceptedDraft workflow.draftGraph ∧
    workflow.draftDigest = digestWorkflowGraph workflow.draftGraph ∧
    ∃ read, .saved ⟨id, read, workflow.draftRevision, workflow.draftGraph⟩ ∈ log
  versions : ∀ id, (publicationsOf id log).map PublishedDraft.version = List.range' 1 (store.versionOf id)
  records : ∀ id version record, store.versions.get? (id, version) = some record →
    ∃ publication, .published publication ∈ log ∧ publication.workflowId = id ∧ publication.version = version
  published : ∀ publication, .published publication ∈ log →
    ∃ draft, .saved draft ∈ log ∧ draft.workflowId = publication.workflowId ∧
      draft.revision = publication.confirmed ∧ ∃ record,
        store.versions.get? (publication.workflowId, publication.version) = some record ∧
          PublishedFrom record draft.graph

theorem DraftLedger.empty : DraftLedger (WorkflowStore.empty : WorkflowStore ν) [] where
  saves _ := rfl
  reads _ h := nomatch h
  drafts _ _ h := nomatch h
  versions _ := rfl
  records _ _ _ h := nomatch h
  published _ h := nomatch h

section Ledger

variable {store next : WorkflowStore ν} {log : List (EditorEntry ν)}

theorem DraftLedger.save (h : DraftLedger store log) {id : String} {draft : AuthoredWorkflowGraph ν}
    (stored : StoredWorkflow ν) (accepted : AcceptedDraft draft) (hgraph : stored.draftGraph = draft)
    (hdigest : stored.draftDigest = digestWorkflowGraph draft)
    (hrevision : stored.draftRevision = store.revisionOf id + 1)
    (hversion : stored.publishedVersion.getD 0 = store.versionOf id) (hversions : next.versions = store.versions)
    (hworkflows : ∀ other, next.workflows.get? other = if other = id then some stored else store.workflows.get? other) :
    DraftLedger next (log ++ [.saved ⟨id, store.revisionOf id, store.revisionOf id + 1, draft⟩]) where
  saves other := by
    by_cases hother : id = other
    · subst hother
      have hnext : next.revisionOf id = store.revisionOf id + 1 := by
        simp [WorkflowStore.revisionOf, hworkflows, hrevision]
      rw [savesOf_append, savesOf_saved, if_pos rfl, List.map_append, h.saves, hnext, List.range'_1_concat]
      simp [Nat.add_comm]
    · have hnext : next.revisionOf other = store.revisionOf other := by
        simp [WorkflowStore.revisionOf, hworkflows, Ne.symm hother]
      rw [savesOf_append, savesOf_saved, if_neg hother, List.append_nil, h.saves, hnext]
  reads saved hsaved := by
    rcases List.mem_append.mp hsaved with hold | hnew
    · exact h.reads saved hold
    · cases List.mem_singleton.mp hnew
      rfl
  drafts other workflow hworkflow := by
    rw [hworkflows] at hworkflow
    by_cases hother : other = id
    · subst hother
      rw [if_pos rfl, Option.some.injEq] at hworkflow
      subst hworkflow
      rw [hgraph, hdigest, hrevision]
      exact ⟨accepted, rfl, store.revisionOf other, List.mem_append_right _ List.mem_cons_self⟩
    · rw [if_neg hother] at hworkflow
      obtain ⟨haccepted, hold, read, hsaved⟩ := h.drafts other workflow hworkflow
      exact ⟨haccepted, hold, read, List.mem_append_left _ hsaved⟩
  versions other := by
    have hnext : next.versionOf other = store.versionOf other := by
      by_cases hother : other = id
      · subst hother
        simpa [WorkflowStore.versionOf, hworkflows] using hversion
      · simp [WorkflowStore.versionOf, hworkflows, hother]
    rw [publicationsOf_append, publicationsOf_saved, List.append_nil, h.versions, hnext]
  records other version record hrecord := by
    rw [hversions] at hrecord
    obtain ⟨publication, hmem, hpublication⟩ := h.records other version record hrecord
    exact ⟨publication, List.mem_append_left _ hmem, hpublication⟩
  published publication hpublication := by
    rcases List.mem_append.mp hpublication with hold | hnew
    · obtain ⟨saved, hsaved, hid, hconfirmed, hrecord⟩ := h.published publication hold
      rw [hversions]
      exact ⟨saved, List.mem_append_left _ hsaved, hid, hconfirmed, hrecord⟩
    · cases List.mem_singleton.mp hnew

theorem DraftLedger.publish [CanvasNumbers ν] (h : DraftLedger store log) {id : String} {current : StoredWorkflow ν}
    {graph : AuthoredWorkflowGraph ν} {compiledPlan : CompiledWorkflowPlan ν}
    (hstored : store.workflows.get? id = some current) (hparsed : parsePublishableGraph current.draftGraph = .ok graph)
    (hcompiled : compileAuthoredGraph graph = .ok compiledPlan)
    (hversions : store.versions.insert (publishedVersionOf current graph compiledPlan) = some next.versions)
    (hworkflows : ∀ other, next.workflows.get? other =
      if other = id then some (current.withVersion current.nextVersion) else store.workflows.get? other) :
    DraftLedger next (log ++ [.published ⟨id, current.draftRevision, current.nextVersion⟩]) where
  saves other := by
    have hnext : next.revisionOf other = store.revisionOf other := by
      by_cases hother : other = id
      · subst hother
        simp [WorkflowStore.revisionOf, hworkflows, hstored, StoredWorkflow.withVersion]
      · simp [WorkflowStore.revisionOf, hworkflows, hother]
    rw [savesOf_append, savesOf_published, List.append_nil, h.saves, hnext]
  reads saved hsaved := by
    rcases List.mem_append.mp hsaved with hold | hnew
    · exact h.reads saved hold
    · cases List.mem_singleton.mp hnew
  drafts other workflow hworkflow := by
    rw [hworkflows] at hworkflow
    by_cases hother : other = id
    · subst hother
      rw [if_pos rfl, Option.some.injEq] at hworkflow
      subst hworkflow
      obtain ⟨haccepted, hdigest, read, hsaved⟩ := h.drafts other current hstored
      exact ⟨haccepted, hdigest, read, List.mem_append_left _ hsaved⟩
    · rw [if_neg hother] at hworkflow
      obtain ⟨haccepted, hdigest, read, hsaved⟩ := h.drafts other workflow hworkflow
      exact ⟨haccepted, hdigest, read, List.mem_append_left _ hsaved⟩
  versions other := by
    by_cases hother : id = other
    · subst hother
      have hold : store.versionOf id = current.publishedVersion.getD 0 := by
        simp [WorkflowStore.versionOf, hstored]
      have hnext : next.versionOf id = store.versionOf id + 1 := by
        simp [WorkflowStore.versionOf, hworkflows, hstored, StoredWorkflow.withVersion, StoredWorkflow.nextVersion]
      rw [publicationsOf_append, publicationsOf_published, if_pos rfl, List.map_append, h.versions, hnext,
        List.range'_1_concat, hold]
      simp [StoredWorkflow.nextVersion, Nat.add_comm]
    · have hnext : next.versionOf other = store.versionOf other := by
        simp [WorkflowStore.versionOf, hworkflows, Ne.symm hother]
      rw [publicationsOf_append, publicationsOf_published, if_neg hother, List.append_nil, h.versions, hnext]
  records other version record hrecord := by
    have hid : current.id = id := (Table.get?_eq_some.mp hstored).2
    rw [Table.get?_insert hversions] at hrecord
    split at hrecord
    · rename_i hkey
      obtain ⟨rfl, rfl⟩ := Prod.mk.injEq .. ▸ hkey
      exact ⟨_, List.mem_append_right _ List.mem_cons_self, hid.symm, rfl⟩
    · obtain ⟨publication, hmem, hpublication⟩ := h.records other version record hrecord
      exact ⟨publication, List.mem_append_left _ hmem, hpublication⟩
  published publication hpublication := by
    have hid : current.id = id := (Table.get?_eq_some.mp hstored).2
    rcases List.mem_append.mp hpublication with hold | hnew
    · obtain ⟨saved, hsaved, hsavedId, hconfirmed, record, hrecord, hfrom⟩ := h.published publication hold
      refine ⟨saved, List.mem_append_left _ hsaved, hsavedId, hconfirmed, record, ?_, hfrom⟩
      rw [Table.get?_insert hversions, if_neg, hrecord]
      intro hkey
      rw [hkey, (Table.insert_eq_some hversions).2] at hrecord
      cases hrecord
    · cases List.mem_singleton.mp hnew
      obtain ⟨haccepted, hdigest, read, hsaved⟩ := h.drafts id current hstored
      refine ⟨_, List.mem_append_left _ hsaved, rfl, rfl, publishedVersionOf current graph compiledPlan, ?_,
        haccepted.publishable hparsed, hdigest, hcompiled⟩
      rw [Table.get?_insert hversions, if_pos]
      exact congrArg (fun id => (id, current.nextVersion)) hid.symm

theorem DraftLedger.move [CanvasNumbers ν] {entries : List (EditorEntry ν)} (h : DraftLedger store log)
    (hmove : EditorMove store next entries) : DraftLedger next (log ++ entries) := by
  cases hmove with
  | same hworkflows hversions =>
    rw [List.append_nil]
    obtain ⟨hsaves, hreads, hdrafts, hpublications, hrecords, hpublished⟩ := h
    constructor
    · simpa only [WorkflowStore.revisionOf, hworkflows] using hsaves
    · exact hreads
    · simpa only [hworkflows] using hdrafts
    · simpa only [WorkflowStore.versionOf, hworkflows] using hpublications
    · simpa only [hversions] using hrecords
    · simpa only [hversions] using hpublished
  | created haccepted hfresh hversions hworkflows =>
    rename_i id name draft
    have hrevision : store.revisionOf id = 0 := by simp [WorkflowStore.revisionOf, hfresh]
    have hversion : store.versionOf id = 0 := by simp [WorkflowStore.versionOf, hfresh]
    have hsaved := h.save (firstDraft id name draft) haccepted rfl rfl (by rw [hrevision]; rfl)
      (by rw [hversion]; rfl) hversions hworkflows
    rwa [hrevision] at hsaved
  | updated haccepted hstored hversions hworkflows =>
    rename_i id name draft workflow
    have hrevision : store.revisionOf id = workflow.draftRevision := by simp [WorkflowStore.revisionOf, hstored]
    have hversion : store.versionOf id = workflow.publishedVersion.getD 0 := by
      simp [WorkflowStore.versionOf, hstored]
    have hsaved := h.save (workflow.withDraft name draft) haccepted rfl rfl (by rw [hrevision]; rfl)
      hversion.symm hversions hworkflows
    rwa [hrevision] at hsaved
  | published hstored hparsed hcompiled hversions hworkflows =>
    exact h.publish hstored hparsed hcompiled hversions hworkflows

end Ledger

variable [CanvasNumbers ν]

theorem editorLedger (actions : List (EditorAction ν)) : DraftLedger (editorRun actions) (editorLog actions) :=
  runOutputs_invariant (fun store action _ h => h.move (editorMove store action)) DraftLedger.empty actions

end Runs

end ByokGrid
