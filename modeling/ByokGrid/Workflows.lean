import ByokGrid.Store
import ByokGrid.WorkflowCompiler

/-! Workflows and their versions: drafts are saved at the revision they were
read at, and publishing compiles the draft into a version which stays. -/

namespace ByokGrid

inductive WorkflowState where
  | draft
  | active
  | paused
  deriving Repr, DecidableEq

structure Workflow (ν : Type) where
  id : String
  name : String
  state : WorkflowState
  draftGraph : WorkflowGraph ν
  draftRevision : Nat
  publishedVersion : Option Nat

structure WorkflowVersion (ν : Type) where
  workflowId : String
  version : Nat
  graph : WorkflowGraph ν
  /-- Null in versions which predate executable plans. -/
  compiledPlan : Option (CompiledWorkflowPlan ν)

instance {ν : Type} : Keyed (Workflow ν) String := ⟨Workflow.id⟩
instance {ν : Type} : Keyed (WorkflowVersion ν) (String × Nat) := ⟨fun v => (v.workflowId, v.version)⟩

structure WorkflowCatalog (ν : Type) where
  workflows : Table (Workflow ν)
  versions : Table (WorkflowVersion ν)

def WorkflowCatalog.empty {ν : Type} : WorkflowCatalog ν := ⟨Table.empty, Table.empty⟩

section Catalog

variable {ν : Type} [JsRuntime ν]

/-- `workflows_workspace_name_unique`. -/
def WorkflowCatalog.nameFree (catalog : WorkflowCatalog ν) (id name : String) : Bool :=
  catalog.workflows.records.all fun workflow => workflow.id = id || workflow.name ≠ name

def parseWorkflowDefinition (graph : WorkflowGraph ν) (name : String) :
    Except StoreError (WorkflowGraph ν × String) :=
  match workflowDraftGraphSchema graph, parseWorkflowName ν name with
  | .ok graph, some name => .ok (graph, name)
  | _, _ => .error .request

def createSqliteWorkflow (catalog : WorkflowCatalog ν) (id name : String) (graph : WorkflowGraph ν) :
    Except StoreError (WorkflowCatalog ν) := do
  let definition ← parseWorkflowDefinition graph name
  requireThat (catalog.nameFree id definition.2) (.constraint "workflows_workspace_name_unique")
  let workflows ← requireSome (catalog.workflows.insert
    { id := id, name := definition.2, state := .draft, draftGraph := definition.1, draftRevision := 1,
      publishedVersion := none }) (.constraint "workflows_id")
  return { catalog with workflows := workflows }

def updateSqliteWorkflowDraft (catalog : WorkflowCatalog ν) (workflowId name : String) (expectedRevision : Nat)
    (graph : WorkflowGraph ν) : Except StoreError (WorkflowCatalog ν) := do
  requireThat (1 ≤ expectedRevision) .request
  let draft ← parseWorkflowDefinition graph name
  match catalog.workflows.get? workflowId with
  | none => .error (.access "Workflow not found.")
  | some workflow =>
    requireThat (workflow.draftRevision = expectedRevision)
      (.conflict "The workflow changed elsewhere. Reload the latest draft.")
    requireThat (catalog.nameFree workflowId draft.2) (.constraint "workflows_workspace_name_unique")
    return { catalog with workflows := catalog.workflows.modify (fun w => w.id = workflowId) (fun w =>
      { w with draftGraph := draft.1, draftRevision := w.draftRevision + 1, name := draft.2 }) ⟨fun _ => rfl⟩ }

def publishSqliteWorkflow (catalog : WorkflowCatalog ν) (workflowId : String) (expectedRevision : Nat) :
    Except StoreError (WorkflowCatalog ν) := do
  let current ← requireSome (catalog.workflows.get? workflowId) (.access "Workflow not found.")
  requireThat (current.draftRevision = expectedRevision)
    (.conflict "The workflow changed elsewhere. Reload before publishing.")
  match workflowGraphSchema current.draftGraph with
  | .error _ => .error .request
  | .ok graph =>
    match compileWorkflowGraph graph with
    | .error (.schema _) => .error .request
    | .error (.message text) => .error (.failure text)
    | .ok compiledPlan =>
      let nextVersion := current.publishedVersion.getD 0 + 1
      let versions ← requireSome (catalog.versions.insert
        { workflowId := current.id, version := nextVersion, graph := graph, compiledPlan := some compiledPlan })
        (.constraint "workflow_versions_workflow_version_unique")
      return {
        versions := versions
        workflows := catalog.workflows.modify (fun w => w.id = workflowId) (fun w =>
          { w with publishedVersion := some nextVersion, state := .active }) ⟨fun _ => rfl⟩ }

end Catalog

end ByokGrid
