import ByokGrid.BulkRunSelection
import ByokGrid.WorkflowMeaning
import ByokGrid.Workflows

/-! The drafts which editors save and publish: a draft is stored with its layout and
its digest, and a version takes both over from the draft it was published from. -/

namespace ByokGrid

section Text

variable {ν : Type}

def BulkRunMode.name : BulkRunMode → String
  | .pending => "pending"
  | .all => "all"

def WorkflowNodeKind.name : WorkflowNodeKind → String
  | .tableRows => "trigger.table_rows"
  | .enrichColumn => "action.enrich_column"
  | .filter => "logic.filter"
  | .writeTable => "destination.write_table"
  | .sendWebhook => "destination.send_webhook"

def WorkflowColumnMapping.toJson (mapping : WorkflowColumnMapping) : Json ν :=
  .object [("sourceColumnId", .string mapping.sourceColumnId), ("targetColumnId", .string mapping.targetColumnId)]

def WorkflowNodeConfiguration.toJson : WorkflowNodeConfiguration ν → Json ν
  | .tableRows searchQuery tableId viewId =>
    .object [("searchQuery", nullable (searchQuery.map .string)), ("tableId", .string tableId),
      ("viewId", nullable (viewId.map .string))]
  | .enrichColumn columnId mode => .object [("columnId", .string columnId), ("mode", .string mode.name)]
  | .filter filterTree => .object [("filterTree", filterTree.toJson)]
  | .writeTable columnMappings tableId =>
    .object [("columnMappings", .array (columnMappings.map WorkflowColumnMapping.toJson)), ("tableId", .string tableId)]
  | .sendWebhook destinationId => .object [("destinationId", .string destinationId)]

def NodePosition.toJson (position : NodePosition ν) : Json ν :=
  .object [("x", .number position.x), ("y", .number position.y)]

def WorkflowViewport.toJson (viewport : WorkflowViewport ν) : Json ν :=
  .object [("x", .number viewport.x), ("y", .number viewport.y), ("zoom", .number viewport.zoom)]

def WorkflowEdge.toJson (edge : WorkflowEdge) : Json ν :=
  .object [("id", .string edge.id), ("sourceHandle", .string edge.sourceHandle),
    ("sourceNodeId", .string edge.sourceNodeId), ("targetHandle", .string edge.targetHandle),
    ("targetNodeId", .string edge.targetNodeId)]

def placedNodeJson (node : WorkflowNode ν × NodePosition ν) : Json ν :=
  .object [("configuration", node.1.configuration.toJson), ("id", .string node.1.id),
    ("kind", .string node.1.kind.name), ("name", .string node.1.name), ("position", node.2.toJson)]

def AuthoredWorkflowGraph.toJson [CountNumbers ν] (authored : AuthoredWorkflowGraph ν) : Json ν :=
  .object ([("edges", .array (authored.edges.map WorkflowEdge.toJson)),
    ("nodes", .array (authored.nodes.map placedNodeJson)),
    ("schemaVersion", .number (CountNumbers.ofInt authored.schemaVersion))] ++
    authored.viewport.toList.map fun viewport => ("viewport", viewport.toJson))

variable [JsRuntime ν]

mutual

def canonicalJson : Json ν → String
  | .array items => "[" ++ ",".intercalate (canonicalItems items) ++ "]"
  | .object fields =>
    let sorted := (canonicalFields fields).insertionSort fun left right =>
      (JsRuntime.localeCompare ν left.1 right.1).isLE
    "\x7b" ++ ",".intercalate (sorted.map fun field => jsonQuote field.1 ++ ":" ++ field.2) ++ "\x7d"
  | .null => "null"
  | .boolean value => toString value
  | .number value => JsRuntime.numberToString value
  | .string value => jsonQuote value

def canonicalItems : List (Json ν) → List String
  | [] => []
  | item :: items => canonicalJson item :: canonicalItems items

def canonicalFields : List (String × Json ν) → List (String × String)
  | [] => []
  | (name, value) :: fields => (name, canonicalJson value) :: canonicalFields fields

end

variable [CountNumbers ν] [ConnectorRuntime ν]

def digestWorkflowGraph (graph : AuthoredWorkflowGraph ν) : String :=
  ConnectorRuntime.sha256 ν (canonicalJson graph.toJson)

end Text

section Schemas

variable {ν : Type} [JsRuntime ν] [NumberBounds ν] [CountNumbers ν]

def defaultViewport : WorkflowViewport ν where
  x := CountNumbers.ofInt 0
  y := CountNumbers.ofInt 0
  zoom := CountNumbers.ofInt 1

def AuthoredWorkflowGraph.withGraph (authored : AuthoredWorkflowGraph ν) (graph : WorkflowGraph ν) :
    AuthoredWorkflowGraph ν where
  edges := graph.edges
  nodes := graph.nodes.zip (authored.nodes.map Prod.snd)
  schemaVersion := authored.schemaVersion
  viewport := some (authored.viewport.getD defaultViewport)

/-- `workflowDraftGraphSchema` with the layout. -/
def parseDraftGraph (authored : AuthoredWorkflowGraph ν) : Except WorkflowGraphError (AuthoredWorkflowGraph ν) :=
  if authored.layoutAccepted then (workflowDraftGraphSchema authored.graph).map authored.withGraph
  else .error .shape

/-- `workflowGraphSchema` with the layout. -/
def parsePublishableGraph (authored : AuthoredWorkflowGraph ν) :
    Except WorkflowGraphError (AuthoredWorkflowGraph ν) :=
  if authored.layoutAccepted then (workflowGraphSchema authored.graph).map authored.withGraph
  else .error .shape

/-- `workflowDefinitionRequestSchema`. -/
def parseDefinitionRequest (graph : AuthoredWorkflowGraph ν) (name : String) :
    Except StoreError (AuthoredWorkflowGraph ν × String) :=
  match parseDraftGraph graph, parseWorkflowName ν name with
  | .ok graph, some name => .ok (graph, name)
  | _, _ => .error .request

end Schemas

structure StoredWorkflow (ν : Type) where
  id : String
  name : String
  state : WorkflowState
  draftDigest : String
  draftGraph : AuthoredWorkflowGraph ν
  draftRevision : Nat
  publishedVersion : Option Nat

structure StoredWorkflowVersion (ν : Type) where
  workflowId : String
  version : Nat
  graph : AuthoredWorkflowGraph ν
  graphDigest : String
  compiledPlan : CompiledWorkflowPlan ν

instance {ν : Type} : Keyed (StoredWorkflow ν) String := ⟨StoredWorkflow.id⟩
instance {ν : Type} : Keyed (StoredWorkflowVersion ν) (String × Nat) := ⟨fun v => (v.workflowId, v.version)⟩

structure WorkflowStore (ν : Type) where
  members : List String
  workflows : Table (StoredWorkflow ν)
  versions : Table (StoredWorkflowVersion ν)

def WorkflowStore.empty {ν : Type} : WorkflowStore ν := ⟨[], Table.empty, Table.empty⟩

structure SqliteWorkflowSummary (ν : Type) where
  id : String
  name : String
  state : WorkflowState
  draftDigest : String
  draftGraph : AuthoredWorkflowGraph ν
  draftRevision : Nat
  publishedVersion : Option Nat

section Store

variable {ν : Type} [JsRuntime ν] [NumberBounds ν] [CountNumbers ν]

def mapWorkflow (record : StoredWorkflow ν) : Except StoreError (SqliteWorkflowSummary ν) :=
  match parseDraftGraph record.draftGraph with
  | .error _ => .error .request
  | .ok draftGraph => .ok {
      id := record.id, name := record.name, state := record.state, draftDigest := record.draftDigest,
      draftGraph := draftGraph, draftRevision := record.draftRevision, publishedVersion := record.publishedVersion }

variable (store : WorkflowStore ν) (userId : String)

def WorkflowStore.selectScopedWorkflow (workflowId : String) : Option (StoredWorkflow ν) :=
  if userId ∈ store.members then store.workflows.get? workflowId else none

/-- `workflows_workspace_name_unique`. -/
def WorkflowStore.nameFree (id name : String) : Bool :=
  store.workflows.records.all fun workflow => workflow.id = id || workflow.name ≠ name

def WorkflowStore.getSqliteWorkflow (workflowId : String) : Except StoreError (SqliteWorkflowSummary ν) := do
  let record ← requireSome (store.selectScopedWorkflow userId workflowId) (.access "Workflow not found.")
  mapWorkflow record

variable [ConnectorRuntime ν]

def WorkflowStore.createSqliteWorkflow (id name : String) (graph : AuthoredWorkflowGraph ν) :
    Except StoreError (SqliteWorkflowSummary ν × WorkflowStore ν) := do
  let definition ← parseDefinitionRequest graph name
  requireThat (userId ∈ store.members) (.access "Workspace not found.")
  requireThat (store.nameFree id definition.2) (.constraint "workflows_workspace_name_unique")
  let created : StoredWorkflow ν := {
    id := id, name := definition.2, state := .draft, draftDigest := digestWorkflowGraph definition.1,
    draftGraph := definition.1, draftRevision := 1, publishedVersion := none }
  let workflows ← requireSome (store.workflows.insert created) (.constraint "workflows_id")
  let summary ← mapWorkflow created
  return (summary, { store with workflows := workflows })

/-- The update is committed before its row is mapped: `getSqliteWorkflow` reads the answer. -/
def WorkflowStore.updateSqliteWorkflowDraft (workflowId name : String) (expectedRevision : Nat)
    (graph : AuthoredWorkflowGraph ν) : Except StoreError (WorkflowStore ν) := do
  requireThat (1 ≤ expectedRevision) .request
  let draft ← parseDefinitionRequest graph name
  match store.selectScopedWorkflow userId workflowId with
  | none => .error (.access "Workflow not found.")
  | some workflow =>
    requireThat (workflow.draftRevision = expectedRevision)
      (.conflict "The workflow changed elsewhere. Reload the latest draft.")
    requireThat (store.nameFree workflowId draft.2) (.constraint "workflows_workspace_name_unique")
    return { store with workflows := store.workflows.modify (fun w => w.id = workflowId) (fun w =>
      { w with
        draftDigest := digestWorkflowGraph draft.1, draftGraph := draft.1,
        draftRevision := w.draftRevision + 1, name := draft.2 }) ⟨fun _ => rfl⟩ }

def publishedVersionOf (current : StoredWorkflow ν) (graph : AuthoredWorkflowGraph ν)
    (compiledPlan : CompiledWorkflowPlan ν) : StoredWorkflowVersion ν where
  workflowId := current.id
  version := current.publishedVersion.getD 0 + 1
  graph := graph
  graphDigest := current.draftDigest
  compiledPlan := compiledPlan

def WorkflowStore.publishSqliteWorkflow (workflowId : String) (expectedRevision : Nat) :
    Except StoreError (SqliteWorkflowSummary ν × WorkflowStore ν) := do
  let current ← requireSome (store.selectScopedWorkflow userId workflowId) (.access "Workflow not found.")
  requireThat (current.draftRevision = expectedRevision)
    (.conflict "The workflow changed elsewhere. Reload before publishing.")
  match parsePublishableGraph current.draftGraph with
  | .error _ => .error .request
  | .ok graph =>
    match compileAuthoredGraph graph with
    | .error (.schema _) => .error .request
    | .error (.message text) => .error (.failure text)
    | .ok compiledPlan =>
      let nextVersion := current.publishedVersion.getD 0 + 1
      let versions ← requireSome (store.versions.insert (publishedVersionOf current graph compiledPlan))
        (.constraint "workflow_versions_workflow_version_unique")
      let summary ← mapWorkflow { current with publishedVersion := some nextVersion, state := .active }
      return (summary, { store with
        versions := versions
        workflows := store.workflows.modify
          (fun w => w.id = workflowId && w.draftRevision = expectedRevision)
          (fun w => { w with publishedVersion := some nextVersion, state := .active }) ⟨fun _ => rfl⟩ })

end Store

end ByokGrid
