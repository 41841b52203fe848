import ByokGrid.Worklist
import ByokGrid.GridView

/-! Workflow graphs and the schemas which accept a draft and a publishable graph. -/

namespace ByokGrid

def MAXIMUM_WORKFLOW_NODES : Nat := 100
def MAXIMUM_WORKFLOW_EDGES : Nat := 200

inductive WorkflowNodeKind where
  | tableRows
  | enrichColumn
  | filter
  | writeTable
  | sendWebhook
  deriving Repr, DecidableEq

structure WorkflowColumnMapping where
  sourceColumnId : String
  targetColumnId : String
  deriving Repr, DecidableEq

inductive WorkflowNodeConfiguration (ν : Type) where
  | tableRows (searchQuery : Option String) (tableId : String) (viewId : Option String)
  | enrichColumn (columnId : String) (mode : BulkRunMode)
  | filter (filterTree : GridViewFilterGroup ν)
  | writeTable (columnMappings : List WorkflowColumnMapping) (tableId : String)
  | sendWebhook (destinationId : String)

def WorkflowNodeConfiguration.kind {ν : Type} : WorkflowNodeConfiguration ν → WorkflowNodeKind
  | .tableRows _ _ _ => .tableRows
  | .enrichColumn _ _ => .enrichColumn
  | .filter _ => .filter
  | .writeTable _ _ => .writeTable
  | .sendWebhook _ => .sendWebhook

structure WorkflowNode (ν : Type) where
  id : String
  name : String
  configuration : WorkflowNodeConfiguration ν

def WorkflowNode.kind {ν : Type} (node : WorkflowNode ν) : WorkflowNodeKind :=
  node.configuration.kind

structure WorkflowEdge where
  id : String
  sourceHandle : String
  sourceNodeId : String
  targetHandle : String
  targetNodeId : String
  deriving Repr, DecidableEq

structure WorkflowGraph (ν : Type) where
  edges : List WorkflowEdge
  nodes : List (WorkflowNode ν)

def workflowNodeInputs : WorkflowNodeKind → List String
  | .tableRows => []
  | .enrichColumn | .filter | .writeTable | .sendWebhook => ["rows"]

def workflowNodeOutputs : WorkflowNodeKind → List String
  | .tableRows | .enrichColumn => ["rows"]
  | .filter => ["matched", "rejected"]
  | .writeTable | .sendWebhook => []

section Shape

variable {ν : Type} [JsRuntime ν]

variable (ν) in
/-- `workflowNameSchema`. -/
def parseWorkflowName (name : String) : Option String :=
  let value := JsRuntime.normalizeNFKC ν (jsTrim name)
  if 1 ≤ utf16Length value ∧ utf16Length value ≤ 80 then some value else none

def isEntityIdOrNull (id : Option String) : Bool :=
  id.all isEntityId

def parseNodeConfiguration : WorkflowNodeConfiguration ν → Option (WorkflowNodeConfiguration ν)
  | .tableRows none tableId viewId =>
    if isEntityId tableId && isEntityIdOrNull viewId then some (.tableRows none tableId viewId) else none
  | .tableRows (some searchQuery) tableId viewId =>
    if isEntityId tableId && isEntityIdOrNull viewId then
      (parseGridSearchQuery ν searchQuery).map fun value => .tableRows (some value) tableId viewId
    else none
  | .enrichColumn columnId mode => if isEntityId columnId then some (.enrichColumn columnId mode) else none
  | .filter filterTree => if filterTree.accepted then some (.filter filterTree) else none
  | .writeTable columnMappings tableId =>
    if 1 ≤ columnMappings.length && columnMappings.length ≤ 256 && isEntityId tableId &&
      columnMappings.all (fun m => isEntityId m.sourceColumnId && isEntityId m.targetColumnId) then
      some (.writeTable columnMappings tableId)
    else none
  | .sendWebhook destinationId => if isEntityId destinationId then some (.sendWebhook destinationId) else none

def parseWorkflowNode (node : WorkflowNode ν) : Option (WorkflowNode ν) :=
  if isEntityId node.id then do
    let name ← parseWorkflowName ν node.name
    let configuration ← parseNodeConfiguration node.configuration
    return ⟨node.id, name, configuration⟩
  else none

/-- `/^[a-z][a-z0-9_]{0,31}$/`. -/
def isWorkflowHandle (handle : String) : Bool :=
  match handle.toList with
  | [] => false
  | c :: cs => isLowerLetter c && cs.length ≤ 31 && cs.all fun d => isLowerLetter d || isDecimalDigit d || d == '_'

def isWorkflowEdge (edge : WorkflowEdge) : Bool :=
  isEntityId edge.id && isWorkflowHandle edge.sourceHandle && isEntityId edge.sourceNodeId &&
    isWorkflowHandle edge.targetHandle && isEntityId edge.targetNodeId

def parseWorkflowNodes : List (WorkflowNode ν) → Option (List (WorkflowNode ν))
  | [] => some []
  | node :: nodes => do
    let parsed ← parseWorkflowNode node
    let rest ← parseWorkflowNodes nodes
    return parsed :: rest

/-- `workflowGraphShapeSchema`. -/
def parseWorkflowGraphShape (graph : WorkflowGraph ν) : Option (WorkflowGraph ν) :=
  if graph.edges.length ≤ MAXIMUM_WORKFLOW_EDGES ∧ graph.edges.all isWorkflowEdge ∧
      graph.nodes.length ≤ MAXIMUM_WORKFLOW_NODES then
    (parseWorkflowNodes graph.nodes).map fun nodes => ⟨graph.edges, nodes⟩
  else none

end Shape

inductive PathSegment where
  | field (name : String)
  | index (n : Nat)
  deriving Repr, DecidableEq

structure GraphIssue where
  message : String
  path : List PathSegment
  deriving Repr, DecidableEq

section Structure

variable {ν : Type}

/-- `nodesById.get`: a later node replaces an earlier one of the same id. -/
def WorkflowGraph.nodeById (graph : WorkflowGraph ν) (id : String) : Option (WorkflowNode ν) :=
  graph.nodes.reverse.find? fun node => node.id = id

def duplicateNodeIssues : Nat → List String → List (WorkflowNode ν) → List GraphIssue
  | _, _, [] => []
  | index, seen, node :: nodes =>
    (if node.id ∈ seen then
      [⟨"Workflow node IDs must be unique.", [.field "nodes", .index index, .field "id"]⟩]
    else []) ++ duplicateNodeIssues (index + 1) (seen ++ [node.id]) nodes

structure EdgeScan where
  edgeIds : List String
  occupiedInputs : List String
  outgoing : String → List String
  incomingCount : String → Int
  issues : List GraphIssue

def EdgeScan.initial : EdgeScan := ⟨[], [], fun _ => [], fun _ => 0, []⟩

def EdgeScan.addIssue (scan : EdgeScan) (message : String) (path : List PathSegment) : EdgeScan :=
  { scan with issues := scan.issues ++ [⟨message, path⟩] }

def EdgeScan.connect (scan : EdgeScan) (source target : String) : EdgeScan :=
  { scan with
    outgoing := Function.update scan.outgoing source (scan.outgoing source ++ [target])
    incomingCount := Function.update scan.incomingCount target (scan.incomingCount target + 1) }

def scanEdge (graph : WorkflowGraph ν) (index : Nat) (scan : EdgeScan) (edge : WorkflowEdge) : EdgeScan :=
  let path := [PathSegment.field "edges", .index index]
  let scan := if edge.id ∈ scan.edgeIds then
    scan.addIssue "Workflow edge IDs must be unique." (path ++ [.field "id"]) else scan
  let scan := { scan with edgeIds := scan.edgeIds ++ [edge.id] }
  match graph.nodeById edge.sourceNodeId, graph.nodeById edge.targetNodeId with
  | some source, some target =>
    if source.id = target.id then scan.addIssue "A workflow node cannot connect to itself." path
    else if edge.sourceHandle ∉ workflowNodeOutputs source.kind ∨
        edge.targetHandle ∉ workflowNodeInputs target.kind then
      scan.addIssue "The edge connects incompatible workflow ports." path
    else
      let inputKey := target.id ++ ":" ++ edge.targetHandle
      let scan := if inputKey ∈ scan.occupiedInputs then
        scan.addIssue "A workflow input can have only one incoming edge." (path ++ [.field "targetHandle"])
        else scan
      { scan with occupiedInputs := scan.occupiedInputs ++ [inputKey] }.connect source.id target.id
  | _, _ => scan.addIssue "Every edge endpoint must reference a workflow node." path

def scanEdges (graph : WorkflowGraph ν) : Nat → EdgeScan → List WorkflowEdge → EdgeScan
  | _, scan, [] => scan
  | index, scan, edge :: edges => scanEdges graph (index + 1) (scanEdge graph index scan edge) edges

/-- `acyclicQueue` is a stack: the last identifier is taken out. -/
def stackList : ReadyList String where
  pop := popLast
  push ready id := ready ++ [id]
  settle l := l
  pop_none := popLast_none
  pop_perm := popLast_perm
  push_perm := perm_push
  settle_perm := List.Perm.refl

/-- The vertices visited by the acyclicity loop, which stops after each node
and each edge has put an identifier on the stack at most once. -/
def acyclicVisits (graph : WorkflowGraph ν) (scan : EdgeScan) : List String :=
  kahnLoop stackList scan.outgoing (graph.nodes.length + graph.edges.length) scan.incomingCount
    ((graph.nodes.map WorkflowNode.id).filter fun id => scan.incomingCount id = 0) []

def validateWorkflowGraphStructure (graph : WorkflowGraph ν) : List GraphIssue :=
  let scan := scanEdges graph 0 EdgeScan.initial graph.edges
  duplicateNodeIssues 0 [] graph.nodes ++ scan.issues ++
    if (acyclicVisits graph scan).length ≠ graph.nodes.length then
      [⟨"Workflow cycles are not supported.", []⟩] else []

def WorkflowGraph.hasNode (graph : WorkflowGraph ν) (id : String) : Bool :=
  graph.nodes.any fun node => node.id = id

def WorkflowGraph.knownEdges (graph : WorkflowGraph ν) : List WorkflowEdge :=
  graph.edges.filter fun edge => graph.hasNode edge.sourceNodeId && graph.hasNode edge.targetNodeId

def WorkflowGraph.outgoing (graph : WorkflowGraph ν) (id : String) : List String :=
  (graph.knownEdges.filter fun edge => edge.sourceNodeId = id).map WorkflowEdge.targetNodeId

def WorkflowGraph.incomingCount (graph : WorkflowGraph ν) (id : String) : Nat :=
  (graph.knownEdges.filter fun edge => edge.targetNodeId = id).length

def missingInputIssues (graph : WorkflowGraph ν) : Nat → List (WorkflowNode ν) → List GraphIssue
  | _, [] => []
  | index, node :: nodes =>
    (if node.kind ≠ .tableRows ∧ graph.incomingCount node.id = 0 then
      [⟨"Every non-trigger node needs an input.", [.field "nodes", .index index]⟩]
    else []) ++ missingInputIssues graph (index + 1) nodes

def WorkflowNodeKind.destination : WorkflowNodeKind → Bool
  | .writeTable | .sendWebhook => true
  | .tableRows | .enrichColumn | .filter => false

def validatePublishableWorkflowGraph (graph : WorkflowGraph ν) : List GraphIssue :=
  let triggers := graph.nodes.filter fun node => node.kind = .tableRows
  let destinations := graph.nodes.filter fun node => node.kind.destination
  let reachable := exploreLoop popLast graph.outgoing (graph.nodes.length + graph.edges.length)
    (triggers.map WorkflowNode.id) []
  (if triggers.length = 0 then [⟨"A workflow needs a trigger.", []⟩] else []) ++
  (if destinations.length = 0 then [⟨"A workflow needs at least one destination.", []⟩] else []) ++
  missingInputIssues graph 0 graph.nodes ++
  if reachable.length ≠ graph.nodes.length then
    [⟨"Every workflow node must be reachable from a trigger.", []⟩] else []

inductive WorkflowGraphError where
  | shape
  | refinement (issues : List GraphIssue)
  deriving Repr, DecidableEq

variable [JsRuntime ν]

def workflowDraftGraphSchema (graph : WorkflowGraph ν) : Except WorkflowGraphError (WorkflowGraph ν) :=
  match parseWorkflowGraphShape graph with
  | none => .error .shape
  | some parsed =>
    let issues := validateWorkflowGraphStructure parsed
    if issues = [] then .ok parsed else .error (.refinement issues)

def workflowGraphSchema (graph : WorkflowGraph ν) : Except WorkflowGraphError (WorkflowGraph ν) :=
  match parseWorkflowGraphShape graph with
  | none => .error .shape
  | some parsed =>
    let issues := validateWorkflowGraphStructure parsed ++ validatePublishableWorkflowGraph parsed
    if issues = [] then .ok parsed else .error (.refinement issues)

end Structure

end ByokGrid
