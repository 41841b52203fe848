import ByokGrid.WorkflowGraphFacts

/-! A graph accepted by the schema is accepted again. The second parse trims the
node names, which normalization may have left with outer white space, and keeps
everything else. -/

namespace ByokGrid

variable {ν : Type}

def WorkflowNode.trimName (node : WorkflowNode ν) : WorkflowNode ν :=
  { node with name := jsTrim node.name }

def WorkflowGraph.trimNames (graph : WorkflowGraph ν) : WorkflowGraph ν :=
  { graph with nodes := graph.nodes.map WorkflowNode.trimName }

section Trim

@[simp] theorem WorkflowNode.trimName_id (node : WorkflowNode ν) : node.trimName.id = node.id := rfl

@[simp] theorem WorkflowNode.trimName_kind (node : WorkflowNode ν) : node.trimName.kind = node.kind := rfl

@[simp] theorem WorkflowNode.trimName_configuration (node : WorkflowNode ν) :
    node.trimName.configuration = node.configuration := rfl

@[simp] theorem WorkflowNode.trimName_name (node : WorkflowNode ν) : node.trimName.name = jsTrim node.name := rfl

variable (graph : WorkflowGraph ν)

@[simp] theorem WorkflowGraph.trimNames_edges : graph.trimNames.edges = graph.edges := rfl

@[simp] theorem WorkflowGraph.trimNames_nodes :
    graph.trimNames.nodes = graph.nodes.map WorkflowNode.trimName := rfl

@[simp] theorem WorkflowGraph.trimNames_nodeIds : graph.trimNames.nodeIds = graph.nodeIds := by
  simp [WorkflowGraph.nodeIds, Function.comp_def]

theorem WorkflowGraph.trimNames_stepEdge : graph.trimNames.stepEdge = graph.stepEdge := rfl

theorem nodeById_trimNames (id : String) :
    graph.trimNames.nodeById id = (graph.nodeById id).map WorkflowNode.trimName := by
  simp only [WorkflowGraph.nodeById, WorkflowGraph.trimNames_nodes, ← List.map_reverse, List.find?_map]
  rfl

theorem duplicateNodeIssues_trimName (index : Nat) (seen : List String) (nodes : List (WorkflowNode ν)) :
    duplicateNodeIssues index seen (nodes.map WorkflowNode.trimName) =
      duplicateNodeIssues index seen nodes := by
  induction nodes generalizing index seen with
  | nil => rfl
  | cons node nodes ih =>
    simp only [List.map_cons, duplicateNodeIssues, WorkflowNode.trimName_id, ih]
    rfl

theorem scanEdge_trimNames (index : Nat) (scan : EdgeScan) (edge : WorkflowEdge) :
    scanEdge graph.trimNames index scan edge = scanEdge graph index scan edge := by
  simp only [scanEdge, nodeById_trimNames]
  cases graph.nodeById edge.sourceNodeId with
  | none => rfl
  | some source =>
    cases graph.nodeById edge.targetNodeId with
    | none => rfl
    | some target => rfl

theorem scanEdges_trimNames (index : Nat) (scan : EdgeScan) (edges : List WorkflowEdge) :
    scanEdges graph.trimNames index scan edges = scanEdges graph index scan edges := by
  induction edges generalizing index scan with
  | nil => rfl
  | cons edge edges ih => simp only [scanEdges, scanEdge_trimNames, ih]

theorem validateWorkflowGraphStructure_trimNames :
    validateWorkflowGraphStructure graph.trimNames = validateWorkflowGraphStructure graph := by
  simp only [validateWorkflowGraphStructure, acyclicVisits, scanEdges_trimNames,
    WorkflowGraph.trimNames_edges, WorkflowGraph.trimNames_nodes, duplicateNodeIssues_trimName,
    List.length_map, List.map_map]
  rfl

theorem hasNode_trimNames (id : String) : graph.trimNames.hasNode id = graph.hasNode id := by
  rw [WorkflowGraph.hasNode, WorkflowGraph.trimNames_nodes, List.any_map]
  rfl

theorem knownEdges_trimNames : graph.trimNames.knownEdges = graph.knownEdges := by
  simp only [WorkflowGraph.knownEdges, hasNode_trimNames, WorkflowGraph.trimNames_edges]

theorem missingInputIssues_trimName (index : Nat) (nodes : List (WorkflowNode ν)) :
    missingInputIssues graph.trimNames index (nodes.map WorkflowNode.trimName) =
      missingInputIssues graph index nodes := by
  induction nodes generalizing index with
  | nil => rfl
  | cons node nodes ih =>
    simp only [List.map_cons, missingInputIssues, WorkflowGraph.incomingCount, knownEdges_trimNames, ih,
      WorkflowNode.trimName_id, WorkflowNode.trimName_kind]
    rfl

theorem validatePublishableWorkflowGraph_trimNames :
    validatePublishableWorkflowGraph graph.trimNames = validatePublishableWorkflowGraph graph := by
  have houtgoing : graph.trimNames.outgoing = graph.outgoing := by
    funext id
    simp only [WorkflowGraph.outgoing, knownEdges_trimNames]
  have hfilter : ∀ p : WorkflowNodeKind → Bool,
      (graph.nodes.map WorkflowNode.trimName).filter (fun node => p node.kind) =
        (graph.nodes.filter fun node => p node.kind).map WorkflowNode.trimName := by
    intro p
    rw [List.filter_map]
    rfl
  simp only [validatePublishableWorkflowGraph, houtgoing, WorkflowGraph.trimNames_nodes,
    missingInputIssues_trimName, WorkflowGraph.trimNames_edges, List.length_map,
    hfilter fun kind => kind = .tableRows, hfilter WorkflowNodeKind.destination, List.map_map]
  rfl

end Trim

section Parse

variable [JsRuntime ν]

theorem parseWorkflowName_again {name value : String} (h : parseWorkflowName ν name = some value) :
    parseWorkflowName ν value = some (jsTrim value) := by
  simp only [parseWorkflowName] at h ⊢
  split at h
  · rename_i hlength
    simp only [Option.some.injEq] at h
    have hvalue : JsRuntime.normalizeNFKC ν (jsTrim value) = jsTrim value := by
      rw [← h, JsRuntime.normalizeNFKC_trim]
    have hname : jsTrim (jsTrim name) ≠ "" := by
      intro hempty
      rw [jsTrim_jsTrim] at hempty
      rw [hempty, JsRuntime.normalizeNFKC_empty] at hlength
      exact absurd hlength.1 (by decide)
    have hvisible : jsTrim (JsRuntime.normalizeNFKC ν (jsTrim name)) ≠ "" :=
      JsRuntime.normalizeNFKC_visible (jsTrim name) hname
    rw [h] at hvisible hlength
    have hle := utf16Length_jsTrim_le value
    rw [hvalue, if_pos ⟨utf16Length_pos hvisible, by omega⟩]
  · cases h

theorem parseNodeConfiguration_again {configuration parsed : WorkflowNodeConfiguration ν}
    (h : parseNodeConfiguration configuration = some parsed) :
    parseNodeConfiguration parsed = some parsed := by
  cases configuration with
  | tableRows searchQuery tableId viewId =>
    cases searchQuery with
    | none =>
      simp only [parseNodeConfiguration, Option.ite_none_right_eq_some, Option.some.injEq] at h
      obtain ⟨hids, rfl⟩ := h
      simp only [parseNodeConfiguration, if_pos hids]
    | some searchQuery =>
      simp only [parseNodeConfiguration, Option.ite_none_right_eq_some, Option.map_eq_some_iff] at h
      obtain ⟨hids, value, hvalue, rfl⟩ := h
      simp only [parseNodeConfiguration, if_pos hids, parseGridSearchQuery_idem ν hvalue, Option.map_some]
  | enrichColumn columnId mode =>
    simp only [parseNodeConfiguration, Option.ite_none_right_eq_some, Option.some.injEq] at h
    obtain ⟨hids, rfl⟩ := h
    simp only [parseNodeConfiguration, if_pos hids]
  | filter filterTree =>
    simp only [parseNodeConfiguration, Option.ite_none_right_eq_some, Option.some.injEq] at h
    obtain ⟨hids, rfl⟩ := h
    simp only [parseNodeConfiguration, if_pos hids]
  | writeTable columnMappings tableId =>
    simp only [parseNodeConfiguration, Option.ite_none_right_eq_some, Option.some.injEq] at h
    obtain ⟨hids, rfl⟩ := h
    simp only [parseNodeConfiguration, if_pos hids]
  | sendWebhook destinationId =>
    simp only [parseNodeConfiguration, Option.ite_none_right_eq_some, Option.some.injEq] at h
    obtain ⟨hids, rfl⟩ := h
    simp only [parseNodeConfiguration, if_pos hids]

theorem parseWorkflowNode_again {node parsed : WorkflowNode ν} (h : parseWorkflowNode node = some parsed) :
    parseWorkflowNode parsed = some parsed.trimName := by
  unfold parseWorkflowNode at h ⊢
  split at h
  · rename_i hid
    simp only [Option.bind_eq_bind, Option.bind_eq_some_iff, Option.pure_def, Option.some.injEq] at h
    obtain ⟨name, hname, configuration, hconfiguration, rfl⟩ := h
    simp [if_pos hid, parseWorkflowName_again hname, parseNodeConfiguration_again hconfiguration,
      WorkflowNode.trimName]
  · cases h

theorem parseWorkflowNodes_again {nodes parsed : List (WorkflowNode ν)}
    (h : parseWorkflowNodes nodes = some parsed) :
    parsed.length = nodes.length ∧ parseWorkflowNodes parsed = some (parsed.map WorkflowNode.trimName) := by
  induction nodes generalizing parsed with
  | nil =>
    simp only [parseWorkflowNodes, Option.some.injEq] at h
    simp [← h, parseWorkflowNodes]
  | cons node nodes ih =>
    simp only [parseWorkflowNodes, Option.bind_eq_bind, Option.bind_eq_some_iff, Option.pure_def,
      Option.some.injEq] at h
    obtain ⟨head, hhead, tail, htail, rfl⟩ := h
    obtain ⟨hlength, hagain⟩ := ih htail
    simp [parseWorkflowNodes, parseWorkflowNode_again hhead, hagain, hlength]

theorem workflowGraphSchema_eq_ok {input graph : WorkflowGraph ν} (h : workflowGraphSchema input = .ok graph) :
    parseWorkflowGraphShape input = some graph ∧ validateWorkflowGraphStructure graph = [] ∧
      validatePublishableWorkflowGraph graph = [] := by
  unfold workflowGraphSchema at h
  cases hshape : parseWorkflowGraphShape input with
  | none => simp [hshape] at h
  | some parsed =>
    simp only [hshape, List.append_eq_nil_iff] at h
    split at h
    · rename_i hissues
      simp only [Except.ok.injEq] at h
      exact ⟨by rw [h], h ▸ hissues⟩
    · cases h

theorem workflowGraphSchema_again {input graph : WorkflowGraph ν} (h : workflowGraphSchema input = .ok graph) :
    workflowGraphSchema graph = .ok graph.trimNames := by
  obtain ⟨hshape, hstructure, hpublishable⟩ := workflowGraphSchema_eq_ok h
  have hagain : parseWorkflowGraphShape graph = some graph.trimNames := by
    unfold parseWorkflowGraphShape at hshape ⊢
    split at hshape
    · rename_i hbounds
      obtain ⟨nodes, hnodes, rfl⟩ := Option.map_eq_some_iff.mp hshape
      obtain ⟨hlength, hparse⟩ := parseWorkflowNodes_again hnodes
      rw [if_pos ⟨hbounds.1, hbounds.2.1, by simpa only [hlength] using hbounds.2.2⟩, hparse]
      rfl
    · cases hshape
  unfold workflowGraphSchema
  simp [hagain, validateWorkflowGraphStructure_trimNames, validatePublishableWorkflowGraph_trimNames,
    hstructure, hpublishable]

theorem publishableGraph_of_schema {input graph : WorkflowGraph ν}
    (h : workflowGraphSchema input = .ok graph) : PublishableGraph graph := by
  obtain ⟨_, hstructure, hpublishable⟩ := workflowGraphSchema_eq_ok h
  exact publishableGraph_of_issues hstructure hpublishable

end Parse

end ByokGrid
