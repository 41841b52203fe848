import ByokGrid.WorkflowGraphFacts

/-! The validators accept exactly the graphs they are meant to accept, and a graph
which both accept is a forest whose roots are the triggers. -/

namespace ByokGrid

inductive WorkflowPortType where
  | rows
  deriving Repr, DecidableEq

structure WorkflowPort where
  id : String
  type : WorkflowPortType
  deriving Repr, DecidableEq

structure WorkflowPorts where
  inputs : List WorkflowPort
  outputs : List WorkflowPort
  deriving Repr, DecidableEq

def workflowNodePorts (kind : WorkflowNodeKind) : WorkflowPorts where
  inputs := (workflowNodeInputs kind).map fun id => ⟨id, .rows⟩
  outputs := (workflowNodeOutputs kind).map fun id => ⟨id, .rows⟩

def CompatiblePorts (source target : WorkflowNodeKind) (edge : WorkflowEdge) : Prop :=
  ∃ output ∈ (workflowNodePorts source).outputs, output.id = edge.sourceHandle ∧
    ∃ input ∈ (workflowNodePorts target).inputs, input.id = edge.targetHandle ∧ output.type = input.type

theorem compatiblePorts_iff {source target : WorkflowNodeKind} {edge : WorkflowEdge} :
    CompatiblePorts source target edge ↔
      edge.sourceHandle ∈ workflowNodeOutputs source ∧ edge.targetHandle ∈ workflowNodeInputs target := by
  constructor
  · rintro ⟨output, houtput, hsource, input, hinput, htarget, _⟩
    obtain ⟨left, hleft, rfl⟩ := List.mem_map.mp houtput
    obtain ⟨right, hright, rfl⟩ := List.mem_map.mp hinput
    exact ⟨hsource ▸ hleft, htarget ▸ hright⟩
  · rintro ⟨hsource, htarget⟩
    exact ⟨⟨edge.sourceHandle, .rows⟩, List.mem_map.mpr ⟨_, hsource, rfl⟩, rfl, ⟨edge.targetHandle, .rows⟩,
      List.mem_map.mpr ⟨_, htarget, rfl⟩, rfl, rfl⟩

theorem eq_rows_of_input {kind : WorkflowNodeKind} {handle : String} (h : handle ∈ workflowNodeInputs kind) :
    handle = "rows" := by
  cases kind <;> simp_all [workflowNodeInputs]

section Structure

variable {ν : Type} {graph : WorkflowGraph ν}

def EdgeFits (graph : WorkflowGraph ν) (edge : WorkflowEdge) : Prop :=
  ∃ source ∈ graph.nodes, source.id = edge.sourceNodeId ∧
    ∃ target ∈ graph.nodes, target.id = edge.targetNodeId ∧ CompatiblePorts source.kind target.kind edge

structure StructuredGraph (graph : WorkflowGraph ν) : Prop where
  nodes : (graph.nodes.map WorkflowNode.id).Nodup
  edges : (graph.edges.map WorkflowEdge.id).Nodup
  fits : ∀ edge ∈ graph.edges, EdgeFits graph edge
  inputs : (graph.edges.map fun edge => (edge.targetNodeId, edge.targetHandle)).Nodup
  acyclic : Acyclic graph.stepEdge

theorem StructuredGraph.connects (h : StructuredGraph graph) {edge : WorkflowEdge} (hedge : edge ∈ graph.edges) :
    ∃ source target, EdgeConnects graph edge source target := by
  obtain ⟨source, hsource, hsourceId, target, htarget, htargetId, hports⟩ := h.fits edge hedge
  obtain ⟨houtput, hinput⟩ := compatiblePorts_iff.mp hports
  refine ⟨source, target, hsource, hsourceId, htarget, htargetId, fun hloop => ?_, houtput, hinput⟩
  exact h.acyclic edge.sourceNodeId (Relation.TransGen.single ⟨edge, hedge, rfl, hloop.symm⟩)

theorem duplicateNodeIssues_of_nodup {index : Nat} {seen : List String} {nodes : List (WorkflowNode ν)}
    (h : (seen ++ nodes.map WorkflowNode.id).Nodup) : duplicateNodeIssues index seen nodes = [] := by
  induction nodes generalizing index seen with
  | nil => rfl
  | cons node nodes ih =>
    have hfresh : node.id ∉ seen := by
      intro hseen
      exact (List.nodup_append.mp h).2.2 node.id hseen node.id List.mem_cons_self rfl
    have hrest : duplicateNodeIssues (index + 1) (seen ++ [node.id]) nodes = [] := ih (by simpa using h)
    rw [duplicateNodeIssues, if_neg hfresh, hrest]
    rfl

theorem scanEdge_accepted {scan : EdgeScan} {before : List WorkflowEdge} {edge : WorkflowEdge} {index : Nat}
    {source target : WorkflowNode ν} (hnd : graph.nodeIds.Nodup) (hscan : ScanAccepts graph scan before)
    (hconnects : EdgeConnects graph edge source target) (hid : edge.id ∉ before.map WorkflowEdge.id)
    (hkey : edge.inputKey ∉ before.map WorkflowEdge.inputKey) : (scanEdge graph index scan edge).issues = [] := by
  have hsource : graph.nodeById edge.sourceNodeId = some source :=
    hconnects.source_id ▸ nodeById_of_mem hnd hconnects.source_mem
  have htarget : graph.nodeById edge.targetNodeId = some target :=
    hconnects.target_id ▸ nodeById_of_mem hnd hconnects.target_mem
  have hdistinct : source.id ≠ target.id := by
    rw [hconnects.source_id, hconnects.target_id]
    exact hconnects.distinct
  have hports : ¬ (edge.sourceHandle ∉ workflowNodeOutputs source.kind ∨
      edge.targetHandle ∉ workflowNodeInputs target.kind) := by
    rintro (hout | hin)
    · exact hout hconnects.output
    · exact hin hconnects.input
  have hfresh : target.id ++ ":" ++ edge.targetHandle ∉ scan.occupiedInputs := by
    rw [hscan.inputs, hconnects.target_id]
    exact hkey
  rw [← hscan.edgeIds] at hid
  simp only [scanEdge, hsource, htarget, if_neg hid, if_neg hdistinct, if_neg hports, if_neg hfresh,
    EdgeScan.connect, hscan.issues]

theorem scanEdges_accepted {scan : EdgeScan} {before edges : List WorkflowEdge} {index : Nat}
    (hnd : graph.nodeIds.Nodup) (hscan : ScanAccepts graph scan before)
    (hconnects : ∀ edge ∈ edges, ∃ source target, EdgeConnects graph edge source target)
    (hids : ((before ++ edges).map WorkflowEdge.id).Nodup)
    (hkeys : ((before ++ edges).map WorkflowEdge.inputKey).Nodup) :
    (scanEdges graph index scan edges).issues = [] := by
  induction edges generalizing index scan before with
  | nil => exact hscan.issues
  | cons edge edges ih =>
    obtain ⟨source, target, hedge⟩ := hconnects edge List.mem_cons_self
    have hid : edge.id ∉ before.map WorkflowEdge.id := by
      intro hin
      rw [List.map_append, List.map_cons] at hids
      exact (List.nodup_append.mp hids).2.2 edge.id hin edge.id List.mem_cons_self rfl
    have hkey : edge.inputKey ∉ before.map WorkflowEdge.inputKey := by
      intro hin
      rw [List.map_append, List.map_cons] at hkeys
      exact (List.nodup_append.mp hkeys).2.2 edge.inputKey hin edge.inputKey List.mem_cons_self rfl
    have hissues : (scanEdge graph index scan edge).issues = [] := scanEdge_accepted hnd hscan hedge hid hkey
    have hnext : ScanAccepts graph (scanEdge graph index scan edge) (before ++ [edge]) := hscan.step hissues
    refine ih hnext (fun other hother => hconnects other (List.mem_cons_of_mem edge hother)) ?_ ?_
    · simpa using hids
    · simpa using hkeys

theorem StructuredGraph.inputKeys (h : StructuredGraph graph) :
    (graph.edges.map WorkflowEdge.inputKey).Nodup := by
  have hpairs := List.pairwise_map.mp h.inputs
  refine List.pairwise_map.mpr (hpairs.imp_of_mem ?_)
  intro left right hleft hright hne hkey
  obtain ⟨_, target, hconnects⟩ := h.connects hleft
  obtain ⟨_, target', hconnects'⟩ := h.connects hright
  have hrows := eq_rows_of_input hconnects.input
  have hrows' := eq_rows_of_input hconnects'.input
  rw [WorkflowEdge.inputKey, WorkflowEdge.inputKey, hrows, hrows'] at hkey
  have htarget : left.targetNodeId = right.targetNodeId := by
    have hchars := congrArg String.toList hkey
    simp only [String.toList_append] at hchars
    rw [List.append_assoc, List.append_assoc] at hchars
    exact String.toList_injective (List.append_cancel_right hchars)
  exact hne (by rw [htarget, hrows, hrows'])

theorem validateWorkflowGraphStructure_iff :
    validateWorkflowGraphStructure graph = [] ↔ StructuredGraph graph := by
  constructor
  · intro h
    simp only [validateWorkflowGraphStructure, List.append_eq_nil_iff] at h
    obtain ⟨⟨hnodes, hissues⟩, hcycle⟩ := h
    have hnd : graph.nodeIds.Nodup := duplicateNodeIssues_eq_nil List.nodup_nil hnodes
    have hscan := scanEdges_accepts (ScanAccepts.initial graph) hissues
    have hvisits : (acyclicVisits graph (scanEdges graph 0 EdgeScan.initial graph.edges)).length =
        graph.nodes.length := by
      by_contra hne
      simp [hne] at hcycle
    refine ⟨hnd, hscan.edgeIds ▸ hscan.edgeIds_nodup, ?_, ?_, hscan.acyclic hnd hvisits⟩
    · intro edge hedge
      obtain ⟨source, target, hconnects⟩ := hscan.connects edge hedge
      exact ⟨source, hconnects.source_mem, hconnects.source_id, target, hconnects.target_mem,
        hconnects.target_id, compatiblePorts_iff.mpr ⟨hconnects.output, hconnects.input⟩⟩
    · refine List.Nodup.of_map (fun input => input.1 ++ ":" ++ input.2) ?_
      rw [List.map_map]
      exact hscan.inputs ▸ hscan.inputs_nodup
  · intro h
    have hnodes : duplicateNodeIssues 0 [] graph.nodes = [] := duplicateNodeIssues_of_nodup h.nodes
    have hissues : (scanEdges graph 0 EdgeScan.initial graph.edges).issues = [] :=
      scanEdges_accepted h.nodes (ScanAccepts.initial graph) (fun _ => h.connects) h.edges h.inputKeys
    have hscan := scanEdges_accepts (ScanAccepts.initial graph) hissues
    obtain ⟨remaining, hkahn⟩ := hscan.kahn h.nodes
    have hacyclic : Acyclic (graphEdge graph.nodeIds
        (scanEdges graph 0 EdgeScan.initial graph.edges).outgoing) :=
      h.acyclic.mono fun u v hedge => (hscan.graphEdge_iff u v).mp hedge
    have hvisits := hkahn.length_of_acyclic h.nodes hacyclic
    rw [WorkflowGraph.nodeIds, List.length_map] at hvisits
    simp only [validateWorkflowGraphStructure, hnodes, hissues, hvisits]
    simp

def TriggerReaches (graph : WorkflowGraph ν) (id : String) : Prop :=
  ∃ trigger ∈ graph.nodes, trigger.kind = .tableRows ∧ Relation.ReflTransGen graph.stepEdge trigger.id id

structure CompleteWorkflow (graph : WorkflowGraph ν) : Prop where
  trigger : ∃ node ∈ graph.nodes, node.kind = .tableRows
  destination : ∃ node ∈ graph.nodes, node.kind.destination = true
  reachable : ∀ node ∈ graph.nodes, TriggerReaches graph node.id

theorem StructuredGraph.knownEdges (h : StructuredGraph graph) : graph.knownEdges = graph.edges := by
  refine List.filter_eq_self.mpr fun edge hedge => ?_
  obtain ⟨source, hsource, hsourceId, target, htarget, htargetId, _⟩ := h.fits edge hedge
  rw [Bool.and_eq_true]
  exact ⟨List.any_eq_true.mpr ⟨source, hsource, decide_eq_true hsourceId⟩,
    List.any_eq_true.mpr ⟨target, htarget, decide_eq_true htargetId⟩⟩

theorem StructuredGraph.mem_outgoing (h : StructuredGraph graph) {u v : String} :
    v ∈ graph.outgoing u ↔ graph.stepEdge u v := by
  rw [WorkflowGraph.outgoing, h.knownEdges, List.mem_map]
  constructor
  · rintro ⟨edge, hedge, htarget⟩
    obtain ⟨hedge, hsource⟩ := List.mem_filter.mp hedge
    exact ⟨edge, hedge, of_decide_eq_true hsource, htarget⟩
  · rintro ⟨edge, hedge, hsource, htarget⟩
    exact ⟨edge, List.mem_filter.mpr ⟨hedge, decide_eq_true hsource⟩, htarget⟩

theorem StructuredGraph.incomingCount_eq_zero (h : StructuredGraph graph) {id : String} :
    graph.incomingCount id = 0 ↔ ∀ edge ∈ graph.edges, edge.targetNodeId ≠ id := by
  rw [WorkflowGraph.incomingCount, h.knownEdges, List.length_eq_zero_iff, List.filter_eq_nil_iff]
  simp

def publishableReach (graph : WorkflowGraph ν) : List String :=
  exploreLoop popLast graph.outgoing (graph.nodes.length + graph.edges.length)
    ((graph.nodes.filter fun node => node.kind = .tableRows).map WorkflowNode.id) []

theorem length_outgoing_le (h : StructuredGraph graph) :
    (graph.nodeIds.flatMap graph.outgoing).length ≤ graph.edges.length := by
  have hgroups := (flatMap_filter_perm WorkflowEdge.sourceNodeId graph.knownEdges h.nodes).length_eq
  have hlength : (graph.nodeIds.flatMap graph.outgoing).length =
      (graph.nodeIds.flatMap fun id => graph.knownEdges.filter fun edge => edge.sourceNodeId = id).length := by
    simp [WorkflowGraph.outgoing, List.length_flatMap]
  rw [hlength, WorkflowGraph.nodeIds, hgroups, h.knownEdges]
  exact List.length_filter_le _ _

theorem StructuredGraph.publishableReach (h : StructuredGraph graph) :
    (publishableReach graph).Nodup ∧ ∀ id, id ∈ publishableReach graph ↔ TriggerReaches graph id := by
  have hoff : ∀ v, v ∉ graph.nodeIds → graph.outgoing v = [] := by
    intro v hv
    refine List.eq_nil_iff_forall_not_mem.mpr fun w hw => ?_
    obtain ⟨edge, hedge, hsource, _⟩ := h.mem_outgoing.mp hw
    obtain ⟨source, _, hconnects⟩ := h.connects hedge
    exact hv (hsource ▸ hconnects.source_nodeIds)
  have hfuel : ((graph.nodes.filter fun node => node.kind = .tableRows).map WorkflowNode.id).length +
      (graph.nodeIds.flatMap graph.outgoing).length ≤ graph.nodes.length + graph.edges.length := by
    have htriggers : (graph.nodes.filter fun node => node.kind = .tableRows).length ≤ graph.nodes.length :=
      List.length_filter_le _ _
    have hedges := length_outgoing_le h
    rw [List.length_map]
    omega
  refine ⟨nodup_exploreLoop popLast_takesOne h.nodes hoff hfuel, fun id => ?_⟩
  rw [ByokGrid.publishableReach, mem_exploreLoop popLast_takesOne h.nodes hoff hfuel]
  have hstep : (fun a b => b ∈ graph.outgoing a) = graph.stepEdge := by
    funext a b
    exact propext h.mem_outgoing
  rw [hstep]
  constructor
  · rintro ⟨u, hu, hpath⟩
    obtain ⟨trigger, htrigger, rfl⟩ := List.mem_map.mp hu
    obtain ⟨hnode, hkind⟩ := List.mem_filter.mp htrigger
    exact ⟨trigger, hnode, of_decide_eq_true hkind, hpath⟩
  · rintro ⟨trigger, hnode, hkind, hpath⟩
    exact ⟨trigger.id, List.mem_map_of_mem (List.mem_filter.mpr ⟨hnode, decide_eq_true hkind⟩), hpath⟩

theorem TriggerReaches.mem_nodeIds (h : StructuredGraph graph) {id : String} (hreach : TriggerReaches graph id) :
    id ∈ graph.nodeIds := by
  obtain ⟨trigger, htrigger, _, hpath⟩ := hreach
  rcases Relation.ReflTransGen.cases_tail hpath with rfl | ⟨_, _, edge, hedge, _, htarget⟩
  · exact List.mem_map_of_mem htrigger
  · obtain ⟨_, target, hconnects⟩ := h.connects hedge
    exact htarget ▸ hconnects.target_nodeIds

theorem StructuredGraph.length_publishableReach (h : StructuredGraph graph) :
    (ByokGrid.publishableReach graph).length = graph.nodes.length ↔
      ∀ node ∈ graph.nodes, TriggerReaches graph node.id := by
  obtain ⟨hnd, hmem⟩ := h.publishableReach
  have hsubset : ByokGrid.publishableReach graph ⊆ graph.nodeIds :=
    fun id hid => TriggerReaches.mem_nodeIds h ((hmem id).mp hid)
  have hlength : graph.nodeIds.length = graph.nodes.length := List.length_map _
  constructor
  · intro heq node hnode
    have hsub : (ByokGrid.publishableReach graph).Subperm graph.nodeIds := List.subperm_of_subset hnd hsubset
    have hperm : (ByokGrid.publishableReach graph).Perm graph.nodeIds := hsub.perm_of_length_le (by omega)
    exact (hmem node.id).mp (hperm.mem_iff.mpr (List.mem_map_of_mem hnode))
  · intro hall
    have hperm : (ByokGrid.publishableReach graph).Perm graph.nodeIds := by
      refine (List.perm_ext_iff_of_nodup hnd h.nodes).mpr fun id => ⟨fun hid => hsubset hid, fun hid => ?_⟩
      obtain ⟨node, hnode, rfl⟩ := List.mem_map.mp hid
      exact (hmem node.id).mpr (hall node hnode)
    rw [hperm.length_eq, hlength]

theorem missingInputIssues_of_inputs {index : Nat} {nodes : List (WorkflowNode ν)}
    (h : ∀ node ∈ nodes, node.kind ≠ .tableRows → graph.incomingCount node.id ≠ 0) :
    missingInputIssues graph index nodes = [] := by
  induction nodes generalizing index with
  | nil => rfl
  | cons node nodes ih =>
    have hnode : ¬ (node.kind ≠ .tableRows ∧ graph.incomingCount node.id = 0) :=
      fun hmissing => h node List.mem_cons_self hmissing.1 hmissing.2
    rw [missingInputIssues, if_neg hnode, ih fun other hother => h other (List.mem_cons_of_mem node hother)]
    rfl

theorem StructuredGraph.input_of_reached (h : StructuredGraph graph) {node : WorkflowNode ν}
    (hnode : node ∈ graph.nodes) (hkind : node.kind ≠ .tableRows) (hreach : TriggerReaches graph node.id) :
    graph.incomingCount node.id ≠ 0 := by
  intro hzero
  obtain ⟨trigger, htrigger, htriggerKind, hpath⟩ := hreach
  rcases Relation.ReflTransGen.cases_tail hpath with hsame | ⟨_, _, edge, hedge, _, htarget⟩
  · have heq : node = trigger := List.inj_on_of_nodup_map h.nodes hnode htrigger hsame
    exact hkind (heq ▸ htriggerKind)
  · exact h.incomingCount_eq_zero.mp hzero edge hedge htarget

theorem StructuredGraph.publishable_iff (h : StructuredGraph graph) :
    validatePublishableWorkflowGraph graph = [] ↔ CompleteWorkflow graph := by
  have hreach := h.length_publishableReach
  rw [ByokGrid.publishableReach] at hreach
  simp only [validatePublishableWorkflowGraph, List.append_eq_nil_iff]
  constructor
  · rintro ⟨⟨⟨htriggers, hdestinations⟩, _⟩, hall⟩
    refine ⟨?_, ?_, hreach.mp ?_⟩
    · by_contra hnone
      have hempty : graph.nodes.filter (fun node => node.kind = .tableRows) = [] :=
        List.filter_eq_nil_iff.mpr fun node hnode hkind => hnone ⟨node, hnode, of_decide_eq_true hkind⟩
      simp [hempty] at htriggers
    · by_contra hnone
      have hempty : graph.nodes.filter (fun node => node.kind.destination) = [] :=
        List.filter_eq_nil_iff.mpr fun node hnode hkind => hnone ⟨node, hnode, hkind⟩
      simp [hempty] at hdestinations
    · by_contra hne
      simp [hne] at hall
  · intro hcomplete
    obtain ⟨trigger, htrigger, hkind⟩ := hcomplete.trigger
    obtain ⟨destination, hdestination, hdestinationKind⟩ := hcomplete.destination
    have htriggers : (graph.nodes.filter fun node => node.kind = .tableRows).length ≠ 0 := by
      have hmem : trigger ∈ graph.nodes.filter fun node => node.kind = .tableRows :=
        List.mem_filter.mpr ⟨htrigger, decide_eq_true hkind⟩
      exact (List.length_pos_of_mem hmem).ne'
    have hdestinations : (graph.nodes.filter fun node => node.kind.destination).length ≠ 0 := by
      have hmem : destination ∈ graph.nodes.filter fun node => node.kind.destination :=
        List.mem_filter.mpr ⟨hdestination, hdestinationKind⟩
      exact (List.length_pos_of_mem hmem).ne'
    have hinputs : missingInputIssues graph 0 graph.nodes = [] :=
      missingInputIssues_of_inputs fun node hnode hne =>
        h.input_of_reached hnode hne (hcomplete.reachable node hnode)
    refine ⟨⟨⟨if_neg htriggers, if_neg hdestinations⟩, hinputs⟩, if_neg ?_⟩
    exact not_not.mpr (hreach.mpr hcomplete.reachable)

structure TriggerForest (graph : WorkflowGraph ν) : Prop where
  acyclic : Acyclic graph.stepEdge
  roots : ∀ node ∈ graph.nodes, node.kind = .tableRows ↔ ∀ edge ∈ graph.edges, edge.targetNodeId ≠ node.id
  parents : ∀ left ∈ graph.edges, ∀ right ∈ graph.edges, left.targetNodeId = right.targetNodeId → left = right
  tree : ∀ node ∈ graph.nodes, ∃! trigger, trigger ∈ graph.nodes ∧ trigger.kind = .tableRows ∧
    Relation.ReflTransGen graph.stepEdge trigger.id node.id

theorem StructuredGraph.parents (h : StructuredGraph graph) {left right : WorkflowEdge} (hleft : left ∈ graph.edges)
    (hright : right ∈ graph.edges) (htarget : left.targetNodeId = right.targetNodeId) : left = right := by
  obtain ⟨_, _, hconnects⟩ := h.connects hleft
  obtain ⟨_, _, hconnects'⟩ := h.connects hright
  refine List.inj_on_of_nodup_map h.inputs hleft hright ?_
  rw [htarget, eq_rows_of_input hconnects.input, eq_rows_of_input hconnects'.input]

theorem StructuredGraph.trigger_root (h : StructuredGraph graph) {node : WorkflowNode ν} (hnode : node ∈ graph.nodes)
    (hkind : node.kind = .tableRows) {edge : WorkflowEdge} (hedge : edge ∈ graph.edges) :
    edge.targetNodeId ≠ node.id := by
  intro htarget
  obtain ⟨_, target, hconnects⟩ := h.connects hedge
  have hsame : target = node :=
    List.inj_on_of_nodup_map h.nodes hconnects.target_mem hnode (hconnects.target_id.trans htarget)
  have hport := hconnects.input
  rw [hsame, hkind] at hport
  cases hport

theorem StructuredGraph.trigger_unique (h : StructuredGraph graph) {left right : WorkflowNode ν} {id : String}
    (hleft : left ∈ graph.nodes) (hleftKind : left.kind = .tableRows) (hright : right ∈ graph.nodes)
    (hrightKind : right.kind = .tableRows) (hleftPath : Relation.ReflTransGen graph.stepEdge left.id id)
    (hrightPath : Relation.ReflTransGen graph.stepEdge right.id id) : left = right := by
  induction hleftPath with
  | refl =>
    rcases Relation.ReflTransGen.cases_tail hrightPath with hsame | ⟨_, _, edge, hedge, _, htarget⟩
    · exact List.inj_on_of_nodup_map h.nodes hleft hright hsame
    · exact absurd htarget (h.trigger_root hleft hleftKind hedge)
  | @tail u v _ hedge ih =>
    obtain ⟨edge, hin, hsource, htarget⟩ := hedge
    rcases Relation.ReflTransGen.cases_tail hrightPath with hsame | ⟨w, hpath, edge', hin', hsource', htarget'⟩
    · exact absurd (htarget.trans hsame) (h.trigger_root hright hrightKind hin)
    · have hedges : edge = edge' := h.parents hin hin' (htarget.trans htarget'.symm)
      have hsources : w = u := by rw [← hsource', ← hedges, hsource]
      exact ih (hsources ▸ hpath)

theorem StructuredGraph.forest (h : StructuredGraph graph) (hcomplete : CompleteWorkflow graph) :
    TriggerForest graph := by
  refine ⟨h.acyclic, fun node hnode => ⟨fun hkind edge => h.trigger_root hnode hkind, fun hroot => ?_⟩,
    fun _ hleft _ hright => h.parents hleft hright, fun node hnode => ?_⟩
  · by_contra hkind
    exact h.input_of_reached hnode hkind (hcomplete.reachable node hnode) (h.incomingCount_eq_zero.mpr hroot)
  · obtain ⟨trigger, htrigger, hkind, hpath⟩ := hcomplete.reachable node hnode
    refine ⟨trigger, ⟨htrigger, hkind, hpath⟩, ?_⟩
    rintro other ⟨hother, hotherKind, hotherPath⟩
    exact h.trigger_unique hother hotherKind htrigger hkind hotherPath hpath

/-- The validators accept exactly the structured graphs, and publish exactly the
complete ones of them, which are forests. -/
theorem workflowValidation_exact (graph : WorkflowGraph ν) :
    (validateWorkflowGraphStructure graph = [] ↔ StructuredGraph graph) ∧
      (validateWorkflowGraphStructure graph ++ validatePublishableWorkflowGraph graph = [] ↔
        StructuredGraph graph ∧ CompleteWorkflow graph) ∧
      (validateWorkflowGraphStructure graph ++ validatePublishableWorkflowGraph graph = [] →
        TriggerForest graph) := by
  have hpublish : validateWorkflowGraphStructure graph ++ validatePublishableWorkflowGraph graph = [] ↔
      StructuredGraph graph ∧ CompleteWorkflow graph := by
    rw [List.append_eq_nil_iff, validateWorkflowGraphStructure_iff]
    exact and_congr_right fun h => h.publishable_iff
  refine ⟨validateWorkflowGraphStructure_iff, hpublish, fun hissues => ?_⟩
  obtain ⟨hstructured, hcomplete⟩ := hpublish.mp hissues
  exact hstructured.forest hcomplete

end Structure

section Sample

def notifyGraph : WorkflowGraph SafeInteger where
  edges := [⟨"send", "rows", "people", "rows", "webhook"⟩]
  nodes := [⟨"people", "People", .tableRows none "people" none⟩, ⟨"webhook", "Webhook", .sendWebhook "webhook"⟩]

theorem workflowValidation_exact_notify : StructuredGraph notifyGraph ∧ CompleteWorkflow notifyGraph ∧
    TriggerForest notifyGraph := by
  have hissues : validateWorkflowGraphStructure notifyGraph ++ validatePublishableWorkflowGraph notifyGraph = [] := by
    decide
  obtain ⟨hstructure, hpublish, hforest⟩ := workflowValidation_exact notifyGraph
  exact ⟨(hpublish.mp hissues).1, (hpublish.mp hissues).2, hforest hissues⟩

end Sample

end ByokGrid
