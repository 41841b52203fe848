import ByokGrid.WorkflowPolicy

/-! What the validators guarantee of a graph they accept: unique identifiers,
compatible edges between nodes, one edge for each input, and no cycle. -/

namespace ByokGrid

variable {ν : Type}

def WorkflowGraph.nodeIds (graph : WorkflowGraph ν) : List String :=
  graph.nodes.map WorkflowNode.id

def WorkflowGraph.stepEdge (graph : WorkflowGraph ν) (u v : String) : Prop :=
  ∃ edge ∈ graph.edges, edge.sourceNodeId = u ∧ edge.targetNodeId = v

structure EdgeConnects (graph : WorkflowGraph ν) (edge : WorkflowEdge) (source target : WorkflowNode ν) :
    Prop where
  source_mem : source ∈ graph.nodes
  source_id : source.id = edge.sourceNodeId
  target_mem : target ∈ graph.nodes
  target_id : target.id = edge.targetNodeId
  distinct : edge.sourceNodeId ≠ edge.targetNodeId
  output : edge.sourceHandle ∈ workflowNodeOutputs source.kind
  input : edge.targetHandle ∈ workflowNodeInputs target.kind

theorem nodeById_eq_some {graph : WorkflowGraph ν} {id : String} {node : WorkflowNode ν}
    (h : graph.nodeById id = some node) : node ∈ graph.nodes ∧ node.id = id := by
  have hmem := List.mem_of_find?_eq_some h
  have hid := List.find?_some h
  exact ⟨by simpa using hmem, by simpa using hid⟩

theorem nodeById_of_mem {graph : WorkflowGraph ν} (hnd : graph.nodeIds.Nodup) {node : WorkflowNode ν}
    (h : node ∈ graph.nodes) : graph.nodeById node.id = some node := by
  cases hfind : graph.nodeById node.id with
  | none =>
    have := List.find?_eq_none.mp hfind node (by simpa using h)
    simp at this
  | some other =>
    obtain ⟨hmem, hid⟩ := nodeById_eq_some hfind
    rw [List.inj_on_of_nodup_map hnd hmem h hid]

theorem duplicateNodeIssues_eq_nil {index : Nat} {seen : List String} {nodes : List (WorkflowNode ν)}
    (hseen : seen.Nodup) (h : duplicateNodeIssues index seen nodes = []) :
    (seen ++ nodes.map WorkflowNode.id).Nodup := by
  induction nodes generalizing index seen with
  | nil => simpa using hseen
  | cons node nodes ih =>
    simp only [duplicateNodeIssues, List.append_eq_nil_iff] at h
    have hfresh : node.id ∉ seen := by
      intro hin
      simp [hin] at h
    have hnext : (seen ++ [node.id]).Nodup := by
      rw [List.nodup_append]
      refine ⟨hseen, List.nodup_singleton _, ?_⟩
      rintro a ha b hb rfl
      exact hfresh (List.mem_singleton.mp hb ▸ ha)
    simpa using ih hnext h.2

def WorkflowEdge.inputKey (edge : WorkflowEdge) : String :=
  edge.targetNodeId ++ ":" ++ edge.targetHandle

structure ScanAccepts (graph : WorkflowGraph ν) (scan : EdgeScan) (edges : List WorkflowEdge) : Prop where
  issues : scan.issues = []
  edgeIds : scan.edgeIds = edges.map WorkflowEdge.id
  edgeIds_nodup : scan.edgeIds.Nodup
  inputs : scan.occupiedInputs = edges.map WorkflowEdge.inputKey
  inputs_nodup : scan.occupiedInputs.Nodup
  outgoing : ∀ id, scan.outgoing id =
    (edges.filter fun edge => edge.sourceNodeId = id).map WorkflowEdge.targetNodeId
  incoming : ∀ id, scan.incomingCount id = (edges.filter fun edge => edge.targetNodeId = id).length
  connects : ∀ edge ∈ edges, ∃ source target, EdgeConnects graph edge source target

theorem scanEdge_issues {graph : WorkflowGraph ν} {index : Nat} {scan : EdgeScan} {edge : WorkflowEdge}
    (h : (scanEdge graph index scan edge).issues = []) :
    scan.issues = [] ∧ edge.id ∉ scan.edgeIds ∧ edge.inputKey ∉ scan.occupiedInputs ∧
      (∃ source target, EdgeConnects graph edge source target) ∧
      scanEdge graph index scan edge = EdgeScan.connect
        { scan with edgeIds := scan.edgeIds ++ [edge.id],
                    occupiedInputs := scan.occupiedInputs ++ [edge.inputKey] }
        edge.sourceNodeId edge.targetNodeId := by
  unfold scanEdge at h ⊢
  by_cases hid : edge.id ∈ scan.edgeIds
  · simp only [hid, if_true] at h
    split at h
    · split at h
      · simp [EdgeScan.addIssue] at h
      · split at h
        · simp [EdgeScan.addIssue] at h
        · split at h <;> simp [EdgeScan.addIssue, EdgeScan.connect] at h
    · simp [EdgeScan.addIssue] at h
  · simp only [hid, if_false] at h ⊢
    cases hs : graph.nodeById edge.sourceNodeId with
    | none => simp [hs, EdgeScan.addIssue] at h
    | some source =>
      cases ht : graph.nodeById edge.targetNodeId with
      | none => simp [hs, ht, EdgeScan.addIssue] at h
      | some target =>
        obtain ⟨hsmem, hsid⟩ := nodeById_eq_some hs
        obtain ⟨htmem, htid⟩ := nodeById_eq_some ht
        simp only [hs, ht] at h ⊢
        split at h
        · simp [EdgeScan.addIssue] at h
        · rename_i hne
          split at h
          · simp [EdgeScan.addIssue] at h
          · rename_i hports
            rw [if_neg hne, if_neg hports]
            split at h
            · simp [EdgeScan.addIssue, EdgeScan.connect] at h
            · rename_i hkey
              rw [if_neg hkey, htid, hsid]
              rw [htid] at hkey
              simp only [not_or, not_not] at hports
              refine ⟨by simpa [EdgeScan.connect] using h, fun hin => hin.elim, hkey,
                ⟨source, target, hsmem, hsid, htmem, htid, ?_, hports.1, hports.2⟩, rfl⟩
              rwa [← hsid, ← htid]

theorem ScanAccepts.step {graph : WorkflowGraph ν} {index : Nat} {scan : EdgeScan}
    {edges : List WorkflowEdge} {edge : WorkflowEdge} (h : ScanAccepts graph scan edges)
    (hissues : (scanEdge graph index scan edge).issues = []) :
    ScanAccepts graph (scanEdge graph index scan edge) (edges ++ [edge]) := by
  obtain ⟨_, hid, hkey, hconnects, heq⟩ := scanEdge_issues hissues
  rw [heq] at hissues ⊢
  refine ⟨hissues, ?_, ?_, ?_, ?_, ?_, ?_, ?_⟩
  · simp [EdgeScan.connect, h.edgeIds]
  · rw [show (EdgeScan.connect _ edge.sourceNodeId edge.targetNodeId).edgeIds = scan.edgeIds ++ [edge.id]
      from rfl, List.nodup_append]
    refine ⟨h.edgeIds_nodup, List.nodup_singleton _, ?_⟩
    rintro a ha b hb rfl
    exact hid (List.mem_singleton.mp hb ▸ ha)
  · simp [EdgeScan.connect, h.inputs]
  · rw [show (EdgeScan.connect _ edge.sourceNodeId edge.targetNodeId).occupiedInputs =
      scan.occupiedInputs ++ [edge.inputKey] from rfl, List.nodup_append]
    refine ⟨h.inputs_nodup, List.nodup_singleton _, ?_⟩
    rintro a ha b hb rfl
    exact hkey (List.mem_singleton.mp hb ▸ ha)
  · intro id
    by_cases hsource : id = edge.sourceNodeId
    · subst hsource
      simp [EdgeScan.connect, h.outgoing, List.filter_append]
    · simp [EdgeScan.connect, Function.update_of_ne hsource, h.outgoing, List.filter_append,
        Ne.symm hsource]
  · intro id
    by_cases htarget : id = edge.targetNodeId
    · subst htarget
      simp [EdgeScan.connect, h.incoming, List.filter_append]
    · simp [EdgeScan.connect, Function.update_of_ne htarget, h.incoming, List.filter_append,
        Ne.symm htarget]
  · intro other hother
    rcases List.mem_append.mp hother with hother | hother
    · exact h.connects other hother
    · rw [List.mem_singleton.mp hother]
      exact hconnects

theorem scanEdges_issues {graph : WorkflowGraph ν} {index : Nat} {scan : EdgeScan}
    {edges : List WorkflowEdge} (h : (scanEdges graph index scan edges).issues = []) :
    scan.issues = [] := by
  induction edges generalizing index scan with
  | nil => exact h
  | cons edge edges ih => exact (scanEdge_issues (ih h)).1

theorem scanEdges_accepts {graph : WorkflowGraph ν} {index : Nat} {scan : EdgeScan}
    {before edges : List WorkflowEdge} (hscan : ScanAccepts graph scan before)
    (h : (scanEdges graph index scan edges).issues = []) :
    ScanAccepts graph (scanEdges graph index scan edges) (before ++ edges) := by
  induction edges generalizing index scan before with
  | nil => simpa [scanEdges] using hscan
  | cons edge edges ih =>
    have hstep := hscan.step (scanEdges_issues h)
    simpa [scanEdges] using ih hstep h

theorem ScanAccepts.initial (graph : WorkflowGraph ν) : ScanAccepts graph EdgeScan.initial [] :=
  ⟨rfl, rfl, List.nodup_nil, rfl, List.nodup_nil, by simp [EdgeScan.initial], by simp [EdgeScan.initial],
    by simp⟩

structure PublishableGraph (graph : WorkflowGraph ν) : Prop where
  nodes_nodup : graph.nodeIds.Nodup
  edges_nodup : (graph.edges.map WorkflowEdge.id).Nodup
  inputs_nodup : (graph.edges.map fun edge => (edge.targetNodeId, edge.targetHandle)).Nodup
  connects : ∀ edge ∈ graph.edges, ∃ source target, EdgeConnects graph edge source target
  acyclic : Acyclic graph.stepEdge
  trigger : ∃ node ∈ graph.nodes, node.kind = .tableRows
  input : ∀ node ∈ graph.nodes, node.kind ≠ .tableRows → ∃ edge ∈ graph.edges, edge.targetNodeId = node.id

section Accepted

variable {graph : WorkflowGraph ν}

theorem EdgeConnects.source_nodeIds {edge : WorkflowEdge} {source target : WorkflowNode ν}
    (h : EdgeConnects graph edge source target) : edge.sourceNodeId ∈ graph.nodeIds :=
  List.mem_map.mpr ⟨source, h.source_mem, h.source_id⟩

theorem EdgeConnects.target_nodeIds {edge : WorkflowEdge} {source target : WorkflowNode ν}
    (h : EdgeConnects graph edge source target) : edge.targetNodeId ∈ graph.nodeIds :=
  List.mem_map.mpr ⟨target, h.target_mem, h.target_id⟩

theorem ScanAccepts.graphEdge_iff {scan : EdgeScan} (h : ScanAccepts graph scan graph.edges) (u v : String) :
    graphEdge graph.nodeIds scan.outgoing u v ↔ graph.stepEdge u v := by
  simp only [graphEdge, h.outgoing, List.mem_map, List.mem_filter, decide_eq_true_eq]
  constructor
  · rintro ⟨_, edge, ⟨hedge, hsource⟩, htarget⟩
    exact ⟨edge, hedge, hsource, htarget⟩
  · rintro ⟨edge, hedge, hsource, htarget⟩
    obtain ⟨source, target, hconnects⟩ := h.connects edge hedge
    exact ⟨hsource ▸ hconnects.source_nodeIds, edge, ⟨hedge, hsource⟩, htarget⟩

theorem ScanAccepts.closed {scan : EdgeScan} (h : ScanAccepts graph scan graph.edges) :
    ∀ u ∈ graph.nodeIds, ∀ v ∈ scan.outgoing u, v ∈ graph.nodeIds := by
  intro u hu v hv
  obtain ⟨edge, hedge, _, rfl⟩ := (h.graphEdge_iff u v).mp ⟨hu, hv⟩
  obtain ⟨source, target, hconnects⟩ := h.connects edge hedge
  exact hconnects.target_nodeIds

theorem ScanAccepts.kahn {scan : EdgeScan} (h : ScanAccepts graph scan graph.edges) (hnd : graph.nodeIds.Nodup) :
    ∃ remaining, KahnInvariant graph.nodeIds scan.outgoing remaining [] (acyclicVisits graph scan) := by
  have hremaining : ∀ v ∈ graph.nodeIds,
      scan.incomingCount v = (graph.nodeIds.flatMap scan.outgoing).count v := by
    intro v _
    rw [funext h.outgoing, count_flatMap_edges _ _ _ hnd, h.incoming]
    congr 2
    refine List.filter_congr fun edge hedge => ?_
    obtain ⟨source, target, hconnects⟩ := h.connects edge hedge
    simp [hconnects.source_nodeIds]
  have hinitial : KahnInvariant graph.nodeIds scan.outgoing scan.incomingCount
      (graph.nodeIds.filter fun id => scan.incomingCount id = 0) [] :=
    KahnInvariant.initial hnd hremaining (List.Perm.refl _)
  have hfuel : graph.nodeIds.length ≤
      graph.nodes.length + graph.edges.length + ([] : List String).length := by
    simp [WorkflowGraph.nodeIds]
  exact kahnLoop_spec stackList hnd h.closed hinitial hfuel

theorem ScanAccepts.acyclic {scan : EdgeScan} (h : ScanAccepts graph scan graph.edges)
    (hnd : graph.nodeIds.Nodup) (hvisits : (acyclicVisits graph scan).length = graph.nodes.length) :
    Acyclic graph.stepEdge := by
  obtain ⟨remaining, hfinal⟩ := h.kahn hnd
  have horder := hfinal.topologicalOrder (by simpa [WorkflowGraph.nodeIds] using hvisits)
  have hacyclic := horder.acyclic hnd fun u v hedge => h.closed u hedge.1 v hedge.2
  exact hacyclic.mono fun u v hedge => (h.graphEdge_iff u v).mpr hedge

theorem missingInputIssues_eq_nil {index : Nat} {nodes : List (WorkflowNode ν)}
    (h : missingInputIssues graph index nodes = []) :
    ∀ node ∈ nodes, node.kind ≠ .tableRows → ∃ edge ∈ graph.edges, edge.targetNodeId = node.id := by
  induction nodes generalizing index with
  | nil => simp
  | cons head nodes ih =>
    simp only [missingInputIssues, List.append_eq_nil_iff] at h
    intro node hnode hkind
    rcases List.mem_cons.mp hnode with rfl | hnode
    · have hcount : graph.incomingCount node.id ≠ 0 := by
        intro hzero
        simp [hkind, hzero] at h
      obtain ⟨edge, hedge⟩ := List.exists_mem_of_length_pos (Nat.pos_of_ne_zero hcount)
      simp only [WorkflowGraph.knownEdges, List.mem_filter, decide_eq_true_eq] at hedge
      exact ⟨edge, hedge.1.1, hedge.2⟩
    · exact ih h.2 node hnode hkind

theorem publishableGraph_of_issues (hstructure : validateWorkflowGraphStructure graph = [])
    (hpublishable : validatePublishableWorkflowGraph graph = []) : PublishableGraph graph := by
  simp only [validateWorkflowGraphStructure, List.append_eq_nil_iff] at hstructure
  obtain ⟨⟨hnodes, hissues⟩, hcycle⟩ := hstructure
  simp only [validatePublishableWorkflowGraph, List.append_eq_nil_iff] at hpublishable
  obtain ⟨⟨⟨htriggers, _⟩, hmissing⟩, _⟩ := hpublishable
  have htrigger : ∃ node ∈ graph.nodes, node.kind = .tableRows := by
    by_contra hnone
    have hempty : graph.nodes.filter (fun node => node.kind = .tableRows) = [] :=
      List.filter_eq_nil_iff.mpr fun node hnode hkind => hnone ⟨node, hnode, of_decide_eq_true hkind⟩
    simp [hempty] at htriggers
  have hnd : graph.nodeIds.Nodup := duplicateNodeIssues_eq_nil List.nodup_nil hnodes
  have hscan := scanEdges_accepts (ScanAccepts.initial graph) hissues
  have hvisits : (acyclicVisits graph (scanEdges graph 0 EdgeScan.initial graph.edges)).length =
      graph.nodes.length := by
    by_contra hne
    simp [hne] at hcycle
  refine ⟨hnd, hscan.edgeIds ▸ hscan.edgeIds_nodup, ?_, hscan.connects, hscan.acyclic hnd hvisits, htrigger,
    missingInputIssues_eq_nil hmissing⟩
  refine List.Nodup.of_map (fun input => input.1 ++ ":" ++ input.2) ?_
  rw [List.map_map]
  exact hscan.inputs ▸ hscan.inputs_nodup

theorem PublishableGraph.trigger_no_input (h : PublishableGraph graph) {node : WorkflowNode ν}
    (hnode : node ∈ graph.nodes) (hkind : node.kind = .tableRows) {edge : WorkflowEdge}
    (hedge : edge ∈ graph.edges) : edge.targetNodeId ≠ node.id := by
  intro htarget
  obtain ⟨source, target, hconnects⟩ := h.connects edge hedge
  have hsame : target = node := List.inj_on_of_nodup_map h.nodes_nodup hconnects.target_mem hnode
    (hconnects.target_id.trans htarget)
  have hport := hconnects.input
  rw [hsame, hkind] at hport
  simp [workflowNodeInputs] at hport

end Accepted

end ByokGrid
