import ByokGrid.WorkflowDrafts

/-! What a second parse does to a stored draft: it trims the names which normalization
has left with outer white space, and nothing else. -/

namespace ByokGrid

section Names

variable {ν : Type}

def AuthoredWorkflowGraph.trimNames (authored : AuthoredWorkflowGraph ν) : AuthoredWorkflowGraph ν :=
  { authored with nodes := authored.nodes.map fun node => (node.1.trimName, node.2) }

def AuthoredWorkflowGraph.NamesTrimmed (authored : AuthoredWorkflowGraph ν) : Prop :=
  ∀ node ∈ authored.nodes, jsTrim node.1.name = node.1.name

theorem AuthoredWorkflowGraph.namesTrimmed_iff {authored : AuthoredWorkflowGraph ν} :
    authored.NamesTrimmed ↔ authored.trimNames = authored := by
  constructor
  · intro h
    have hnodes : (authored.nodes.map fun node => (node.1.trimName, node.2)) = authored.nodes := by
      refine (List.map_congr_left fun node hnode => ?_).trans (List.map_id _)
      have hname : node.1.trimName = node.1 := by
        rw [WorkflowNode.trimName, h node hnode]
      rw [hname]
      rfl
    rw [AuthoredWorkflowGraph.trimNames, hnodes]
  · intro h node hnode
    have hnodes : (authored.nodes.map fun node => (node.1.trimName, node.2)) = authored.nodes :=
      congrArg AuthoredWorkflowGraph.nodes h
    have hself : (node.1.trimName, node.2) = node :=
      List.map_inj_left.mp (hnodes.trans (List.map_id _).symm) node hnode
    exact congrArg (fun node => WorkflowNode.name node.1) hself

@[simp] theorem AuthoredWorkflowGraph.graph_trimNames (authored : AuthoredWorkflowGraph ν) :
    authored.trimNames.graph = authored.graph.trimNames := by
  simp [AuthoredWorkflowGraph.graph, AuthoredWorkflowGraph.trimNames, WorkflowGraph.trimNames]

variable [CountNumbers ν]

theorem AuthoredWorkflowGraph.graph_withGraph {authored : AuthoredWorkflowGraph ν} {graph : WorkflowGraph ν}
    (h : graph.nodes.length = authored.nodes.length) : (authored.withGraph graph).graph = graph := by
  have hnodes : (graph.nodes.zip (authored.nodes.map Prod.snd)).map Prod.fst = graph.nodes :=
    List.map_fst_zip (by simp [h])
  simp only [AuthoredWorkflowGraph.graph, AuthoredWorkflowGraph.withGraph, hnodes]

theorem AuthoredWorkflowGraph.withGraph_trimNames {authored : AuthoredWorkflowGraph ν}
    (h : authored.viewport.isSome) : authored.withGraph authored.graph.trimNames = authored.trimNames := by
  obtain ⟨viewport, hviewport⟩ := Option.isSome_iff_exists.mp h
  simp only [AuthoredWorkflowGraph.withGraph, AuthoredWorkflowGraph.trimNames, AuthoredWorkflowGraph.graph,
    WorkflowGraph.trimNames, hviewport, Option.getD_some, List.map_map]
  rw [List.zip_map']
  rfl

end Names

section Again

variable {ν : Type} [JsRuntime ν]

theorem workflowDraftGraphSchema_eq_ok {input graph : WorkflowGraph ν} :
    workflowDraftGraphSchema input = .ok graph ↔
      parseWorkflowGraphShape input = some graph ∧ validateWorkflowGraphStructure graph = [] := by
  unfold workflowDraftGraphSchema
  cases hshape : parseWorkflowGraphShape input with
  | none => simp
  | some parsed =>
    by_cases hissues : validateWorkflowGraphStructure parsed = []
    · simp only [hissues, if_true, Except.ok.injEq, Option.some.injEq]
      constructor
      · rintro rfl
        exact ⟨rfl, hissues⟩
      · exact fun h => h.1
    · simp only [hissues, if_false, reduceCtorEq, Option.some.injEq, false_iff]
      rintro ⟨rfl, h⟩
      exact hissues h

theorem parseWorkflowGraphShape_again {input graph : WorkflowGraph ν}
    (h : parseWorkflowGraphShape input = some graph) :
    graph.nodes.length = input.nodes.length ∧ parseWorkflowGraphShape graph = some graph.trimNames := by
  unfold parseWorkflowGraphShape at h ⊢
  split at h
  · rename_i hbounds
    obtain ⟨nodes, hnodes, rfl⟩ := Option.map_eq_some_iff.mp h
    obtain ⟨hlength, hparse⟩ := parseWorkflowNodes_again hnodes
    have hcount : nodes.length ≤ MAXIMUM_WORKFLOW_NODES := hlength ▸ hbounds.2.2
    rw [if_pos ⟨hbounds.1, hbounds.2.1, hcount⟩, hparse]
    exact ⟨hlength, rfl⟩
  · cases h

variable [NumberBounds ν] [CountNumbers ν]

variable (ν) in
/-- The numbers zero and one lie within the bounds of the canvas. -/
class CanvasNumbers : Prop where
  defaultViewport : (defaultViewport : WorkflowViewport ν).accepted = true

def AcceptedDraft (authored : AuthoredWorkflowGraph ν) : Prop :=
  ∃ input, parseDraftGraph input = .ok authored

theorem parseDraftGraph_eq_ok {input authored : AuthoredWorkflowGraph ν} :
    parseDraftGraph input = .ok authored ↔ input.layoutAccepted = true ∧
      ∃ graph, workflowDraftGraphSchema input.graph = .ok graph ∧ input.withGraph graph = authored := by
  unfold parseDraftGraph
  by_cases hlayout : input.layoutAccepted = true
  · simp only [hlayout, if_true, true_and]
    exact except_map_eq_ok
  · simp [hlayout]

theorem parsePublishableGraph_eq_ok {input authored : AuthoredWorkflowGraph ν} :
    parsePublishableGraph input = .ok authored ↔ input.layoutAccepted = true ∧
      ∃ graph, workflowGraphSchema input.graph = .ok graph ∧ input.withGraph graph = authored := by
  unfold parsePublishableGraph
  by_cases hlayout : input.layoutAccepted = true
  · simp only [hlayout, if_true, true_and]
    exact except_map_eq_ok
  · simp [hlayout]

section Accepted

variable {authored : AuthoredWorkflowGraph ν} (h : AcceptedDraft authored)

include h

theorem AcceptedDraft.viewport : authored.viewport.isSome := by
  obtain ⟨input, hinput⟩ := h
  obtain ⟨_, graph, _, rfl⟩ := parseDraftGraph_eq_ok.mp hinput
  rfl

theorem AcceptedDraft.shape : parseWorkflowGraphShape authored.graph = some authored.graph.trimNames ∧
    validateWorkflowGraphStructure authored.graph = [] := by
  obtain ⟨input, hinput⟩ := h
  obtain ⟨_, graph, hgraph, rfl⟩ := parseDraftGraph_eq_ok.mp hinput
  obtain ⟨hshape, hstructure⟩ := workflowDraftGraphSchema_eq_ok.mp hgraph
  obtain ⟨hlength, hagain⟩ := parseWorkflowGraphShape_again hshape
  have hsame : (input.withGraph graph).graph = graph :=
    AuthoredWorkflowGraph.graph_withGraph (by simpa [AuthoredWorkflowGraph.graph] using hlength)
  rw [hsame]
  exact ⟨hagain, hstructure⟩

theorem AcceptedDraft.publishable {graph : AuthoredWorkflowGraph ν} (hparse : parsePublishableGraph authored = .ok graph) :
    graph = authored.trimNames := by
  obtain ⟨_, parsed, hparsed, rfl⟩ := parsePublishableGraph_eq_ok.mp hparse
  have hshape : parseWorkflowGraphShape authored.graph = some parsed := (workflowGraphSchema_eq_ok hparsed).1
  have hsame : parsed = authored.graph.trimNames := Option.some.inj (hshape.symm.trans h.shape.1)
  rw [hsame]
  exact AuthoredWorkflowGraph.withGraph_trimNames h.viewport

omit h

variable [CanvasNumbers ν]

theorem AuthoredWorkflowGraph.layoutAccepted_withGraph {authored : AuthoredWorkflowGraph ν}
    (h : authored.layoutAccepted = true) (graph : WorkflowGraph ν) :
    (authored.withGraph graph).layoutAccepted = true := by
  simp only [AuthoredWorkflowGraph.layoutAccepted, Bool.and_eq_true, List.all_eq_true] at h ⊢
  obtain ⟨⟨hversion, hnodes⟩, hviewport⟩ := h
  refine ⟨⟨hversion, fun node hnode => ?_⟩, ?_⟩
  · obtain ⟨placed, hplaced, hposition⟩ := List.mem_map.mp (List.of_mem_zip hnode).2
    rw [← hposition]
    exact hnodes placed hplaced
  · cases hstored : authored.viewport with
    | none => simpa [AuthoredWorkflowGraph.withGraph, hstored] using CanvasNumbers.defaultViewport
    | some viewport => simpa [AuthoredWorkflowGraph.withGraph, hstored] using hviewport

include h

theorem AcceptedDraft.layout : authored.layoutAccepted = true := by
  obtain ⟨input, hinput⟩ := h
  obtain ⟨hlayout, graph, _, rfl⟩ := parseDraftGraph_eq_ok.mp hinput
  exact AuthoredWorkflowGraph.layoutAccepted_withGraph hlayout graph

theorem AcceptedDraft.again : parseDraftGraph authored = .ok authored.trimNames := by
  obtain ⟨hshape, hstructure⟩ := h.shape
  refine parseDraftGraph_eq_ok.mpr ⟨h.layout, authored.graph.trimNames, ?_,
    AuthoredWorkflowGraph.withGraph_trimNames h.viewport⟩
  refine workflowDraftGraphSchema_eq_ok.mpr ⟨hshape, ?_⟩
  rw [validateWorkflowGraphStructure_trimNames]
  exact hstructure

theorem AcceptedDraft.trimNames : AcceptedDraft authored.trimNames :=
  ⟨authored, h.again⟩

theorem AcceptedDraft.compiles {graph : AuthoredWorkflowGraph ν} (hparse : parsePublishableGraph authored = .ok graph) :
    ∃ compiledPlan, compileAuthoredGraph graph = .ok compiledPlan := by
  obtain ⟨_, parsed, hparsed, hgraph⟩ := parsePublishableGraph_eq_ok.mp hparse
  have hsame := h.publishable hparse
  have hshape : parsed = authored.graph.trimNames :=
    Option.some.inj ((workflowGraphSchema_eq_ok hparsed).1.symm.trans h.shape.1)
  obtain ⟨plan, hplan, _⟩ := compileWorkflowGraph_correct hparsed
  refine ⟨plan, ?_⟩
  rw [compileAuthoredGraph, hsame, if_pos h.trimNames.layout, AuthoredWorkflowGraph.graph_trimNames, ← hshape]
  exact hplan

end Accepted

end Again

end ByokGrid
