import ByokGrid.Records
import ByokGrid.WorkflowCompiler
import ByokGrid.WorkflowGraphParse

/-! The compiled plan implements its graph: one step for each node in the least
topological order, with the edges as routes. -/

namespace ByokGrid

variable {ν : Type}

def CompiledWorkflowPlan.stepIds (plan : CompiledWorkflowPlan ν) : List String :=
  plan.steps.map CompiledWorkflowStep.stepId

structure PlanImplements (graph : WorkflowGraph ν) (plan : CompiledWorkflowPlan ν) : Prop where
  stepIds_nodup : plan.stepIds.Nodup
  order : TopologicalOrder graph.nodeIds graph.stepEdge plan.stepIds
  least : ∀ other, TopologicalOrder graph.nodeIds graph.stepEdge other → LexLE plan.stepIds other
  node : ∀ step ∈ plan.steps, ∃ node ∈ graph.nodes, node.id = step.stepId ∧ step.kind = node.kind ∧
    step.configuration = node.configuration ∧ step.name = jsTrim node.name
  outbound : ∀ step ∈ plan.steps, step.outboundRoutes.Perm
    ((graph.edges.filter fun edge => edge.sourceNodeId = step.stepId).map WorkflowEdge.route)
  inbound : ∀ step ∈ plan.steps, step.inboundRoutes.Perm
    ((graph.edges.filter fun edge => edge.targetNodeId = step.stepId).map WorkflowEdge.route)
  outbound_all : (plan.steps.flatMap CompiledWorkflowStep.outboundRoutes).Perm
    (graph.edges.map WorkflowEdge.route)
  inbound_all : (plan.steps.flatMap CompiledWorkflowStep.inboundRoutes).Perm
    (graph.edges.map WorkflowEdge.route)
  edgeIds_nodup : (graph.edges.map WorkflowEdge.id).Nodup
  dependencies : ∀ step ∈ plan.steps, step.dependencyStepIds.Nodup ∧
    ∀ id, id ∈ step.dependencyStepIds ↔ graph.stepEdge id step.stepId
  entry : plan.entryStepIds.Nodup ∧
    ∀ id, id ∈ plan.entryStepIds ↔ ∃ node ∈ graph.nodes, node.id = id ∧ node.kind = .tableRows
  terminal : plan.terminalStepIds.Nodup ∧
    ∀ id, id ∈ plan.terminalStepIds ↔ id ∈ graph.nodeIds ∧ ∀ edge ∈ graph.edges, edge.sourceNodeId ≠ id

variable [JsRuntime ν]

section Routes

variable (graph : WorkflowGraph ν)

def WorkflowGraph.inbound : String → List CompiledWorkflowRoute :=
  groupRoutes (compileRoutes graph) CompiledWorkflowRoute.targetStepId

def WorkflowGraph.outbound : String → List CompiledWorkflowRoute :=
  groupRoutes (compileRoutes graph) CompiledWorkflowRoute.sourceStepId

theorem compileRoutes_perm : (compileRoutes graph).Perm (graph.edges.map WorkflowEdge.route) :=
  List.perm_insertionSort _ _

theorem inbound_perm (id : String) : (graph.inbound id).Perm
    ((graph.edges.filter fun edge => edge.targetNodeId = id).map WorkflowEdge.route) := by
  refine ((compileRoutes_perm graph).filter _).trans (List.Perm.of_eq ?_)
  rw [List.filter_map]
  rfl

theorem outbound_perm (id : String) : (graph.outbound id).Perm
    ((graph.edges.filter fun edge => edge.sourceNodeId = id).map WorkflowEdge.route) := by
  refine ((compileRoutes_perm graph).filter _).trans (List.Perm.of_eq ?_)
  rw [List.filter_map]
  rfl

theorem mem_inbound_sources {u v : String} :
    u ∈ (graph.inbound v).map CompiledWorkflowRoute.sourceStepId ↔ graph.stepEdge u v := by
  rw [((inbound_perm graph v).map _).mem_iff]
  simp [WorkflowGraph.stepEdge, WorkflowEdge.route, and_assoc, and_comm]

theorem mem_sortedTargets {u v : String} : v ∈ sortedTargets graph.outbound u ↔ graph.stepEdge u v := by
  rw [sortedTargets, (sortStrings_perm _).mem_iff, mem_distinct, ((outbound_perm graph u).map _).mem_iff]
  simp [WorkflowGraph.stepEdge, WorkflowEdge.route, and_assoc]

theorem nodup_sortedTargets (u : String) : (sortedTargets graph.outbound u).Nodup :=
  (sortStrings_perm _).nodup_iff.mpr (nodup_distinct _)

end Routes

section Order

variable {graph : WorkflowGraph ν}

omit [JsRuntime ν] in
theorem PublishableGraph.stepEdge_mem (h : PublishableGraph graph) {u v : String}
    (hedge : graph.stepEdge u v) : u ∈ graph.nodeIds ∧ v ∈ graph.nodeIds := by
  obtain ⟨edge, hmem, rfl, rfl⟩ := hedge
  obtain ⟨source, target, hconnects⟩ := h.connects edge hmem
  exact ⟨hconnects.source_nodeIds, hconnects.target_nodeIds⟩

theorem PublishableGraph.deterministicTopologicalOrder_spec (h : PublishableGraph graph) :
    ∃ order, deterministicTopologicalOrder (distinct graph.nodeIds) graph.inbound graph.outbound = .ok order ∧
      TopologicalOrder graph.nodeIds graph.stepEdge order ∧
      ∀ other, TopologicalOrder graph.nodeIds graph.stepEdge other → LexLE order other := by
  have hnd := nodup_distinct graph.nodeIds
  have hperm : (distinct graph.nodeIds).Perm graph.nodeIds :=
    (List.perm_ext_iff_of_nodup hnd h.nodes_nodup).mpr fun id => mem_distinct
  have hedge : ∀ u v, graphEdge (distinct graph.nodeIds) (sortedTargets graph.outbound) u v ↔
      graph.stepEdge u v := by
    intro u v
    rw [graphEdge, mem_sortedTargets, mem_distinct]
    exact ⟨fun hh => hh.2, fun hh => ⟨(h.stepEdge_mem hh).1, hh⟩⟩
  have hclosed : ∀ u ∈ distinct graph.nodeIds, ∀ v ∈ sortedTargets graph.outbound u,
      v ∈ distinct graph.nodeIds := by
    intro u _ v hv
    exact mem_distinct.mpr (h.stepEdge_mem ((mem_sortedTargets graph).mp hv)).2
  have hremaining : ∀ v ∈ distinct graph.nodeIds,
      remainingDependencies (distinct graph.nodeIds) graph.inbound v =
        ((distinct graph.nodeIds).flatMap (sortedTargets graph.outbound)).count v := by
    intro v hv
    rw [remainingDependencies, if_pos hv, count_flatMap_nodup (nodup_sortedTargets graph)]
    refine congrArg Nat.cast (length_distinct (hnd.filter _) fun u => ?_)
    simp only [mem_inbound_sources, List.mem_filter, mem_sortedTargets, decide_eq_true_eq, mem_distinct]
    exact ⟨fun hh => ⟨(h.stepEdge_mem hh).1, hh⟩, fun hh => hh.2⟩
  have hinitial := KahnInvariant.initial hnd hremaining (sortStrings_perm _)
  have hfuel : (distinct graph.nodeIds).length ≤
      (distinct graph.nodeIds).length + ([] : List String).length := by simp
  obtain ⟨remaining, hfinal⟩ := kahnLoop_spec sortedReady hnd hclosed hinitial hfuel
  have hlength := hfinal.length_of_acyclic hnd (h.acyclic.mono fun u v => (hedge u v).mp)
  have horder := hfinal.topologicalOrder hlength
  refine ⟨topologicalLoop (distinct graph.nodeIds) graph.inbound graph.outbound, ?_, ?_, ?_⟩
  · unfold deterministicTopologicalOrder
    exact if_neg (not_not.mpr hlength)
  · exact ⟨horder.perm.trans hperm, horder.preceded.mono fun u v => (hedge u v).mpr⟩
  · intro other hother
    have hsuffix : TopologicalOrder (distinct graph.nodeIds)
        (graphEdge (distinct graph.nodeIds) (sortedTargets graph.outbound)) ([] ++ other) :=
      ⟨hother.perm.trans hperm.symm, hother.preceded.mono fun u v => (hedge u v).mp⟩
    obtain ⟨rest, hrest, hleast⟩ := kahnLoop_least sortedReady_sorted hnd hclosed hinitial
      (sortStrings_sorted _) hfuel hsuffix
    rw [topologicalLoop, hrest]
    simpa using hleast

end Order

section Steps

variable {graph : WorkflowGraph ν}

def WorkflowGraph.stepOf (graph : WorkflowGraph ν) (node : WorkflowNode ν) : CompiledWorkflowStep ν where
  configuration := node.configuration
  dependencyStepIds :=
    sortStrings (distinct ((graph.inbound node.id).map CompiledWorkflowRoute.sourceStepId))
  inboundRoutes := graph.inbound node.id
  kind := node.kind
  name := node.name
  outboundRoutes := graph.outbound node.id
  stepId := node.id

theorem PublishableGraph.compileStep_eq (h : PublishableGraph graph) {node : WorkflowNode ν}
    (hnode : node ∈ graph.nodes) :
    compileStep graph graph.inbound graph.outbound node.id = some (graph.stepOf node) := by
  rw [compileStep, nodeById_of_mem h.nodes_nodup hnode]
  rfl

theorem PublishableGraph.steps_stepIds (h : PublishableGraph graph) {ids : List String}
    (hids : ∀ id ∈ ids, id ∈ graph.nodeIds) :
    (ids.filterMap (compileStep graph graph.inbound graph.outbound)).map CompiledWorkflowStep.stepId = ids := by
  induction ids with
  | nil => rfl
  | cons id ids ih =>
    obtain ⟨node, hnode, rfl⟩ := List.mem_map.mp (hids id List.mem_cons_self)
    rw [List.filterMap_cons_some (h.compileStep_eq hnode), List.map_cons,
      ih fun other hother => hids other (List.mem_cons_of_mem _ hother)]
    rfl

theorem PublishableGraph.mem_steps (h : PublishableGraph graph) {ids : List String}
    {step : CompiledWorkflowStep ν} (hids : ∀ id ∈ ids, id ∈ graph.nodeIds)
    (hstep : step ∈ ids.filterMap (compileStep graph graph.inbound graph.outbound)) :
    ∃ node ∈ graph.nodes, node.id ∈ ids ∧ step = graph.stepOf node := by
  obtain ⟨id, hid, hcompiled⟩ := List.mem_filterMap.mp hstep
  obtain ⟨node, hnode, rfl⟩ := List.mem_map.mp (hids id hid)
  rw [h.compileStep_eq hnode, Option.some.injEq] at hcompiled
  exact ⟨node, hnode, hid, hcompiled.symm⟩

theorem PublishableGraph.routes_perm (h : PublishableGraph graph) {ids : List String}
    (hids : ids.Perm graph.nodeIds) (field : CompiledWorkflowRoute → String)
    (routesOf : CompiledWorkflowStep ν → List CompiledWorkflowRoute)
    (hroutes : ∀ node, routesOf (graph.stepOf node) = groupRoutes (compileRoutes graph) field node.id)
    (hfield : ∀ route ∈ compileRoutes graph, field route ∈ graph.nodeIds) :
    ((ids.filterMap (compileStep graph graph.inbound graph.outbound)).flatMap routesOf).Perm
      (graph.edges.map WorkflowEdge.route) := by
  have hsame : ∀ ids : List String, (∀ id ∈ ids, id ∈ graph.nodeIds) →
      (ids.filterMap (compileStep graph graph.inbound graph.outbound)).flatMap routesOf =
        ids.flatMap (groupRoutes (compileRoutes graph) field) := by
    intro ids hmem
    induction ids with
    | nil => rfl
    | cons id ids ih =>
      obtain ⟨node, hnode, rfl⟩ := List.mem_map.mp (hmem id List.mem_cons_self)
      rw [List.filterMap_cons_some (h.compileStep_eq hnode), List.flatMap_cons, List.flatMap_cons,
        hroutes, ih fun other hother => hmem other (List.mem_cons_of_mem _ hother)]
  rw [hsame ids fun id hid => hids.mem_iff.mp hid]
  refine (flatMap_filter_perm field (compileRoutes graph) (hids.nodup_iff.mpr h.nodes_nodup)).trans ?_
  rw [List.filter_eq_self.mpr fun route hroute => by simpa using hids.mem_iff.mpr (hfield route hroute)]
  exact compileRoutes_perm graph

theorem PublishableGraph.route_mem (h : PublishableGraph graph) {route : CompiledWorkflowRoute}
    (hroute : route ∈ compileRoutes graph) :
    route.sourceStepId ∈ graph.nodeIds ∧ route.targetStepId ∈ graph.nodeIds := by
  obtain ⟨edge, hedge, rfl⟩ := List.mem_map.mp ((compileRoutes_perm graph).mem_iff.mp hroute)
  exact h.stepEdge_mem ⟨edge, hedge, rfl, rfl⟩

theorem inbound_eq_nil {id : String} :
    (graph.inbound id).length = 0 ↔ ∀ edge ∈ graph.edges, edge.targetNodeId ≠ id := by
  rw [(inbound_perm graph id).length_eq]
  simp

theorem outbound_eq_nil {id : String} :
    (graph.outbound id).length = 0 ↔ ∀ edge ∈ graph.edges, edge.sourceNodeId ≠ id := by
  rw [(outbound_perm graph id).length_eq]
  simp

omit [JsRuntime ν] in
theorem PublishableGraph.no_input_iff (h : PublishableGraph graph) {node : WorkflowNode ν}
    (hnode : node ∈ graph.nodes) :
    (∀ edge ∈ graph.edges, edge.targetNodeId ≠ node.id) ↔ node.kind = .tableRows := by
  constructor
  · intro hnone
    by_contra hkind
    obtain ⟨edge, hedge, htarget⟩ := h.input node hnode hkind
    exact hnone edge hedge htarget
  · intro hkind edge hedge
    exact h.trigger_no_input hnode hkind hedge

end Steps

section Correct

variable {graph : WorkflowGraph ν}

def WorkflowGraph.planOf (graph : WorkflowGraph ν) (order : List String) : CompiledWorkflowPlan ν :=
  let steps := order.filterMap (compileStep graph graph.inbound graph.outbound)
  { entryStepIds := (steps.filter fun step => step.inboundRoutes.length = 0).map
      CompiledWorkflowStep.stepId
    steps := steps
    terminalStepIds := (steps.filter fun step => step.outboundRoutes.length = 0).map
      CompiledWorkflowStep.stepId }

theorem compileWorkflowGraph_eq {input : WorkflowGraph ν} {order : List String}
    (hschema : workflowGraphSchema input = .ok graph)
    (horder : deterministicTopologicalOrder (distinct graph.nodeIds) graph.inbound graph.outbound = .ok order) :
    compileWorkflowGraph input = .ok (graph.planOf order) := by
  have hordered : deterministicTopologicalOrder (distinct (graph.nodes.map WorkflowNode.id))
      (groupRoutes (compileRoutes graph) CompiledWorkflowRoute.targetStepId)
      (groupRoutes (compileRoutes graph) CompiledWorkflowRoute.sourceStepId) = .ok order := horder
  simp only [compileWorkflowGraph, hschema, hordered]
  rfl

section Plan

variable {order : List String}

theorem PublishableGraph.planOf_stepIds (h : PublishableGraph graph)
    (horder : TopologicalOrder graph.nodeIds graph.stepEdge order) : (graph.planOf order).stepIds = order :=
  h.steps_stepIds fun _ hid => horder.perm.mem_iff.mp hid

theorem PublishableGraph.mem_planOf (h : PublishableGraph graph)
    (horder : TopologicalOrder graph.nodeIds graph.stepEdge order) {step : CompiledWorkflowStep ν} :
    step ∈ (graph.planOf order).steps ↔ ∃ node ∈ graph.nodes, step = graph.stepOf node := by
  constructor
  · intro hstep
    obtain ⟨node, hnode, _, hstep⟩ := h.mem_steps (fun _ hid => horder.perm.mem_iff.mp hid) hstep
    exact ⟨node, hnode, hstep⟩
  · rintro ⟨node, hnode, rfl⟩
    refine List.mem_filterMap.mpr ⟨node.id, horder.perm.mem_iff.mpr ?_, h.compileStep_eq hnode⟩
    exact List.mem_map.mpr ⟨node, hnode, rfl⟩

theorem PublishableGraph.filter_planOf (h : PublishableGraph graph)
    (horder : TopologicalOrder graph.nodeIds graph.stepEdge order) (p : CompiledWorkflowStep ν → Bool) :
    (((graph.planOf order).steps.filter p).map CompiledWorkflowStep.stepId).Nodup ∧
      ∀ id, id ∈ ((graph.planOf order).steps.filter p).map CompiledWorkflowStep.stepId ↔
        ∃ node ∈ graph.nodes, node.id = id ∧ p (graph.stepOf node) = true := by
  constructor
  · refine List.Nodup.sublist (List.filter_sublist.map _) ?_
    have hids := h.planOf_stepIds horder
    rw [CompiledWorkflowPlan.stepIds] at hids
    rw [hids]
    exact horder.perm.nodup_iff.mpr h.nodes_nodup
  · intro id
    simp only [List.mem_map, List.mem_filter, h.mem_planOf horder]
    constructor
    · rintro ⟨_, ⟨⟨node, hnode, rfl⟩, hp⟩, rfl⟩
      exact ⟨node, hnode, rfl, hp⟩
    · rintro ⟨node, hnode, rfl, hp⟩
      exact ⟨graph.stepOf node, ⟨⟨node, hnode, rfl⟩, hp⟩, rfl⟩

end Plan

omit [JsRuntime ν] in
theorem WorkflowGraph.mem_trimNames {node : WorkflowNode ν} (h : node ∈ graph.trimNames.nodes) :
    ∃ original ∈ graph.nodes, original.trimName = node :=
  List.mem_map.mp h

theorem compileWorkflowGraph_correct {input : WorkflowGraph ν} (h : workflowGraphSchema input = .ok graph) :
    ∃ plan, compileWorkflowGraph graph = .ok plan ∧ PlanImplements graph plan := by
  have hagain := workflowGraphSchema_again h
  have hgraph := publishableGraph_of_schema hagain
  have hids := graph.trimNames_nodeIds
  obtain ⟨order, hok, horder, hleast⟩ := hgraph.deterministicTopologicalOrder_spec
  have hstepIds := hgraph.planOf_stepIds horder
  refine ⟨graph.trimNames.planOf order, compileWorkflowGraph_eq hagain hok, ?_, ?_, ?_, ?_, ?_, ?_, ?_, ?_,
    hgraph.edges_nodup, ?_, ?_, ?_⟩
  · rw [hstepIds]
    exact horder.perm.nodup_iff.mpr hgraph.nodes_nodup
  · rw [hstepIds, ← hids]
    exact horder
  · rw [hstepIds, ← hids]
    exact hleast
  · intro step hstep
    obtain ⟨node, hnode, rfl⟩ := (hgraph.mem_planOf horder).mp hstep
    obtain ⟨original, horiginal, rfl⟩ := WorkflowGraph.mem_trimNames hnode
    exact ⟨original, horiginal, rfl, rfl, rfl, rfl⟩
  · intro step hstep
    obtain ⟨node, hnode, rfl⟩ := (hgraph.mem_planOf horder).mp hstep
    exact outbound_perm graph.trimNames node.id
  · intro step hstep
    obtain ⟨node, hnode, rfl⟩ := (hgraph.mem_planOf horder).mp hstep
    exact inbound_perm graph.trimNames node.id
  · exact hgraph.routes_perm horder.perm CompiledWorkflowRoute.sourceStepId _ (fun _ => rfl)
      fun route hroute => (hgraph.route_mem hroute).1
  · exact hgraph.routes_perm horder.perm CompiledWorkflowRoute.targetStepId _ (fun _ => rfl)
      fun route hroute => (hgraph.route_mem hroute).2
  · intro step hstep
    obtain ⟨node, hnode, rfl⟩ := (hgraph.mem_planOf horder).mp hstep
    refine ⟨(sortStrings_perm _).nodup_iff.mpr (nodup_distinct _), fun id => ?_⟩
    exact ((sortStrings_perm _).mem_iff.trans mem_distinct).trans (mem_inbound_sources graph.trimNames)
  · obtain ⟨hnd, hmem⟩ := hgraph.filter_planOf horder fun step => step.inboundRoutes.length = 0
    refine ⟨hnd, fun id => (hmem id).trans ?_⟩
    simp only [decide_eq_true_eq, WorkflowGraph.trimNames_nodes, List.mem_map, exists_exists_and_eq_and,
      WorkflowNode.trimName_id]
    refine exists_congr fun node => and_congr_right fun hnode => and_congr_right fun _ => ?_
    exact inbound_eq_nil.trans (hgraph.no_input_iff (List.mem_map.mpr ⟨node, hnode, rfl⟩))
  · obtain ⟨hnd, hmem⟩ := hgraph.filter_planOf horder fun step => step.outboundRoutes.length = 0
    refine ⟨hnd, fun id => (hmem id).trans ?_⟩
    rw [← hids]
    constructor
    · rintro ⟨node, hnode, rfl, hp⟩
      exact ⟨List.mem_map.mpr ⟨node, hnode, rfl⟩, outbound_eq_nil.mp (of_decide_eq_true hp)⟩
    · rintro ⟨hid, hnone⟩
      obtain ⟨node, hnode, rfl⟩ := List.mem_map.mp hid
      exact ⟨node, hnode, rfl, decide_eq_true (outbound_eq_nil.mpr hnone)⟩

def sampleTriggerId : String := "00000000-0000-4000-8000-000000000001"
def sampleFilterId : String := "00000000-0000-4000-8000-000000000003"
def sampleWebhookId : String := "00000000-0000-4000-8000-000000000002"

def sampleWorkflowGraph : WorkflowGraph SafeInteger where
  edges :=
    [⟨"00000000-0000-4000-8000-00000000000b", "matched", sampleFilterId, "rows", sampleWebhookId⟩,
      ⟨"00000000-0000-4000-8000-00000000000a", "rows", sampleTriggerId, "rows", sampleFilterId⟩]
  nodes :=
    [⟨sampleWebhookId, "Send", .sendWebhook "00000000-0000-4000-8000-0000000000d1"⟩,
      ⟨sampleTriggerId, "Rows", .tableRows none "00000000-0000-4000-8000-0000000000d2" none⟩,
      ⟨sampleFilterId, "Keep",
        .filter ⟨.and, [.leaf (.empty "00000000-0000-4000-8000-0000000000d3" true)]⟩⟩]

theorem compileWorkflowGraph_correct_sample :
    ∃ plan, compileWorkflowGraph sampleWorkflowGraph = .ok plan ∧ PlanImplements sampleWorkflowGraph plan :=
  compileWorkflowGraph_correct (show workflowGraphSchema sampleWorkflowGraph = .ok sampleWorkflowGraph from rfl)

end Correct

end ByokGrid
