import ByokGrid.WorkflowPlan
import ByokGrid.WorkflowValidation

/-! The compiled plan depends on the meaning of the authored graph only: neither the
order of its nodes and edges nor the layout of the canvas reaches it. -/

namespace ByokGrid

/-- The bounds of a number in a schema. -/
class NumberBounds (ν : Type) where
  atLeast : ν → Rat → Bool
  atMost : ν → Rat → Bool

instance : NumberBounds SafeInteger where
  atLeast value bound := value.any fun n => bound ≤ (n : Int)
  atMost value bound := value.any fun n => (n : Int) ≤ bound

structure NodePosition (ν : Type) where
  x : ν
  y : ν

structure WorkflowViewport (ν : Type) where
  x : ν
  y : ν
  zoom : ν

/-- The graph as the editor stores it: every node has its position, and the viewport
may be left to its default. -/
structure AuthoredWorkflowGraph (ν : Type) where
  edges : List WorkflowEdge
  nodes : List (WorkflowNode ν × NodePosition ν)
  schemaVersion : Nat
  viewport : Option (WorkflowViewport ν)

variable {ν : Type}

def AuthoredWorkflowGraph.graph (authored : AuthoredWorkflowGraph ν) : WorkflowGraph ν where
  edges := authored.edges
  nodes := authored.nodes.map Prod.fst

variable [JsRuntime ν]

section Layout

variable [NumberBounds ν]

def isCanvasCoordinate (value : ν) : Bool :=
  JsRuntime.isFinite value && NumberBounds.atLeast value (-1000000) && NumberBounds.atMost value 1000000

def NodePosition.accepted (position : NodePosition ν) : Bool :=
  isCanvasCoordinate position.x && isCanvasCoordinate position.y

def WorkflowViewport.accepted (viewport : WorkflowViewport ν) : Bool :=
  JsRuntime.isFinite viewport.x && JsRuntime.isFinite viewport.y && JsRuntime.isFinite viewport.zoom &&
    NumberBounds.atLeast viewport.zoom (1 / 10) && NumberBounds.atMost viewport.zoom 4

def AuthoredWorkflowGraph.layoutAccepted (authored : AuthoredWorkflowGraph ν) : Bool :=
  authored.schemaVersion == 1 && (authored.nodes.all fun node => node.2.accepted) &&
    authored.viewport.all WorkflowViewport.accepted

/-- `compileWorkflowGraph` on a stored graph: a bad layout is a bad shape. -/
def compileAuthoredGraph (authored : AuthoredWorkflowGraph ν) :
    Except CompileWorkflowError (CompiledWorkflowPlan ν) :=
  if authored.layoutAccepted then compileWorkflowGraph authored.graph else .error (.schema .shape)

end Layout

structure WorkflowGraph.Reordered (graph other : WorkflowGraph ν) : Prop where
  nodes : graph.nodes.Perm other.nodes
  edges : graph.edges.Perm other.edges

section Reordered

variable {graph other : WorkflowGraph ν}

omit [JsRuntime ν]

theorem WorkflowGraph.Reordered.nodeIds (h : graph.Reordered other) : graph.nodeIds.Perm other.nodeIds :=
  h.nodes.map _

theorem WorkflowGraph.Reordered.stepEdge (h : graph.Reordered other) : graph.stepEdge = other.stepEdge := by
  funext u v
  simp only [WorkflowGraph.stepEdge, h.edges.mem_iff]

theorem WorkflowGraph.Reordered.structured (h : graph.Reordered other) (hgraph : StructuredGraph graph) :
    StructuredGraph other where
  nodes := (h.nodes.map _).nodup_iff.mp hgraph.nodes
  edges := (h.edges.map _).nodup_iff.mp hgraph.edges
  fits := by
    intro edge hedge
    obtain ⟨source, hsource, hsourceId, target, htarget, htargetId, hports⟩ :=
      hgraph.fits edge (h.edges.mem_iff.mpr hedge)
    exact ⟨source, h.nodes.mem_iff.mp hsource, hsourceId, target, h.nodes.mem_iff.mp htarget, htargetId, hports⟩
  inputs := (h.edges.map _).nodup_iff.mp hgraph.inputs
  acyclic := h.stepEdge ▸ hgraph.acyclic

theorem WorkflowGraph.Reordered.complete (h : graph.Reordered other) (hgraph : CompleteWorkflow graph) :
    CompleteWorkflow other := by
  obtain ⟨trigger, htrigger, hkind⟩ := hgraph.trigger
  obtain ⟨destination, hdestination, hdestinationKind⟩ := hgraph.destination
  refine ⟨⟨trigger, h.nodes.mem_iff.mp htrigger, hkind⟩,
    ⟨destination, h.nodes.mem_iff.mp hdestination, hdestinationKind⟩, fun node hnode => ?_⟩
  obtain ⟨above, habove, haboveKind, hpath⟩ := hgraph.reachable node (h.nodes.mem_iff.mpr hnode)
  exact ⟨above, h.nodes.mem_iff.mp habove, haboveKind, h.stepEdge ▸ hpath⟩

end Reordered

theorem parseWorkflowNodes_perm {nodes others parsed : List (WorkflowNode ν)} (hperm : nodes.Perm others)
    (h : parseWorkflowNodes nodes = some parsed) :
    ∃ parsed', parseWorkflowNodes others = some parsed' ∧ parsed.Perm parsed' := by
  induction hperm generalizing parsed with
  | nil => exact ⟨parsed, h, List.Perm.refl parsed⟩
  | cons node _ ih =>
    simp only [parseWorkflowNodes, Option.bind_eq_bind, Option.bind_eq_some_iff, Option.pure_def,
      Option.some.injEq] at h
    obtain ⟨head, hhead, tail, htail, rfl⟩ := h
    obtain ⟨tail', htail', hperm'⟩ := ih htail
    exact ⟨head :: tail', by simp [parseWorkflowNodes, hhead, htail'], hperm'.cons head⟩
  | swap first second rest =>
    simp only [parseWorkflowNodes, Option.bind_eq_bind, Option.bind_eq_some_iff, Option.pure_def,
      Option.some.injEq] at h
    obtain ⟨head, hhead, _, ⟨next, hnext, tail, htail, rfl⟩, rfl⟩ := h
    exact ⟨next :: head :: tail, by simp [parseWorkflowNodes, hhead, hnext, htail], List.Perm.swap next head tail⟩
  | trans _ _ ih ih' =>
    obtain ⟨middle, hmiddle, hperm'⟩ := ih h
    obtain ⟨last, hlast, hperm''⟩ := ih' hmiddle
    exact ⟨last, hlast, hperm'.trans hperm''⟩

theorem parseWorkflowGraphShape_reordered {input input' graph : WorkflowGraph ν} (hinput : input.Reordered input')
    (h : parseWorkflowGraphShape input = some graph) :
    ∃ graph', parseWorkflowGraphShape input' = some graph' ∧ graph.Reordered graph' := by
  unfold parseWorkflowGraphShape at h ⊢
  split at h
  · rename_i hbounds
    obtain ⟨hcount, hshape, hnodes⟩ := hbounds
    obtain ⟨nodes, hparsed, rfl⟩ := Option.map_eq_some_iff.mp h
    obtain ⟨nodes', hparsed', hperm⟩ := parseWorkflowNodes_perm hinput.nodes hparsed
    have hshape' : input'.edges.all isWorkflowEdge = true :=
      List.all_eq_true.mpr fun edge hedge => List.all_eq_true.mp hshape edge (hinput.edges.mem_iff.mpr hedge)
    refine ⟨⟨input'.edges, nodes'⟩, ?_, hperm, hinput.edges⟩
    rw [if_pos ⟨hinput.edges.length_eq ▸ hcount, hshape', hinput.nodes.length_eq ▸ hnodes⟩, hparsed']
    rfl
  · cases h

theorem workflowGraphSchema_reordered {input input' graph : WorkflowGraph ν} (hinput : input.Reordered input')
    (h : workflowGraphSchema input = .ok graph) :
    ∃ graph', workflowGraphSchema input' = .ok graph' ∧ graph.Reordered graph' := by
  obtain ⟨hshape, hstructure, hpublishable⟩ := workflowGraphSchema_eq_ok h
  obtain ⟨graph', hshape', hgraph⟩ := parseWorkflowGraphShape_reordered hinput hshape
  have hstructured := validateWorkflowGraphStructure_iff.mp hstructure
  have hstructured' := hgraph.structured hstructured
  have hcomplete' := hgraph.complete (hstructured.publishable_iff.mp hpublishable)
  refine ⟨graph', ?_, hgraph⟩
  unfold workflowGraphSchema
  simp [hshape', validateWorkflowGraphStructure_iff.mpr hstructured', hstructured'.publishable_iff.mpr hcomplete']

variable (ν) in
/-- The comparison of the locale is a consistent comparator, and tells identifiers apart. -/
class ConsistentLocale : Prop where
  consistent : Std.TransCmp (JsRuntime.localeCompare ν)
  entityIds : ∀ left right, isEntityId left = true → isEntityId right = true →
    JsRuntime.localeCompare ν left right = .eq → left = right

instance : ConsistentLocale SafeInteger where
  consistent := inferInstanceAs (Std.TransCmp (compare : String → String → Ordering))
  entityIds _ _ _ _ heq := Std.LawfulEqOrd.eq_of_compare heq

section Routes

variable [ConsistentLocale ν]

variable (ν) in
theorem compareRoutes_transCmp : Std.TransCmp (compareRoutes ν) := by
  let _ : Ord String := ⟨JsRuntime.localeCompare ν⟩
  have _ : Std.TransOrd String := ConsistentLocale.consistent
  exact inferInstanceAs (Std.TransCmp
    (compareLex (compareOn CompiledWorkflowRoute.sourceStepId)
      (compareLex (compareOn CompiledWorkflowRoute.sourceHandle)
        (compareLex (compareOn CompiledWorkflowRoute.targetStepId)
          (compareLex (compareOn CompiledWorkflowRoute.targetHandle) (compareOn CompiledWorkflowRoute.edgeId))))))

theorem compareRoutes_edgeId {left right : CompiledWorkflowRoute} (hleft : isEntityId left.edgeId = true)
    (hright : isEntityId right.edgeId = true) (hle : (compareRoutes ν left right).isLE = true)
    (hge : (compareRoutes ν right left).isLE = true) : left.edgeId = right.edgeId := by
  have htrans := compareRoutes_transCmp ν
  have heq : compareRoutes ν left right = .eq := Std.OrientedCmp.isLE_antisymm hle hge
  simp only [compareRoutes, Ordering.then_eq_eq] at heq
  exact ConsistentLocale.entityIds _ _ hleft hright heq.2.2.2.2

theorem compileRoutes_sorted (graph : WorkflowGraph ν) :
    (compileRoutes graph).Pairwise fun left right => (compareRoutes ν left right).isLE = true := by
  have htrans := compareRoutes_transCmp ν
  have htotal : Std.Total fun left right => (compareRoutes ν left right).isLE = true := by
    refine ⟨fun left right => ?_⟩
    have hswap : compareRoutes ν right left = (compareRoutes ν left right).swap := htrans.eq_swap
    rw [hswap]
    cases compareRoutes ν left right <;> simp
  have hle : IsTrans _ fun left right => (compareRoutes ν left right).isLE = true :=
    ⟨fun _ _ _ hab hbc => htrans.isLE_trans hab hbc⟩
  exact List.pairwise_insertionSort _ _

theorem compileRoutes_reordered {graph other : WorkflowGraph ν} (h : graph.Reordered other)
    (hids : (graph.edges.map WorkflowEdge.id).Nodup) (hentities : ∀ edge ∈ graph.edges, isEntityId edge.id = true) :
    compileRoutes graph = compileRoutes other := by
  have hperm : (compileRoutes graph).Perm (compileRoutes other) :=
    (compileRoutes_perm graph).trans ((h.edges.map _).trans (compileRoutes_perm other).symm)
  refine List.Perm.eq_of_pairwise ?_ (compileRoutes_sorted graph) (compileRoutes_sorted other) hperm
  intro left right hleft hright hle hge
  obtain ⟨edge, hedge, rfl⟩ := List.mem_map.mp ((compileRoutes_perm graph).mem_iff.mp hleft)
  obtain ⟨edge', hedge', rfl⟩ := List.mem_map.mp ((compileRoutes_perm other).mem_iff.mp hright)
  have hedge'' := h.edges.mem_iff.mpr hedge'
  have hentity : isEntityId edge.route.edgeId = true := hentities edge hedge
  have hentity' : isEntityId edge'.route.edgeId = true := hentities edge' hedge''
  have hid : edge.id = edge'.id := compareRoutes_edgeId hentity hentity' hle hge
  exact congrArg WorkflowEdge.route (List.inj_on_of_nodup_map hids hedge hedge'' hid)

end Routes

omit [JsRuntime ν] in
theorem LexLE.antisymm {α : Type} [LinearOrder α] {xs ys : List α} (h : LexLE xs ys) (h' : LexLE ys xs) :
    xs = ys := by
  rcases h with heq | hlt
  · exact heq
  · rcases h' with heq | hgt
    · exact heq.symm
    · exact absurd hgt (asymm hlt)

omit [JsRuntime ν] in
theorem nodeById_reordered {graph other : WorkflowGraph ν} (h : graph.Reordered other)
    (hnd : graph.nodeIds.Nodup) (id : String) : graph.nodeById id = other.nodeById id := by
  by_cases hid : id ∈ graph.nodeIds
  · obtain ⟨node, hnode, rfl⟩ := List.mem_map.mp hid
    rw [nodeById_of_mem hnd hnode, nodeById_of_mem (h.nodeIds.nodup_iff.mp hnd) (h.nodes.mem_iff.mp hnode)]
  · have hid' : id ∉ other.nodeIds := fun hin => hid (h.nodeIds.mem_iff.mpr hin)
    have hnone : ∀ g : WorkflowGraph ν, id ∉ g.nodeIds → g.nodeById id = none := by
      intro g hg
      rw [WorkflowGraph.nodeById, List.find?_eq_none]
      intro node hnode heq
      exact hg (List.mem_map.mpr ⟨node, List.mem_reverse.mp hnode, of_decide_eq_true heq⟩)
    rw [hnone graph hid, hnone other hid']

theorem isEntityId_of_shape {input graph : WorkflowGraph ν} (h : parseWorkflowGraphShape input = some graph)
    {edge : WorkflowEdge} (hedge : edge ∈ graph.edges) : isEntityId edge.id = true := by
  unfold parseWorkflowGraphShape at h
  split at h
  · rename_i hbounds
    obtain ⟨nodes, _, rfl⟩ := Option.map_eq_some_iff.mp h
    have hshape := List.all_eq_true.mp hbounds.2.1 edge hedge
    simp only [isWorkflowEdge, Bool.and_eq_true] at hshape
    exact hshape.1.1.1.1
  · cases h

section Plan

variable [ConsistentLocale ν]

theorem compileWorkflowGraph_reordered {input input' graph : WorkflowGraph ν} (hinput : input.Reordered input')
    (h : workflowGraphSchema input = .ok graph) :
    ∃ plan, compileWorkflowGraph input = .ok plan ∧ compileWorkflowGraph input' = .ok plan := by
  obtain ⟨graph', h', hgraph⟩ := workflowGraphSchema_reordered hinput h
  obtain ⟨hshape, _, _⟩ := workflowGraphSchema_eq_ok h
  have hpublishable := publishableGraph_of_schema h
  have hpublishable' := publishableGraph_of_schema h'
  obtain ⟨order, hok, horder, hleast⟩ := hpublishable.deterministicTopologicalOrder_spec
  obtain ⟨order', hok', horder', hleast'⟩ := hpublishable'.deterministicTopologicalOrder_spec
  have hroutes : compileRoutes graph = compileRoutes graph' :=
    compileRoutes_reordered hgraph hpublishable.edges_nodup fun edge => isEntityId_of_shape hshape
  -- both orders are topological for both graphs, and each is the least
  have hsame : order = order' := by
    refine (hleast order' ⟨horder'.perm.trans hgraph.nodeIds.symm, ?_⟩).antisymm
      (hleast' order ⟨horder.perm.trans hgraph.nodeIds, ?_⟩)
    · exact hgraph.stepEdge ▸ horder'.preceded
    · exact hgraph.stepEdge ▸ horder.preceded
  have hinbound : graph.inbound = graph'.inbound := by
    unfold WorkflowGraph.inbound
    rw [hroutes]
  have houtbound : graph.outbound = graph'.outbound := by
    unfold WorkflowGraph.outbound
    rw [hroutes]
  have hsteps : compileStep graph graph.inbound graph.outbound =
      compileStep graph' graph'.inbound graph'.outbound := by
    funext stepId
    rw [compileStep, compileStep, nodeById_reordered hgraph hpublishable.nodes_nodup, hinbound, houtbound]
  refine ⟨graph.planOf order, compileWorkflowGraph_eq h hok, ?_⟩
  rw [compileWorkflowGraph_eq h' hok', hsame]
  simp only [WorkflowGraph.planOf, hsteps]

variable [NumberBounds ν]

/-- Compilation depends on meaning only: the nodes and edges in any order, on any
accepted layout, give one plan. -/
theorem compileAuthoredGraph_meaning {authored other : AuthoredWorkflowGraph ν} {graph : WorkflowGraph ν}
    (hlayout : authored.layoutAccepted = true) (hpublishable : workflowGraphSchema authored.graph = .ok graph)
    (hnodes : (authored.nodes.map Prod.fst).Perm (other.nodes.map Prod.fst))
    (hedges : authored.edges.Perm other.edges) (hlayout' : other.layoutAccepted = true) :
    ∃ plan, compileAuthoredGraph authored = .ok plan ∧ compileAuthoredGraph other = .ok plan := by
  have hinput : authored.graph.Reordered other.graph := ⟨hnodes, hedges⟩
  obtain ⟨plan, hplan, hplan'⟩ := compileWorkflowGraph_reordered hinput hpublishable
  exact ⟨plan, by rw [compileAuthoredGraph, if_pos hlayout, hplan],
    by rw [compileAuthoredGraph, if_pos hlayout', hplan']⟩

end Plan

def sampleAuthoredGraph (nodes : List (WorkflowNode SafeInteger)) (edges : List WorkflowEdge) (apart : Int)
    (viewport : Option (WorkflowViewport SafeInteger)) : AuthoredWorkflowGraph SafeInteger where
  edges := edges
  nodes := nodes.zipIdx.map fun node => (node.1, ⟨some (apart * node.2), some 0⟩)
  schemaVersion := 1
  viewport := viewport

theorem compileAuthoredGraph_meaning_sample :
    ∃ plan,
      compileAuthoredGraph (sampleAuthoredGraph sampleWorkflowGraph.nodes sampleWorkflowGraph.edges 0 none) =
        .ok plan ∧
      compileAuthoredGraph (sampleAuthoredGraph sampleWorkflowGraph.nodes.reverse
        sampleWorkflowGraph.edges.reverse 200 (some ⟨some 40, some (-20), some 2⟩)) = .ok plan :=
  compileAuthoredGraph_meaning (by decide +kernel)
    (show workflowGraphSchema sampleWorkflowGraph = .ok sampleWorkflowGraph from rfl)
    (List.reverse_perm sampleWorkflowGraph.nodes).symm (List.reverse_perm sampleWorkflowGraph.edges).symm
    (by decide +kernel)

end ByokGrid
