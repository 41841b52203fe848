import ByokGrid.TaskForest
import ByokGrid.Worklist
import ByokGrid.WorkflowPlan
import ByokGrid.WorkflowRuns

/-! The steps of a compiled plan form a forest: a node has one input at most, so
a step has at most one predecessor, which activates it by the source handle. -/

namespace ByokGrid

section Forest

variable {ν : Type}

def CompiledWorkflowPlan.step? (plan : CompiledWorkflowPlan ν) (id : String) : Option (CompiledWorkflowStep ν) :=
  plan.steps.find? fun step => step.stepId = id

def CompiledWorkflowPlan.forest (plan : CompiledWorkflowPlan ν) : TaskForest String String where
  tasks := plan.stepIds
  parent id := (plan.step? id).bind fun step =>
    step.inboundRoutes.head?.map fun route => (route.sourceStepId, route.sourceHandle)

structure PlanForest (plan : CompiledWorkflowPlan ν) : Prop where
  nodup : plan.stepIds.Nodup
  wellFormed : plan.forest.WellFormed
  entry : ∀ id ∈ plan.stepIds, id ∈ plan.entryStepIds ↔ plan.forest.parent id = none
  inbound : ∀ step ∈ plan.steps, step.inboundRoutes.length ≤ 1
  outbound : ∀ step ∈ plan.steps, ∀ child handle,
    (∃ route ∈ step.outboundRoutes, route.targetStepId = child ∧ route.sourceHandle = handle) ↔
      plan.forest.parent child = some (step.stepId, handle)

variable {plan : CompiledWorkflowPlan ν}

theorem step?_eq_some {id : String} {step : CompiledWorkflowStep ν} (h : plan.step? id = some step) :
    step ∈ plan.steps ∧ step.stepId = id := by
  have hid := List.find?_some h
  exact ⟨List.mem_of_find?_eq_some h, by simpa using hid⟩

theorem step?_of_mem (hnd : plan.stepIds.Nodup) {step : CompiledWorkflowStep ν} (h : step ∈ plan.steps) :
    plan.step? step.stepId = some step := by
  cases hfind : plan.step? step.stepId with
  | none =>
    have hnone := List.find?_eq_none.mp hfind step h
    simp at hnone
  | some other =>
    obtain ⟨hmem, hid⟩ := step?_eq_some hfind
    rw [List.inj_on_of_nodup_map hnd hmem h hid]

theorem exists_step {id : String} (h : id ∈ plan.stepIds) : ∃ step ∈ plan.steps, step.stepId = id :=
  List.mem_map.mp h

theorem step_mem {step : CompiledWorkflowStep ν} (h : step ∈ plan.steps) : step.stepId ∈ plan.stepIds :=
  List.mem_map.mpr ⟨step, h, rfl⟩

theorem parent_of_mem (hnd : plan.stepIds.Nodup) {step : CompiledWorkflowStep ν} (h : step ∈ plan.steps) :
    plan.forest.parent step.stepId =
      step.inboundRoutes.head?.map fun route => (route.sourceStepId, route.sourceHandle) := by
  simp only [CompiledWorkflowPlan.forest, step?_of_mem hnd h, Option.bind_some]

theorem exists_step_of_parent {id : String} {pair : String × String} (h : plan.forest.parent id = some pair) :
    ∃ step ∈ plan.steps, step.stepId = id ∧ ∃ route ∈ step.inboundRoutes,
      (route.sourceStepId, route.sourceHandle) = pair := by
  obtain ⟨step, hstep, hroute⟩ := Option.bind_eq_some_iff.mp h
  obtain ⟨hmem, hid⟩ := step?_eq_some hstep
  obtain ⟨route, hhead, hpair⟩ := Option.map_eq_some_iff.mp hroute
  exact ⟨step, hmem, hid, route, List.mem_of_head? hhead, hpair⟩

theorem parent_of_route (hnd : plan.stepIds.Nodup) {step : CompiledWorkflowStep ν} (h : step ∈ plan.steps)
    (hone : step.inboundRoutes.length ≤ 1) {route : CompiledWorkflowRoute} (hroute : route ∈ step.inboundRoutes) :
    plan.forest.parent step.stepId = some (route.sourceStepId, route.sourceHandle) := by
  rw [parent_of_mem hnd h]
  cases hroutes : step.inboundRoutes with
  | nil => simp [hroutes] at hroute
  | cons first rest =>
    rw [hroutes, List.length_cons] at hone
    have hrest : rest = [] := List.eq_nil_of_length_eq_zero (by omega)
    rw [hroutes, hrest, List.mem_singleton] at hroute
    rw [hroute]
    rfl

end Forest

section Compiled

variable {ν : Type} {graph : WorkflowGraph ν} {plan : CompiledWorkflowPlan ν}

theorem PublishableGraph.input_unique (h : PublishableGraph graph) {first second : WorkflowEdge}
    (hfirst : first ∈ graph.edges) (hsecond : second ∈ graph.edges)
    (htarget : first.targetNodeId = second.targetNodeId) : first = second := by
  have hhandle : ∀ edge ∈ graph.edges, edge.targetHandle = "rows" := by
    intro edge hedge
    obtain ⟨source, target, hconnects⟩ := h.connects edge hedge
    have hinput := hconnects.input
    cases hkind : target.kind with
    | tableRows => simp [hkind, workflowNodeInputs] at hinput
    | enrichColumn => simpa [hkind, workflowNodeInputs] using hinput
    | filter => simpa [hkind, workflowNodeInputs] using hinput
    | writeTable => simpa [hkind, workflowNodeInputs] using hinput
    | sendWebhook => simpa [hkind, workflowNodeInputs] using hinput
  refine List.inj_on_of_nodup_map h.inputs_nodup hfirst hsecond ?_
  rw [htarget, hhandle first hfirst, hhandle second hsecond]

theorem PlanImplements.mem_inbound (hplan : PlanImplements graph plan) {step : CompiledWorkflowStep ν}
    (hstep : step ∈ plan.steps) {route : CompiledWorkflowRoute} :
    route ∈ step.inboundRoutes ↔ ∃ edge ∈ graph.edges, edge.targetNodeId = step.stepId ∧ edge.route = route := by
  rw [(hplan.inbound step hstep).mem_iff]
  simp [and_assoc]

theorem PlanImplements.mem_outbound (hplan : PlanImplements graph plan) {step : CompiledWorkflowStep ν}
    (hstep : step ∈ plan.steps) {route : CompiledWorkflowRoute} :
    route ∈ step.outboundRoutes ↔ ∃ edge ∈ graph.edges, edge.sourceNodeId = step.stepId ∧ edge.route = route := by
  rw [(hplan.outbound step hstep).mem_iff]
  simp [and_assoc]

theorem PlanImplements.mem_stepIds (hplan : PlanImplements graph plan) {id : String} :
    id ∈ plan.stepIds ↔ id ∈ graph.nodeIds :=
  hplan.order.perm.mem_iff

theorem PlanImplements.inbound_le_one (hgraph : PublishableGraph graph) (hplan : PlanImplements graph plan)
    {step : CompiledWorkflowStep ν} (hstep : step ∈ plan.steps) : step.inboundRoutes.length ≤ 1 := by
  rw [(hplan.inbound step hstep).length_eq, List.length_map]
  have hnd : (graph.edges.filter fun edge => edge.targetNodeId = step.stepId).Nodup :=
    (List.Nodup.of_map _ hgraph.edges_nodup).filter _
  have hmem : ∀ edge ∈ graph.edges.filter (fun edge => edge.targetNodeId = step.stepId),
      edge ∈ graph.edges ∧ edge.targetNodeId = step.stepId := by simp
  cases hinputs : graph.edges.filter fun edge => edge.targetNodeId = step.stepId with
  | nil => simp
  | cons first rest =>
    cases rest with
    | nil => simp
    | cons second rest =>
      rw [hinputs] at hnd hmem
      have hfirst := hmem first (by simp)
      have hsecond := hmem second (by simp)
      have hsame := hgraph.input_unique hfirst.1 hsecond.1 (hfirst.2.trans hsecond.2.symm)
      exact absurd (hsame ▸ List.mem_cons_self) (List.nodup_cons.mp hnd).1

theorem PlanImplements.parent_iff (hgraph : PublishableGraph graph) (hplan : PlanImplements graph plan)
    {child parent handle : String} : plan.forest.parent child = some (parent, handle) ↔
      ∃ edge ∈ graph.edges, edge.sourceNodeId = parent ∧ edge.targetNodeId = child ∧
        edge.sourceHandle = handle := by
  constructor
  · intro h
    obtain ⟨step, hstep, hid, route, hroute, hpair⟩ := exists_step_of_parent h
    obtain ⟨edge, hedge, htarget, rfl⟩ := (hplan.mem_inbound hstep).mp hroute
    simp only [Prod.mk.injEq] at hpair
    exact ⟨edge, hedge, hpair.1, htarget.trans hid, hpair.2⟩
  · intro h
    obtain ⟨edge, hedge, hsource, htarget, hhandle⟩ := h
    obtain ⟨source, target, hconnects⟩ := hgraph.connects edge hedge
    obtain ⟨step, hstep, hid⟩ := exists_step (hplan.mem_stepIds.mpr hconnects.target_nodeIds)
    have hroute : edge.route ∈ step.inboundRoutes := (hplan.mem_inbound hstep).mpr ⟨edge, hedge, hid.symm, rfl⟩
    have hparent := parent_of_route hplan.stepIds_nodup hstep (hplan.inbound_le_one hgraph hstep) hroute
    rw [hid, htarget] at hparent
    rw [hparent, ← hsource, ← hhandle]
    rfl

theorem PlanImplements.planForest (hgraph : PublishableGraph graph) (hplan : PlanImplements graph plan) :
    PlanForest plan := by
  have hfollows : ∀ u v, plan.forest.follows u v ↔ graph.stepEdge u v := by
    intro u v
    constructor
    · intro h
      obtain ⟨handle, hparent⟩ := h
      obtain ⟨edge, hedge, hsource, htarget, _⟩ := (hplan.parent_iff hgraph).mp hparent
      exact ⟨edge, hedge, hsource, htarget⟩
    · intro h
      obtain ⟨edge, hedge, hsource, htarget⟩ := h
      exact ⟨edge.sourceHandle, (hplan.parent_iff hgraph).mpr ⟨edge, hedge, hsource, htarget, rfl⟩⟩
  have hmem : ∀ u v, plan.forest.follows u v → u ∈ plan.stepIds ∧ v ∈ plan.stepIds := by
    intro u v h
    obtain ⟨edge, hedge, hsource, htarget⟩ := (hfollows u v).mp h
    obtain ⟨source, target, hconnects⟩ := hgraph.connects edge hedge
    exact ⟨hplan.mem_stepIds.mpr (hsource ▸ hconnects.source_nodeIds),
      hplan.mem_stepIds.mpr (htarget ▸ hconnects.target_nodeIds)⟩
  refine ⟨hplan.stepIds_nodup, ⟨?_, hmem, hgraph.acyclic.mono fun u v => (hfollows u v).mp⟩, ?_,
    fun step hstep => hplan.inbound_le_one hgraph hstep, ?_⟩
  · obtain ⟨trigger, htrigger, _⟩ := hgraph.trigger
    exact List.ne_nil_of_mem (hplan.mem_stepIds.mpr (List.mem_map.mpr ⟨trigger, htrigger, rfl⟩))
  · intro id hid
    obtain ⟨node, hnode, hnodeId⟩ := List.mem_map.mp (hplan.mem_stepIds.mp hid)
    have hentry : id ∈ plan.entryStepIds ↔ node.kind = .tableRows := by
      rw [hplan.entry.2 id]
      constructor
      · intro h
        obtain ⟨other, hother, hotherId, hkind⟩ := h
        rwa [List.inj_on_of_nodup_map hgraph.nodes_nodup hnode hother (hnodeId.trans hotherId.symm)]
      · intro hkind
        exact ⟨node, hnode, hnodeId, hkind⟩
    rw [hentry, ← hgraph.no_input_iff hnode, hnodeId]
    constructor
    · intro hnone
      cases hparent : plan.forest.parent id with
      | none => rfl
      | some pair =>
        obtain ⟨edge, hedge, _, htarget, _⟩ := (hplan.parent_iff hgraph).mp hparent
        exact absurd htarget (hnone edge hedge)
    · intro hparent edge hedge htarget
      have hsome := (hplan.parent_iff hgraph).mpr ⟨edge, hedge, rfl, htarget, rfl⟩
      rw [hparent] at hsome
      cases hsome
  · intro step hstep child handle
    rw [hplan.parent_iff hgraph]
    constructor
    · intro h
      obtain ⟨route, hroute, htarget, hhandle⟩ := h
      obtain ⟨edge, hedge, hsource, rfl⟩ := (hplan.mem_outbound hstep).mp hroute
      exact ⟨edge, hedge, hsource, htarget, hhandle⟩
    · intro h
      obtain ⟨edge, hedge, hsource, htarget, hhandle⟩ := h
      exact ⟨edge.route, (hplan.mem_outbound hstep).mpr ⟨edge, hedge, hsource, rfl⟩, htarget, hhandle⟩

variable [JsRuntime ν]

theorem compiled_planForest {input : WorkflowGraph ν} (hschema : workflowGraphSchema input = .ok graph)
    (hcompile : compileWorkflowGraph graph = .ok plan) : PlanForest plan := by
  obtain ⟨compiled, hok, himplements⟩ := compileWorkflowGraph_correct hschema
  rw [hcompile, Except.ok.injEq] at hok
  exact (hok ▸ himplements).planForest (publishableGraph_of_schema hschema)

end Compiled

section Skipped

variable {ν : Type} {plan : CompiledWorkflowPlan ν}

def CompiledWorkflowPlan.targetsOf (plan : CompiledWorkflowPlan ν) (id : String) : List String :=
  ((plan.step? id).map CompiledWorkflowStep.targets).getD []

theorem PlanForest.targetsOf_step (h : PlanForest plan) {step : CompiledWorkflowStep ν}
    (hstep : step ∈ plan.steps) : plan.targetsOf step.stepId = step.targets := by
  simp [CompiledWorkflowPlan.targetsOf, step?_of_mem h.nodup hstep]

theorem targetsOf_off {id : String} (h : id ∉ plan.stepIds) : plan.targetsOf id = [] := by
  cases hfind : plan.step? id with
  | none => simp [CompiledWorkflowPlan.targetsOf, hfind]
  | some step =>
    obtain ⟨hmem, hid⟩ := step?_eq_some hfind
    exact absurd (hid ▸ step_mem hmem) h

theorem PlanForest.mem_targetsOf (h : PlanForest plan) {u v : String} :
    v ∈ plan.targetsOf u ↔ plan.forest.follows u v := by
  by_cases hu : u ∈ plan.stepIds
  · obtain ⟨step, hstep, rfl⟩ := exists_step hu
    rw [h.targetsOf_step hstep, CompiledWorkflowStep.targets, List.mem_map]
    constructor
    · intro hh
      obtain ⟨route, hroute, htarget⟩ := hh
      exact ⟨route.sourceHandle, (h.outbound step hstep v _).mp ⟨route, hroute, htarget, rfl⟩⟩
    · intro hh
      obtain ⟨handle, hparent⟩ := hh
      obtain ⟨route, hroute, htarget, _⟩ := (h.outbound step hstep v handle).mpr hparent
      exact ⟨route, hroute, htarget⟩
  · rw [targetsOf_off hu]
    constructor
    · intro hh
      cases hh
    · intro hh
      exact absurd (h.wellFormed.mem u v hh).1 hu

theorem PlanForest.mem_activeTargets (h : PlanForest plan) {step : CompiledWorkflowStep ν}
    (hstep : step ∈ plan.steps) {labels : List String} {v : String} : v ∈ step.activeTargets labels ↔
      ∃ label, plan.forest.parent v = some (step.stepId, label) ∧ label ∈ labels := by
  simp only [CompiledWorkflowStep.activeTargets, List.mem_map, List.mem_filter, decide_eq_true_eq,
    ← h.outbound step hstep]
  constructor
  · intro hh
    obtain ⟨route, ⟨hroute, hlabel⟩, htarget⟩ := hh
    exact ⟨route.sourceHandle, ⟨route, hroute, htarget, rfl⟩, hlabel⟩
  · intro hh
    obtain ⟨label, ⟨route, hroute, htarget, hhandle⟩, hlabel⟩ := hh
    exact ⟨route, ⟨hroute, hhandle ▸ hlabel⟩, htarget⟩

theorem PlanForest.mem_inactiveTargets (h : PlanForest plan) {step : CompiledWorkflowStep ν}
    (hstep : step ∈ plan.steps) {labels : List String} {v : String} : v ∈ step.inactiveTargets labels ↔
      ∃ label, plan.forest.parent v = some (step.stepId, label) ∧ label ∉ labels := by
  simp only [CompiledWorkflowStep.inactiveTargets, List.mem_map, List.mem_filter, decide_eq_true_eq,
    ← h.outbound step hstep]
  constructor
  · intro hh
    obtain ⟨route, ⟨hroute, hlabel⟩, htarget⟩ := hh
    exact ⟨route.sourceHandle, ⟨route, hroute, htarget, rfl⟩, hlabel⟩
  · intro hh
    obtain ⟨label, ⟨route, hroute, htarget, hhandle⟩, hlabel⟩ := hh
    exact ⟨route, ⟨hroute, hhandle ▸ hlabel⟩, htarget⟩

theorem PlanForest.skippedLoop_eq (h : PlanForest plan) {step : CompiledWorkflowStep ν}
    (hstep : step ∈ plan.steps) (labels : List String) (fuel : Nat) (pending skipped : List String)
    (hpending : ∀ id ∈ pending, plan.forest.Behind step.stepId labels id) :
    skippedLoop plan (step.activeTargets labels) fuel pending skipped =
      .ok (exploreLoop popFirst plan.targetsOf fuel pending skipped) := by
  induction fuel generalizing pending skipped with
  | zero => rfl
  | succ fuel ih =>
    cases pending with
    | nil => rfl
    | cons id pending =>
      have hid := hpending id List.mem_cons_self
      have hrest : ∀ other ∈ pending, plan.forest.Behind step.stepId labels other :=
        fun other hother => hpending other (List.mem_cons_of_mem _ hother)
      have hfree : id ∉ step.activeTargets labels := by
        intro hactive
        obtain ⟨label, hparent, hlabel⟩ := (h.mem_activeTargets hstep).mp hactive
        exact h.wellFormed.not_behind_chosen hparent hlabel hid
      simp only [skippedLoop, exploreLoop, popFirst, hfree, or_false]
      by_cases hseen : id ∈ skipped
      · rw [if_pos hseen, if_pos hseen]
        exact ih pending skipped hrest
      · rw [if_neg hseen, if_neg hseen]
        obtain ⟨visited, hvisited, rfl⟩ := exists_step (h.wellFormed.behind_mem hid)
        have hfound : requirePlanStep plan visited.stepId = .ok visited :=
          requireSome_eq_ok.mpr (step?_of_mem h.nodup hvisited)
        rw [hfound, h.targetsOf_step hvisited]
        refine ih _ _ fun other hother => ?_
        rcases List.mem_append.mp hother with hother | hother
        · exact hrest other hother
        · rw [← h.targetsOf_step hvisited] at hother
          exact hid.trans (h.mem_targetsOf.mp hother)

theorem PlanForest.flatMap_targetsOf (h : PlanForest plan) :
    plan.stepIds.flatMap plan.targetsOf = plan.steps.flatMap CompiledWorkflowStep.targets := by
  rw [CompiledWorkflowPlan.stepIds, List.flatMap_map]
  exact List.flatMap_congr fun step hstep => h.targetsOf_step hstep

theorem PlanForest.collectSkippedDescendants_spec (h : PlanForest plan) {step : CompiledWorkflowStep ν}
    (hstep : step ∈ plan.steps) (labels : List String) :
    ∃ skipped, collectSkippedDescendants plan (step.inactiveTargets labels) (step.activeTargets labels) =
      .ok skipped ∧ ∀ id, id ∈ skipped ↔ plan.forest.Behind step.stepId labels id := by
  have hstart : ∀ id ∈ step.inactiveTargets labels, plan.forest.Behind step.stepId labels id := by
    intro id hid
    obtain ⟨label, hparent, hlabel⟩ := (h.mem_inactiveTargets hstep).mp hid
    exact ⟨id, label, hparent, hlabel, Relation.ReflTransGen.refl⟩
  refine ⟨_, h.skippedLoop_eq hstep labels _ _ _ hstart, fun id => ?_⟩
  rw [mem_exploreLoop popFirst_takesOne h.nodup (fun _ => targetsOf_off) (by rw [h.flatMap_targetsOf])]
  have hedges : (fun a b => b ∈ plan.targetsOf a) = plan.forest.follows := by
    funext a b
    exact propext h.mem_targetsOf
  rw [hedges]
  constructor
  · intro hh
    obtain ⟨child, hchild, hpath⟩ := hh
    obtain ⟨label, hparent, hlabel⟩ := (h.mem_inactiveTargets hstep).mp hchild
    exact ⟨child, label, hparent, hlabel, hpath⟩
  · intro hh
    obtain ⟨child, label, hparent, hlabel, hpath⟩ := hh
    exact ⟨child, (h.mem_inactiveTargets hstep).mpr ⟨label, hparent, hlabel⟩, hpath⟩

end Skipped

end ByokGrid
