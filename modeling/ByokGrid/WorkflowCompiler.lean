import ByokGrid.WorkflowPolicy

/-! The compiler from a publishable workflow graph to its execution plan. -/

namespace ByokGrid

structure CompiledWorkflowRoute where
  edgeId : String
  sourceHandle : String
  sourceStepId : String
  targetHandle : String
  targetStepId : String
  deriving Repr, DecidableEq

structure CompiledWorkflowStep (ν : Type) where
  configuration : WorkflowNodeConfiguration ν
  dependencyStepIds : List String
  inboundRoutes : List CompiledWorkflowRoute
  kind : WorkflowNodeKind
  name : String
  outboundRoutes : List CompiledWorkflowRoute
  stepId : String

structure CompiledWorkflowPlan (ν : Type) where
  entryStepIds : List String
  steps : List (CompiledWorkflowStep ν)
  terminalStepIds : List String

inductive CompileWorkflowError where
  | schema (error : WorkflowGraphError)
  | message (text : String)
  deriving Repr, DecidableEq

def WorkflowEdge.route (edge : WorkflowEdge) : CompiledWorkflowRoute where
  edgeId := edge.id
  sourceHandle := edge.sourceHandle
  sourceStepId := edge.sourceNodeId
  targetHandle := edge.targetHandle
  targetStepId := edge.targetNodeId

section Routes

variable {ν : Type} [JsRuntime ν]

variable (ν) in
def compareRoutes (left right : CompiledWorkflowRoute) : Ordering :=
  (JsRuntime.localeCompare ν left.sourceStepId right.sourceStepId).then
    ((JsRuntime.localeCompare ν left.sourceHandle right.sourceHandle).then
      ((JsRuntime.localeCompare ν left.targetStepId right.targetStepId).then
        ((JsRuntime.localeCompare ν left.targetHandle right.targetHandle).then
          (JsRuntime.localeCompare ν left.edgeId right.edgeId))))

def compileRoutes (graph : WorkflowGraph ν) : List CompiledWorkflowRoute :=
  (graph.edges.map WorkflowEdge.route).insertionSort fun left right =>
    (compareRoutes ν left right).isLE

end Routes

/-- `groupRoutes(routes, field).get(stepId) ?? []`. -/
def groupRoutes (routes : List CompiledWorkflowRoute) (field : CompiledWorkflowRoute → String)
    (stepId : String) : List CompiledWorkflowRoute :=
  routes.filter fun route => field route = stepId

def insertSorted (values : List String) (value : String) : List String :=
  match values.findIdx? (fun candidate => candidate > value) with
  | none => values ++ [value]
  | some index => values.insertIdx index value

theorem insertSorted_nil (value : String) : insertSorted [] value = [value] := rfl

theorem insertSorted_cons (head : String) (values : List String) (value : String) :
    insertSorted (head :: values) value =
      if head > value then value :: head :: values else head :: insertSorted values value := by
  unfold insertSorted
  rw [List.findIdx?_cons]
  by_cases h : head > value
  · simp [h]
  · simp only [h, decide_false, Bool.false_eq_true, if_false]
    cases values.findIdx? fun candidate => decide (candidate > value) <;> simp

theorem insertSorted_perm (values : List String) (value : String) :
    (insertSorted values value).Perm (value :: values) := by
  induction values with
  | nil => exact List.Perm.refl _
  | cons head values ih =>
    rw [insertSorted_cons]
    split
    · exact List.Perm.refl _
    · exact (ih.cons head).trans (List.Perm.swap value head values)

theorem insertSorted_sorted {values : List String} (value : String) (h : values.Pairwise (· ≤ ·)) :
    (insertSorted values value).Pairwise (· ≤ ·) := by
  induction values with
  | nil => simp [insertSorted_nil]
  | cons head values ih =>
    obtain ⟨hhead, htail⟩ := List.pairwise_cons.mp h
    rw [insertSorted_cons]
    split
    · rename_i hlt
      refine List.pairwise_cons.mpr ⟨fun other hother => ?_, h⟩
      rcases List.mem_cons.mp hother with rfl | hin
      · exact le_of_lt hlt
      · exact (le_of_lt hlt).trans (hhead other hin)
    · rename_i hle
      refine List.pairwise_cons.mpr ⟨fun other hother => ?_, ih htail⟩
      rcases List.mem_cons.mp ((insertSorted_perm values value).mem_iff.mp hother) with rfl | hin
      · exact not_lt.mp hle
      · exact hhead other hin

def sortedReady : ReadyList String where
  pop := popFirst
  push := insertSorted
  settle l := l
  pop_none := popFirst_none
  pop_perm := popFirst_perm
  push_perm := insertSorted_perm
  settle_perm := List.Perm.refl

theorem sortedReady_sorted : sortedReady.Sorted where
  pop_cons _ _ := rfl
  push_sorted _ v h := insertSorted_sorted v h
  settle_sorted _ h := h

section Order

variable (nodeIds : List String) (inbound outbound : String → List CompiledWorkflowRoute)

def remainingDependencies (nodeId : String) : Int :=
  if nodeId ∈ nodeIds then
    (distinct ((inbound nodeId).map CompiledWorkflowRoute.sourceStepId)).length
  else 0

def sortedTargets (nodeId : String) : List String :=
  sortStrings (distinct ((outbound nodeId).map CompiledWorkflowRoute.targetStepId))

/-- The loop of `deterministicTopologicalOrder`, one round for each node. -/
def topologicalLoop : List String :=
  kahnLoop sortedReady (sortedTargets outbound) nodeIds.length (remainingDependencies nodeIds inbound)
    (sortStrings (nodeIds.filter fun nodeId => remainingDependencies nodeIds inbound nodeId = 0)) []

def deterministicTopologicalOrder : Except CompileWorkflowError (List String) :=
  let ordered := topologicalLoop nodeIds inbound outbound
  if ordered.length ≠ nodeIds.length then
    .error (.message "The validated workflow graph could not be ordered.")
  else .ok ordered

end Order

section Compile

variable {ν : Type} [JsRuntime ν]

def compileStep (graph : WorkflowGraph ν) (inbound outbound : String → List CompiledWorkflowRoute)
    (stepId : String) : Option (CompiledWorkflowStep ν) :=
  (graph.nodeById stepId).map fun node =>
    { configuration := node.configuration
      dependencyStepIds := sortStrings (distinct ((inbound stepId).map CompiledWorkflowRoute.sourceStepId))
      inboundRoutes := inbound stepId
      kind := node.kind
      name := node.name
      outboundRoutes := outbound stepId
      stepId := stepId }

def compileWorkflowGraph (graphInput : WorkflowGraph ν) :
    Except CompileWorkflowError (CompiledWorkflowPlan ν) :=
  match workflowGraphSchema graphInput with
  | .error e => .error (.schema e)
  | .ok graph =>
    let routes := compileRoutes graph
    let inboundByNode := groupRoutes routes CompiledWorkflowRoute.targetStepId
    let outboundByNode := groupRoutes routes CompiledWorkflowRoute.sourceStepId
    match deterministicTopologicalOrder (distinct (graph.nodes.map WorkflowNode.id))
      inboundByNode outboundByNode with
    | .error e => .error e
    | .ok orderedStepIds =>
      let steps := orderedStepIds.filterMap (compileStep graph inboundByNode outboundByNode)
      .ok
        { entryStepIds := (steps.filter fun step => step.inboundRoutes.length = 0).map
            CompiledWorkflowStep.stepId
          steps := steps
          terminalStepIds := (steps.filter fun step => step.outboundRoutes.length = 0).map
            CompiledWorkflowStep.stepId }

end Compile

end ByokGrid
