import ByokGrid.Transition
import ByokGrid.WorkflowRuns

/-! The workflow store under any sequence of the operations on it. A lease
expires when a later claim finds it older than its length. -/

namespace ByokGrid

structure WorkflowCompletion where
  runId : String
  stepId : String
  activeOutputHandles : List String
  deriving Repr, DecidableEq

structure WorkflowSystem (ν : Type) where
  ledger : WorkflowLedger ν
  outbox : Outbox
  completions : List WorkflowCompletion

inductive WorkflowAction (ν : Type) where
  | createWorkflow (id name : String) (graph : WorkflowGraph ν)
  | updateDraft (workflowId name : String) (expectedRevision : Nat) (graph : WorkflowGraph ν)
  | publish (workflowId : String) (expectedRevision : Nat)
  | createRun (input : CreateWorkflowRunInput ν)
  | claim (input : ClaimWorkflowInput)
  | complete (claim : StepClaim) (activeOutputHandles : List String) (output : Option (Json ν)) (now : Int)
  | retry (claim : StepClaim) (errorCode errorMessage : String) (retryAt now : Int)
  | fail (claim : StepClaim) (errorCode errorMessage : String) (now : Int)

section System

variable {ν : Type}

def WorkflowSystem.initial : WorkflowSystem ν where
  ledger := { catalog := WorkflowCatalog.empty, runs := Table.empty, steps := Table.empty }
  outbox := Table.empty
  completions := []

variable [JsRuntime ν]

def WorkflowSystem.withCatalog (s : WorkflowSystem ν) :
    Except StoreError (WorkflowCatalog ν) → WorkflowSystem ν
  | .ok catalog => { s with ledger := { s.ledger with catalog := catalog } }
  | .error _ => s

def WorkflowSystem.withLedger (s : WorkflowSystem ν) :
    Except StoreError (WorkflowLedger ν) → WorkflowSystem ν
  | .ok ledger => { s with ledger := ledger }
  | .error _ => s

def WorkflowSystem.step (s : WorkflowSystem ν) : WorkflowAction ν → WorkflowSystem ν
  | .createWorkflow id name graph => s.withCatalog (createSqliteWorkflow s.ledger.catalog id name graph)
  | .updateDraft workflowId name expectedRevision graph =>
    s.withCatalog (updateSqliteWorkflowDraft s.ledger.catalog workflowId name expectedRevision graph)
  | .publish workflowId expectedRevision =>
    s.withCatalog (publishSqliteWorkflow s.ledger.catalog workflowId expectedRevision)
  | .createRun input =>
    match createSqliteWorkflowRun s.ledger s.outbox input with
    | .ok (_, ledger, outbox) => { s with ledger := ledger, outbox := outbox }
    | .error _ => s
  | .claim input => s.withLedger ((claimSqliteWorkflowSteps s.ledger input).map Prod.snd)
  | .complete claim activeOutputHandles output now =>
    match completeSqliteWorkflowStep s.ledger claim activeOutputHandles output now with
    | .ok (_, ledger) =>
      { s with
        ledger := ledger
        completions := s.completions ++ [⟨claim.runId, claim.stepId, activeOutputHandles⟩] }
    | .error _ => s
  | .retry claim errorCode errorMessage retryAt now =>
    s.withLedger (retrySqliteWorkflowStep s.ledger claim errorCode errorMessage retryAt now)
  | .fail claim errorCode errorMessage now =>
    s.withLedger (failSqliteWorkflowStep s.ledger claim errorCode errorMessage now)

def WorkflowSystem.run (actions : List (WorkflowAction ν)) : WorkflowSystem ν :=
  runActions WorkflowSystem.step WorkflowSystem.initial actions

end System

end ByokGrid
