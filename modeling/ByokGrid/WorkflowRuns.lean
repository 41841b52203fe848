import ByokGrid.Outbox
import ByokGrid.TaskForest
import ByokGrid.Workflows

/-! The run ledger of workflows: a run takes the steps of the plan its version
published, workers claim steps under a lease, and complete, retry or fail them. -/

namespace ByokGrid

inductive WorkflowRunStatus where
  | queued
  | running
  | succeeded
  | failed
  | cancelled
  deriving Repr, DecidableEq

structure WorkflowRun (ν : Type) where
  id : String
  workflowId : String
  workflowVersion : Nat
  status : WorkflowRunStatus := .queued
  requestedByUserId : Option String
  input : Json ν
  errorCode : Option String := none
  errorMessage : Option String := none
  startedAt : Option Int := none
  finishedAt : Option Int := none

structure WorkflowStepRun (ν : Type) where
  runId : String
  stepId : String
  stepKind : WorkflowNodeKind
  status : TaskStatus
  attempt : Nat := 0
  claimId : Option String := none
  claimedAt : Option Int := none
  nextAttemptAt : Option Int := none
  output : Json ν := .null
  errorCode : Option String := none
  errorMessage : Option String := none
  startedAt : Option Int := none
  finishedAt : Option Int := none
  updatedAt : Int

instance {ν : Type} : Keyed (WorkflowRun ν) String := ⟨WorkflowRun.id⟩
instance {ν : Type} : Keyed (WorkflowStepRun ν) (String × String) := ⟨fun s => (s.runId, s.stepId)⟩

structure WorkflowLedger (ν : Type) where
  catalog : WorkflowCatalog ν
  runs : Table (WorkflowRun ν)
  steps : Table (WorkflowStepRun ν)

def WorkflowRunStatus.open_ : WorkflowRunStatus → Bool
  | .queued | .running => true
  | .succeeded | .failed | .cancelled => false

section Checks

variable {ν : Type} [JsRuntime ν]

def assertWorkflowClaimId (claimId : String) : Except StoreError Unit :=
  requireThat (isClaimId claimId) (.validation "The workflow step claim identifier is invalid.")

def parseJsonValue (value : Json ν) (maximumBytes : Nat) : Except StoreError (Json ν) := do
  requireThat (value.stringify.utf8ByteSize ≤ maximumBytes)
    (.validation "Workflow run data exceeds the storage limit.")
  return value

def parseOutput (output : Option (Json ν)) : Except StoreError (Json ν) :=
  match output with
  | none => .ok .null
  | some value => parseJsonValue value 1048576

def parseRunInput (value : Json ν) : Except StoreError (Json ν) :=
  match value with
  | .object _ => parseJsonValue value (64 * 1024)
  | _ => .error (.validation "Workflow run input must be a JSON object.")

/-- `/^[A-Za-z0-9_.-]+$/`. -/
def isErrorCode (code : String) : Bool :=
  code ≠ "" && code.toList.all fun c =>
    ('A' ≤ c && c ≤ 'Z') || ('a' ≤ c && c ≤ 'z') || ('0' ≤ c && c ≤ '9') || c == '_' || c == '.' || c == '-'

def safeCode (value : String) : Except StoreError String := do
  let code := sliceUnits 120 (jsTrim value)
  requireThat (isErrorCode code) (.validation "The workflow error code is invalid.")
  return code

def safeMessage (value : String) : Except StoreError String := do
  let message := sliceUnits 500 (jsTrim (spaceBreaks value))
  requireThat (message ≠ "") (.validation "The workflow error message is invalid.")
  return message

end Checks

section Ledger

variable {ν : Type} [JsRuntime ν]

def WorkflowLedger.planOf (ledger : WorkflowLedger ν) (run : WorkflowRun ν) : Option (CompiledWorkflowPlan ν) :=
  (ledger.catalog.versions.get? (run.workflowId, run.workflowVersion)).bind WorkflowVersion.compiledPlan

def initialSteps (plan : CompiledWorkflowPlan ν) (runId : String) (now : Int) : List (WorkflowStepRun ν) :=
  plan.steps.map fun step =>
    { runId := runId
      stepId := step.stepId
      stepKind := step.kind
      status := if step.stepId ∈ plan.entryStepIds then .ready else .blocked
      updatedAt := now }

structure CreateWorkflowRunInput (ν : Type) where
  eventId : String
  now : Int
  runId : String
  runInput : Json ν
  userId : String
  workflowId : String

def createSqliteWorkflowRun (ledger : WorkflowLedger ν) (outbox : Outbox) (input : CreateWorkflowRunInput ν) :
    Except StoreError (WorkflowRun ν × WorkflowLedger ν × Outbox) := do
  let runInput ← parseRunInput input.runInput
  let workflow ← requireSome ((ledger.catalog.workflows.get? input.workflowId).filter fun w => w.state = .active)
    (.access "The active workflow is not accessible.")
  let published ← requireSome
    (workflow.publishedVersion.bind fun version => ledger.catalog.versions.get? (workflow.id, version))
    (.access "The active workflow is not accessible.")
  let compiledPlan ← requireSome published.compiledPlan
    (.conflict "The published workflow predates executable plans and must be republished.")
  let created : WorkflowRun ν :=
    { id := input.runId
      workflowId := workflow.id
      workflowVersion := published.version
      requestedByUserId := some input.userId
      input := runInput }
  let runs ← requireSome (ledger.runs.insert created) (.constraint "workflow_runs_id")
  let steps ← requireSome (ledger.steps.insertAll (initialSteps compiledPlan input.runId input.now))
    (.constraint "workflow_step_runs_primary_key")
  let events ← requireSome (outbox.insert
    { id := input.eventId, payload := .workflowRunRequested input.runId, createdAt := input.now })
    (.constraint "outbox_events_id")
  return (created, { ledger with runs := runs, steps := steps }, events)

structure ClaimWorkflowInput where
  claimId : String
  leaseSeconds : Option Int := none
  limit : Option Int := none
  now : Int
  runId : Option String := none

def WorkflowLedger.runOpen (ledger : WorkflowLedger ν) (runId : String) : Bool :=
  (ledger.runs.get? runId).any fun run => run.status.open_

def workflowStepEligibility (ledger : WorkflowLedger ν) (now staleBefore : Int) (scope : Option String)
    (step : WorkflowStepRun ν) : Bool :=
  (scope.all fun runId => step.runId = runId) &&
    ((step.status = .ready && step.nextAttemptAt.all fun at_ => at_ ≤ now) ||
      (step.status = .running && step.claimedAt.any fun at_ => at_ < staleBefore)) &&
    ledger.runOpen step.runId

section RunUpdates

variable (now : Int) (run : WorkflowRun ν)

def startRun : WorkflowRun ν := { run with startedAt := some (run.startedAt.getD now), status := .running }

def succeedRun : WorkflowRun ν := { run with finishedAt := some now, status := .succeeded }

def failRun (code message : String) : WorkflowRun ν :=
  { run with
    errorCode := some code
    errorMessage := some message
    finishedAt := some now
    status := .failed }

end RunUpdates

def claimStepOrder (left right : WorkflowStepRun ν) : Bool :=
  left.updatedAt < right.updatedAt || (left.updatedAt = right.updatedAt && left.stepId ≤ right.stepId)

def leaseStep (claimId : String) (now : Int) (step : WorkflowStepRun ν) : WorkflowStepRun ν :=
  { step with
    attempt := step.attempt + 1
    claimId := some claimId
    claimedAt := some now
    errorCode := none
    errorMessage := none
    nextAttemptAt := none
    startedAt := some (step.startedAt.getD now)
    status := .running
    updatedAt := now }

def claimSqliteWorkflowSteps (ledger : WorkflowLedger ν) (input : ClaimWorkflowInput) :
    Except StoreError (List (WorkflowStepRun ν) × WorkflowLedger ν) := do
  assertWorkflowClaimId input.claimId
  let limit := (max 1 (min (input.limit.getD 25) 250)).toNat
  let eligible := workflowStepEligibility ledger input.now
    (input.now - leaseMilliseconds input.leaseSeconds) input.runId
  let candidates := ((ledger.steps.records.filter eligible).insertionSort fun l r => claimStepOrder l r).take limit
  let keys := candidates.map fun step => (step.runId, step.stepId)
  -- the update finds every candidate again, so the check of the two counts cannot fail
  let claimed := candidates.map (leaseStep input.claimId input.now)
  return (claimed,
    { ledger with
      steps := ledger.steps.modify (fun step => (step.runId, step.stepId) ∈ keys && eligible step)
        (leaseStep input.claimId input.now) ⟨fun _ => rfl⟩
      runs := ledger.runs.modify
        (fun run => run.id ∈ claimed.map WorkflowStepRun.runId && run.status = .queued)
        (startRun input.now) ⟨fun _ => rfl⟩ })

def claimHasStep (claimed : List (WorkflowStepRun ν)) (key : String × String) : Bool :=
  key ∈ claimed.map Keyed.key

def requirePlanStep (plan : CompiledWorkflowPlan ν) (stepId : String) :
    Except StoreError (CompiledWorkflowStep ν) :=
  requireSome (plan.steps.find? fun candidate => candidate.stepId = stepId)
    (.validation "The workflow step is not part of the published plan.")

def CompiledWorkflowStep.targets (step : CompiledWorkflowStep ν) : List String :=
  step.outboundRoutes.map CompiledWorkflowRoute.targetStepId

/-- The loop over `pending`, at most one round for each identifier put into it. -/
def skippedLoop (plan : CompiledWorkflowPlan ν) (protectedStepIds : List String) :
    Nat → List String → List String → Except StoreError (List String)
  | 0, _, skipped => .ok skipped
  | _ + 1, [], skipped => .ok skipped
  | fuel + 1, stepId :: pending, skipped =>
    if stepId ∈ skipped ∨ stepId ∈ protectedStepIds then
      skippedLoop plan protectedStepIds fuel pending skipped
    else do
      let step ← requirePlanStep plan stepId
      skippedLoop plan protectedStepIds fuel (pending ++ step.targets) (skipped ++ [stepId])

def collectSkippedDescendants (plan : CompiledWorkflowPlan ν) (initialStepIds protectedStepIds : List String) :
    Except StoreError (List String) :=
  skippedLoop plan protectedStepIds
    (initialStepIds.length + (plan.steps.flatMap CompiledWorkflowStep.targets).length) initialStepIds []

/-- `stepClaimScope`. -/
def heldStep (claimId runId stepId : String) (step : WorkflowStepRun ν) : Bool :=
  step.runId = runId && step.stepId = stepId && step.claimId = some claimId && step.status = .running

def stepOf (runId : String) (stepIds : List String) (step : WorkflowStepRun ν) : Bool :=
  step.runId = runId && step.stepId ∈ stepIds

structure StepClaim where
  claimId : String
  runId : String
  stepId : String
  deriving Repr, DecidableEq

section StepUpdates

variable (now : Int) (step : WorkflowStepRun ν)

def succeedStep (output : Json ν) : WorkflowStepRun ν :=
  { step with
    claimId := none
    claimedAt := none
    errorCode := none
    errorMessage := none
    finishedAt := some now
    nextAttemptAt := none
    output := output
    status := .succeeded
    updatedAt := now }

def promoteStep : WorkflowStepRun ν := { step with status := .ready, updatedAt := now }

def skipStep : WorkflowStepRun ν := { step with finishedAt := some now, status := .skipped, updatedAt := now }

def retryStep (code message : String) (retryAt : Int) : WorkflowStepRun ν :=
  { step with
    claimId := none
    claimedAt := none
    errorCode := some code
    errorMessage := some message
    nextAttemptAt := some retryAt
    status := .ready
    updatedAt := now }

def failStep (code message : String) : WorkflowStepRun ν :=
  { step with
    claimId := none
    claimedAt := none
    errorCode := some code
    errorMessage := some message
    finishedAt := some now
    status := .failed
    updatedAt := now }

def cancelStep : WorkflowStepRun ν :=
  { step with
    claimId := none
    claimedAt := none
    finishedAt := some now
    status := .cancelled
    updatedAt := now }

end StepUpdates

def CompiledWorkflowStep.activeTargets (step : CompiledWorkflowStep ν) (handles : List String) : List String :=
  (step.outboundRoutes.filter fun route => route.sourceHandle ∈ handles).map CompiledWorkflowRoute.targetStepId

def CompiledWorkflowStep.inactiveTargets (step : CompiledWorkflowStep ν) (handles : List String) : List String :=
  (step.outboundRoutes.filter fun route => route.sourceHandle ∉ handles).map CompiledWorkflowRoute.targetStepId

/-- The held step succeeds, blocked steps on active routes become ready, and
the blocked descendants left out are skipped. -/
def completeSteps (steps : Table (WorkflowStepRun ν)) (input : StepClaim) (output : Json ν)
    (activeTargets skipped : List String) (now : Int) : Table (WorkflowStepRun ν) :=
  let completed := steps.modify (heldStep input.claimId input.runId input.stepId)
    (fun step => succeedStep now step output) ⟨fun _ => rfl⟩
  let promoted := completed.modify (fun step => stepOf input.runId activeTargets step && step.status = .blocked)
    (promoteStep now) ⟨fun _ => rfl⟩
  promoted.modify (fun step => stepOf input.runId skipped step && step.status = .blocked)
    (skipStep now) ⟨fun _ => rfl⟩

def WorkflowLedger.pendingCount (ledger : WorkflowLedger ν) (runId : String) : Nat :=
  (ledger.steps.records.filter fun step => step.runId = runId && step.status.pending).length

def completeSqliteWorkflowStep (ledger : WorkflowLedger ν) (input : StepClaim)
    (activeOutputHandles : List String) (output : Option (Json ν)) (now : Int) :
    Except StoreError (WorkflowRunStatus × WorkflowLedger ν) := do
  assertWorkflowClaimId input.claimId
  let output ← parseOutput output
  let run ← requireSome ((ledger.runs.get? input.runId).filter fun run => run.status = .running)
    (.access "The workflow run is not active.")
  let plan ← requireSome (ledger.planOf run) (.access "The workflow run is not active.")
  let step ← requirePlanStep plan input.stepId
  let allowedHandles := step.outboundRoutes.map CompiledWorkflowRoute.sourceHandle
  requireThat (activeOutputHandles.Nodup && activeOutputHandles.all fun handle => handle ∈ allowedHandles)
    (.validation "The workflow step selected an invalid output route.")
  requireThat (ledger.steps.records.any (heldStep input.claimId input.runId input.stepId))
    (.conflict "The workflow step lease expired before completion.")
  let activeTargets := step.activeTargets activeOutputHandles
  let skipped ← collectSkippedDescendants plan (step.inactiveTargets activeOutputHandles) activeTargets
  let stepped : WorkflowLedger ν :=
    { ledger with steps := completeSteps ledger.steps input output activeTargets skipped now }
  if stepped.pendingCount input.runId > 0 then
    return (.running, stepped)
  else
    return (.succeeded,
      { stepped with
        runs := ledger.runs.modify (fun run => run.id = input.runId && run.status = .running)
          (succeedRun now) ⟨fun _ => rfl⟩ })

def retrySqliteWorkflowStep (ledger : WorkflowLedger ν) (input : StepClaim) (errorCode errorMessage : String)
    (retryAt now : Int) : Except StoreError (WorkflowLedger ν) := do
  assertWorkflowClaimId input.claimId
  let code ← safeCode errorCode
  let message ← safeMessage errorMessage
  let held := heldStep input.claimId input.runId input.stepId
  requireThat (ledger.steps.records.any held)
    (.conflict "The workflow step lease expired before retry scheduling.")
  return { ledger with
    steps := ledger.steps.modify held (fun step => retryStep now step code message retryAt) ⟨fun _ => rfl⟩ }

def failSqliteWorkflowStep (ledger : WorkflowLedger ν) (input : StepClaim) (errorCode errorMessage : String)
    (now : Int) : Except StoreError (WorkflowLedger ν) := do
  assertWorkflowClaimId input.claimId
  let code ← safeCode errorCode
  let message ← safeMessage errorMessage
  let held := heldStep input.claimId input.runId input.stepId
  requireThat (ledger.steps.records.any held)
    (.conflict "The workflow step lease expired before failure recording.")
  let failed := ledger.steps.modify held (fun step => failStep now step code message) ⟨fun _ => rfl⟩
  return { ledger with
    steps := failed.modify (fun step => step.runId = input.runId && step.status.pending)
      (cancelStep now) ⟨fun _ => rfl⟩
    runs := ledger.runs.modify (fun run => run.id = input.runId && run.status.open_)
      (fun run => failRun now run code message) ⟨fun _ => rfl⟩ }

end Ledger

end ByokGrid
