import ByokGrid.WorkflowForest
import ByokGrid.WorkflowSystem

/-! The step ledger of a run as a forest in progress, and the invariant of the
store. Claims and retries only move active steps. -/

namespace ByokGrid

section Status

variable {ν : Type}

def WorkflowLedger.stepStatus (ledger : WorkflowLedger ν) (runId stepId : String) : Option TaskStatus :=
  (ledger.steps.get? (runId, stepId)).map WorkflowStepRun.status

def WorkflowRunStatus.outcome : WorkflowRunStatus → ForestOutcome
  | .queued | .running => .active
  | .succeeded => .succeeded
  | .failed | .cancelled => .failed

def WorkflowSystem.chosen (s : WorkflowSystem ν) (runId stepId : String) : Option (List String) :=
  (s.completions.find? fun c => c.runId = runId ∧ c.stepId = stepId).map
    WorkflowCompletion.activeOutputHandles

def WorkflowSystem.progress (s : WorkflowSystem ν) (run : WorkflowRun ν) : Progress String String where
  status id := (s.ledger.stepStatus run.id id).getD .cancelled
  chosen id := s.chosen run.id id
  outcome := run.status.outcome

theorem stepStatus_modify (steps : Table (WorkflowStepRun ν)) (p : WorkflowStepRun ν → Bool)
    (f : WorkflowStepRun ν → WorkflowStepRun ν) (hf : KeepsKey f) (key : String × String) :
    ((steps.modify p f hf).get? key).map WorkflowStepRun.status =
      (steps.get? key).map fun step => if p step then (f step).status else step.status := by
  rw [Table.get?_modify, Option.map_map]
  congr 1
  funext step
  exact apply_ite WorkflowStepRun.status _ _ _

end Status

section Invariant

variable {ν : Type}

structure LedgerInvariant (s : WorkflowSystem ν) : Prop where
  plans : ∀ version ∈ s.ledger.catalog.versions, ∀ plan, version.compiledPlan = some plan → PlanForest plan
  planned : ∀ run ∈ s.ledger.runs, ∃ plan, s.ledger.planOf run = some plan
  rows : ∀ run ∈ s.ledger.runs, ∀ plan, s.ledger.planOf run = some plan → ∀ id,
    (s.ledger.stepStatus run.id id).isSome = true ↔ id ∈ plan.stepIds
  owned : ∀ runId id, (s.ledger.stepStatus runId id).isSome = true → ∃ run ∈ s.ledger.runs, run.id = runId
  uncancelled : ∀ run ∈ s.ledger.runs, run.status ≠ .cancelled
  completed : ∀ c ∈ s.completions, s.ledger.stepStatus c.runId c.stepId = some .succeeded
  once : (s.completions.map fun c => (c.runId, c.stepId)).Nodup
  forest : ∀ run ∈ s.ledger.runs, ∀ plan, s.ledger.planOf run = some plan →
    ForestInvariant plan.forest (s.progress run)

theorem LedgerInvariant.planForest {s : WorkflowSystem ν} (h : LedgerInvariant s) {run : WorkflowRun ν}
    {plan : CompiledWorkflowPlan ν} (hplan : s.ledger.planOf run = some plan) : PlanForest plan := by
  obtain ⟨version, hversion, hcompiled⟩ := Option.bind_eq_some_iff.mp hplan
  exact h.plans version (Table.get?_eq_some.mp hversion).1 plan hcompiled

theorem LedgerInvariant.initial : LedgerInvariant (WorkflowSystem.initial : WorkflowSystem ν) := by
  refine ⟨?_, ?_, ?_, ?_, ?_, ?_, ?_, ?_⟩
  · intro version hversion
    cases hversion
  · intro run hrun
    cases hrun
  · intro run hrun
    cases hrun
  · intro runId id hsome
    cases hsome
  · intro run hrun
    cases hrun
  · intro c hc
    cases hc
  · exact List.nodup_nil
  · intro run hrun
    cases hrun

theorem LedgerInvariant.carry {s s' : WorkflowSystem ν} (h : LedgerInvariant s)
    (carried : WorkflowRun ν → WorkflowRun ν)
    (hid : ∀ run, (carried run).id = run.id ∧ (carried run).workflowId = run.workflowId ∧
      (carried run).workflowVersion = run.workflowVersion)
    (hcatalog : s'.ledger.catalog = s.ledger.catalog)
    (hruns : ∀ run', run' ∈ s'.ledger.runs ↔ ∃ run ∈ s.ledger.runs, run' = carried run)
    (hstatus : ∀ run, run.status ≠ .cancelled → (carried run).status ≠ .cancelled)
    (hkeys : ∀ runId id, (s'.ledger.stepStatus runId id).isSome = (s.ledger.stepStatus runId id).isSome)
    (hcompleted : ∀ c ∈ s'.completions, s'.ledger.stepStatus c.runId c.stepId = some .succeeded)
    (honce : (s'.completions.map fun c => (c.runId, c.stepId)).Nodup)
    (hforest : ∀ run ∈ s.ledger.runs, ∀ plan, s.ledger.planOf run = some plan → PlanForest plan →
      ForestInvariant plan.forest (s.progress run) → ForestInvariant plan.forest (s'.progress (carried run))) :
    LedgerInvariant s' := by
  have hplanOf : ∀ run, s'.ledger.planOf (carried run) = s.ledger.planOf run := by
    intro run
    obtain ⟨_, hworkflow, hversion⟩ := hid run
    simp only [WorkflowLedger.planOf, hcatalog, hworkflow, hversion]
  refine ⟨hcatalog ▸ h.plans, ?_, ?_, ?_, ?_, hcompleted, honce, ?_⟩
  · intro run' hrun'
    obtain ⟨run, hrun, rfl⟩ := (hruns run').mp hrun'
    rw [hplanOf]
    exact h.planned run hrun
  · intro run' hrun' plan hplan id
    obtain ⟨run, hrun, rfl⟩ := (hruns run').mp hrun'
    rw [hplanOf] at hplan
    rw [hkeys, (hid run).1]
    exact h.rows run hrun plan hplan id
  · intro runId id hsome
    rw [hkeys] at hsome
    obtain ⟨run, hrun, hrunId⟩ := h.owned runId id hsome
    exact ⟨carried run, (hruns _).mpr ⟨run, hrun, rfl⟩, (hid run).1.trans hrunId⟩
  · intro run' hrun'
    obtain ⟨run, hrun, rfl⟩ := (hruns run').mp hrun'
    exact hstatus run (h.uncancelled run hrun)
  · intro run' hrun' plan hplan
    obtain ⟨run, hrun, rfl⟩ := (hruns run').mp hrun'
    rw [hplanOf] at hplan
    exact hforest run hrun plan hplan (h.planForest hplan) (h.forest run hrun plan hplan)

theorem LedgerInvariant.carryCatalog {s : WorkflowSystem ν} (h : LedgerInvariant s) {catalog : WorkflowCatalog ν}
    (hkept : ∀ key version, s.ledger.catalog.versions.get? key = some version →
      catalog.versions.get? key = some version)
    (hplans : ∀ version ∈ catalog.versions, version ∈ s.ledger.catalog.versions ∨
      ∀ plan, version.compiledPlan = some plan → PlanForest plan) :
    LedgerInvariant { s with ledger := { s.ledger with catalog := catalog } } := by
  have hplanOf : ∀ run ∈ s.ledger.runs, ∀ plan, s.ledger.planOf run = some plan ↔
      ({ s.ledger with catalog := catalog } : WorkflowLedger ν).planOf run = some plan := by
    intro run hrun plan
    obtain ⟨old, hold⟩ := h.planned run hrun
    obtain ⟨version, hversion, hcompiled⟩ := Option.bind_eq_some_iff.mp hold
    simp only [WorkflowLedger.planOf, hversion, hkept _ _ hversion]
  refine ⟨?_, ?_, ?_, h.owned, h.uncancelled, h.completed, h.once, ?_⟩
  · intro version hversion plan hplan
    rcases hplans version hversion with hold | hnew
    · exact h.plans version hold plan hplan
    · exact hnew plan hplan
  · intro run hrun
    obtain ⟨plan, hplan⟩ := h.planned run hrun
    exact ⟨plan, (hplanOf run hrun plan).mp hplan⟩
  · intro run hrun plan hplan
    exact h.rows run hrun plan ((hplanOf run hrun plan).mpr hplan)
  · intro run hrun plan hplan
    exact h.forest run hrun plan ((hplanOf run hrun plan).mpr hplan)

def ActiveChange (ledger ledger' : WorkflowLedger ν) : Prop :=
  ∀ runId id, ledger'.stepStatus runId id = ledger.stepStatus runId id ∨
    ∃ a b, ledger.stepStatus runId id = some a ∧ ledger'.stepStatus runId id = some b ∧
      a.active = true ∧ b.active = true

theorem ActiveChange.isSome {ledger ledger' : WorkflowLedger ν} (h : ActiveChange ledger ledger')
    (runId id : String) : (ledger'.stepStatus runId id).isSome = (ledger.stepStatus runId id).isSome := by
  rcases h runId id with heq | ⟨a, b, ha, hb, _, _⟩
  · rw [heq]
  · rw [ha, hb]
    rfl

theorem LedgerInvariant.carryActive {s : WorkflowSystem ν} (h : LedgerInvariant s) {ledger' : WorkflowLedger ν}
    (carried : WorkflowRun ν → WorkflowRun ν)
    (hid : ∀ run, (carried run).id = run.id ∧ (carried run).workflowId = run.workflowId ∧
      (carried run).workflowVersion = run.workflowVersion)
    (hcatalog : ledger'.catalog = s.ledger.catalog)
    (hruns : ∀ run', run' ∈ ledger'.runs ↔ ∃ run ∈ s.ledger.runs, run' = carried run)
    (hstatus : ∀ run, run.status ≠ .cancelled → (carried run).status ≠ .cancelled)
    (houtcome : ∀ run, (carried run).status.outcome = run.status.outcome)
    (hchange : ActiveChange s.ledger ledger') : LedgerInvariant { s with ledger := ledger' } := by
  refine h.carry carried hid hcatalog hruns hstatus hchange.isSome ?_ h.once ?_
  · intro c hc
    have hbefore := h.completed c hc
    rcases hchange c.runId c.stepId with heq | ⟨a, _, ha, _, hactive, _⟩
    · exact heq.trans hbefore
    · rw [hbefore, Option.some.injEq] at ha
      rw [← ha] at hactive
      cases hactive
  · intro run hrun plan hplan hforest hp
    have hstep : ActiveStep plan.forest (s.progress run)
        (({ s with ledger := ledger' } : WorkflowSystem ν).progress (carried run)) := by
      refine ⟨?_, ?_, houtcome run⟩
      · intro id _
        simp only [WorkflowSystem.progress, (hid run).1]
        rcases hchange run.id id with heq | ⟨a, b, ha, hb, hactive, hactive'⟩
        · rw [heq]
          exact Or.inl rfl
        · rw [ha, hb]
          exact Or.inr ⟨hactive, hactive'⟩
      · funext id
        simp only [WorkflowSystem.progress, WorkflowSystem.chosen, (hid run).1]
    exact hstep.invariant hforest.wellFormed hp

end Invariant

section Active

variable {ν : Type}

theorem heldStep_iff {claimId runId stepId : String} {step : WorkflowStepRun ν} :
    heldStep claimId runId stepId step = true ↔
      step.runId = runId ∧ step.stepId = stepId ∧ step.claimId = some claimId ∧ step.status = .running := by
  simp [heldStep, and_assoc]

theorem exists_held {steps : Table (WorkflowStepRun ν)} {input : StepClaim}
    (h : steps.records.any (heldStep input.claimId input.runId input.stepId) = true) :
    ∃ row, steps.get? (input.runId, input.stepId) = some row ∧
      heldStep input.claimId input.runId input.stepId row = true := by
  obtain ⟨row, hrow, hheld⟩ := List.any_eq_true.mp h
  obtain ⟨hrun, hstep, _, _⟩ := heldStep_iff.mp hheld
  refine ⟨row, Table.get?_eq_some.mpr ⟨hrow, ?_⟩, hheld⟩
  exact Prod.ext hrun hstep

theorem get?_key {steps : Table (WorkflowStepRun ν)} {runId id : String} {row : WorkflowStepRun ν}
    (h : steps.get? (runId, id) = some row) : row.runId = runId ∧ row.stepId = id := by
  have hkey := (Table.get?_eq_some.mp h).2
  exact ⟨congrArg Prod.fst hkey, congrArg Prod.snd hkey⟩

theorem claim_eq_ok {ledger ledger' : WorkflowLedger ν} {input : ClaimWorkflowInput}
    {claimed : List (WorkflowStepRun ν)} (h : claimSqliteWorkflowSteps ledger input = .ok (claimed, ledger')) :
    ledger'.catalog = ledger.catalog ∧ ActiveChange ledger ledger' ∧
      ∃ p : WorkflowRun ν → Bool, (∀ run, p run = true → run.status = .queued) ∧
        ledger'.runs = ledger.runs.modify p (startRun input.now) ⟨fun _ => rfl⟩ := by
  simp only [claimSqliteWorkflowSteps, except_bind_eq_ok, pure, Except.pure, Except.ok.injEq,
    Prod.mk.injEq] at h
  obtain ⟨_, _, _, hledger⟩ := h
  subst hledger
  refine ⟨rfl, ?_, _, ?_, rfl⟩
  · intro runId id
    simp only [WorkflowLedger.stepStatus, stepStatus_modify]
    cases hrow : ledger.steps.get? (runId, id) with
    | none => exact Or.inl rfl
    | some row =>
      simp only [Option.map_some]
      split
      · rename_i hclaim
        refine Or.inr ⟨row.status, .running, rfl, rfl, ?_, rfl⟩
        simp only [workflowStepEligibility, Bool.and_eq_true, Bool.or_eq_true, decide_eq_true_eq] at hclaim
        rcases hclaim.2.1.2 with ⟨hready, _⟩ | ⟨hrunning, _⟩
        · rw [hready]
          rfl
        · rw [hrunning]
          rfl
      · exact Or.inl rfl
  · intro run hrun
    simp only [Bool.and_eq_true, decide_eq_true_eq] at hrun
    exact hrun.2

theorem LedgerInvariant.claim {s : WorkflowSystem ν} (h : LedgerInvariant s) {input : ClaimWorkflowInput}
    {claimed : List (WorkflowStepRun ν)} {ledger' : WorkflowLedger ν}
    (hok : claimSqliteWorkflowSteps s.ledger input = .ok (claimed, ledger')) :
    LedgerInvariant { s with ledger := ledger' } := by
  obtain ⟨hcatalog, hchange, p, hqueued, hruns⟩ := claim_eq_ok hok
  refine h.carryActive (fun run => if p run then startRun input.now run else run) ?_ hcatalog ?_ ?_ ?_ hchange
  · intro run
    split
    · exact ⟨rfl, rfl, rfl⟩
    · exact ⟨rfl, rfl, rfl⟩
  · intro run'
    rw [hruns]
    exact Table.mem_modify _
  · intro run hrun
    split
    · simp [startRun]
    · exact hrun
  · intro run
    split
    · rename_i hp
      rw [hqueued run hp]
      rfl
    · rfl

theorem LedgerInvariant.retry {s : WorkflowSystem ν} (h : LedgerInvariant s) {input : StepClaim}
    {errorCode errorMessage : String} {retryAt now : Int} {ledger' : WorkflowLedger ν}
    (hok : retrySqliteWorkflowStep s.ledger input errorCode errorMessage retryAt now = .ok ledger') :
    LedgerInvariant { s with ledger := ledger' } := by
  simp only [retrySqliteWorkflowStep, except_bind_eq_ok, pure, Except.pure, Except.ok.injEq] at hok
  obtain ⟨_, _, code, _, message, _, _, _, hledger⟩ := hok
  subst hledger
  refine h.carryActive id (fun _ => ⟨rfl, rfl, rfl⟩) rfl (fun run' => by simp) (fun _ hrun => hrun)
    (fun _ => rfl) ?_
  intro runId id
  simp only [WorkflowLedger.stepStatus, stepStatus_modify]
  cases hrow : s.ledger.steps.get? (runId, id) with
  | none => exact Or.inl rfl
  | some row =>
    simp only [Option.map_some]
    split
    · rename_i hheld
      refine Or.inr ⟨row.status, .ready, rfl, rfl, ?_, rfl⟩
      rw [(heldStep_iff.mp hheld).2.2.2]
      rfl
    · exact Or.inl rfl

end Active

end ByokGrid
