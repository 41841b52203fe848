import ByokGrid.Leases
import ByokGrid.StepLedgerRuns

/-! Workers on one run: a step is held by its last claim, and no report of an
earlier one is recorded. -/

namespace ByokGrid

section Leases

variable {ν : Type}

def WorkflowStepRun.key (step : WorkflowStepRun ν) : String × String := (step.runId, step.stepId)

def WorkflowSystem.holder (s : WorkflowSystem ν) (key : String × String) : Option String :=
  ((s.ledger.steps.get? key).filter fun step => step.status = .running).bind WorkflowStepRun.claimId

def WorkflowSystem.since (s : WorkflowSystem ν) (key : String × String) : Option Int :=
  (s.ledger.steps.get? key).bind WorkflowStepRun.claimedAt

def ClaimWorkflowInput.grant (input : ClaimWorkflowInput) : LeaseGrant String :=
  ⟨input.claimId, input.now, leaseMilliseconds input.leaseSeconds⟩

def WorkflowAction.reported : WorkflowAction ν → Option StepClaim
  | .complete input _ _ _ | .retry input _ _ _ _ | .fail input _ _ _ => some input
  | _ => none

theorem holder_eq_some_step {s : WorkflowSystem ν} {key : String × String} {claimId : String} :
    s.holder key = some claimId ↔
      ∃ step, s.ledger.steps.get? key = some step ∧ step.status = .running ∧ step.claimId = some claimId := by
  unfold WorkflowSystem.holder
  rw [Option.bind_eq_some_iff]
  simp only [Option.filter_eq_some_iff, decide_eq_true_eq, and_assoc]

theorem any_heldStep {s : WorkflowSystem ν} {claim : StepClaim} :
    s.ledger.steps.records.any (heldStep claim.claimId claim.runId claim.stepId) = true ↔
      s.holder (claim.runId, claim.stepId) = some claim.claimId := by
  rw [holder_eq_some_step]
  constructor
  · intro hany
    obtain ⟨step, hget, hheld⟩ := exists_held hany
    obtain ⟨_, _, hclaim, hrunning⟩ := heldStep_iff.mp hheld
    exact ⟨step, hget, hrunning, hclaim⟩
  · intro hany
    obtain ⟨step, hget, hrunning, hclaim⟩ := hany
    obtain ⟨hrun, hstep⟩ := get?_key hget
    exact List.any_eq_true.mpr ⟨step, (Table.get?_eq_some.mp hget).1, heldStep_iff.mpr ⟨hrun, hstep, hclaim, hrunning⟩⟩

def ReleasesSteps (steps steps' : Table (WorkflowStepRun ν)) : Prop :=
  ∀ key, steps'.get? key = steps.get? key ∨
    ∀ step, steps'.get? key = some step → step.status ≠ .running

theorem ReleasesSteps.refl (steps : Table (WorkflowStepRun ν)) : ReleasesSteps steps steps :=
  fun _ => Or.inl rfl

theorem ReleasesSteps.modify {steps steps' : Table (WorkflowStepRun ν)} (h : ReleasesSteps steps steps')
    {p : WorkflowStepRun ν → Bool} {f : WorkflowStepRun ν → WorkflowStepRun ν} (hf : KeepsKey f)
    (hstatus : ∀ step, (f step).status ≠ .running) : ReleasesSteps steps (steps'.modify p f hf) := by
  intro key
  rw [Table.get?_modify]
  cases hget : steps'.get? key with
  | none =>
    right
    intro step hstep
    cases hstep
  | some step =>
    rw [Option.map_some]
    by_cases hp : p step = true
    · right
      intro next hnext
      rw [if_pos hp, Option.some.injEq] at hnext
      rw [← hnext]
      exact hstatus step
    · rw [if_neg hp, ← hget]
      exact h key

theorem leaseStep_keepsKey (claimId : String) (now : Int) :
    KeepsKey (leaseStep claimId now : WorkflowStepRun ν → WorkflowStepRun ν) :=
  ⟨fun _ => rfl⟩

variable [JsRuntime ν]

def WorkflowSystem.grant (s : WorkflowSystem ν) (action : WorkflowAction ν) (key : String × String) :
    Option (LeaseGrant String) :=
  match action with
  | .claim input =>
    match claimSqliteWorkflowSteps s.ledger input with
    | .ok (claimed, _) => if claimHasStep claimed key then some input.grant else none
    | .error _ => none
  | _ => none

def stepLeases (ν : Type) [JsRuntime ν] :
    LeaseSystem (WorkflowSystem ν) (WorkflowAction ν) (String × String) String where
  step := WorkflowSystem.step
  holder := WorkflowSystem.holder
  since := WorkflowSystem.since
  grant := WorkflowSystem.grant

def claimCandidates (ledger : WorkflowLedger ν) (input : ClaimWorkflowInput) : List (WorkflowStepRun ν) :=
  ((ledger.steps.records.filter (workflowStepEligibility ledger input.now
    (input.now - leaseMilliseconds input.leaseSeconds) input.runId)).insertionSort fun l r =>
      claimStepOrder l r).take (max 1 (min (input.limit.getD 25) 250)).toNat

omit [JsRuntime ν] in
theorem claimSteps_eq_ok {ledger ledger' : WorkflowLedger ν} {input : ClaimWorkflowInput}
    {claimed : List (WorkflowStepRun ν)} (h : claimSqliteWorkflowSteps ledger input = .ok (claimed, ledger')) :
    (claimed.map WorkflowStepRun.key).Nodup ∧
      (∀ key ∈ claimed.map WorkflowStepRun.key, ∃ step, ledger.steps.get? key = some step ∧
        workflowStepEligibility ledger input.now (input.now - leaseMilliseconds input.leaseSeconds) input.runId step) ∧
      ledger'.steps = ledger.steps.modify (fun step => step.key ∈ claimed.map WorkflowStepRun.key)
        (leaseStep input.claimId input.now) (leaseStep_keepsKey _ _) := by
  simp only [claimSqliteWorkflowSteps, except_bind_eq_ok, pure, Except.pure, Except.ok.injEq, Prod.mk.injEq] at h
  obtain ⟨_, _, hclaimed, hledger⟩ := h
  have hids : claimed.map WorkflowStepRun.key = (claimCandidates ledger input).map WorkflowStepRun.key := by
    rw [← hclaimed, List.map_map]
    rfl
  have hselected : ∀ step ∈ claimCandidates ledger input, step ∈ ledger.steps ∧ workflowStepEligibility ledger
      input.now (input.now - leaseMilliseconds input.leaseSeconds) input.runId step = true :=
    fun _ hstep => Table.mem_selection hstep
  refine ⟨?_, ?_, ?_⟩
  · rw [hids]
    exact Table.nodup_selection
  · intro key hkey
    rw [hids] at hkey
    obtain ⟨step, hstep, rfl⟩ := List.mem_map.mp hkey
    obtain ⟨hmem, heligible⟩ := hselected step hstep
    exact ⟨step, Table.get?_eq_some.mpr ⟨hmem, rfl⟩, heligible⟩
  · rw [hids, ← hledger]
    dsimp only
    exact Table.modify_selected (leaseStep_keepsKey _ _) hselected fun _ => decide_eq_decide.mpr Iff.rfl

omit [JsRuntime ν] in
theorem eligible_expired {ledger : WorkflowLedger ν} {now staleBefore : Int} {scope : Option String}
    {step : WorkflowStepRun ν} (h : workflowStepEligibility ledger now staleBefore scope step = true)
    (hrunning : step.status = .running) : ∃ t, step.claimedAt = some t ∧ t < staleBefore := by
  simp only [workflowStepEligibility, Bool.and_eq_true, Bool.or_eq_true, decide_eq_true_eq, Option.any_eq_true] at h
  rcases h.1.2 with ⟨hready, _⟩ | ⟨_, hexpired⟩
  · rw [hready] at hrunning
    cases hrunning
  · exact hexpired

omit [JsRuntime ν] in
theorem grantStep_eq_some {s : WorkflowSystem ν} {action : WorkflowAction ν} {key : String × String}
    {g : LeaseGrant String} (h : s.grant action key = some g) : ∃ input claimed ledger', action = .claim input ∧
      claimSqliteWorkflowSteps s.ledger input = .ok (claimed, ledger') ∧ key ∈ claimed.map WorkflowStepRun.key ∧
        g = input.grant := by
  cases action with
  | claim input =>
    simp only [WorkflowSystem.grant] at h
    split at h
    · rename_i claimed ledger' hok
      split at h
      · rename_i hmem
        exact ⟨input, claimed, ledger', rfl, hok, of_decide_eq_true hmem, (Option.some.inj h).symm⟩
      · cases h
    · cases h
  | _ => cases h

theorem steps_cases (s : WorkflowSystem ν) (action : WorkflowAction ν) :
    ReleasesSteps s.ledger.steps (s.step action).ledger.steps ∨
      ∃ input claimed ledger', action = .claim input ∧ s.step action = { s with ledger := ledger' } ∧
        claimSqliteWorkflowSteps s.ledger input = .ok (claimed, ledger') := by
  have hrefl : ∀ s' : WorkflowSystem ν, s'.ledger.steps = s.ledger.steps →
      ReleasesSteps s.ledger.steps s'.ledger.steps := by
    intro s' hsteps
    rw [hsteps]
    exact ReleasesSteps.refl _
  have hcatalog : ∀ result : Except StoreError (WorkflowCatalog ν),
      ReleasesSteps s.ledger.steps (s.withCatalog result).ledger.steps := by
    intro result
    cases result with
    | error _ => exact ReleasesSteps.refl _
    | ok catalog => exact ReleasesSteps.refl _
  cases action with
  | createWorkflow id name graph => exact Or.inl (hcatalog _)
  | updateDraft workflowId name expectedRevision graph => exact Or.inl (hcatalog _)
  | publish workflowId expectedRevision => exact Or.inl (hcatalog _)
  | createRun input =>
    left
    cases hok : createSqliteWorkflowRun s.ledger s.outbox input with
    | error _ => exact hrefl _ (by rw [WorkflowSystem.step, hok])
    | ok result =>
      obtain ⟨run, ledger, outbox⟩ := result
      simp only [WorkflowSystem.step, hok]
      simp only [createSqliteWorkflowRun, except_bind_eq_ok, requireSome_eq_ok, pure, Except.pure, Except.ok.injEq,
        Prod.mk.injEq] at hok
      obtain ⟨_, _, _, _, _, _, plan, _, _, _, steps, hsteps, _, _, _, rfl, _⟩ := hok
      intro key
      rw [Table.get?_insertAll hsteps]
      cases hget : s.ledger.steps.get? key with
      | some step => exact Or.inl rfl
      | none =>
        right
        intro step hstep
        have hmem := List.mem_of_find?_eq_some hstep
        obtain ⟨planned, _, rfl⟩ := List.mem_map.mp hmem
        dsimp only
        split
        · intro hrunning
          cases hrunning
        · intro hrunning
          cases hrunning
  | claim input =>
    cases hok : claimSqliteWorkflowSteps s.ledger input with
    | error _ =>
      left
      exact hrefl _ (by simp only [WorkflowSystem.step, hok, Except.map, WorkflowSystem.withLedger])
    | ok result =>
      right
      refine ⟨input, result.1, result.2, rfl, ?_, hok⟩
      simp only [WorkflowSystem.step, hok, Except.map, WorkflowSystem.withLedger]
  | complete claim handles output now =>
    left
    cases hok : completeSqliteWorkflowStep s.ledger claim handles output now with
    | error _ => exact hrefl _ (by rw [WorkflowSystem.step, hok])
    | ok result =>
      obtain ⟨status, ledger⟩ := result
      simp only [WorkflowSystem.step, hok]
      simp only [completeSqliteWorkflowStep, except_bind_eq_ok] at hok
      obtain ⟨_, _, value, _, _, _, _, _, planned, _, _, _, _, _, skipped, _, hresult⟩ := hok
      have hsteps : ledger.steps =
          completeSteps s.ledger.steps claim value (planned.activeTargets handles) skipped now := by
        split at hresult
        · cases hresult
          rfl
        · cases hresult
          rfl
      rw [hsteps]
      have hsucceed : KeepsKey fun step : WorkflowStepRun ν => succeedStep now step value := ⟨fun _ => rfl⟩
      have hpromote : KeepsKey (@promoteStep ν now) := ⟨fun _ => rfl⟩
      have hskip : KeepsKey (@skipStep ν now) := ⟨fun _ => rfl⟩
      refine (((ReleasesSteps.refl _).modify hsucceed ?_).modify hpromote ?_).modify hskip ?_
      · intro _ hrunning
        cases hrunning
      · intro _ hrunning
        cases hrunning
      · intro _ hrunning
        cases hrunning
  | retry claim errorCode errorMessage retryAt now =>
    left
    cases hok : retrySqliteWorkflowStep s.ledger claim errorCode errorMessage retryAt now with
    | error _ => exact hrefl _ (by rw [WorkflowSystem.step, hok]; rfl)
    | ok ledger =>
      simp only [WorkflowSystem.step, hok, WorkflowSystem.withLedger]
      simp only [retrySqliteWorkflowStep, except_bind_eq_ok, pure, Except.pure, Except.ok.injEq] at hok
      obtain ⟨_, _, code, _, message, _, _, _, rfl⟩ := hok
      have hretry : KeepsKey fun step : WorkflowStepRun ν => retryStep now step code message retryAt := ⟨fun _ => rfl⟩
      refine (ReleasesSteps.refl _).modify hretry ?_
      intro _ hrunning
      cases hrunning
  | fail claim errorCode errorMessage now =>
    left
    cases hok : failSqliteWorkflowStep s.ledger claim errorCode errorMessage now with
    | error _ => exact hrefl _ (by rw [WorkflowSystem.step, hok]; rfl)
    | ok ledger =>
      simp only [WorkflowSystem.step, hok, WorkflowSystem.withLedger]
      simp only [failSqliteWorkflowStep, except_bind_eq_ok, pure, Except.pure, Except.ok.injEq] at hok
      obtain ⟨_, _, code, _, message, _, _, _, rfl⟩ := hok
      have hfail : KeepsKey fun step : WorkflowStepRun ν => failStep now step code message := ⟨fun _ => rfl⟩
      have hcancel : KeepsKey (@cancelStep ν now) := ⟨fun _ => rfl⟩
      refine ((ReleasesSteps.refl _).modify hfail ?_).modify hcancel ?_
      · intro _ hrunning
        cases hrunning
      · intro _ hrunning
        cases hrunning

theorem grantStep_row {s : WorkflowSystem ν} {action : WorkflowAction ν} {key : String × String}
    {g : LeaseGrant String} (h : s.grant action key = some g) : ∃ step, s.ledger.steps.get? key = some step ∧
      (s.step action).ledger.steps.get? key = some (leaseStep g.claimId g.takenAt step) ∧ 0 ≤ g.lease ∧
      (step.status = .running → ∃ t, step.claimedAt = some t ∧ t + g.lease < g.takenAt) := by
  obtain ⟨input, claimed, ledger', rfl, hok, hmem, rfl⟩ := grantStep_eq_some h
  obtain ⟨_, heligible, hnext⟩ := claimSteps_eq_ok hok
  obtain ⟨step, hget, hstep⟩ := heligible key hmem
  have hkey : step.key = key := (Table.get?_eq_some.mp hget).2
  refine ⟨step, hget, ?_, ?_, ?_⟩
  · simp only [WorkflowSystem.step, hok, Except.map, WorkflowSystem.withLedger]
    rw [hnext, Table.get?_modify, hget, Option.map_some, hkey, if_pos (decide_eq_true hmem)]
    rfl
  · simp only [ClaimWorkflowInput.grant, leaseMilliseconds]
    omega
  · intro hrunning
    obtain ⟨t, ht, hlt⟩ := eligible_expired hstep hrunning
    refine ⟨t, ht, ?_⟩
    simp only [ClaimWorkflowInput.grant]
    omega

theorem stepLeases_lawful : (stepLeases ν).Lawful := by
  refine ⟨?_, ?_, ?_, ?_⟩
  · intro s action key g h
    obtain ⟨step, _, hnext, _⟩ := grantStep_row h
    exact ⟨holder_eq_some_step.mpr ⟨_, hnext, rfl, rfl⟩, Option.bind_eq_some_iff.mpr ⟨_, hnext, rfl⟩⟩
  · intro s action key g h
    obtain ⟨_, _, _, hlease, _⟩ := grantStep_row h
    exact hlease
  · intro s action key g h hheld
    obtain ⟨claimId, hclaimId⟩ := Option.ne_none_iff_exists'.mp hheld
    obtain ⟨step, hget, hrunning, _⟩ := holder_eq_some_step.mp hclaimId
    obtain ⟨step', hget', _, _, hexpired⟩ := grantStep_row h
    rw [hget, Option.some.injEq] at hget'
    subst hget'
    obtain ⟨t, ht, hlt⟩ := hexpired hrunning
    exact ⟨t, Option.bind_eq_some_iff.mpr ⟨step, hget, ht⟩, hlt⟩
  · intro s action key hgrant
    have hsame : ∀ s' : WorkflowSystem ν, s'.ledger.steps.get? key = s.ledger.steps.get? key →
        s'.holder key = s.holder key ∧ s'.since key = s.since key := by
      intro s' hget
      exact ⟨by rw [WorkflowSystem.holder, WorkflowSystem.holder, hget],
        by rw [WorkflowSystem.since, WorkflowSystem.since, hget]⟩
    rcases steps_cases s action with hreleases | ⟨input, claimed, ledger', rfl, hstep, hok⟩
    · rcases hreleases key with hget | hnot
      · exact Or.inr (hsame _ hget)
      · left
        show (s.step action).holder key = none
        rw [Option.eq_none_iff_forall_ne_some]
        intro claimId hheld
        obtain ⟨step, hget, hrunning, _⟩ := holder_eq_some_step.mp hheld
        exact hnot step hget hrunning
    · right
      apply hsame
      have hnot : key ∉ claimed.map WorkflowStepRun.key := by
        intro hmem
        have hsome : s.grant (.claim input) key = some input.grant := by
          simp only [WorkflowSystem.grant, hok]
          exact if_pos (decide_eq_true hmem)
        rw [show s.grant (.claim input) key = none from hgrant] at hsome
        cases hsome
      show (s.step (.claim input)).ledger.steps.get? key = s.ledger.steps.get? key
      rw [hstep]
      dsimp only
      rw [(claimSteps_eq_ok hok).2.2, Table.get?_modify]
      cases hget : s.ledger.steps.get? key with
      | none => rfl
      | some step =>
        have hkey : step.key = key := (Table.get?_eq_some.mp hget).2
        rw [Option.map_some, hkey, decide_eq_false hnot]
        rfl

theorem report_unheld {s : WorkflowSystem ν} {action : WorkflowAction ν} {claim : StepClaim}
    (hreported : action.reported = some claim) (hnot : s.holder (claim.runId, claim.stepId) ≠ some claim.claimId) :
    s.step action = s := by
  have hguard : s.ledger.steps.records.any (heldStep claim.claimId claim.runId claim.stepId) ≠ true := by
    intro hheld
    exact hnot (any_heldStep.mp hheld)
  cases action with
  | complete input handles output now =>
    cases hreported
    cases hok : completeSqliteWorkflowStep s.ledger claim handles output now with
    | error _ => rw [WorkflowSystem.step, hok]
    | ok result =>
      simp only [completeSqliteWorkflowStep, except_bind_eq_ok, requireThat_eq_ok] at hok
      obtain ⟨_, _, _, _, _, _, _, _, _, _, _, _, _, hheld, _⟩ := hok
      exact absurd hheld hguard
  | retry input errorCode errorMessage retryAt now =>
    cases hreported
    cases hok : retrySqliteWorkflowStep s.ledger claim errorCode errorMessage retryAt now with
    | error _ =>
      rw [WorkflowSystem.step, hok]
      rfl
    | ok ledger =>
      simp only [retrySqliteWorkflowStep, except_bind_eq_ok, requireThat_eq_ok] at hok
      obtain ⟨_, _, _, _, _, _, _, hheld, _⟩ := hok
      exact absurd hheld hguard
  | fail input errorCode errorMessage now =>
    cases hreported
    cases hok : failSqliteWorkflowStep s.ledger claim errorCode errorMessage now with
    | error _ =>
      rw [WorkflowSystem.step, hok]
      rfl
    | ok ledger =>
      simp only [failSqliteWorkflowStep, except_bind_eq_ok, requireThat_eq_ok] at hok
      obtain ⟨_, _, _, _, _, _, _, hheld, _⟩ := hok
      exact absurd hheld hguard
  | _ => cases hreported

end Leases

section Fencing

variable {ν : Type} [JsRuntime ν]

/-- What holds after any sequence of operations. The lease of a claim is the one of
the call which asks for the step. -/
structure StepFencing (actions : List (WorkflowAction ν)) : Prop where
  unexpired : ∀ input claimed ledger',
    claimSqliteWorkflowSteps (WorkflowSystem.run actions).ledger input = .ok (claimed, ledger') →
    (claimed.map WorkflowStepRun.key).Nodup ∧ ∀ step ∈ claimed, ∀ claimId,
      (WorkflowSystem.run actions).holder step.key = some claimId →
        ∃ t, (WorkflowSystem.run actions).since step.key = some t ∧
          t + leaseMilliseconds input.leaseSeconds < input.now
  exclusive : ∀ earlier first between next key g g', actions = earlier ++ first :: between →
    (WorkflowSystem.run earlier).grant first key = some g → (WorkflowSystem.run actions).grant next key = some g' →
    (∀ before after, between = before ++ after →
      (WorkflowSystem.run (earlier ++ first :: before)).holder key ≠ none) →
    g.takenAt + g'.lease < g'.takenAt
  superseded : ∀ action claim, action.reported = some claim →
    (∀ g, (stepLeases ν).lastGrant WorkflowSystem.initial actions (claim.runId, claim.stepId) = some g →
      g.claimId ≠ claim.claimId) →
    (WorkflowSystem.run actions).step action = WorkflowSystem.run actions
  stopped : ∀ action claim, action.reported = some claim →
    (∀ step, (WorkflowSystem.run actions).ledger.steps.get? (claim.runId, claim.stepId) = some step →
      step.status ≠ .running) →
    (WorkflowSystem.run actions).step action = WorkflowSystem.run actions
  once : ((WorkflowSystem.run actions).completions.map fun c => (c.runId, c.stepId)).Nodup

theorem stepFencing_run (actions : List (WorkflowAction ν)) : StepFencing actions := by
  refine ⟨?_, ?_, ?_, ?_, (ledgerInvariant_run actions).once⟩
  · intro input claimed ledger' hok
    refine ⟨(claimSteps_eq_ok hok).1, ?_⟩
    intro step hstep claimId hheld
    have hkey : claimHasStep claimed step.key = true := decide_eq_true (List.mem_map_of_mem hstep)
    have hgrant : (WorkflowSystem.run actions).grant (.claim input) step.key = some input.grant := by
      simp only [WorkflowSystem.grant, hok]
      exact if_pos hkey
    refine stepLeases_lawful.expired (WorkflowSystem.run actions) (.claim input) step.key input.grant hgrant ?_
    intro hnone
    rw [show (WorkflowSystem.run actions).holder step.key = none from hnone] at hheld
    cases hheld
  · intro earlier first between next key g g' hactions hfirst hnext hheld
    rw [hactions, WorkflowSystem.run, runActions_append] at hnext
    refine stepLeases_lawful.exclusive hfirst ?_ hnext
    intro before after hbetween
    have hnow := hheld before after hbetween
    rw [WorkflowSystem.run, runActions_append] at hnow
    exact hnow
  · intro action claim hreported hlast
    have hfree : (stepLeases ν).holder WorkflowSystem.initial (claim.runId, claim.stepId) = none := rfl
    exact report_unheld hreported (stepLeases_lawful.superseded hfree hlast)
  · intro action claim hreported hstopped
    refine report_unheld hreported ?_
    intro hheld
    obtain ⟨step, hget, hrunning, _⟩ := holder_eq_some_step.mp hheld
    exact hstopped step hget hrunning

end Fencing

end ByokGrid
