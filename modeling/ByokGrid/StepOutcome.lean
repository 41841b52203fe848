import ByokGrid.StepLedger

/-! How a step ends: a completion releases the steps it chooses and skips what
is behind the others, and a failure cancels what is pending. -/

namespace ByokGrid

section Complete

variable {ν : Type}

theorem completeSteps_status {steps : Table (WorkflowStepRun ν)} {input : StepClaim} {output : Json ν}
    {active skipped : List String} {now : Int} {runId id : String} {row : WorkflowStepRun ν}
    (hrow : steps.get? (runId, id) = some row) :
    ((completeSteps steps input output active skipped now).get? (runId, id)).map WorkflowStepRun.status =
      some (if heldStep input.claimId input.runId input.stepId row then .succeeded
        else if runId = input.runId ∧ row.status = .blocked then
          if id ∈ active then .ready else if id ∈ skipped then .skipped else .blocked
        else row.status) := by
  obtain ⟨hrun, hid⟩ := get?_key hrow
  subst hrun hid
  simp only [completeSteps, Table.get?_modify, hrow, Option.map_some, Option.some.injEq]
  by_cases hheld : heldStep input.claimId input.runId input.stepId row = true
  · simp [hheld, succeedStep]
  · simp only [hheld, Bool.false_eq_true, if_false]
    by_cases hblocked : row.status = .blocked
    · by_cases hrun : row.runId = input.runId
      · by_cases hactive : row.stepId ∈ active
        · simp [stepOf, hrun, hactive, hblocked, promoteStep]
        · by_cases hskipped : row.stepId ∈ skipped
          · simp [stepOf, hrun, hactive, hskipped, hblocked, skipStep]
          · simp [stepOf, hrun, hactive, hskipped, hblocked]
      · simp [stepOf, hrun]
    · simp [hblocked]

theorem completeSteps_none {steps : Table (WorkflowStepRun ν)} {input : StepClaim} {output : Json ν}
    {active skipped : List String} {now : Int} {key : String × String} (hrow : steps.get? key = none) :
    (completeSteps steps input output active skipped now).get? key = none := by
  simp only [completeSteps, Table.get?_modify, hrow, Option.map_none]

theorem pendingCount_pos {ledger : WorkflowLedger ν} {runId : String} : ledger.pendingCount runId > 0 ↔
    ∃ id status, ledger.stepStatus runId id = some status ∧ status.pending = true := by
  rw [WorkflowLedger.pendingCount, gt_iff_lt, List.length_pos_iff_exists_mem]
  constructor
  · intro h
    obtain ⟨row, hrow⟩ := h
    simp only [List.mem_filter, Bool.and_eq_true, decide_eq_true_eq] at hrow
    obtain ⟨hmem, hrun, hpending⟩ := hrow
    have hget : ledger.steps.get? (runId, row.stepId) = some row :=
      Table.get?_eq_some.mpr ⟨hmem, Prod.ext hrun rfl⟩
    exact ⟨row.stepId, row.status, by rw [WorkflowLedger.stepStatus, hget]; rfl, hpending⟩
  · intro h
    obtain ⟨id, status, hstatus, hpending⟩ := h
    obtain ⟨row, hrow, rfl⟩ := Option.map_eq_some_iff.mp hstatus
    refine ⟨row, ?_⟩
    simp only [List.mem_filter, Bool.and_eq_true, decide_eq_true_eq]
    exact ⟨(Table.get?_eq_some.mp hrow).1, (get?_key hrow).1, hpending⟩

structure Completed (ledger ledger' : WorkflowLedger ν) (input : StepClaim) (handles : List String)
    (run : WorkflowRun ν) (plan : CompiledWorkflowPlan ν) (step : CompiledWorkflowStep ν)
    (skipped : List String) (now : Int) : Prop where
  run_mem : run ∈ ledger.runs
  run_id : run.id = input.runId
  run_status : run.status = .running
  plan_eq : ledger.planOf run = some plan
  step_mem : step ∈ plan.steps
  step_id : step.stepId = input.stepId
  row_status : ledger.stepStatus input.runId input.stepId = some .running
  collected : collectSkippedDescendants plan (step.inactiveTargets handles) (step.activeTargets handles) =
    .ok skipped
  catalog : ledger'.catalog = ledger.catalog
  task : ledger'.stepStatus input.runId input.stepId = some .succeeded
  promoted : ∀ id ∈ step.activeTargets handles, ledger.stepStatus input.runId id = some .blocked →
    ledger'.stepStatus input.runId id = some .ready
  left : ∀ id ∈ skipped, id ∉ step.activeTargets handles →
    ledger.stepStatus input.runId id = some .blocked → ledger'.stepStatus input.runId id = some .skipped
  kept : ∀ id, id ≠ input.stepId → id ∉ step.activeTargets handles → id ∉ skipped →
    ledger'.stepStatus input.runId id = ledger.stepStatus input.runId id
  others : ∀ runId id, runId ≠ input.runId → ledger'.stepStatus runId id = ledger.stepStatus runId id
  isSome : ∀ runId id, (ledger'.stepStatus runId id).isSome = (ledger.stepStatus runId id).isSome
  succeeded : ∀ runId id, ledger.stepStatus runId id = some .succeeded →
    ledger'.stepStatus runId id = some .succeeded
  runs : ledger'.runs = ledger.runs ∧ ledger'.pendingCount input.runId > 0 ∨
    ledger'.runs = ledger.runs.modify (fun run => run.id = input.runId && run.status = .running)
      (succeedRun now) ⟨fun _ => rfl⟩ ∧ ¬ ledger'.pendingCount input.runId > 0

variable [JsRuntime ν]

theorem complete_eq_ok {ledger ledger' : WorkflowLedger ν} {input : StepClaim} {handles : List String}
    {output : Option (Json ν)} {now : Int} {status : WorkflowRunStatus}
    (h : completeSqliteWorkflowStep ledger input handles output now = .ok (status, ledger')) :
    ∃ run plan step skipped, Completed ledger ledger' input handles run plan step skipped now := by
  simp only [completeSqliteWorkflowStep, except_bind_eq_ok, requireThat_eq_ok, requireSome_eq_ok] at h
  obtain ⟨_, _, value, _, run, hrun, plan, hplan, step, hstep, _, _, _, hheld, skipped, hskipped, hresult⟩ := h
  obtain ⟨hrun, hrunning⟩ := Option.filter_eq_some_iff.mp hrun
  obtain ⟨hrunMem, hrunId⟩ := Table.get?_eq_some.mp hrun
  obtain ⟨hstepMem, hstepId⟩ := step?_eq_some (requireSome_eq_ok.mp hstep)
  obtain ⟨held, hget, hheld⟩ := exists_held hheld
  obtain ⟨_, _, _, hheldStatus⟩ := heldStep_iff.mp hheld
  let steps := completeSteps ledger.steps input value (step.activeTargets handles) skipped now
  have hledger : ledger'.catalog = ledger.catalog ∧ ledger'.steps = steps ∧
      (ledger'.runs = ledger.runs ∧ ledger'.pendingCount input.runId > 0 ∨
        ledger'.runs = ledger.runs.modify (fun run => run.id = input.runId && run.status = .running)
          (succeedRun now) ⟨fun _ => rfl⟩ ∧ ¬ ledger'.pendingCount input.runId > 0) := by
    split at hresult
    · rename_i hpending
      simp only [pure, Except.pure, Except.ok.injEq, Prod.mk.injEq] at hresult
      rw [← hresult.2]
      exact ⟨rfl, rfl, Or.inl ⟨rfl, hpending⟩⟩
    · rename_i hpending
      simp only [pure, Except.pure, Except.ok.injEq, Prod.mk.injEq] at hresult
      rw [← hresult.2]
      exact ⟨rfl, rfl, Or.inr ⟨rfl, hpending⟩⟩
  obtain ⟨hcatalog, hsteps, hruns⟩ := hledger
  have hstatus : ∀ runId id row, ledger.steps.get? (runId, id) = some row →
      ledger'.stepStatus runId id = some (if heldStep input.claimId input.runId input.stepId row then .succeeded
        else if runId = input.runId ∧ row.status = .blocked then
          if id ∈ step.activeTargets handles then .ready else if id ∈ skipped then .skipped else .blocked
        else row.status) := by
    intro runId id row hrow
    rw [WorkflowLedger.stepStatus, hsteps]
    exact completeSteps_status hrow
  have hmissing : ∀ runId id, ledger.steps.get? (runId, id) = none → ledger'.stepStatus runId id = none := by
    intro runId id hnone
    rw [WorkflowLedger.stepStatus, hsteps]
    simp only [steps, completeSteps_none hnone, Option.map_none]
  have hfree : ∀ runId id row, ledger.steps.get? (runId, id) = some row →
      row.status ≠ .running ∨ runId ≠ input.runId ∨ id ≠ input.stepId →
      heldStep input.claimId input.runId input.stepId row = false := by
    intro runId id row hrow hne
    obtain ⟨hr, hi⟩ := get?_key hrow
    by_contra hh
    rw [Bool.not_eq_false, heldStep_iff] at hh
    rcases hne with hne | hne | hne
    · exact hne hh.2.2.2
    · exact hne (hr.symm.trans hh.1)
    · exact hne (hi.symm.trans hh.2.1)
  have hof : ∀ {runId id s}, ledger.stepStatus runId id = some s →
      ∃ row, ledger.steps.get? (runId, id) = some row ∧ row.status = s :=
    fun hs => Option.map_eq_some_iff.mp hs
  refine ⟨run, plan, step, skipped, hrunMem, hrunId, by simpa using hrunning, hplan, hstepMem, hstepId, ?_,
    hskipped, hcatalog, ?_, ?_, ?_, ?_, ?_, ?_, ?_, hruns⟩
  · rw [WorkflowLedger.stepStatus, hget, Option.map_some, hheldStatus]
  · rw [hstatus _ _ _ hget, if_pos hheld]
  · intro id hactive hblocked
    obtain ⟨row, hrow, hrowStatus⟩ := hof hblocked
    have hnot := hfree _ _ _ hrow (Or.inl (by simp [hrowStatus]))
    rw [hstatus _ _ _ hrow]
    simp [hnot, hrowStatus, hactive]
  · intro id hskip hactive hblocked
    obtain ⟨row, hrow, hrowStatus⟩ := hof hblocked
    have hnot := hfree _ _ _ hrow (Or.inl (by simp [hrowStatus]))
    rw [hstatus _ _ _ hrow]
    simp [hnot, hrowStatus, hactive, hskip]
  · intro id hne hactive hskip
    cases hrow : ledger.steps.get? (input.runId, id) with
    | none => rw [hmissing _ _ hrow, WorkflowLedger.stepStatus, hrow, Option.map_none]
    | some row =>
      have hnot := hfree _ _ _ hrow (Or.inr (Or.inr hne))
      rw [hstatus _ _ _ hrow, WorkflowLedger.stepStatus, hrow, Option.map_some]
      by_cases hblocked : row.status = .blocked
      · simp [hnot, hblocked, hactive, hskip]
      · simp [hnot, hblocked]
  · intro runId id hne
    cases hrow : ledger.steps.get? (runId, id) with
    | none => rw [hmissing _ _ hrow, WorkflowLedger.stepStatus, hrow, Option.map_none]
    | some row =>
      have hnot := hfree _ _ _ hrow (Or.inr (Or.inl hne))
      rw [hstatus _ _ _ hrow, WorkflowLedger.stepStatus, hrow, Option.map_some]
      simp [hnot, hne]
  · intro runId id
    cases hrow : ledger.steps.get? (runId, id) with
    | none => rw [hmissing _ _ hrow, WorkflowLedger.stepStatus, hrow, Option.map_none]
    | some row =>
      rw [hstatus _ _ _ hrow, WorkflowLedger.stepStatus, hrow]
      rfl
  · intro runId id hsucceeded
    obtain ⟨row, hrow, hrowStatus⟩ := hof hsucceeded
    have hnot := hfree _ _ _ hrow (Or.inl (by simp [hrowStatus]))
    rw [hstatus _ _ _ hrow]
    simp [hnot, hrowStatus]

omit [JsRuntime ν] in
theorem status_of_getD {status : Option TaskStatus} {a : TaskStatus} (h : status.getD .cancelled = a)
    (ha : a ≠ .cancelled) : status = some a := by
  cases status with
  | none => exact absurd h.symm ha
  | some b => exact congrArg some h

omit [JsRuntime ν] in
theorem chosen_append (s : WorkflowSystem ν) (ledger' : WorkflowLedger ν) (c : WorkflowCompletion)
    (hfresh : ∀ old ∈ s.completions, (old.runId, old.stepId) ≠ (c.runId, c.stepId)) (runId id : String) :
    ({ s with ledger := ledger', completions := s.completions ++ [c] } : WorkflowSystem ν).chosen runId id =
      if runId = c.runId ∧ id = c.stepId then some c.activeOutputHandles else s.chosen runId id := by
  simp only [WorkflowSystem.chosen, List.find?_append]
  by_cases hkey : runId = c.runId ∧ id = c.stepId
  · have hnone : s.completions.find? (fun old => decide (old.runId = runId ∧ old.stepId = id)) = none := by
      refine List.find?_eq_none.mpr fun old hold hmatch => hfresh old hold ?_
      have hmatch := of_decide_eq_true hmatch
      rw [hmatch.1, hmatch.2, hkey.1, hkey.2]
    rw [hnone, if_pos hkey, hkey.1, hkey.2]
    simp
  · have hnone : [c].find? (fun old => decide (old.runId = runId ∧ old.stepId = id)) = none := by
      refine List.find?_eq_none.mpr fun old hold hmatch => hkey ?_
      have hmatch := of_decide_eq_true hmatch
      rw [List.mem_singleton.mp hold] at hmatch
      exact ⟨hmatch.1.symm, hmatch.2.symm⟩
    rw [hnone, if_neg hkey]
    simp

section Step

variable {s : WorkflowSystem ν} {ledger' : WorkflowLedger ν} {input : StepClaim} {handles : List String}
  {run : WorkflowRun ν} {plan : CompiledWorkflowPlan ν} {step : CompiledWorkflowStep ν}
  {skipped : List String} {now : Int}

omit [JsRuntime ν] in
theorem Completed.fresh (hdone : Completed s.ledger ledger' input handles run plan step skipped now)
    (h : LedgerInvariant s) :
    ∀ old ∈ s.completions, (old.runId, old.stepId) ≠ (input.runId, input.stepId) := by
  intro old hold heq
  simp only [Prod.mk.injEq] at heq
  have hsucceeded := h.completed old hold
  rw [heq.1, heq.2, hdone.row_status] at hsucceeded
  cases hsucceeded

omit [JsRuntime ν] in
theorem Completed.completeStep (hdone : Completed s.ledger ledger' input handles run plan step skipped now)
    (h : LedgerInvariant s) {run' : WorkflowRun ν} (hid : run'.id = run.id)
    (houtcome : run'.status.outcome = .active ∧ ledger'.pendingCount input.runId > 0 ∨
      run'.status.outcome = .succeeded ∧ ¬ ledger'.pendingCount input.runId > 0) :
    CompleteStep plan.forest step.stepId handles (s.progress run)
      (({ s with
          ledger := ledger'
          completions := s.completions ++ [⟨input.runId, input.stepId, handles⟩] } :
        WorkflowSystem ν).progress run') := by
  have hplan := h.planForest hdone.plan_eq
  have hrows := h.rows run hdone.run_mem plan hdone.plan_eq
  obtain ⟨left, hleft, hmem⟩ := hplan.collectSkippedDescendants_spec hdone.step_mem handles
  have hskipped : ∀ id, id ∈ skipped ↔ plan.forest.Behind step.stepId handles id := by
    have hsame := hdone.collected
    rw [hleft, Except.ok.injEq] at hsame
    exact hsame ▸ hmem
  have hpending : ledger'.pendingCount input.runId > 0 ↔
      ∃ v ∈ plan.stepIds, ((ledger'.stepStatus run.id v).getD .cancelled).pending = true := by
    rw [pendingCount_pos, hdone.run_id]
    constructor
    · intro hh
      obtain ⟨id, status, hstatus, hp⟩ := hh
      refine ⟨id, (hrows id).mp ?_, by rw [hstatus]; exact hp⟩
      rw [hdone.run_id, ← hdone.isSome, hstatus]
      rfl
    · intro hh
      obtain ⟨id, _, hp⟩ := hh
      cases hstatus : ledger'.stepStatus input.runId id with
      | none => simp [hstatus, TaskStatus.pending] at hp
      | some status => exact ⟨id, status, hstatus, by simpa [hstatus] using hp⟩
  refine ⟨List.mem_map.mpr ⟨step, hdone.step_mem, rfl⟩, ?_, ?_, ?_, ?_, ?_, ?_, ?_, ?_, ?_⟩
  · simp only [WorkflowSystem.progress, hdone.run_id, hdone.step_id, hdone.row_status]
    rfl
  · simp only [WorkflowSystem.progress, hid, hdone.run_id, hdone.step_id, hdone.task]
    rfl
  · intro v hv label hparent hlabel hblocked
    have hactive := (hplan.mem_activeTargets hdone.step_mem).mpr ⟨label, hparent, hlabel⟩
    have hbefore := status_of_getD hblocked (by decide)
    rw [hdone.run_id] at hbefore
    simp only [WorkflowSystem.progress, hid, hdone.run_id, hdone.promoted v hactive hbefore]
    rfl
  · intro v hv hbehind hblocked
    have hactive : v ∉ step.activeTargets handles := by
      intro hin
      obtain ⟨label, hparent, hlabel⟩ := (hplan.mem_activeTargets hdone.step_mem).mp hin
      exact hplan.wellFormed.not_behind_chosen hparent hlabel hbehind
    have hbefore := status_of_getD hblocked (by decide)
    rw [hdone.run_id] at hbefore
    simp only [WorkflowSystem.progress, hid, hdone.run_id,
      hdone.left v ((hskipped v).mpr hbehind) hactive hbefore]
    rfl
  · intro v hv hne hlabels hbehind
    have hactive : v ∉ step.activeTargets handles := by
      intro hin
      obtain ⟨label, hparent, hlabel⟩ := (hplan.mem_activeTargets hdone.step_mem).mp hin
      exact hlabels label hparent hlabel
    simp only [WorkflowSystem.progress, hid, hdone.run_id,
      hdone.kept v (hdone.step_id ▸ hne) hactive fun hin => hbehind ((hskipped v).mp hin)]
  · simp only [WorkflowSystem.progress]
    rw [chosen_append s ledger' _ (hdone.fresh h), hid, hdone.run_id, hdone.step_id]
    simp
  · intro v hne
    simp only [WorkflowSystem.progress]
    rw [chosen_append s ledger' _ (hdone.fresh h), hid, if_neg fun hh => hne (hh.2.trans hdone.step_id.symm)]
  · simp only [WorkflowSystem.progress, hdone.run_status]
    rfl
  · rcases houtcome with ⟨hactive, hp⟩ | ⟨hsucceeded, hp⟩
    · refine Or.inl ⟨hactive, ?_⟩
      simp only [WorkflowSystem.progress, hid]
      exact hpending.mp hp
    · refine Or.inr ⟨hsucceeded, fun v hv => ?_⟩
      simp only [WorkflowSystem.progress, hid]
      rw [← Bool.not_eq_true]
      exact fun hh => hp (hpending.mpr ⟨v, hv, hh⟩)

end Step

theorem LedgerInvariant.complete {s : WorkflowSystem ν} (h : LedgerInvariant s) {input : StepClaim}
    {handles : List String} {output : Option (Json ν)} {now : Int} {status : WorkflowRunStatus}
    {ledger' : WorkflowLedger ν}
    (hok : completeSqliteWorkflowStep s.ledger input handles output now = .ok (status, ledger')) :
    LedgerInvariant
      { s with
        ledger := ledger'
        completions := s.completions ++ [⟨input.runId, input.stepId, handles⟩] } := by
  obtain ⟨run, plan, step, skipped, hdone⟩ := complete_eq_ok hok
  -- the run that ends, when nothing is pending
  let ended : WorkflowRun ν → WorkflowRun ν := fun other =>
    if ledger'.pendingCount input.runId > 0 then other
    else if other.id = input.runId && other.status = .running then succeedRun now other else other
  have hended : ∀ other, (ended other).id = other.id ∧ (ended other).workflowId = other.workflowId ∧
      (ended other).workflowVersion = other.workflowVersion := by
    intro other
    simp only [ended]
    split
    · exact ⟨rfl, rfl, rfl⟩
    · split
      · exact ⟨rfl, rfl, rfl⟩
      · exact ⟨rfl, rfl, rfl⟩
  refine h.carry ended hended hdone.catalog ?_ ?_ hdone.isSome ?_ ?_ ?_
  · intro run'
    rcases hdone.runs with ⟨hruns, hp⟩ | ⟨hruns, hp⟩
    · simp only [hruns, ended, if_pos hp, exists_eq_right']
    · simp only [hruns, ended, if_neg hp]
      exact Table.mem_modify _
  · intro other hother
    simp only [ended]
    split
    · exact hother
    · split
      · simp [succeedRun]
      · exact hother
  · intro c hc
    rcases List.mem_append.mp hc with hc | hc
    · exact hdone.succeeded _ _ (h.completed c hc)
    · rw [List.mem_singleton.mp hc]
      exact hdone.task
  · rw [List.map_append, List.nodup_append]
    refine ⟨h.once, List.nodup_singleton _, ?_⟩
    intro a ha b hb heq
    obtain ⟨old, hold, rfl⟩ := List.mem_map.mp ha
    rw [List.map_cons, List.map_nil, List.mem_singleton] at hb
    exact hdone.fresh h old hold (heq.trans hb)
  · intro other hother otherPlan hotherPlan hforest hp
    by_cases hsame : other.id = input.runId
    · have heq : other = run := Table.eq_of_key hother hdone.run_mem (hsame.trans hdone.run_id.symm)
      subst heq
      have hplan : otherPlan = plan := by
        rw [hdone.plan_eq, Option.some.injEq] at hotherPlan
        exact hotherPlan.symm
      subst hplan
      refine (hdone.completeStep h (hended other).1 ?_).invariant hforest.wellFormed hp
      rcases hdone.runs with ⟨_, hpending⟩ | ⟨_, hpending⟩
      · refine Or.inl ⟨?_, hpending⟩
        simp only [ended, if_pos hpending, hdone.run_status]
        rfl
      · refine Or.inr ⟨?_, hpending⟩
        simp only [ended, if_neg hpending, hsame, hdone.run_status]
        rfl
    · have hkept : (ended other).status = other.status := by
        simp only [ended]
        split
        · rfl
        · rw [if_neg (by simp [hsame])]
      have hstep : ActiveStep otherPlan.forest (s.progress other)
          (({ s with
              ledger := ledger'
              completions := s.completions ++ [⟨input.runId, input.stepId, handles⟩] } :
            WorkflowSystem ν).progress (ended other)) := by
        refine ⟨fun v _ => Or.inl ?_, ?_, ?_⟩
        · simp only [WorkflowSystem.progress, (hended other).1, hdone.others other.id v hsame]
        · funext v
          simp only [WorkflowSystem.progress]
          rw [chosen_append s ledger' _ (hdone.fresh h), (hended other).1, if_neg fun hh => hsame hh.1]
        · simp only [WorkflowSystem.progress, hkept]
      exact hstep.invariant hforest.wellFormed hp

end Complete

section Fail

variable {ν : Type}

structure FailedStep (ledger ledger' : WorkflowLedger ν) (input : StepClaim) (code message : String)
    (now : Int) : Prop where
  row_status : ledger.stepStatus input.runId input.stepId = some .running
  catalog : ledger'.catalog = ledger.catalog
  task : ledger'.stepStatus input.runId input.stepId = some .failed
  siblings : ∀ id, id ≠ input.stepId → ledger'.stepStatus input.runId id =
    (ledger.stepStatus input.runId id).map fun status => if status.pending then .cancelled else status
  others : ∀ runId id, runId ≠ input.runId → ledger'.stepStatus runId id = ledger.stepStatus runId id
  isSome : ∀ runId id, (ledger'.stepStatus runId id).isSome = (ledger.stepStatus runId id).isSome
  runs : ledger'.runs = ledger.runs.modify (fun run => run.id = input.runId && run.status.open_)
    (fun run => failRun now run code message) ⟨fun _ => rfl⟩

theorem fail_eq_ok {ledger ledger' : WorkflowLedger ν} {input : StepClaim} {errorCode errorMessage : String}
    {now : Int} (h : failSqliteWorkflowStep ledger input errorCode errorMessage now = .ok ledger') :
    ∃ code message, FailedStep ledger ledger' input code message now := by
  simp only [failSqliteWorkflowStep, except_bind_eq_ok, requireThat_eq_ok, pure, Except.pure,
    Except.ok.injEq] at h
  obtain ⟨_, _, code, _, message, _, _, hheld, hledger⟩ := h
  obtain ⟨held, hget, hheld⟩ := exists_held hheld
  have hstatus : ∀ runId id row, ledger.steps.get? (runId, id) = some row →
      ledger'.stepStatus runId id = some (if heldStep input.claimId input.runId input.stepId row then .failed
        else if runId = input.runId ∧ row.status.pending then .cancelled else row.status) := by
    intro runId id row hrow
    obtain ⟨hr, _⟩ := get?_key hrow
    subst hr
    rw [← hledger, WorkflowLedger.stepStatus]
    simp only [Table.get?_modify, hrow, Option.map_some, Option.some.injEq]
    by_cases hh : heldStep input.claimId input.runId input.stepId row = true
    · simp [hh, failStep, TaskStatus.pending]
    · simp only [hh, Bool.false_eq_true, if_false]
      by_cases hp : row.runId = input.runId ∧ row.status.pending = true
      · simp [hp.1, hp.2, cancelStep]
      · rw [if_neg hp, if_neg]
        simpa using hp
  have hmissing : ∀ runId id, ledger.steps.get? (runId, id) = none → ledger'.stepStatus runId id = none := by
    intro runId id hnone
    rw [← hledger, WorkflowLedger.stepStatus]
    simp only [Table.get?_modify, hnone, Option.map_none]
  have hfree : ∀ runId id row, ledger.steps.get? (runId, id) = some row →
      runId ≠ input.runId ∨ id ≠ input.stepId → heldStep input.claimId input.runId input.stepId row = false := by
    intro runId id row hrow hne
    obtain ⟨hr, hi⟩ := get?_key hrow
    by_contra hh
    rw [Bool.not_eq_false, heldStep_iff] at hh
    rcases hne with hne | hne
    · exact hne (hr.symm.trans hh.1)
    · exact hne (hi.symm.trans hh.2.1)
  refine ⟨code, message, ?_, by rw [← hledger], ?_, ?_, ?_, ?_, by rw [← hledger]⟩
  · rw [WorkflowLedger.stepStatus, hget, Option.map_some, (heldStep_iff.mp hheld).2.2.2]
  · rw [hstatus _ _ _ hget, if_pos hheld]
  · intro id hne
    cases hrow : ledger.steps.get? (input.runId, id) with
    | none =>
      rw [hmissing _ _ hrow, WorkflowLedger.stepStatus, hrow]
      rfl
    | some row =>
      have hnot := hfree _ _ _ hrow (Or.inr hne)
      rw [hstatus _ _ _ hrow, WorkflowLedger.stepStatus, hrow]
      simp [hnot]
  · intro runId id hne
    cases hrow : ledger.steps.get? (runId, id) with
    | none => rw [hmissing _ _ hrow, WorkflowLedger.stepStatus, hrow, Option.map_none]
    | some row =>
      have hnot := hfree _ _ _ hrow (Or.inl hne)
      rw [hstatus _ _ _ hrow, WorkflowLedger.stepStatus, hrow]
      simp [hnot, hne]
  · intro runId id
    cases hrow : ledger.steps.get? (runId, id) with
    | none => rw [hmissing _ _ hrow, WorkflowLedger.stepStatus, hrow, Option.map_none]
    | some row =>
      rw [hstatus _ _ _ hrow, WorkflowLedger.stepStatus, hrow]
      rfl

theorem LedgerInvariant.fail {s : WorkflowSystem ν} (h : LedgerInvariant s) {input : StepClaim}
    {errorCode errorMessage : String} {now : Int} {ledger' : WorkflowLedger ν}
    (hok : failSqliteWorkflowStep s.ledger input errorCode errorMessage now = .ok ledger') :
    LedgerInvariant { s with ledger := ledger' } := by
  obtain ⟨code, message, hdone⟩ := fail_eq_ok hok
  refine h.carry
    (fun run => if run.id = input.runId && run.status.open_ then failRun now run code message else run)
    ?_ hdone.catalog ?_ ?_ hdone.isSome ?_ h.once ?_
  · intro run
    split
    · exact ⟨rfl, rfl, rfl⟩
    · exact ⟨rfl, rfl, rfl⟩
  · intro run'
    rw [hdone.runs]
    exact Table.mem_modify _
  · intro run hrun
    split
    · simp [failRun]
    · exact hrun
  · intro c hc
    have hbefore := h.completed c hc
    by_cases hrun : c.runId = input.runId
    · by_cases hstep : c.stepId = input.stepId
      · rw [hrun, hstep, hdone.row_status] at hbefore
        cases hbefore
      · rw [hrun] at hbefore ⊢
        rw [hdone.siblings c.stepId hstep, hbefore]
        rfl
    · rw [hdone.others c.runId c.stepId hrun, hbefore]
  · intro run hrun plan hplan hforest hp
    by_cases hsame : run.id = input.runId
    · have hsome : (s.ledger.stepStatus run.id input.stepId).isSome = true := by
        rw [hsame, hdone.row_status]
        rfl
      have hmem : input.stepId ∈ plan.stepIds := (h.rows run hrun plan hplan input.stepId).mp hsome
      have hrunning : (s.progress run).status input.stepId = .running := by
        simp only [WorkflowSystem.progress, hsame, hdone.row_status]
        rfl
      have hactive := hp.outcome_of_running hmem hrunning
      have hopen : run.status.open_ = true := by
        cases hs : run.status <;> simp_all [WorkflowSystem.progress, WorkflowRunStatus.outcome,
          WorkflowRunStatus.open_]
      simp only [hsame, hopen, decide_true, Bool.and_self, if_true]
      have hstep : FailStep plan.forest input.stepId (s.progress run)
          (({ s with ledger := ledger' } : WorkflowSystem ν).progress (failRun now run code message)) := by
        refine ⟨hmem, hrunning, ?_, ?_, rfl, rfl⟩
        · simp only [WorkflowSystem.progress, failRun, hsame, hdone.task]
          rfl
        · intro v hv hne
          simp only [WorkflowSystem.progress, failRun, hsame, hdone.siblings v hne]
          cases s.ledger.stepStatus input.runId v with
          | none => rfl
          | some status => rfl
      exact hstep.invariant hforest.wellFormed hp
    · have hkept : (if (decide (run.id = input.runId) && run.status.open_) = true
          then failRun now run code message else run) = run := if_neg (by simp [hsame])
      rw [hkept]
      have hstep : ActiveStep plan.forest (s.progress run)
          (({ s with ledger := ledger' } : WorkflowSystem ν).progress run) := by
        refine ⟨fun v _ => Or.inl ?_, rfl, rfl⟩
        simp only [WorkflowSystem.progress, hdone.others run.id v hsame]
      exact hstep.invariant hforest.wellFormed hp

end Fail

end ByokGrid
