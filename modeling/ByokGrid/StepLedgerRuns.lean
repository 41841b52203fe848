import ByokGrid.StepOutcome

/-! The step ledger over whole runs of the store: every run follows the plan of
its version, and a run which has not ended can go on. -/

namespace ByokGrid

section Create

variable {ν : Type} [JsRuntime ν]

omit [JsRuntime ν] in
theorem initialSteps_status {plan : CompiledWorkflowPlan ν} {runId : String} {now : Int} (id : String) :
    ((initialSteps plan runId now).find? fun step => Keyed.key step = (runId, id)).map WorkflowStepRun.status =
      if id ∈ plan.stepIds then some (if id ∈ plan.entryStepIds then .ready else .blocked) else none := by
  by_cases hid : id ∈ plan.stepIds
  · obtain ⟨step, hstep, rfl⟩ := exists_step hid
    rw [if_pos hid]
    cases hfind : (initialSteps plan runId now).find? fun row => Keyed.key row = (runId, step.stepId) with
    | none =>
      have hnone := List.find?_eq_none.mp hfind _ (List.mem_map.mpr ⟨step, hstep, rfl⟩)
      exact absurd (decide_eq_true (rfl : Keyed.key _ = (runId, step.stepId))) hnone
    | some row =>
      obtain ⟨other, _, rfl⟩ := List.mem_map.mp (List.mem_of_find?_eq_some hfind)
      have hmatch := List.find?_some hfind
      have hkey := of_decide_eq_true hmatch
      have hother : other.stepId = step.stepId := congrArg Prod.snd hkey
      simp only [Option.map_some, hother]
  · rw [if_neg hid]
    cases hfind : (initialSteps plan runId now).find? fun row => Keyed.key row = (runId, id) with
    | none => rfl
    | some row =>
      obtain ⟨other, hother, rfl⟩ := List.mem_map.mp (List.mem_of_find?_eq_some hfind)
      have hmatch := List.find?_some hfind
      have hkey := of_decide_eq_true hmatch
      have hsame : other.stepId = id := congrArg Prod.snd hkey
      exact absurd (hsame ▸ step_mem hother) hid

theorem LedgerInvariant.createRun {s : WorkflowSystem ν} (h : LedgerInvariant s) {input : CreateWorkflowRunInput ν}
    {created : WorkflowRun ν} {ledger' : WorkflowLedger ν} {outbox' : Outbox}
    (hok : createSqliteWorkflowRun s.ledger s.outbox input = .ok (created, ledger', outbox')) :
    LedgerInvariant { s with ledger := ledger', outbox := outbox' } := by
  simp only [createSqliteWorkflowRun, except_bind_eq_ok, requireSome_eq_ok, pure, Except.pure, Except.ok.injEq,
    Prod.mk.injEq] at hok
  obtain ⟨runInput, _, workflow, _, version, hversion, plan, hcompiled, runs, hruns, steps, hsteps, events, _,
    hcreated, hledger, _⟩ := hok
  subst hledger
  obtain ⟨number, _, hget⟩ := Option.bind_eq_some_iff.mp hversion
  have hnew : ∀ run, run ∈ runs ↔ run ∈ s.ledger.runs ∨ run = created := by
    intro run
    rw [← hcreated]
    exact Table.mem_insert hruns
  have hid : created.id = input.runId := by rw [← hcreated]
  have hfreshRun : ∀ run ∈ s.ledger.runs, run.id ≠ input.runId := by
    intro run hrun
    exact Table.get?_eq_none.mp (Table.insert_eq_some hruns).2 run hrun
  have hplanOf : ({ s.ledger with runs := runs, steps := steps } : WorkflowLedger ν).planOf created = some plan := by
    have hkey := (Table.get?_eq_some.mp hget).2
    have hnumber : version.version = number := congrArg Prod.snd hkey
    rw [← hcreated]
    simp only [WorkflowLedger.planOf, hnumber, hget, Option.bind_some, hcompiled]
  have hforest : PlanForest plan := h.plans version (Table.get?_eq_some.mp hget).1 plan hcompiled
  have hold : ∀ runId id, runId ≠ input.runId → ({ s.ledger with runs := runs, steps := steps } :
      WorkflowLedger ν).stepStatus runId id = s.ledger.stepStatus runId id := by
    intro runId id hne
    have hnone : (initialSteps plan input.runId input.now).find? (fun row => Keyed.key row = (runId, id)) = none := by
      refine List.find?_eq_none.mpr fun row hrow hkey => hne ?_
      obtain ⟨step, _, rfl⟩ := List.mem_map.mp hrow
      exact (congrArg Prod.fst (of_decide_eq_true hkey)).symm
    simp only [WorkflowLedger.stepStatus, Table.get?_insertAll hsteps, hnone, Option.or_none]
  have hstatus : ∀ id, ({ s.ledger with runs := runs, steps := steps } : WorkflowLedger ν).stepStatus input.runId id =
      if id ∈ plan.stepIds then some (if id ∈ plan.entryStepIds then .ready else .blocked) else none := by
    intro id
    have hnone : s.ledger.steps.get? (input.runId, id) = none := by
      cases hrow : s.ledger.steps.get? (input.runId, id) with
      | none => rfl
      | some row =>
        obtain ⟨run, hrun, hrunId⟩ := h.owned input.runId id (by rw [WorkflowLedger.stepStatus, hrow]; rfl)
        exact absurd hrunId (hfreshRun run hrun)
    simp only [WorkflowLedger.stepStatus, Table.get?_insertAll hsteps, hnone, Option.none_or]
    exact initialSteps_status id
  refine ⟨h.plans, ?_, ?_, ?_, ?_, ?_, h.once, ?_⟩
  · intro run hrun
    rcases (hnew run).mp hrun with hrun | rfl
    · exact h.planned run hrun
    · exact ⟨plan, hplanOf⟩
  · intro run hrun otherPlan hother id
    rcases (hnew run).mp hrun with hrun | rfl
    · rw [hold run.id id (hfreshRun run hrun)]
      exact h.rows run hrun otherPlan hother id
    · have hsame : otherPlan = plan := Option.some.inj (hother.symm.trans hplanOf)
      rw [hsame, hid, hstatus id]
      by_cases hmem : id ∈ plan.stepIds
      · simp [hmem]
      · simp [hmem]
  · intro runId id hsome
    by_cases hsame : runId = input.runId
    · exact ⟨created, (hnew created).mpr (Or.inr rfl), hid.trans hsame.symm⟩
    · rw [hold runId id hsame] at hsome
      obtain ⟨run, hrun, hrunId⟩ := h.owned runId id hsome
      exact ⟨run, (hnew run).mpr (Or.inl hrun), hrunId⟩
  · intro run hrun
    rcases (hnew run).mp hrun with hrun | rfl
    · exact h.uncancelled run hrun
    · simp [← hcreated]
  · intro c hc
    have hbefore := h.completed c hc
    have hne : c.runId ≠ input.runId := by
      obtain ⟨run, hrun, hrunId⟩ := h.owned c.runId c.stepId (by rw [hbefore]; rfl)
      exact hrunId ▸ hfreshRun run hrun
    rw [hold c.runId c.stepId hne, hbefore]
  · intro run hrun otherPlan hother
    rcases (hnew run).mp hrun with hrun | rfl
    · have hkept : ({ s with
            ledger := { s.ledger with runs := runs, steps := steps }
            outbox := outbox' } : WorkflowSystem ν).progress run = s.progress run := by
        simp only [WorkflowSystem.progress, WorkflowSystem.chosen, hold run.id _ (hfreshRun run hrun)]
      rw [hkept]
      exact h.forest run hrun otherPlan hother
    · have hsame : otherPlan = plan := Option.some.inj (hother.symm.trans hplanOf)
      subst hsame
      refine InitialProgress.invariant hforest.wellFormed ⟨fun v hv => ?_, by rw [← hcreated]; rfl⟩
      have hmem : v ∈ otherPlan.stepIds := hv
      simp only [WorkflowSystem.progress, hid, hstatus, if_pos hmem, Option.getD_some, hforest.entry v hmem,
        Option.isNone_iff_eq_none]

theorem LedgerInvariant.createWorkflow {s : WorkflowSystem ν} (h : LedgerInvariant s) {id name : String}
    {graph : WorkflowGraph ν} {catalog : WorkflowCatalog ν}
    (hok : createSqliteWorkflow s.ledger.catalog id name graph = .ok catalog) :
    LedgerInvariant { s with ledger := { s.ledger with catalog := catalog } } := by
  simp only [createSqliteWorkflow, except_bind_eq_ok, pure, Except.pure, Except.ok.injEq] at hok
  obtain ⟨_, _, _, _, _, _, hcatalog⟩ := hok
  subst hcatalog
  exact h.carryCatalog (fun _ _ hversion => hversion) fun _ hversion => Or.inl hversion

theorem LedgerInvariant.updateDraft {s : WorkflowSystem ν} (h : LedgerInvariant s) {workflowId name : String}
    {expectedRevision : Nat} {graph : WorkflowGraph ν} {catalog : WorkflowCatalog ν}
    (hok : updateSqliteWorkflowDraft s.ledger.catalog workflowId name expectedRevision graph = .ok catalog) :
    LedgerInvariant { s with ledger := { s.ledger with catalog := catalog } } := by
  simp only [updateSqliteWorkflowDraft, except_bind_eq_ok] at hok
  obtain ⟨_, _, _, _, hok⟩ := hok
  split at hok
  · cases hok
  · simp only [except_bind_eq_ok, pure, Except.pure, Except.ok.injEq] at hok
    obtain ⟨_, _, _, _, hcatalog⟩ := hok
    subst hcatalog
    exact h.carryCatalog (fun _ _ hversion => hversion) fun _ hversion => Or.inl hversion

theorem LedgerInvariant.publish {s : WorkflowSystem ν} (h : LedgerInvariant s) {workflowId : String}
    {expectedRevision : Nat} {catalog : WorkflowCatalog ν}
    (hok : publishSqliteWorkflow s.ledger.catalog workflowId expectedRevision = .ok catalog) :
    LedgerInvariant { s with ledger := { s.ledger with catalog := catalog } } := by
  simp only [publishSqliteWorkflow, except_bind_eq_ok] at hok
  obtain ⟨current, _, _, _, hok⟩ := hok
  split at hok
  · cases hok
  · rename_i graph hschema
    split at hok
    · cases hok
    · cases hok
    · rename_i plan hcompile
      simp only [except_bind_eq_ok, requireSome_eq_ok, pure, Except.pure, Except.ok.injEq] at hok
      obtain ⟨versions, hinsert, hcatalog⟩ := hok
      subst hcatalog
      refine h.carryCatalog ?_ ?_
      · intro key version hversion
        rw [Table.get?_insert hinsert]
        split
        · rename_i hkey
          have hfresh := (Table.insert_eq_some hinsert).2
          rw [hkey, hfresh] at hversion
          cases hversion
        · exact hversion
      · intro version hversion
        rcases (Table.mem_insert hinsert).mp hversion with hold | rfl
        · exact Or.inl hold
        · refine Or.inr fun other hother => ?_
          cases hother
          exact compiled_planForest hschema hcompile

end Create

section Runs

variable {ν : Type} [JsRuntime ν]

theorem LedgerInvariant.step {s : WorkflowSystem ν} (h : LedgerInvariant s) (action : WorkflowAction ν) :
    LedgerInvariant (s.step action) := by
  cases action with
  | createWorkflow id name graph =>
    cases hok : createSqliteWorkflow s.ledger.catalog id name graph with
    | error _ => simpa only [WorkflowSystem.step, WorkflowSystem.withCatalog, hok] using h
    | ok catalog => simpa only [WorkflowSystem.step, WorkflowSystem.withCatalog, hok] using h.createWorkflow hok
  | updateDraft workflowId name expectedRevision graph =>
    cases hok : updateSqliteWorkflowDraft s.ledger.catalog workflowId name expectedRevision graph with
    | error _ => simpa only [WorkflowSystem.step, WorkflowSystem.withCatalog, hok] using h
    | ok catalog => simpa only [WorkflowSystem.step, WorkflowSystem.withCatalog, hok] using h.updateDraft hok
  | publish workflowId expectedRevision =>
    cases hok : publishSqliteWorkflow s.ledger.catalog workflowId expectedRevision with
    | error _ => simpa only [WorkflowSystem.step, WorkflowSystem.withCatalog, hok] using h
    | ok catalog => simpa only [WorkflowSystem.step, WorkflowSystem.withCatalog, hok] using h.publish hok
  | createRun input =>
    cases hok : createSqliteWorkflowRun s.ledger s.outbox input with
    | error _ => simpa only [WorkflowSystem.step, hok] using h
    | ok result => simpa only [WorkflowSystem.step, hok] using h.createRun hok
  | claim input =>
    cases hok : claimSqliteWorkflowSteps s.ledger input with
    | error _ => simpa only [WorkflowSystem.step, WorkflowSystem.withLedger, hok, Except.map] using h
    | ok result => simpa only [WorkflowSystem.step, WorkflowSystem.withLedger, hok, Except.map] using h.claim hok
  | complete claim handles output now =>
    cases hok : completeSqliteWorkflowStep s.ledger claim handles output now with
    | error _ => simpa only [WorkflowSystem.step, hok] using h
    | ok result => simpa only [WorkflowSystem.step, hok] using h.complete hok
  | retry claim errorCode errorMessage retryAt now =>
    cases hok : retrySqliteWorkflowStep s.ledger claim errorCode errorMessage retryAt now with
    | error _ => simpa only [WorkflowSystem.step, WorkflowSystem.withLedger, hok] using h
    | ok ledger => simpa only [WorkflowSystem.step, WorkflowSystem.withLedger, hok] using h.retry hok
  | fail claim errorCode errorMessage now =>
    cases hok : failSqliteWorkflowStep s.ledger claim errorCode errorMessage now with
    | error _ => simpa only [WorkflowSystem.step, WorkflowSystem.withLedger, hok] using h
    | ok ledger => simpa only [WorkflowSystem.step, WorkflowSystem.withLedger, hok] using h.fail hok

theorem ledgerInvariant_run (actions : List (WorkflowAction ν)) : LedgerInvariant (WorkflowSystem.run actions) :=
  runActions_invariant (fun _ action h => h.step action) LedgerInvariant.initial actions

def WorkflowSystem.Activated (s : WorkflowSystem ν) (runId : String) (route : CompiledWorkflowRoute) : Prop :=
  ∃ c ∈ s.completions, c.runId = runId ∧ c.stepId = route.sourceStepId ∧
    route.sourceHandle ∈ c.activeOutputHandles

def WorkflowSystem.PassedOver (s : WorkflowSystem ν) (runId : String) (route : CompiledWorkflowRoute) : Prop :=
  ∃ c ∈ s.completions, c.runId = runId ∧ c.stepId = route.sourceStepId ∧
    route.sourceHandle ∉ c.activeOutputHandles

structure StepLedgerInvariant (s : WorkflowSystem ν) (run : WorkflowRun ν) (plan : CompiledWorkflowPlan ν) :
    Prop where
  rows : ∀ id, (s.ledger.stepStatus run.id id).isSome = true ↔ id ∈ plan.stepIds
  inbound : ∀ step ∈ plan.steps, step.inboundRoutes.length ≤ 1 ∧
    (step.stepId ∈ plan.entryStepIds ↔ step.inboundRoutes = [])
  once : (s.completions.map fun c => (c.runId, c.stepId)).Nodup
  blocked : ∀ step ∈ plan.steps, s.ledger.stepStatus run.id step.stepId = some .blocked ↔
    ∃ route ∈ step.inboundRoutes, s.ledger.stepStatus run.id route.sourceStepId ∈
      [some .blocked, some .ready, some .running]
  begun : ∀ step ∈ plan.steps, step.stepId ∉ plan.entryStepIds →
    s.ledger.stepStatus run.id step.stepId ∈ [some .ready, some .running, some .succeeded, some .failed] →
    ∃ route ∈ step.inboundRoutes, s.ledger.stepStatus run.id route.sourceStepId = some .succeeded ∧
      s.Activated run.id route
  skipped : ∀ step ∈ plan.steps, s.ledger.stepStatus run.id step.stepId = some .skipped →
    ∃ route ∈ step.inboundRoutes, s.ledger.stepStatus run.id route.sourceStepId = some .skipped ∨
      s.ledger.stepStatus run.id route.sourceStepId = some .succeeded ∧ s.PassedOver run.id route
  ended : run.status.open_ = false ↔ ∀ step ∈ plan.steps, s.ledger.stepStatus run.id step.stepId ∉
    [some .blocked, some .ready, some .running]
  succeeded : run.status = .succeeded → ∀ step ∈ plan.steps,
    s.ledger.stepStatus run.id step.stepId ∈ [some .succeeded, some .skipped]
  failed : run.status = .failed ↔ ∃ step ∈ plan.steps, s.ledger.stepStatus run.id step.stepId = some .failed ∧
    ∀ other ∈ plan.steps, other.stepId ≠ step.stepId → s.ledger.stepStatus run.id other.stepId ∈
      [some .succeeded, some .skipped, some .cancelled]
  cancelled : ∀ step ∈ plan.steps, s.ledger.stepStatus run.id step.stepId = some .cancelled →
    run.status = .failed
  not_stuck : run.status.open_ = true → ∃ step ∈ plan.steps, s.ledger.stepStatus run.id step.stepId ∈
    [some .ready, some .running]

section Reading

variable {s : WorkflowSystem ν} {run : WorkflowRun ν} {plan : CompiledWorkflowPlan ν}

omit [JsRuntime ν] in
theorem LedgerInvariant.stepStatus_eq (h : LedgerInvariant s) (hrun : run ∈ s.ledger.runs)
    (hplan : s.ledger.planOf run = some plan) {id : String} (hid : id ∈ plan.stepIds) :
    s.ledger.stepStatus run.id id = some ((s.progress run).status id) := by
  obtain ⟨status, hstatus⟩ := Option.isSome_iff_exists.mp ((h.rows run hrun plan hplan id).mpr hid)
  rw [hstatus]
  simp only [WorkflowSystem.progress, hstatus, Option.getD_some]

omit [JsRuntime ν] in
theorem chosen_eq_some {runId id : String} {handles : List String} (h : s.chosen runId id = some handles) :
    ∃ c ∈ s.completions, c.runId = runId ∧ c.stepId = id ∧ c.activeOutputHandles = handles := by
  obtain ⟨c, hfind, hhandles⟩ := Option.map_eq_some_iff.mp h
  have hmatch := List.find?_some hfind
  obtain ⟨hrun, hstep⟩ := of_decide_eq_true hmatch
  exact ⟨c, List.mem_of_find?_eq_some hfind, hrun, hstep, hhandles⟩

theorem pending_iff {status : TaskStatus} : status.pending = true ↔
    some status ∈ [some TaskStatus.blocked, some .ready, some .running] := by
  cases status <;> simp [TaskStatus.pending]

theorem active_iff {status : TaskStatus} : status.active = true ↔
    some status ∈ [some TaskStatus.ready, some .running] := by
  cases status <;> simp [TaskStatus.active]

theorem begun_iff {status : TaskStatus} : status.begun = true ↔
    some status ∈ [some TaskStatus.ready, some .running, some .succeeded, some .failed] := by
  cases status <;> simp [TaskStatus.begun]

omit [JsRuntime ν] in
theorem open_iff (huncancelled : run.status ≠ .cancelled) :
    (run.status.open_ = true ↔ run.status.outcome = .active) ∧
      (run.status = .failed ↔ run.status.outcome = .failed) ∧
      (run.status = .succeeded ↔ run.status.outcome = .succeeded) := by
  cases hs : run.status <;> simp [hs, WorkflowRunStatus.open_, WorkflowRunStatus.outcome] at huncancelled ⊢

omit [JsRuntime ν] in
theorem LedgerInvariant.stepLedger (h : LedgerInvariant s) (hrun : run ∈ s.ledger.runs)
    (hplan : s.ledger.planOf run = some plan) : StepLedgerInvariant s run plan := by
  have hforest := h.planForest hplan
  have hp := h.forest run hrun plan hplan
  have hstatus : ∀ step ∈ plan.steps,
      s.ledger.stepStatus run.id step.stepId = some ((s.progress run).status step.stepId) :=
    fun step hstep => h.stepStatus_eq hrun hplan (step_mem hstep)
  have hroute : ∀ step ∈ plan.steps, ∀ route ∈ step.inboundRoutes,
      plan.forest.parent step.stepId = some (route.sourceStepId, route.sourceHandle) ∧
        s.ledger.stepStatus run.id route.sourceStepId = some ((s.progress run).status route.sourceStepId) := by
    intro step hstep route hroute
    have hparent := parent_of_route hforest.nodup hstep (hforest.inbound step hstep) hroute
    have hsource := (hforest.wellFormed.mem _ _ ⟨_, hparent⟩).1
    exact ⟨hparent, h.stepStatus_eq hrun hplan hsource⟩
  have hparent : ∀ step ∈ plan.steps, ∀ u label, plan.forest.parent step.stepId = some (u, label) →
      ∃ route ∈ step.inboundRoutes, route.sourceStepId = u ∧ route.sourceHandle = label := by
    intro step hstep u label hparent
    rw [parent_of_mem hforest.nodup hstep] at hparent
    obtain ⟨route, hhead, hpair⟩ := Option.map_eq_some_iff.mp hparent
    simp only [Prod.mk.injEq] at hpair
    exact ⟨route, List.mem_of_head? hhead, hpair⟩
  have hentry : ∀ step ∈ plan.steps, step.stepId ∈ plan.entryStepIds ↔ step.inboundRoutes = [] := by
    intro step hstep
    rw [hforest.entry _ (step_mem hstep), parent_of_mem hforest.nodup hstep, Option.map_eq_none_iff,
      List.head?_eq_none_iff]
  obtain ⟨hopen, hfailed, hsucceeded⟩ := open_iff (h.uncancelled run hrun)
  have houtcome : (s.progress run).outcome = run.status.outcome := rfl
  have hended : (s.progress run).outcome = .failed ∨ (s.progress run).outcome = .succeeded ↔
      (s.progress run).outcome ≠ .active := by
    cases (s.progress run).outcome <;> simp
  refine ⟨h.rows run hrun plan hplan, fun step hstep => ⟨hforest.inbound step hstep, hentry step hstep⟩,
    h.once, ?_, ?_, ?_, ?_, ?_, ?_, ?_, ?_⟩
  · intro step hstep
    rw [hstatus step hstep, Option.some.injEq, hp.blocked _ (step_mem hstep)]
    constructor
    · intro hwaits
      obtain ⟨u, label, hu, hpending⟩ := hwaits
      obtain ⟨route, hmem, rfl, rfl⟩ := hparent step hstep u label hu
      refine ⟨route, hmem, ?_⟩
      rw [(hroute step hstep route hmem).2]
      exact pending_iff.mp hpending
    · intro hwaits
      obtain ⟨route, hmem, hpending⟩ := hwaits
      obtain ⟨hu, hsource⟩ := hroute step hstep route hmem
      rw [hsource] at hpending
      exact ⟨_, _, hu, pending_iff.mpr hpending⟩
  · intro step hstep hnot hbegun
    rw [hstatus step hstep] at hbegun
    obtain ⟨route, hmem⟩ := List.exists_mem_of_ne_nil _ (mt (hentry step hstep).mpr hnot)
    obtain ⟨hu, hsource⟩ := hroute step hstep route hmem
    obtain ⟨hsucceeded, labels, hchosen, hlabel⟩ :=
      hp.begun _ (step_mem hstep) (begun_iff.mpr hbegun) _ _ hu
    obtain ⟨c, hc, hcrun, hcstep, rfl⟩ := chosen_eq_some hchosen
    exact ⟨route, hmem, by rw [hsource, hsucceeded], c, hc, hcrun, hcstep, hlabel⟩
  · intro step hstep hskipped
    rw [hstatus step hstep, Option.some.injEq] at hskipped
    obtain ⟨u, label, hu, hwhy⟩ := hp.skipped _ (step_mem hstep) hskipped
    obtain ⟨route, hmem, rfl, rfl⟩ := hparent step hstep u label hu
    refine ⟨route, hmem, ?_⟩
    rw [(hroute step hstep route hmem).2]
    rcases hwhy with hskip | ⟨hdone, labels, hchosen, hlabel⟩
    · exact Or.inl (congrArg some hskip)
    · obtain ⟨c, hc, hcrun, hcstep, rfl⟩ := chosen_eq_some hchosen
      exact Or.inr ⟨congrArg some hdone, c, hc, hcrun, hcstep, hlabel⟩
  · rw [← Bool.not_eq_true, hopen, ← houtcome]
    refine hp.ended_iff.trans ?_
    constructor
    · intro hall step hstep hpending
      rw [hstatus step hstep, ← pending_iff, hall _ (step_mem hstep)] at hpending
      cases hpending
    · intro hall v hv
      obtain ⟨step, hstep, rfl⟩ := exists_step hv
      have hnot := hall step hstep
      rw [hstatus step hstep, ← pending_iff] at hnot
      exact Bool.eq_false_iff.mpr hnot
  · intro hdone step hstep
    rw [hstatus step hstep]
    rcases hp.succeeded (hsucceeded.mp hdone) _ (step_mem hstep) with hs | hs
    · simp [hs]
    · simp [hs]
  · rw [hfailed, ← houtcome]
    constructor
    · intro hf
      obtain ⟨v, hv, hfail, hrest⟩ := hp.failed hf
      obtain ⟨step, hstep, rfl⟩ := exists_step hv
      refine ⟨step, hstep, (hstatus step hstep).trans (congrArg some hfail), ?_⟩
      intro other hother hne
      rw [hstatus other hother]
      rcases hrest _ (step_mem hother) hne with hs | hs | hs
      · simp [hs]
      · simp [hs]
      · simp [hs]
    · intro hf
      obtain ⟨step, hstep, hfail, _⟩ := hf
      rw [hstatus step hstep, Option.some.injEq] at hfail
      refine (hended.mpr fun hactive => ((hp.active hactive).2 _ (step_mem hstep)).1 hfail).resolve_right ?_
      intro hdone
      rcases hp.succeeded hdone _ (step_mem hstep) with hs | hs
      · simp [hs] at hfail
      · simp [hs] at hfail
  · intro step hstep hcancelled
    rw [hstatus step hstep, Option.some.injEq] at hcancelled
    rw [hfailed, ← houtcome]
    refine (hended.mpr fun hactive => ((hp.active hactive).2 _ (step_mem hstep)).2 hcancelled).resolve_right ?_
    intro hdone
    rcases hp.succeeded hdone _ (step_mem hstep) with hs | hs
    · simp [hs] at hcancelled
    · simp [hs] at hcancelled
  · intro hisopen
    obtain ⟨v, hv, hactive⟩ := hp.not_stuck hforest.wellFormed (hopen.mp hisopen)
    obtain ⟨step, hstep, rfl⟩ := exists_step hv
    refine ⟨step, hstep, ?_⟩
    rw [hstatus step hstep]
    exact active_iff.mp hactive

end Reading

theorem stepLedgerInvariant_run (actions : List (WorkflowAction ν)) (run : WorkflowRun ν)
    (hrun : run ∈ (WorkflowSystem.run actions).ledger.runs) :
    ∃ plan, (WorkflowSystem.run actions).ledger.planOf run = some plan ∧
      StepLedgerInvariant (WorkflowSystem.run actions) run plan := by
  have h := ledgerInvariant_run actions
  obtain ⟨plan, hplan⟩ := h.planned run hrun
  exact ⟨plan, hplan, h.stepLedger hrun hplan⟩

def sampleWorkflowActions : List (WorkflowAction SafeInteger) :=
  [ .createWorkflow "w" "Sample" sampleWorkflowGraph,
    .publish "w" 1,
    .createRun { eventId := "e", now := 0, runId := "r", runInput := .object [], userId := "u", workflowId := "w" },
    .claim { claimId := "0b5b1f0e-0000-4000-8000-000000000001", now := 1 } ]

theorem stepLedgerInvariant_run_sample : ∃ run plan,
    (WorkflowSystem.run sampleWorkflowActions).ledger.runs.get? "r" = some run ∧ run.status = .running ∧
      StepLedgerInvariant (WorkflowSystem.run sampleWorkflowActions) run plan := by
  have hrunning : ((WorkflowSystem.run sampleWorkflowActions).ledger.runs.get? "r").map WorkflowRun.status =
      some .running := by decide +kernel
  obtain ⟨run, hget, hstatus⟩ := Option.map_eq_some_iff.mp hrunning
  obtain ⟨plan, _, hplan⟩ := stepLedgerInvariant_run sampleWorkflowActions run (Table.get?_eq_some.mp hget).1
  exact ⟨run, plan, hget, hstatus, hplan⟩

end Runs

end ByokGrid
