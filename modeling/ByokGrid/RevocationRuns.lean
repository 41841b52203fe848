import ByokGrid.RevocationEffects

/-! The executions between the transactions: each live execution has its run for itself, and one whose connector was
revoked when it read its run sends nothing and ends with a failed or cancelled run. -/

namespace ByokGrid

section Work

variable {ν : Type}

structure Worked (runId : String) (db db' : Database ν) : Prop where
  stand : RunsStand (some runId) db db'
  columns : db'.grid.columns = db.grid.columns
  connectorRevocations : db'.connectorRevocations = db.connectorRevocations
  credentials : ∀ credentialId, CredentialRevoked db credentialId = true → CredentialRevoked db' credentialId = true

theorem Leaves.worked {db db' : Database ν} {runId : String} (h : Leaves db db') (hstand : RunsStand (some runId) db db') :
    Worked runId db db' where
  stand := hstand
  columns := h.columns
  connectorRevocations := h.connectorRevocations
  credentials credentialId hrevoked := by
    rw [CredentialRevoked, h.credentials]
    exact hrevoked

theorem Worked.refl (runId : String) (db : Database ν) : Worked runId db db :=
  (Leaves.refl db).worked (RunsStand.of_eq rfl)

theorem Worked.trans {runId : String} {a b c : Database ν} (hab : Worked runId a b) (hbc : Worked runId b c) :
    Worked runId a c where
  stand := hab.stand.trans hbc.stand
  columns := hbc.columns.trans hab.columns
  connectorRevocations := hbc.connectorRevocations.trans hab.connectorRevocations
  credentials credentialId hrevoked := hbc.credentials credentialId (hab.credentials credentialId hrevoked)

theorem saveRunProgress_worked (db : Database ν) (runId id : String) (progress : Json ν) :
    Worked runId db (saveRunProgress db id progress) := by
  refine Leaves.worked ⟨rfl, rfl, rfl⟩ ?_
  refine RunsStand.modify (f := fun run => { run with output := some progress }) ⟨fun _ => rfl⟩ rfl (fun _ _ => rfl) ?_
  exact fun _ _ _ _ => Or.inl rfl

theorem touchCredential_worked (db : Database ν) (runId : String) (credentialId : Option String) (now : Int) :
    Worked runId db (touchCredential db credentialId now) where
  stand := RunsStand.of_eq rfl
  columns := rfl
  connectorRevocations := rfl
  credentials _ hrevoked := credentialRevoked_modify
    (f := fun credential => { credential with lastUsedAt := some now }) ⟨fun _ => rfl⟩ (fun _ hsome => hsome) hrevoked

theorem afterProvider_worked (db : Database ν) (runId : String) (run : CellRun ν) (credential : Option Credential)
    (plan : HttpWaterfallRunPlan) (index : Nat) (progress : Json ν) (answer : Except ProviderError Bool) :
    Worked runId db (afterProvider db run credential plan index progress answer).1 := by
  unfold afterProvider
  split
  · exact Worked.refl _ _
  · exact saveRunProgress_worked _ _ _ _
  · dsimp only
    split
    · exact saveRunProgress_worked _ _ _ _
    · exact saveRunProgress_worked _ _ _ _

theorem resolveWaterfallCredential_eq_ok {db db' : Database ν} {credentialId : Option String} {now : Int}
    {read : Option Credential} (h : resolveWaterfallCredential db credentialId now = .ok (read, db')) :
    (∀ runId, Worked runId db db') ∧ db'.cellRuns = db.cellRuns ∧
      ∀ credential, read = some credential → CredentialRevoked db credential.id = false := by
  unfold resolveWaterfallCredential at h
  split at h
  · cases h
    exact ⟨fun _ => Worked.refl _ _, rfl, fun _ hread => by cases hread⟩
  · split at h
    · cases h
    · rename_i credential hfound
      cases h
      refine ⟨fun _ => touchCredential_worked _ _ _ _, rfl, fun other hread => ?_⟩
      cases hread
      obtain ⟨hget, hchecks⟩ := Option.filter_eq_some_iff.mp hfound
      have hid : credential.id = _ := (Table.get?_eq_some.mp hget).2
      have hnone : credential.revokedAt = none := Option.isNone_iff_eq_none.mp (Bool.and_eq_true_iff.mp hchecks).2
      rw [CredentialRevoked, hid, hget, Option.any_some, hnone]
      rfl

theorem readProvider_worked (db : Database ν) (runId : String) (run : CellRun ν) (credential : Option Credential)
    (plan : HttpWaterfallRunPlan) (index : Nat) (progress : Json ν) (now : Int) :
    Worked runId db (readProvider db run credential plan index progress now).1 := by
  unfold readProvider
  split
  · exact Worked.refl _ _
  · split
    · exact afterProvider_worked _ _ _ _ _ _ _ _
    · rename_i resolved hresolved
      exact (resolveWaterfallCredential_eq_ok hresolved).1 runId

theorem reportFailure_cases (db : Database ν) (execution : CellExecution ν) (failure : WorkerFailure) (stamp : MutationStamp) :
    reportFailure db execution failure stamp = (db, .failing failure) ∨
      ∃ reported, setSqliteCellRunFailure db execution.input (failure.report execution.retryCount) stamp = .ok reported ∧
        reportFailure db execution failure stamp = (reported, .reported) := by
  unfold reportFailure
  split
  · exact Or.inl rfl
  · rename_i reported hreported
    exact Or.inr ⟨reported, hreported, rfl⟩

theorem reportFailure_worked (db : Database ν) (execution : CellExecution ν) (failure : WorkerFailure) (stamp : MutationStamp) :
    Worked execution.input.runId db (reportFailure db execution failure stamp).1 := by
  obtain hfailed | ⟨reported, hreport, hreported⟩ := reportFailure_cases db execution failure stamp
  · rw [hfailed]
    exact Worked.refl _ _
  · rw [hreported]
    obtain ⟨hleaves, hstand, _⟩ := setFailure_leaves hreport
    exact hleaves.worked hstand

variable [JsRuntime ν]

theorem succeedExecution_worked (db : Database ν) (input : CellRunInput) (run : CellRun ν) (credential : Option Credential)
    (output : Json ν) (value : CellValue ν) (bookkeeping : Except StoreError Unit) (stamp : MutationStamp) :
    Worked input.runId db (succeedExecution db input run credential output value bookkeeping stamp).1 := by
  unfold succeedExecution
  split
  · exact Worked.refl _ _
  · rename_i succeeded hsucceeded
    obtain ⟨hleaves, hstand, _⟩ := succeed_leaves hsucceeded
    split
    · exact hleaves.worked hstand
    · exact (hleaves.worked hstand).trans (touchCredential_worked _ _ _ _)

variable [RunPlanRuntime ν]

theorem work_worked (execution : CellExecution ν) (db : Database ν) (step : WorkerStep ν) :
    Worked execution.input.runId db (execution.work db step).1 := by
  cases step with
  | load =>
    unfold CellExecution.work
    dsimp only
    split <;> exact Worked.refl _ _
  | check =>
    unfold CellExecution.work
    dsimp only
    split <;> exact Worked.refl _ _
  | plan =>
    unfold CellExecution.work
    dsimp only
    split <;> exact Worked.refl _ _
  | readProvider progress now =>
    unfold CellExecution.work
    dsimp only
    split
    · exact readProvider_worked _ _ _ _ _ _ _ _
    · exact Worked.refl _ _
  | request => exact Worked.refl _ _
  | answer answer progress =>
    unfold CellExecution.work
    dsimp only
    split
    · exact afterProvider_worked _ _ _ _ _ _ _ _
    · exact Worked.refl _ _
  | produce =>
    unfold CellExecution.work
    dsimp only
    split <;> exact Worked.refl _ _
  | throw failure =>
    unfold CellExecution.work
    dsimp only
    split <;> exact Worked.refl _ _
  | succeed output value bookkeeping stamp =>
    unfold CellExecution.work
    dsimp only
    split
    · exact succeedExecution_worked _ _ _ _ _ _ _ _
    · exact Worked.refl _ _
  | report stamp =>
    unfold CellExecution.work
    dsimp only
    split
    · exact reportFailure_worked _ _ _ _
    · exact Worked.refl _ _
  | stop => exact Worked.refl _ _

theorem work_ended {execution : CellExecution ν} (h : execution.phase.live = false) (db : Database ν) (step : WorkerStep ν) :
    execution.work db step = (db, execution.phase) := by
  cases hphase : execution.phase with
  | reported => cases step <;> simp [CellExecution.work, hphase, CellExecutionPhase.live]
  | stopped => cases step <;> simp [CellExecution.work, hphase, CellExecutionPhase.live]
  | _ =>
    rw [hphase] at h
    cases h

omit [JsRuntime ν] [RunPlanRuntime ν] in
def StatusKept (input : CellRunInput) (db db' : Database ν) : Prop :=
  ∀ run, db.runInScope input = some run → ∃ run', db'.runInScope input = some run' ∧ run'.status = run.status

omit [JsRuntime ν] [RunPlanRuntime ν] in
theorem StatusKept.of_eq {input : CellRunInput} {db db' : Database ν} (h : db'.cellRuns = db.cellRuns) :
    StatusKept input db db' := by
  intro run hrun
  refine ⟨run, ?_, rfl⟩
  rw [← hrun, Database.runInScope, h]
  rfl

omit [JsRuntime ν] [RunPlanRuntime ν] in
theorem saveRunProgress_kept (db : Database ν) (input : CellRunInput) (id : String) (progress : Json ν) :
    StatusKept input db (saveRunProgress db id progress) := by
  intro run hrun
  refine ⟨_, runInScope_modify (f := fun run => { run with output := some progress }) ⟨fun _ => rfl⟩ rfl (fun _ => rfl) hrun, ?_⟩
  split <;> rfl

omit [JsRuntime ν] [RunPlanRuntime ν] in
theorem afterProvider_kept (db : Database ν) (input : CellRunInput) (run : CellRun ν) (credential : Option Credential)
    (plan : HttpWaterfallRunPlan) (index : Nat) (progress : Json ν) (answer : Except ProviderError Bool) :
    StatusKept input db (afterProvider db run credential plan index progress answer).1 := by
  unfold afterProvider
  split
  · exact StatusKept.of_eq rfl
  · exact saveRunProgress_kept _ _ _ _
  · dsimp only
    split
    · exact saveRunProgress_kept _ _ _ _
    · exact saveRunProgress_kept _ _ _ _

omit [JsRuntime ν] [RunPlanRuntime ν] in
theorem readProvider_kept (db : Database ν) (input : CellRunInput) (run : CellRun ν) (credential : Option Credential)
    (plan : HttpWaterfallRunPlan) (index : Nat) (progress : Json ν) (now : Int) :
    StatusKept input db (readProvider db run credential plan index progress now).1 := by
  unfold readProvider
  split
  · exact StatusKept.of_eq rfl
  · split
    · exact afterProvider_kept _ _ _ _ _ _ _ _
    · rename_i resolved hresolved
      exact StatusKept.of_eq (resolveWaterfallCredential_eq_ok hresolved).2.1

def CellRunStatus.held (status : CellRunStatus) : Prop :=
  status = .running ∨ status = .cancelled

def CellExecutionPhase.admits (phase : CellExecutionPhase ν) (status : CellRunStatus) : Prop :=
  match phase with
  | .failing _ => status ≠ .queued
  | _ => status.held

omit [JsRuntime ν] [RunPlanRuntime ν] in
theorem CellRunStatus.held.admitted {status : CellRunStatus} (h : status.held) (phase : CellExecutionPhase ν) :
    phase.admits status := by
  cases phase with
  | failing failure =>
    obtain rfl | rfl := h
    · exact fun hqueued => by cases hqueued
    · exact fun hqueued => by cases hqueued
  | _ => exact h

omit [JsRuntime ν] [RunPlanRuntime ν] in
theorem StatusKept.admitted {input : CellRunInput} {db db' : Database ν} (h : StatusKept input db db') {run : CellRun ν}
    (hrun : db.runInScope input = some run) (hheld : run.status.held) (phase : CellExecutionPhase ν) :
    ∃ run', db'.runInScope input = some run' ∧ phase.admits run'.status := by
  obtain ⟨run', hrun', hstatus⟩ := h run hrun
  exact ⟨run', hrun', hstatus ▸ hheld.admitted phase⟩

omit [RunPlanRuntime ν] in
theorem succeedExecution_run {db : Database ν} {input : CellRunInput} {run : CellRun ν} {credential : Option Credential}
    {output : Json ν} {value : CellValue ν} {bookkeeping : Except StoreError Unit} {stamp : MutationStamp} {stored : CellRun ν}
    (hrun : db.runInScope input = some stored) (hheld : stored.status.held)
    (hlive : (succeedExecution db input run credential output value bookkeeping stamp).2.live = true) :
    ∃ run', (succeedExecution db input run credential output value bookkeeping stamp).1.runInScope input = some run' ∧
      (succeedExecution db input run credential output value bookkeeping stamp).2.admits run'.status := by
  unfold succeedExecution at hlive ⊢
  split at hlive
  · exact (StatusKept.of_eq rfl).admitted hrun hheld _
  · rename_i succeeded hsucceeded
    obtain ⟨_, _, run', hrun', hstatus⟩ := succeed_leaves hsucceeded
    split at hlive
    · refine ⟨run', hrun', ?_⟩
      show run'.status ≠ .queued
      rw [hstatus]
      exact fun hqueued => by cases hqueued
    · cases hlive

theorem work_kept (execution : CellExecution ν) (db : Database ν) (step : WorkerStep ν) :
    StatusKept execution.input db (execution.work db step).1 ∨
      (∃ run credential output value bookkeeping stamp, execution.phase = .answered run credential ∧
        execution.work db step = succeedExecution db execution.input run credential output value bookkeeping stamp) ∨
      ∃ failure stamp, execution.phase = .failing failure ∧ execution.work db step = reportFailure db execution failure stamp := by
  have hsame : StatusKept execution.input db db := StatusKept.of_eq rfl
  cases step with
  | load =>
    refine Or.inl ?_
    unfold CellExecution.work
    dsimp only
    split <;> exact hsame
  | check =>
    refine Or.inl ?_
    unfold CellExecution.work
    dsimp only
    split <;> exact hsame
  | plan =>
    refine Or.inl ?_
    unfold CellExecution.work
    dsimp only
    split <;> exact hsame
  | readProvider progress now =>
    refine Or.inl ?_
    unfold CellExecution.work
    dsimp only
    split
    · exact readProvider_kept _ _ _ _ _ _ _ _
    · exact hsame
  | request => exact Or.inl hsame
  | answer answer progress =>
    refine Or.inl ?_
    unfold CellExecution.work
    dsimp only
    split
    · exact afterProvider_kept _ _ _ _ _ _ _ _
    · exact hsame
  | produce =>
    refine Or.inl ?_
    unfold CellExecution.work
    dsimp only
    split <;> exact hsame
  | throw failure =>
    refine Or.inl ?_
    unfold CellExecution.work
    dsimp only
    split <;> exact hsame
  | succeed output value bookkeeping stamp =>
    cases hphase : execution.phase with
    | answered run credential =>
      refine Or.inr (Or.inl ⟨run, credential, output, value, bookkeeping, stamp, rfl, ?_⟩)
      simp only [CellExecution.work, hphase]
    | _ =>
      simp only [CellExecution.work, hphase]
      exact Or.inl hsame
  | report stamp =>
    cases hphase : execution.phase with
    | failing failure =>
      refine Or.inr (Or.inr ⟨failure, stamp, rfl, ?_⟩)
      simp only [CellExecution.work, hphase]
    | _ =>
      simp only [CellExecution.work, hphase]
      exact Or.inl hsame
  | stop => exact Or.inl hsame

theorem work_failing {execution : CellExecution ν} {failure : WorkerFailure} (h : execution.phase = .failing failure)
    (db : Database ν) (step : WorkerStep ν) : (execution.work db step).2 = .failing failure ∨
      (execution.work db step).2 = .stopped ∨ ∃ stamp, execution.work db step = reportFailure db execution failure stamp := by
  cases step with
  | report stamp => exact Or.inr (Or.inr ⟨stamp, by simp only [CellExecution.work, h]⟩)
  | stop => exact Or.inr (Or.inl (by simp only [CellExecution.work, h, CellExecutionPhase.live, if_true]))
  | _ => exact Or.inl (by simp only [CellExecution.work, h])

theorem work_run {execution : CellExecution ν} {db : Database ν} {step : WorkerStep ν} {run : CellRun ν}
    (hrun : db.runInScope execution.input = some run) (hstatus : execution.phase.admits run.status)
    (hbefore : execution.phase.live = true) (hlive : (execution.work db step).2.live = true) :
    ∃ run', (execution.work db step).1.runInScope execution.input = some run' ∧
      (execution.work db step).2.admits run'.status := by
  obtain hkept | ⟨stored, credential, output, value, bookkeeping, stamp, hphase, hwork⟩ | ⟨failure, stamp, hphase, hwork⟩ :=
    work_kept execution db step
  · cases hphase : execution.phase with
    | failing failure =>
      obtain ⟨run', hrun', hsame⟩ := hkept run hrun
      rw [hphase] at hstatus
      obtain hwork | hwork | ⟨stamp, hwork⟩ := work_failing hphase db step
      · rw [hwork]
        refine ⟨run', hrun', ?_⟩
        show run'.status ≠ .queued
        rw [hsame]
        exact hstatus
      · rw [hwork] at hlive
        cases hlive
      · rw [hwork] at hlive ⊢
        obtain hfailed | ⟨_, _, hreported⟩ := reportFailure_cases db execution failure stamp
        · rw [hfailed]
          exact ⟨run, hrun, hstatus⟩
        · rw [hreported] at hlive
          cases hlive
    | reported =>
      rw [hphase] at hbefore
      cases hbefore
    | stopped =>
      rw [hphase] at hbefore
      cases hbefore
    | _ =>
      rw [hphase] at hstatus
      exact hkept.admitted hrun hstatus _
  · rw [hphase] at hstatus
    rw [hwork] at hlive ⊢
    exact succeedExecution_run hrun hstatus hlive
  · rw [hphase] at hstatus
    rw [hwork] at hlive ⊢
    obtain hfailed | ⟨_, _, hreported⟩ := reportFailure_cases db execution failure stamp
    · rw [hfailed]
      exact ⟨run, hrun, hstatus⟩
    · rw [hreported] at hlive
      cases hlive

end Work

section Owners

variable {ν : Type}

/-- The execution has its run, in one of the given statuses, and no other live execution is of the same run. -/
structure Owns (s : GateState ν) (index : Nat) (execution : CellExecution ν) (P : CellRunStatus → Prop) : Prop where
  found : s.executions[index]? = some execution
  run : ∃ run, s.db.runInScope execution.input = some run ∧ P run.status
  alone : ∀ other e, s.executions[other]? = some e → other ≠ index → e.phase.live = true →
    e.input.runId ≠ execution.input.runId

variable [JsRuntime ν] [ConnectorRuntime ν] [EndpointRuntime] [RunPlanRuntime ν]

theorem step_store (s : GateState ν) (action : StoreAction ν) :
    (s.step (.store action)).executions = s.executions ∧ Transacted s.db action (s.step (.store action)).db := by
  refine ⟨rfl, ?_⟩
  rw [GateState.step]
  cases htransact : s.db.transact action with
  | error _ => exact Transacted.refl _ _
  | ok next => exact transact_eq_ok htransact

theorem step_start (s : GateState ν) (input : CellRunInput) (retryCount : Nat) (now : Int) :
    s.step (.start input retryCount now) = s ∨
      ∃ started, markSqliteCellRunRunning s.db input now = .ok (.ready, started) ∧
        s.step (.start input retryCount now) = ⟨started, s.executions ++ [⟨input, retryCount, .marked⟩]⟩ := by
  unfold GateState.step
  dsimp only
  split
  · rename_i started hstarted
    exact Or.inr ⟨started, hstarted, rfl⟩
  · exact Or.inl rfl

theorem step_work (s : GateState ν) (index : Nat) (step : WorkerStep ν) :
    s.executions[index]? = none ∧ s.step (.work index step) = s ∨
      ∃ execution, s.executions[index]? = some execution ∧ s.step (.work index step) =
        ⟨(execution.work s.db step).1, s.executions.set index { execution with phase := (execution.work s.db step).2 }⟩ := by
  unfold GateState.step
  dsimp only
  cases hget : s.executions[index]? with
  | none => exact Or.inl ⟨rfl, rfl⟩
  | some execution => exact Or.inr ⟨execution, rfl, rfl⟩

omit [ConnectorRuntime ν] [EndpointRuntime] in
theorem work_live {execution : CellExecution ν} {db : Database ν} {step : WorkerStep ν}
    (h : (execution.work db step).2.live = true) : execution.phase.live = true := by
  by_contra hended
  rw [work_ended (Bool.eq_false_of_not_eq_true hended)] at h
  exact hended h

omit [JsRuntime ν] [ConnectorRuntime ν] [EndpointRuntime] [RunPlanRuntime ν] in
theorem runInScope_same {db : Database ν} {input input' : CellRunInput} {run run' : CellRun ν}
    (h : db.runInScope input = some run) (h' : db.runInScope input' = some run') (hid : input.runId = input'.runId) :
    run = run' := by
  obtain ⟨hmem, hscope⟩ := runInScope_eq_some.mp h
  obtain ⟨hmem', hscope'⟩ := runInScope_eq_some.mp h'
  refine Table.eq_of_key hmem hmem' ?_
  exact (runScope_iff.mp hscope).1.trans (hid.trans (runScope_iff.mp hscope').1.symm)

theorem Owns.foreign {s : GateState ν} {index : Nat} {execution : CellExecution ν} {P : CellRunStatus → Prop}
    (h : Owns s index execution P) (hP : ∀ before after, P before → before.Settles after → P after) (hqueued : ¬ P .queued)
    {action : GateAction ν} (hother : ∀ step, action ≠ .work index step) : Owns (s.step action) index execution P := by
  obtain ⟨run, hrun, hstatus⟩ := h.run
  cases action with
  | store action =>
    obtain ⟨hexecutions, htransacted⟩ := step_store s action
    obtain ⟨run', hrun', hsettles⟩ := htransacted.settles execution.input run (Option.some_ne_none _) hrun
    exact ⟨hexecutions ▸ h.found, ⟨run', hrun', hP _ _ hstatus hsettles⟩, hexecutions ▸ h.alone⟩
  | start input retryCount now =>
    obtain hsame | ⟨started, hmark, hstep⟩ := step_start s input retryCount now
    · rw [hsame]
      exact h
    · obtain ⟨_, hstand, queued, hscope, hstatusQueued, _⟩ := mark_ready hmark
      have hdifferent : input.runId ≠ execution.input.runId := by
        intro hid
        have hsame : queued = run := runInScope_same hscope hrun hid
        rw [hsame] at hstatusQueued
        rw [hstatusQueued] at hstatus
        exact hqueued hstatus
      obtain ⟨run', hrun', hsettles⟩ := hstand.settles execution.input run
        (fun hid => hdifferent (Option.some.inj hid).symm) hrun
      have hlength : index < s.executions.length := (List.getElem?_eq_some_iff.mp h.found).1
      rw [hstep]
      refine ⟨?_, ⟨run', hrun', hP _ _ hstatus hsettles⟩, fun other e hget hne hlive => ?_⟩
      · rw [List.getElem?_append_left hlength]
        exact h.found
      · by_cases hold : other < s.executions.length
        · rw [List.getElem?_append_left hold] at hget
          exact h.alone other e hget hne hlive
        · rw [List.getElem?_append_right (Nat.not_lt.mp hold)] at hget
          obtain rfl := List.mem_singleton.mp (List.mem_of_getElem? hget)
          exact hdifferent
  | work other step =>
    have hne : other ≠ index := fun hsame => hother step (hsame ▸ rfl)
    obtain ⟨_, hsame⟩ | ⟨e, hget, hstep⟩ := step_work s other step
    · rw [hsame]
      exact h
    · by_cases hlive : e.phase.live = true
      · have hdifferent := h.alone other e hget hne hlive
        obtain ⟨run', hrun', hsettles⟩ := (work_worked e s.db step).stand.settles execution.input run
          (fun hid => hdifferent (Option.some.inj hid).symm) hrun
        rw [hstep]
        refine ⟨?_, ⟨run', hrun', hP _ _ hstatus hsettles⟩, fun third e' hget' hne' hlive' => ?_⟩
        · rw [List.getElem?_set_ne hne]
          exact h.found
        · by_cases hthird : third = other
          · subst hthird
            rw [List.getElem?_set_self (List.getElem?_eq_some_iff.mp hget).1, Option.some.injEq] at hget'
            rw [← hget']
            exact hdifferent
          · rw [List.getElem?_set_ne (Ne.symm hthird)] at hget'
            exact h.alone third e' hget' hne' hlive'
      · have hended : e.phase.live = false := Bool.eq_false_of_not_eq_true hlive
        rw [work_ended hended s.db step] at hstep
        have hset : s.executions.set other { e with phase := e.phase } = s.executions := by
          exact (List.getElem?_eq_some_iff.mp hget).2 ▸ List.set_getElem_self _
        rw [hstep]
        dsimp only
        rw [hset]
        exact h

structure GateInvariant (s : GateState ν) : Prop where
  owns : ∀ index execution, s.executions[index]? = some execution → execution.phase.live = true →
    Owns s index execution execution.phase.admits

omit [JsRuntime ν] [ConnectorRuntime ν] [EndpointRuntime] [RunPlanRuntime ν] in
theorem admits_settles {phase : CellExecutionPhase ν} {before after : CellRunStatus} (h : phase.admits before)
    (hsettles : before.Settles after) : phase.admits after := by
  obtain rfl | ⟨_, rfl⟩ := hsettles
  · exact h
  · have hheld : CellRunStatus.cancelled.held := Or.inr rfl
    exact hheld.admitted phase

omit [JsRuntime ν] [ConnectorRuntime ν] [EndpointRuntime] [RunPlanRuntime ν] in
theorem not_admits_queued (phase : CellExecutionPhase ν) : ¬ phase.admits .queued := by
  intro h
  cases phase with
  | failing _ => exact h rfl
  | _ =>
    obtain hqueued | hqueued := h
    · cases hqueued
    · cases hqueued

theorem GateInvariant.step {s : GateState ν} (h : GateInvariant s) (action : GateAction ν) : GateInvariant (s.step action) := by
  constructor
  intro index execution hget hlive
  -- Whoever was there before and did not take this step still has its run.
  have hforeign : (∀ step, action ≠ .work index step) → s.executions[index]? = some execution →
      Owns (s.step action) index execution execution.phase.admits := by
    intro hother hold
    exact (h.owns index execution hold hlive).foreign (fun _ _ => admits_settles) (not_admits_queued _) hother
  cases action with
  | store action => exact hforeign (fun step hsame => by cases hsame) ((step_store s action).1 ▸ hget)
  | start input retryCount now =>
    obtain hsame | ⟨started, hmark, hstep⟩ := step_start s input retryCount now
    · exact hforeign (fun step hsame => by cases hsame) (hsame ▸ hget)
    · rw [hstep] at hget
      by_cases hold : index < s.executions.length
      · rw [List.getElem?_append_left hold] at hget
        exact hforeign (fun step hsame => by cases hsame) hget
      · have hindex := Nat.not_lt.mp hold
        rw [List.getElem?_append_right hindex] at hget
        obtain ⟨hposition, _⟩ := List.getElem?_eq_some_iff.mp hget
        obtain rfl := List.mem_singleton.mp (List.mem_of_getElem? hget)
        obtain ⟨_, hstand, queued, hscope, hstatus, hstarted⟩ := mark_ready hmark
        rw [hstep]
        refine ⟨?_, ⟨_, hstarted, Or.inl rfl⟩, fun other e hget' hne hlive' hid => ?_⟩
        · rw [List.getElem?_append_right hindex]
          exact hget
        · have hbefore : other < s.executions.length := by
            by_contra hafter
            rw [List.getElem?_append_right (Nat.not_lt.mp hafter)] at hget'
            obtain ⟨hother, _⟩ := List.getElem?_eq_some_iff.mp hget'
            simp only [List.length_singleton] at hposition hother
            omega
          rw [List.getElem?_append_left hbefore] at hget'
          obtain ⟨run, hrun, hadmits⟩ := (h.owns other e hget' hlive').run
          have hsame : run = queued := runInScope_same hrun hscope hid
          rw [hsame, hstatus] at hadmits
          exact not_admits_queued _ hadmits
  | work other step =>
    by_cases hsame : other = index
    · subst hsame
      obtain ⟨hnone, hstep⟩ | ⟨e, hold, hstep⟩ := step_work s other step
      · rw [hstep, hnone] at hget
        cases hget
      · have hlength := (List.getElem?_eq_some_iff.mp hold).1
        rw [hstep, List.getElem?_set_self hlength, Option.some.injEq] at hget
        rw [← hget] at hlive
        have hbefore : e.phase.live = true := work_live hlive
        have howns := h.owns other e hold hbefore
        obtain ⟨run, hrun, hadmits⟩ := howns.run
        rw [hstep, ← hget]
        refine ⟨List.getElem?_set_self hlength, work_run hrun hadmits hbefore hlive, fun third e' hget' hne hlive' => ?_⟩
        rw [List.getElem?_set_ne (Ne.symm hne)] at hget'
        exact howns.alone third e' hget' hne hlive'
    · obtain ⟨_, hstep⟩ | ⟨e, hold, hstep⟩ := step_work s other step
      · exact hforeign (fun step' heq => hsame (by cases heq; rfl)) (hstep ▸ hget)
      · rw [hstep, List.getElem?_set_ne hsame] at hget
        exact hforeign (fun step' heq => hsame (by cases heq; rfl)) hget

end Owners

end ByokGrid
