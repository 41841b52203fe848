import ByokGrid.RevocationRuns

/-! What revocations promise: nothing is created or queued for a revoked connector, an execution which reads its run
after the revocation sends nothing and fails, and no request carries a credential which was revoked before it was read. -/

namespace ByokGrid

section Refused

variable {ν : Type}

theorem connectorExecutionIsRevoked_mono {identity : ConnectorExecutionIdentity} {xs ys : List ConnectorRevocation}
    (hsub : xs ⊆ ys) (h : connectorExecutionIsRevoked identity xs = true) : connectorExecutionIsRevoked identity ys = true := by
  rw [connectorExecutionIsRevoked_iff] at h ⊢
  exact h.mono (List.map_subset _ hsub)

def CellExecutionPhase.refuses (phase : CellExecutionPhase ν) (status : CellRunStatus) : Prop :=
  match phase with
  | .loaded _ _ => status.held
  | .failing failure => failure.retryable = false ∧ status.held
  | .reported => status = .failed ∨ status = .cancelled
  | .stopped => status.held
  | _ => False

theorem held_settles {before after : CellRunStatus} (h : before.held) (hsettles : before.Settles after) : after.held := by
  obtain rfl | ⟨_, rfl⟩ := hsettles
  · exact h
  · exact Or.inr rfl

theorem refuses_settles {phase : CellExecutionPhase ν} {before after : CellRunStatus} (h : phase.refuses before)
    (hsettles : before.Settles after) : phase.refuses after := by
  cases phase with
  | loaded run credential => exact held_settles h hsettles
  | failing failure => exact ⟨h.1, held_settles h.2 hsettles⟩
  | reported =>
    obtain rfl | ⟨_, rfl⟩ := hsettles
    · exact h
    · exact Or.inr rfl
  | stopped => exact held_settles h hsettles
  | _ => exact h

theorem refuses_not_queued {phase : CellExecutionPhase ν} {status : CellRunStatus} (h : phase.refuses status) :
    status ≠ .queued := by
  rintro rfl
  cases phase with
  | loaded run credential => obtain hsame | hsame := h <;> cases hsame
  | failing failure => obtain hsame | hsame := h.2 <;> cases hsame
  | reported => obtain hsame | hsame := h <;> cases hsame
  | stopped => obtain hsame | hsame := h <;> cases hsame
  | _ => exact h

theorem refuses_sends {execution : CellExecution ν} {status : CellRunStatus} (h : execution.phase.refuses status) :
    execution.sends = [] := by
  unfold CellExecution.sends
  cases hphase : execution.phase with
  | allowed run credential =>
    rw [hphase] at h
    cases h
  | provider run credential plan index provider read =>
    rw [hphase] at h
    cases h
  | _ => rfl

def GateState.waits (s : GateState ν) (index : Nat) : Bool :=
  s.executions[index]?.any fun execution =>
    match execution.phase with
    | .loaded _ _ => true
    | _ => false

structure RefusedExecution (revocations : List ConnectorRevocation) (index : Nat) (s : GateState ν) : Prop where
  owns : ∃ execution, Owns s index execution execution.phase.refuses
  waiting : ∀ execution run credential, s.executions[index]? = some execution → execution.phase = .loaded run credential →
    connectorExecutionIsRevoked run.identity revocations = true ∧ revocations ⊆ getActiveSqliteConnectorRevocations s.db

def KeepsRevocations (revocations : List ConnectorRevocation) (index : Nat) (s : GateState ν) : GateAction ν → Prop
  | .store (.liftRevocation input _) =>
    s.waits index = true → ∀ revocation ∈ revocations, revocation.id ≠ input.revocationId
  | _ => True

theorem waits_of_loaded {s : GateState ν} {index : Nat} {execution : CellExecution ν} {run : CellRun ν}
    {credential : Option Credential} (hget : s.executions[index]? = some execution)
    (hphase : execution.phase = .loaded run credential) : s.waits index = true := by
  rw [GateState.waits, hget, Option.any_some, hphase]

theorem checkPhase_revoked {db : Database ν} {run : CellRun ν} (credential : Option Credential)
    (h : ConnectorRevoked db run.identity = true) :
    ∃ failure, checkPhase db run credential = .failing failure ∧ failure.retryable = false := by
  unfold checkPhase
  cases hcheck : requireSqliteConnectorExecutionAllowed db.connectorRevocations run.identity with
  | ok u =>
    rw [requireAllowed_eq_ok, h] at hcheck
    cases hcheck
  | error error =>
    refine ⟨_, rfl, ?_⟩
    unfold requireSqliteConnectorExecutionAllowed requireThat at hcheck
    split at hcheck
    · cases hcheck
    · cases hcheck
      rfl

variable [JsRuntime ν] [RunPlanRuntime ν]

theorem work_refused {execution : CellExecution ν} {db : Database ν} {run : CellRun ν}
    (hrun : db.runInScope execution.input = some run) (hrefuses : execution.phase.refuses run.status)
    (hwaiting : ∀ run credential, execution.phase = .loaded run credential → ConnectorRevoked db run.identity = true)
    (step : WorkerStep ν) :
    (∃ run', (execution.work db step).1.runInScope execution.input = some run' ∧
        (execution.work db step).2.refuses run'.status) ∧
      ∀ run credential, (execution.work db step).2 = .loaded run credential → execution.phase = .loaded run credential := by
  cases hphase : execution.phase with
  | loaded loaded credential =>
    rw [hphase] at hrefuses
    cases step with
    | check =>
      obtain ⟨failure, hcheck, hretryable⟩ := checkPhase_revoked credential (hwaiting loaded credential hphase)
      simp only [CellExecution.work, hphase, hcheck]
      exact ⟨⟨run, hrun, hretryable, hrefuses⟩, fun _ _ hloaded => by cases hloaded⟩
    | stop =>
      simp only [CellExecution.work, hphase, CellExecutionPhase.live, if_true]
      exact ⟨⟨run, hrun, hrefuses⟩, fun _ _ hloaded => by cases hloaded⟩
    | _ =>
      simp only [CellExecution.work, hphase]
      exact ⟨⟨run, hrun, hrefuses⟩, fun _ _ hloaded => hloaded⟩
  | failing failure =>
    rw [hphase] at hrefuses
    obtain ⟨hretryable, hheld⟩ := hrefuses
    cases step with
    | report stamp =>
      have hwork : execution.work db (.report stamp) = reportFailure db execution failure stamp := by
        simp only [CellExecution.work, hphase]
      rw [hwork]
      obtain hfailed | ⟨reported, hset, hreported⟩ := reportFailure_cases db execution failure stamp
      · rw [hfailed]
        exact ⟨⟨run, hrun, hretryable, hheld⟩, fun _ _ hloaded => by cases hloaded⟩
      · rw [hreported]
        obtain ⟨_, _, hwritten⟩ := setFailure_leaves hset
        obtain ⟨run', hrun', hstatus⟩ := hwritten run hrun
        refine ⟨⟨run', hrun', ?_⟩, fun _ _ hloaded => by cases hloaded⟩
        have hretrying : (failure.report execution.retryCount).retrying = false := by
          rw [WorkerFailure.report, hretryable, Bool.false_and]
        show run'.status = .failed ∨ run'.status = .cancelled
        rw [hstatus, hretrying]
        obtain hrunning | hcancelled := hheld
        · rw [hrunning]
          exact Or.inl rfl
        · rw [hcancelled]
          exact Or.inr rfl
    | stop =>
      simp only [CellExecution.work, hphase, CellExecutionPhase.live, if_true]
      exact ⟨⟨run, hrun, hheld⟩, fun _ _ hloaded => by cases hloaded⟩
    | _ =>
      simp only [CellExecution.work, hphase]
      exact ⟨⟨run, hrun, hretryable, hheld⟩, fun _ _ hloaded => hloaded⟩
  | reported =>
    rw [work_ended (by rw [hphase]; rfl), hphase]
    rw [hphase] at hrefuses
    exact ⟨⟨run, hrun, hrefuses⟩, fun _ _ hloaded => hloaded⟩
  | stopped =>
    rw [work_ended (by rw [hphase]; rfl), hphase]
    rw [hphase] at hrefuses
    exact ⟨⟨run, hrun, hrefuses⟩, fun _ _ hloaded => hloaded⟩
  | _ =>
    rw [hphase] at hrefuses
    cases hrefuses

variable [ConnectorRuntime ν] [EndpointRuntime]

theorem RefusedExecution.step {revocations : List ConnectorRevocation} {index : Nat} {s : GateState ν}
    (h : RefusedExecution revocations index s) {action : GateAction ν} (hkeeps : KeepsRevocations revocations index s action) :
    RefusedExecution revocations index (s.step action) := by
  obtain ⟨execution, howns⟩ := h.owns
  have hforeign : (∀ step, action ≠ .work index step) → Owns (s.step action) index execution execution.phase.refuses :=
    fun hother => howns.foreign (fun _ _ => refuses_settles) (fun hqueued => refuses_not_queued hqueued rfl) hother
  -- The revocations stand after what leaves them as they are.
  have hstanding : (∀ step, action ≠ .work index step) →
      (revocations ⊆ getActiveSqliteConnectorRevocations s.db → s.waits index = true →
        revocations ⊆ getActiveSqliteConnectorRevocations (s.step action).db) →
      RefusedExecution revocations index (s.step action) := by
    intro hother hsub
    refine ⟨⟨execution, hforeign hother⟩, fun e run credential hget hphase => ?_⟩
    rw [(hforeign hother).found, Option.some.injEq] at hget
    subst hget
    obtain ⟨hrevoked, hactive⟩ := h.waiting execution run credential howns.found hphase
    exact ⟨hrevoked, hsub hactive (waits_of_loaded howns.found hphase)⟩
  cases action with
  | store action =>
    refine hstanding (fun step hsame => by cases hsame) fun hactive hwaits revocation hmem => ?_
    refine (step_store s action).2.active revocation (hactive hmem) fun input now hlift => ?_
    subst hlift
    exact hkeeps hwaits revocation hmem
  | start input retryCount now =>
    refine hstanding (fun step hsame => by cases hsame) fun hactive _ => ?_
    obtain hsame | ⟨started, hmark, hstep⟩ := step_start s input retryCount now
    · rw [hsame]
      exact hactive
    · rw [hstep, getActiveSqliteConnectorRevocations, (mark_ready hmark).1.connectorRevocations]
      exact hactive
  | work other step =>
    by_cases hsame : other = index
    · subst hsame
      obtain ⟨hnone, _⟩ | ⟨e, hget, hstep⟩ := step_work s other step
      · rw [howns.found] at hnone
        cases hnone
      · rw [howns.found, Option.some.injEq] at hget
        subst hget
        obtain ⟨run, hrun, hrefuses⟩ := howns.run
        have hlength := (List.getElem?_eq_some_iff.mp howns.found).1
        have hwaiting : ∀ run credential, execution.phase = .loaded run credential → ConnectorRevoked s.db run.identity = true := by
          intro run credential hphase
          obtain ⟨hrevoked, hactive⟩ := h.waiting execution run credential howns.found hphase
          exact connectorExecutionIsRevoked_mono hactive hrevoked
        obtain ⟨hafter, hloaded⟩ := work_refused hrun hrefuses hwaiting step
        rw [hstep]
        refine ⟨⟨_, List.getElem?_set_self hlength, hafter, fun third e' hget' hne hlive => ?_⟩, ?_⟩
        · rw [List.getElem?_set_ne (Ne.symm hne)] at hget'
          exact howns.alone third e' hget' hne hlive
        · intro e run credential hget hphase
          rw [List.getElem?_set_self hlength, Option.some.injEq] at hget
          subst hget
          obtain ⟨hrevoked, hactive⟩ := h.waiting execution run credential howns.found (hloaded run credential hphase)
          refine ⟨hrevoked, ?_⟩
          rw [getActiveSqliteConnectorRevocations, (work_worked execution s.db step).connectorRevocations]
          exact hactive
    · have hother : ∀ step', GateAction.work other step ≠ .work index step' := fun step' heq => hsame (by cases heq; rfl)
      refine hstanding hother fun hactive _ => ?_
      obtain ⟨_, hstep⟩ | ⟨e, _, hstep⟩ := step_work s other step
      · rw [hstep]
        exact hactive
      · rw [hstep, getActiveSqliteConnectorRevocations, (work_worked e s.db step).connectorRevocations]
        exact hactive

end Refused

section Held

variable {ν : Type}

def CellExecutionPhase.credential? : CellExecutionPhase ν → Option Credential
  | .loaded _ credential => credential
  | .allowed _ credential => credential
  | .provider _ _ _ _ _ read => read
  | _ => none

def GateState.holds (s : GateState ν) (index : Nat) : Option Credential :=
  s.executions[index]?.bind fun execution => execution.phase.credential?

theorem sends_holds {s : GateState ν} {index : Nat} {request : CellRunRequest}
    (h : request ∈ s.sends (.work index .request)) : request.execution = index ∧ s.holds index = request.credential := by
  obtain ⟨execution, hget, hsends⟩ := List.mem_flatMap.mp h
  obtain ⟨credential, hcredential, rfl⟩ := List.mem_map.mp hsends
  refine ⟨rfl, ?_⟩
  rw [GateState.holds, Option.mem_toList.mp hget]
  show execution.phase.credential? = credential
  unfold CellExecution.sends at hcredential
  split at hcredential
  · rename_i hphase
    rw [hphase]
    split at hcredential
    · cases hcredential
    · exact (List.mem_singleton.mp hcredential).symm
  · rename_i hphase
    rw [hphase]
    exact (List.mem_singleton.mp hcredential).symm
  · cases hcredential

theorem loadExecution_credential {db : Database ν} {input : CellRunInput} {run : CellRun ν} {credential : Credential}
    (h : loadExecution db input = .ok (run, some credential)) : CredentialRevoked db credential.id = false := by
  unfold loadExecution at h
  split at h
  · cases h
  · dsimp only at h
    split at h
    · cases h
    · rename_i stored _ hchecks
      rw [Except.ok.injEq, Prod.mk.injEq] at h
      obtain ⟨_, hfound⟩ := h
      rw [hfound, Option.any_some, Bool.not_eq_true, Bool.or_eq_false_iff] at hchecks
      obtain ⟨id, _, hget⟩ := Option.bind_eq_some_iff.mp hfound
      have hid : credential.id = id := (Table.get?_eq_some.mp hget).2
      rw [CredentialRevoked, hid, hget, Option.any_some]
      exact hchecks.1

theorem afterProvider_credential (db : Database ν) (run : CellRun ν) (credential : Option Credential)
    (plan : HttpWaterfallRunPlan) (index : Nat) (progress : Json ν) (answer : Except ProviderError Bool) :
    (afterProvider db run credential plan index progress answer).2.credential? = none := by
  unfold afterProvider
  split
  · rfl
  · rfl
  · dsimp only
    split <;> rfl

theorem readProvider_credential {db : Database ν} {run : CellRun ν} {credential : Option Credential}
    {plan : HttpWaterfallRunPlan} {index : Nat} {progress : Json ν} {now : Int} {read : Credential}
    (h : (readProvider db run credential plan index progress now).2.credential? = some read) :
    CredentialRevoked db read.id = false := by
  unfold readProvider at h
  split at h
  · cases h
  · split at h
    · rw [afterProvider_credential] at h
      cases h
    · rename_i resolved hresolved
      exact (resolveWaterfallCredential_eq_ok hresolved).2.2 read h

theorem succeedExecution_credential [JsRuntime ν] (db : Database ν) (input : CellRunInput) (run : CellRun ν)
    (credential : Option Credential) (output : Json ν) (value : CellValue ν) (bookkeeping : Except StoreError Unit)
    (stamp : MutationStamp) :
    (succeedExecution db input run credential output value bookkeeping stamp).2.credential? = none := by
  unfold succeedExecution
  split
  · rfl
  · split <;> rfl

variable [JsRuntime ν] [RunPlanRuntime ν]

theorem work_credential {execution : CellExecution ν} {db : Database ν} {step : WorkerStep ν} {credential : Credential}
    (h : (execution.work db step).2.credential? = some credential) : execution.phase.credential? = some credential ∨
      execution.phase.credential? = none ∧ CredentialRevoked db credential.id = false := by
  cases step with
  | load =>
    unfold CellExecution.work at h
    dsimp only at h
    split at h
    · rename_i hphase
      rw [hphase]
      refine Or.inr ⟨rfl, ?_⟩
      unfold loadPhase at h
      split at h
      · rename_i loaded hloaded
        obtain ⟨run, read⟩ := loaded
        have hread : read = some credential := h
        subst hread
        exact loadExecution_credential hloaded
      · cases h
    · exact Or.inl h
  | check =>
    unfold CellExecution.work at h
    dsimp only at h
    split at h
    · rename_i hphase
      rw [hphase]
      unfold checkPhase at h
      split at h
      · exact Or.inl h
      · cases h
    · exact Or.inl h
  | plan =>
    unfold CellExecution.work at h
    dsimp only at h
    split at h
    · rename_i hphase
      rw [hphase]
      split at h
      · unfold planPhase at h
        split at h
        · cases h
        · cases h
      · exact Or.inl h
    · exact Or.inl h
  | readProvider progress now =>
    unfold CellExecution.work at h
    dsimp only at h
    split at h
    · rename_i hphase
      rw [hphase]
      exact Or.inr ⟨rfl, readProvider_credential h⟩
    · exact Or.inl h
  | request => exact Or.inl h
  | answer answer progress =>
    unfold CellExecution.work at h
    dsimp only at h
    split at h
    · rw [afterProvider_credential] at h
      cases h
    · exact Or.inl h
  | produce =>
    unfold CellExecution.work at h
    dsimp only at h
    split at h
    · rename_i hphase
      rw [hphase]
      split at h
      · exact Or.inl h
      · cases h
    · exact Or.inl h
  | throw failure =>
    unfold CellExecution.work at h
    dsimp only at h
    split at h
    · cases h
    · cases h
    · exact Or.inl h
  | succeed output value bookkeeping stamp =>
    unfold CellExecution.work at h
    dsimp only at h
    split at h
    · rw [succeedExecution_credential] at h
      cases h
    · exact Or.inl h
  | report stamp =>
    unfold CellExecution.work at h
    dsimp only at h
    split at h
    · rename_i failure _
      obtain hfailed | ⟨_, _, hreported⟩ := reportFailure_cases db execution failure stamp
      · rw [hfailed] at h
        cases h
      · rw [hreported] at h
        cases h
    · exact Or.inl h
  | stop =>
    unfold CellExecution.work at h
    dsimp only at h
    split at h
    · cases h
    · exact Or.inl h

variable [ConnectorRuntime ν] [EndpointRuntime]

theorem step_holds {s : GateState ν} {action : GateAction ν} {index : Nat} {credential : Credential}
    (h : (s.step action).holds index = some credential) : s.holds index = some credential ∨
      s.holds index = none ∧ (∃ step, action = .work index step) ∧ CredentialRevoked s.db credential.id = false := by
  cases action with
  | store action => exact Or.inl h
  | start input retryCount now =>
    obtain hsame | ⟨started, _, hstep⟩ := step_start s input retryCount now
    · rw [hsame] at h
      exact Or.inl h
    · rw [hstep] at h
      unfold GateState.holds at h ⊢
      by_cases hold : index < s.executions.length
      · rw [List.getElem?_append_left hold] at h
        exact Or.inl h
      · rw [List.getElem?_append_right (Nat.not_lt.mp hold)] at h
        obtain ⟨execution, hget, hheld⟩ := Option.bind_eq_some_iff.mp h
        obtain rfl := List.mem_singleton.mp (List.mem_of_getElem? hget)
        cases hheld
  | work other step =>
    obtain ⟨_, hstep⟩ | ⟨execution, hget, hstep⟩ := step_work s other step
    · rw [hstep] at h
      exact Or.inl h
    · rw [hstep] at h
      unfold GateState.holds at h ⊢
      by_cases hsame : other = index
      · subst hsame
        rw [List.getElem?_set_self (List.getElem?_eq_some_iff.mp hget).1] at h
        rw [hget]
        obtain hheld | ⟨hnone, hunrevoked⟩ := work_credential h
        · exact Or.inl hheld
        · exact Or.inr ⟨hnone, ⟨step, rfl⟩, hunrevoked⟩
      · rw [List.getElem?_set_ne hsame] at h
        exact Or.inl h

theorem step_credentials {s : GateState ν} {credentialId : String} (h : CredentialRevoked s.db credentialId = true)
    (action : GateAction ν) : CredentialRevoked (s.step action).db credentialId = true := by
  cases action with
  | store action => exact (step_store s action).2.credentials credentialId h
  | start input retryCount now =>
    obtain hsame | ⟨started, hmark, hstep⟩ := step_start s input retryCount now
    · rw [hsame]
      exact h
    · rw [hstep, CredentialRevoked, (mark_ready hmark).1.credentials]
      exact h
  | work other step =>
    obtain ⟨_, hstep⟩ | ⟨execution, _, hstep⟩ := step_work s other step
    · rw [hstep]
      exact h
    · rw [hstep]
      exact (work_worked execution s.db step).credentials credentialId h

theorem run_credentials {s : GateState ν} {credentialId : String} (h : CredentialRevoked s.db credentialId = true)
    (actions : List (GateAction ν)) : CredentialRevoked (runActions GateState.step s actions).db credentialId = true := by
  have hstep : ∀ (s : GateState ν) action, CredentialRevoked s.db credentialId = true →
      CredentialRevoked (s.step action).db credentialId = true := fun _ action hrevoked => step_credentials hrevoked action
  exact runActions_invariant hstep h actions

/-- In the run the execution took the credential by a step before which it held none, it has held it ever since, and
at no time up to that step the credential was revoked. -/
def ReadUnrevoked (start : GateState ν) (actions : List (GateAction ν)) (index : Nat) (credential : Credential) : Prop :=
  ∃ before step rest, actions = before ++ .work index step :: rest ∧
    (runActions GateState.step start before).holds index = none ∧
    (∀ middle, middle <+: rest →
      (runActions GateState.step start (before ++ .work index step :: middle)).holds index = some credential) ∧
    ∀ earlier, earlier <+: before → CredentialRevoked (runActions GateState.step start earlier).db credential.id = false

theorem runActions_concat (start : GateState ν) (actions : List (GateAction ν)) (action : GateAction ν) :
    runActions GateState.step start (actions ++ [action]) = (runActions GateState.step start actions).step action :=
  runActions_append start actions [action]

theorem holds_readUnrevoked {start : GateState ν} (hfresh : start.executions = []) {actions : List (GateAction ν)}
    {index : Nat} {credential : Credential} (h : (runActions GateState.step start actions).holds index = some credential) :
    ReadUnrevoked start actions index credential := by
  -- The induction takes away the last step: it kept the credential, or took it.
  induction actions using List.reverseRecOn with
  | nil =>
    have hnone : start.holds index = none := by
      rw [GateState.holds, hfresh]
      rfl
    rw [show runActions GateState.step start [] = start from rfl, hnone] at h
    cases h
  | append_singleton actions action ih =>
    have hafter := h
    rw [runActions_concat] at h
    obtain hheld | ⟨hnone, ⟨step, rfl⟩, hunrevoked⟩ := step_holds h
    · obtain ⟨before, step, rest, rfl, hbefore, hsince, hearlier⟩ := ih hheld
      refine ⟨before, step, rest ++ [action], ?_, hbefore, fun middle hmiddle => ?_, hearlier⟩
      · rw [List.append_assoc, List.cons_append]
      · rcases List.prefix_concat_iff.mp hmiddle with rfl | hmiddle
        · rw [List.append_assoc, List.cons_append] at hafter
          exact hafter
        · exact hsince middle hmiddle
    · refine ⟨actions, step, [], rfl, hnone, fun middle hmiddle => ?_, fun earlier hprefix => ?_⟩
      · rw [List.prefix_nil.mp hmiddle]
        exact hafter
      · obtain ⟨rest, rfl⟩ := hprefix
        by_contra hrevoked
        have hstill : CredentialRevoked (runActions GateState.step start (earlier ++ rest)).db credential.id = true := by
          rw [runActions_append]
          exact run_credentials (Bool.of_not_eq_false hrevoked) rest
        rw [hunrevoked] at hstill
        cases hstill

end Held

section Contract

variable {ν : Type} [JsRuntime ν] [ConnectorRuntime ν] [EndpointRuntime] [RunPlanRuntime ν]

structure LoadsRevoked (s : GateState ν) (index : Nat) (execution : CellExecution ν) : Prop where
  found : s.executions[index]? = some execution
  marked : execution.phase = .marked
  revoked : ∃ run, s.db.runInScope execution.input = some run ∧ ConnectorRevoked s.db run.executed = true

/-- The run is not queued again, and has failed or was cancelled when the execution has reported. -/
structure RunRefused (s : GateState ν) (index : Nat) (input : CellRunInput) : Prop where
  run : ∃ execution run, s.executions[index]? = some execution ∧ s.db.runInScope input = some run ∧ run.status ≠ .queued ∧
    (execution.phase = .reported → run.status = .failed ∨ run.status = .cancelled)

/-- What a run of the system promises:
* a column which is new, and a run which is new, executes a connector that was not revoked for its transaction;
* an execution which reads its run while the connector is revoked sends no request, as long as no revocation is lifted
  before it has asked, and its run is not queued again and ends as failed or cancelled;
* a credential which a request carries was not revoked before the execution read it. -/
structure RevocationContract (start : GateState ν) (actions : List (GateAction ν)) : Prop where
  columns : ∀ before action after, actions = before ++ action :: after →
    ∀ column ∈ (runActions GateState.step start (before ++ [action])).db.grid.columns,
      column ∉ (runActions GateState.step start before).db.grid.columns →
      ∀ identity, column.configuration.executed = some identity →
        ConnectorRevoked (runActions GateState.step start before).db identity = false
  runs : ∀ before action after, actions = before ++ action :: after →
    ∀ run ∈ (runActions GateState.step start (before ++ [action])).db.cellRuns,
      (runActions GateState.step start before).db.cellRuns.get? run.id = none →
      ConnectorRevoked (runActions GateState.step start before).db run.executed = false
  executions : ∀ before index after execution, actions = before ++ .work index .load :: after →
    LoadsRevoked (runActions GateState.step start before) index execution →
    EachStep GateState.step (KeepsRevocations
        (getActiveSqliteConnectorRevocations (runActions GateState.step start before).db) index)
      (runActions GateState.step start (before ++ [.work index .load])) after →
    (∀ request ∈ runOutputs GateState.step GateState.sends
        (runActions GateState.step start (before ++ [.work index .load])) after, request.execution ≠ index) ∧
      RunRefused (runActions GateState.step start actions) index execution.input
  credentials : ∀ before index after, actions = before ++ .work index .request :: after →
    ∀ request ∈ (runActions GateState.step start before).sends (.work index .request),
      ∀ credential, request.credential = some credential → ReadUnrevoked start before index credential

/-- While the built-in connector for HTTP is revoked, nothing which executes it is created or queued, and no waterfall
reads its run. -/
def GateState.AvoidsHttp (s : GateState ν) : GateAction ν → Prop
  | .store action => action.AvoidsHttp s.db
  | .work index .load => ConnectorRevoked s.db httpIdentity = true → ∀ execution run, s.executions[index]? = some execution →
      s.db.runInScope execution.input = some run → run.connectorId ≠ "http_waterfall"
  | _ => True

omit [JsRuntime ν] [ConnectorRuntime ν] [EndpointRuntime] [RunPlanRuntime ν] in
theorem GateInvariant.fresh {start : GateState ν} (h : start.executions = []) : GateInvariant start where
  owns index execution hget _ := by
    rw [h] at hget
    cases hget

theorem LoadsRevoked.refused {s : GateState ν} {index : Nat} {execution : CellExecution ν} (hinvariant : GateInvariant s)
    (h : LoadsRevoked s index execution) (havoids : s.AvoidsHttp (.work index .load)) :
    RefusedExecution (getActiveSqliteConnectorRevocations s.db) index (s.step (.work index .load)) ∧
      ∃ loaded, (s.step (.work index .load)).executions[index]? = some loaded ∧ loaded.input = execution.input := by
  obtain ⟨run, hrun, hrevoked⟩ := h.revoked
  have howns := hinvariant.owns index execution h.found (by rw [h.marked]; rfl)
  obtain ⟨stored, hstored, hheld⟩ := howns.run
  rw [hrun, Option.some.injEq] at hstored
  subst hstored
  rw [h.marked] at hheld
  -- The connector which is executed is the one which is asked about: a waterfall was avoided.
  have hidentity : connectorExecutionIsRevoked run.identity (getActiveSqliteConnectorRevocations s.db) = true := by
    unfold CellRun.executed executedIdentity at hrevoked
    split at hrevoked
    · rename_i hwaterfall
      exact absurd hwaterfall (havoids hrevoked execution run h.found hrun)
    · exact hrevoked
  obtain ⟨hnone, _⟩ | ⟨e, hget, hstep⟩ := step_work s index .load
  · rw [h.found] at hnone
    cases hnone
  · rw [h.found, Option.some.injEq] at hget
    subst hget
    have hlength := (List.getElem?_eq_some_iff.mp h.found).1
    have hwork : execution.work s.db .load = (s.db, loadPhase s.db execution.input) := by
      simp only [CellExecution.work, h.marked]
    have hphase : (loadPhase s.db execution.input).refuses run.status ∧ ∀ loaded credential,
        loadPhase s.db execution.input = .loaded loaded credential → loaded = run := by
      unfold loadPhase loadExecution
      have hfound : (s.db.cellRuns.get? execution.input.runId).filter (runScope execution.input) = some run := hrun
      rw [hfound]
      dsimp only
      split
      · rename_i loaded hloaded
        split at hloaded
        · cases hloaded
        · cases hloaded
          exact ⟨hheld, fun _ _ hsame => by cases hsame; rfl⟩
      · rename_i failure hfailure
        split at hfailure
        · cases hfailure
          exact ⟨⟨rfl, hheld⟩, fun _ _ hsame => by cases hsame⟩
        · cases hfailure
    rw [hstep, hwork]
    refine ⟨⟨⟨_, List.getElem?_set_self hlength, ⟨run, hrun, hphase.1⟩, fun other e' hget' hne hlive => ?_⟩, ?_⟩, ?_⟩
    · rw [List.getElem?_set_ne (Ne.symm hne)] at hget'
      exact howns.alone other e' hget' hne hlive
    · intro e loaded credential hget hloaded
      rw [List.getElem?_set_self hlength, Option.some.injEq] at hget
      subst hget
      rw [hphase.2 loaded credential hloaded]
      exact ⟨hidentity, fun _ hmem => hmem⟩
    · exact ⟨_, List.getElem?_set_self hlength, rfl⟩

theorem step_input {s : GateState ν} {index : Nat} {execution : CellExecution ν} (h : s.executions[index]? = some execution)
    (action : GateAction ν) : ∃ after, (s.step action).executions[index]? = some after ∧ after.input = execution.input := by
  cases action with
  | store action => exact ⟨execution, h, rfl⟩
  | start input retryCount now =>
    obtain hsame | ⟨started, _, hstep⟩ := step_start s input retryCount now
    · rw [hsame]
      exact ⟨execution, h, rfl⟩
    · rw [hstep]
      refine ⟨execution, ?_, rfl⟩
      rw [List.getElem?_append_left (List.getElem?_eq_some_iff.mp h).1]
      exact h
  | work other step =>
    obtain ⟨_, hstep⟩ | ⟨e, hget, hstep⟩ := step_work s other step
    · rw [hstep]
      exact ⟨execution, h, rfl⟩
    · rw [hstep]
      by_cases hsame : other = index
      · subst hsame
        rw [h, Option.some.injEq] at hget
        subst hget
        exact ⟨_, List.getElem?_set_self (List.getElem?_eq_some_iff.mp h).1, rfl⟩
      · refine ⟨execution, ?_, rfl⟩
        rw [List.getElem?_set_ne hsame]
        exact h

theorem run_input {s : GateState ν} {index : Nat} {execution : CellExecution ν} (h : s.executions[index]? = some execution)
    (actions : List (GateAction ν)) :
    ∃ after, (runActions GateState.step s actions).executions[index]? = some after ∧ after.input = execution.input := by
  have hstep : ∀ (s : GateState ν) action,
      (∃ after, s.executions[index]? = some after ∧ after.input = execution.input) →
      ∃ after, (s.step action).executions[index]? = some after ∧ after.input = execution.input := by
    rintro s action ⟨before, hbefore, hinput⟩
    obtain ⟨after, hafter, hsame⟩ := step_input hbefore action
    exact ⟨after, hafter, hsame.trans hinput⟩
  exact runActions_invariant hstep ⟨execution, h, rfl⟩ actions

theorem step_columns {s : GateState ν} {action : GateAction ν} (havoids : s.AvoidsHttp action) :
    ∀ column ∈ (s.step action).db.grid.columns, column ∈ s.db.grid.columns ∨
      ∀ identity, column.configuration.executed = some identity → ConnectorRevoked s.db identity = false := by
  intro column hcolumn
  cases action with
  | store action => exact (step_store s action).2.columns havoids column hcolumn
  | start input retryCount now =>
    obtain hsame | ⟨started, hmark, hstep⟩ := step_start s input retryCount now
    · exact Or.inl (hsame ▸ hcolumn)
    · rw [hstep] at hcolumn
      exact Or.inl ((mark_ready hmark).1.columns ▸ hcolumn)
  | work index step =>
    obtain ⟨_, hstep⟩ | ⟨execution, _, hstep⟩ := step_work s index step
    · exact Or.inl (hstep ▸ hcolumn)
    · rw [hstep] at hcolumn
      exact Or.inl ((work_worked execution s.db step).columns ▸ hcolumn)

theorem step_runs {s : GateState ν} {action : GateAction ν} (havoids : s.AvoidsHttp action) :
    ∀ run ∈ (s.step action).db.cellRuns, (∃ old ∈ s.db.cellRuns, old.id = run.id) ∨
      ConnectorRevoked s.db run.executed = false := by
  intro run hrun
  cases action with
  | store action => exact (step_store s action).2.runs havoids run hrun
  | start input retryCount now =>
    obtain hsame | ⟨started, hmark, hstep⟩ := step_start s input retryCount now
    · exact Or.inl ⟨run, hsame ▸ hrun, rfl⟩
    · rw [hstep] at hrun
      exact Or.inl ((mark_ready hmark).2.1.old run hrun)
  | work index step =>
    obtain ⟨_, hstep⟩ | ⟨execution, _, hstep⟩ := step_work s index step
    · exact Or.inl ⟨run, hstep ▸ hrun, rfl⟩
    · rw [hstep] at hrun
      exact Or.inl ((work_worked execution s.db step).stand.old run hrun)

/-- In a run which avoids the built-in connector for HTTP while that is revoked, revocations keep their promise. -/
theorem revocationContract_of_avoidsHttp {start : GateState ν} {actions : List (GateAction ν)}
    (hfresh : start.executions = []) (havoids : EachStep GateState.step GateState.AvoidsHttp start actions) :
    RevocationContract start actions := by
  have hinvariant : ∀ before, GateInvariant (runActions GateState.step start before) :=
    fun before => runActions_invariant (fun _ action hbefore => hbefore.step action) (GateInvariant.fresh hfresh) before
  constructor
  · rintro before action after rfl column hcolumn hnew identity hidentity
    rw [runActions_concat] at hcolumn
    obtain hold | hallowed := step_columns havoids.append.2.1 column hcolumn
    · exact absurd hold hnew
    · exact hallowed identity hidentity
  · rintro before action after rfl run hrun hnew
    rw [runActions_concat] at hrun
    obtain ⟨old, hold, hid⟩ | hallowed := step_runs havoids.append.2.1 run hrun
    · exact absurd hid (Table.get?_eq_none.mp hnew old hold)
    · exact hallowed
  · rintro before index after execution rfl hloads hkeeps
    obtain ⟨hrefused, loaded, hloaded, hinput⟩ := hloads.refused (hinvariant before) havoids.append.2.1
    rw [runActions_concat] at hkeeps ⊢
    have hstill : ∀ {xs ys}, after = xs ++ ys → RefusedExecution
        (getActiveSqliteConnectorRevocations (runActions GateState.step start before).db) index
        (runActions GateState.step ((runActions GateState.step start before).step (.work index .load)) xs) := by
      rintro xs ys rfl
      exact hkeeps.append.1.invariant (fun _ _ hbefore hkept => hbefore.step hkept) hrefused
    constructor
    · intro request hrequest hindex
      obtain ⟨xs, action, ys, hsplit, hsends⟩ := mem_runOutputs.mp hrequest
      obtain ⟨e, howns⟩ := (hstill hsplit).owns
      obtain ⟨run, _, hrefuses⟩ := howns.run
      unfold GateState.sends at hsends
      split at hsends
      · rename_i other
        obtain ⟨e', hget, hsent⟩ := List.mem_flatMap.mp hsends
        obtain ⟨credential, hcredential, rfl⟩ := List.mem_map.mp hsent
        have hother : other = index := hindex
        subst hother
        rw [Option.mem_toList, howns.found, Option.some.injEq] at hget
        subst hget
        rw [refuses_sends hrefuses] at hcredential
        cases hcredential
      · cases hsends
    · have hwhole : runActions GateState.step start (before ++ .work index .load :: after) =
          runActions GateState.step ((runActions GateState.step start before).step (.work index .load)) after :=
        runActions_append _ _ _
      obtain ⟨last, hlast, hsame⟩ := run_input hloaded after
      obtain ⟨e, howns⟩ := (hstill (List.append_nil after).symm).owns
      obtain ⟨run, hrun, hrefuses⟩ := howns.run
      rw [howns.found, Option.some.injEq] at hlast
      subst hlast
      rw [hwhole]
      refine ⟨e, run, howns.found, ?_, refuses_not_queued hrefuses, fun hreported => ?_⟩
      · rw [← hinput, ← hsame]
        exact hrun
      · rw [hreported] at hrefuses
        exact hrefuses
  · rintro before index after rfl request hrequest credential hcredential
    obtain ⟨_, hholds⟩ := sends_holds hrequest
    exact holds_readUnrevoked hfresh (hholds.trans hcredential)

end Contract

section Sample

local instance gateRuntime : ConnectorRuntime SafeInteger where
  sha256 text := text
  requestUrl baseUrl queryParameter value := baseUrl ++ "?" ++ queryParameter ++ "=" ++ value
  hostname requestUrl := requestUrl

local instance gateEndpoints : EndpointRuntime := ⟨fun _ => true⟩

def companyProvider (providerId name : String) : WaterfallProvider where
  credentialId := none
  name := name
  providerId := providerId
  resultPath := "body.company"
  url := "https://api.example/v1/company?domain=ada.example"

local instance gatePlans : RunPlanRuntime SafeInteger where
  parseRunPlan _ := some ⟨[companyProvider "9f0c1d5e-3a52-4c1b-9d7e-0b6a4d1f2c3e" "First",
    companyProvider "1b6a4d1f-2c3e-4c1b-9d7e-9f0c1d5e3a52" "Second"]⟩
  nextProviderIndex _ _ := 0

def companyStart (connectorId revokedId : String) : GateState SafeInteger where
  db :=
    { grid :=
        { dataTables := Table.singleton ⟨"leads", none⟩
          columns := Table.empty
          columnDependencies := Table.empty
          rows := Table.singleton ⟨"ada", "leads", 1, none⟩
          cells := fun _ _ => none }
      workspaceMembers := Table.empty
      credentials := Table.empty
      connectorRevocations := Table.singleton { id := "revocation", target := .connector revokedId }
      cellRuns := Table.singleton
        { id := "run", rowId := "ada", columnId := "company", credentialId := none, connectorId := connectorId,
          actionId := "execute", input := "plan", inputFingerprint := "fingerprint", allowedHosts := ["api.example"] }
      bulkRunBatches := Table.empty
      bulkRunItems := Table.empty
      rowSettlements := Table.empty
      webhookDestinations := Table.empty
      writebackDestinations := Table.empty
      outbox := Table.empty }
  executions := []

def companyInput : CellRunInput where
  columnId := "company"
  credentialId := none
  inputFingerprint := "fingerprint"
  rowId := "ada"
  runId := "run"

/-- The run of a connector is refused after that was revoked. -/
theorem revocationContract_of_avoidsHttp_company : RevocationContract (companyStart "acme.company" "acme.company")
    [.start companyInput 0 1, .work 0 .load, .work 0 .check, .work 0 (.report ⟨"settlement", "event", 2⟩)] :=
  revocationContract_of_avoidsHttp rfl ⟨trivial, fun hrevoked => absurd hrevoked (by decide), trivial, trivial, trivial⟩

def companyActions : List (GateAction SafeInteger) :=
  [.work 0 .check, .work 0 .plan, .work 0 (.readProvider .null 2), .work 0 .request]

/-- A waterfall asks about a connector of its own name, and calls its provider though the one for HTTP is revoked. -/
theorem revocationContract_waterfall :
    ¬ RevocationContract (companyStart "http_waterfall" "http")
      (.start companyInput 0 1 :: .work 0 .load :: companyActions) := by
  intro h
  obtain ⟨hsilent, _⟩ := h.executions [.start companyInput 0 1] 0 companyActions ⟨companyInput, 0, .marked⟩ rfl
    ⟨rfl, rfl, _, rfl, rfl⟩ ⟨trivial, trivial, trivial, trivial, trivial⟩
  have hsent : runOutputs GateState.step GateState.sends (runActions GateState.step (companyStart "http_waterfall" "http")
      ([.start companyInput 0 1] ++ [.work 0 .load])) companyActions = [⟨0, none⟩] := rfl
  exact hsilent ⟨0, none⟩ (hsent ▸ List.mem_singleton.mpr rfl) rfl

end Sample

end ByokGrid
