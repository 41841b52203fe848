import ByokGrid.DeliveryWorkers

/-! What becomes of a delivery when executions of it overlap: a success which was
answered to one of them survives as long as no other one reports a failure meanwhile. -/

namespace ByokGrid

section Finished

variable {ν : Type} [JsRuntime ν] [ConnectorRuntime ν] [NumberComparison ν]

theorem stepDelivery_kept (workspace : DeliveryWorkspace ν) {action : DeliveryAction ν} (h : action.ledger = false) :
    DeliveriesKept workspace (workspace.stepDelivery action) := by
  have hcommitted : ∀ {α : Type} {result : Except StoreError (α × DeliveryWorkspace ν)},
      (∀ value next, result = .ok (value, next) → DeliveriesKept workspace next) →
        DeliveriesKept workspace (workspace.committed result) := by
    intro α result hresult
    cases result with
    | error _ => exact DeliveriesKept.refl workspace
    | ok result => exact hresult result.1 result.2 rfl
  cases action with
  | queueWebhook input context tableName => exact hcommitted fun _ _ h => queueSqliteWebhookDelivery_kept h
  | queueWorkflowWebhooks input context tableName =>
    exact hcommitted fun _ _ h => queueSqliteWorkflowWebhookDeliveries_kept h
  | queueWriteback input context => exact hcommitted fun _ _ h => queueSqliteWritebackDelivery_kept h
  | settle input limits stamp => exact hcommitted fun _ _ h => processSqliteRowSettlement_kept h
  | start _ _ _ => cases h
  | succeed _ _ _ _ => cases h
  | fail _ _ _ _ => cases h
  | other db => exact ⟨fun _ hmem => hmem, fun _ hmem => hmem⟩

inductive StatusMove (workers : DeliveryWorkers ν) (kind : DeliveryKind) (input : DeliveryInput) :
    DeliveryEvent ν → DeliveryWorkers ν → Prop where
  | same {event : DeliveryEvent ν} {next : DeliveryWorkers ν}
    (status : ∀ status, workers.workspace.deliveryStatus kind input = some status →
      next.workspace.deliveryStatus kind input = some status) : StatusMove workers kind input event next
  | started {worker retryCount : Nat} {now : Int} {next : DeliveryWorkers ν}
    (open_ : ∃ status, workers.workspace.deliveryStatus kind input = some status ∧ status.active = true)
    (running : next.workspace.deliveryStatus kind input = some .running) :
    StatusMove workers kind input (.begin worker kind input retryCount now) next
  | succeeded {worker : Nat} {now : Int} {credentialNoted : Bool} {next : DeliveryWorkers ν}
    (running : workers.workspace.deliveryStatus kind input = some .running)
    (succeeded : next.workspace.deliveryStatus kind input = some .succeeded) :
    StatusMove workers kind input (.report worker now credentialNoted) next
  | failed {worker retryCount : Nat} {failure : ExecutionFailure} {now : Int} {credentialNoted : Bool}
    {next : DeliveryWorkers ν}
    (execution : workers.executions worker = some ⟨kind, input, retryCount, .failing failure⟩)
    (open_ : ∃ status, workers.workspace.deliveryStatus kind input = some status ∧ status.active = true) :
    StatusMove workers kind input (.report worker now credentialNoted) next

theorem statusMove (workers : DeliveryWorkers ν) (event : DeliveryEvent ν) (kind : DeliveryKind)
    (input : DeliveryInput) : StatusMove workers kind input event (workers.step event) := by
  cases event with
  | begin worker startedKind startedInput retryCount now =>
    simp only [DeliveryWorkers.step, DeliveryWorkers.beginExecution]
    split
    · exact .same fun _ h => h
    · split
      · rename_i started hready
        have hstarted := markDeliveryRunning_ready hready
        by_cases hsame : kind = startedKind ∧ input = startedInput
        · obtain ⟨rfl, rfl⟩ := hsame
          exact .started hstarted.open_ hstarted.own
        · exact .same fun status h => (hstarted.others kind input hsame).trans h
      · exact .same fun _ h => h
  | throw worker failure =>
    simp only [DeliveryWorkers.step]
    split
    · exact .same fun _ h => h
    · exact .same fun _ h => h
  | answer worker status unread =>
    simp only [DeliveryWorkers.step]
    split
    · simp only [DeliveryWorkers.answerExecution]
      split
      · exact .same fun _ h => h
      · split <;> exact .same fun _ h => h
    · exact .same fun _ h => h
  | report worker now credentialNoted =>
    simp only [DeliveryWorkers.step]
    split
    · rename_i doneKind doneInput retryCount responseStatus hexecution
      simp only [DeliveryWorkers.reportSuccess]
      split
      · exact .same fun _ h => h
      · rename_i succeeded hsucceeded
        obtain ⟨hrunning, hown, hothers⟩ := markDeliverySucceeded_eq_ok hsucceeded
        have hmove : ∀ next : DeliveryWorkers ν, next.workspace = succeeded →
            StatusMove workers kind input (.report worker now credentialNoted) next := by
          rintro next rfl
          by_cases hsame : kind = doneKind ∧ input = doneInput
          · obtain ⟨rfl, rfl⟩ := hsame
            exact .succeeded hrunning hown
          · exact .same fun status h => (hothers kind input hsame).trans h
        split
        · exact hmove _ rfl
        · exact hmove _ rfl
    · rename_i failedKind failedInput retryCount failure hexecution
      by_cases hsame : kind = failedKind ∧ input = failedInput
      · obtain ⟨rfl, rfl⟩ := hsame
        by_cases hopen : ∃ status, workers.workspace.deliveryStatus kind input = some status ∧ status.active = true
        · exact .failed hexecution hopen
        · refine .same fun status h => ?_
          have hinactive : status.active = false := by
            rw [← Bool.not_eq_true]
            exact fun hactive => hopen ⟨status, h, hactive⟩
          show (setDeliveryFailure workers.workspace kind input _ now).deliveryStatus kind input = some status
          rw [setDeliveryFailure_status, if_pos ⟨rfl, rfl⟩, h, Option.map_some, hinactive]
          rfl
      · refine .same fun status h => ?_
        show (setDeliveryFailure workers.workspace failedKind failedInput _ now).deliveryStatus kind input = some status
        rw [setDeliveryFailure_status, if_neg hsame, h]
    · exact .same fun _ h => h
  | crash worker => exact .same fun _ h => h
  | store action =>
    simp only [DeliveryWorkers.step]
    split
    · exact .same fun _ h => h
    · rename_i hledger
      exact .same fun status h => (stepDelivery_kept _ (Bool.not_eq_true _ ▸ hledger)).status h

theorem step_finished {workers : DeliveryWorkers ν} {kind : DeliveryKind} {input : DeliveryInput}
    {status : DeliveryStatus} (h : workers.workspace.deliveryStatus kind input = some status)
    (hfinished : status.active = false) (event : DeliveryEvent ν) :
    (workers.step event).workspace.deliveryStatus kind input = some status := by
  have hclosed : ¬ ∃ open_, workers.workspace.deliveryStatus kind input = some open_ ∧ open_.active = true := by
    rintro ⟨other, hother, hactive⟩
    rw [h, Option.some.injEq] at hother
    rw [← hother, hfinished] at hactive
    cases hactive
  cases statusMove workers event kind input with
  | same hsame => exact hsame status h
  | started hopen _ => exact absurd hopen hclosed
  | succeeded hrunning _ => exact absurd ⟨_, hrunning, rfl⟩ hclosed
  | failed _ hopen => exact absurd hopen hclosed

theorem runActions_finished {workers : DeliveryWorkers ν} {kind : DeliveryKind} {input : DeliveryInput}
    {status : DeliveryStatus} (h : workers.workspace.deliveryStatus kind input = some status)
    (hfinished : status.active = false) (events : List (DeliveryEvent ν)) :
    (runActions DeliveryWorkers.step workers events).workspace.deliveryStatus kind input = some status := by
  induction events generalizing workers with
  | nil => exact h
  | cons event events ih => exact ih (step_finished h hfinished event)

end Finished

def Reporting (executions : Nat → Option DeliveryExecution) (kind : DeliveryKind) (input : DeliveryInput) : Prop :=
  ∃ worker retryCount responseStatus, executions worker = some ⟨kind, input, retryCount, .acknowledged responseStatus⟩

theorem Reporting.update {executions : Nat → Option DeliveryExecution} {kind : DeliveryKind} {input : DeliveryInput}
    (h : Reporting executions kind input) {worker : Nat} (hworker : ∀ retryCount responseStatus,
      executions worker ≠ some ⟨kind, input, retryCount, .acknowledged responseStatus⟩)
    (next : Option DeliveryExecution) : Reporting (Function.update executions worker next) kind input := by
  obtain ⟨other, retryCount, responseStatus, hother⟩ := h
  have hne : other ≠ worker := by
    rintro rfl
    exact hworker retryCount responseStatus hother
  exact ⟨other, retryCount, responseStatus, by rw [Function.update_of_ne hne, hother]⟩

def DeliveryWorkers.Delivered {ν : Type} (workers : DeliveryWorkers ν) (kind : DeliveryKind) (input : DeliveryInput) :
    Prop :=
  workers.workspace.deliveryStatus kind input = some .succeeded ∨
    workers.workspace.deliveryStatus kind input = some .running ∧ Reporting workers.executions kind input

section Fenced

variable {ν : Type}

/-- The body of a success is read, a failure which counts is reported only when no
other worker holds the delivery, and a worker does not crash with a success to report. -/
def DeliveryWorkers.Fenced (workers : DeliveryWorkers ν) : DeliveryEvent ν → Prop
  | .answer worker status unread => ∀ execution, workers.executions worker = some execution →
    execution.kind = .writeback → execution.kind.classify status = none → unread = none
  | .report worker _ _ => ∀ kind input retryCount failure,
    workers.executions worker = some ⟨kind, input, retryCount, .failing failure⟩ →
    (∃ status, workers.workspace.deliveryStatus kind input = some status ∧ status.active = true) →
    ∀ other execution, other ≠ worker → workers.executions other = some execution →
      ¬ (execution.kind = kind ∧ execution.input = input)
  | .crash worker => ∀ kind input retryCount responseStatus,
    workers.executions worker = some ⟨kind, input, retryCount, .acknowledged responseStatus⟩ →
      workers.workspace.deliveryStatus kind input = some .succeeded
  | _ => True

theorem DeliveryWorkers.fenced_read (workers : DeliveryWorkers ν) (worker status : Nat) :
    workers.Fenced (.answer worker status none) :=
  fun _ _ _ _ => rfl

theorem DeliveryWorkers.fenced_success {workers : DeliveryWorkers ν} {worker : Nat} {kind : DeliveryKind}
    {input : DeliveryInput} {retryCount responseStatus : Nat}
    (h : workers.executions worker = some ⟨kind, input, retryCount, .acknowledged responseStatus⟩) (now : Int)
    (credentialNoted : Bool) : workers.Fenced (.report worker now credentialNoted) := by
  intro _ _ _ _ hfailing
  rw [h] at hfailing
  cases hfailing

structure DeliveryInvariant (workers : DeliveryWorkers ν) : Prop where
  held : ∀ worker execution, workers.executions worker = some execution →
    workers.workspace.deliveryStatus execution.kind execution.input = some .running ∨
      workers.workspace.deliveryStatus execution.kind execution.input = some .succeeded
  delivered : ∀ kind input, (kind, input) ∈ workers.acknowledged → workers.Delivered kind input

theorem DeliveryInvariant.initial (workspace : DeliveryWorkspace ν) :
    DeliveryInvariant (DeliveryWorkers.initial workspace) where
  held _ _ h := by cases h
  delivered _ _ h := by cases h

theorem DeliveryInvariant.enter {workers : DeliveryWorkers ν} (h : DeliveryInvariant workers) {worker : Nat}
    {execution : DeliveryExecution} (hexecution : workers.executions worker = some execution) (phase : ExecutionPhase)
    (hdelivered : ∀ responseStatus, execution.phase = .acknowledged responseStatus →
      workers.workspace.deliveryStatus execution.kind execution.input = some .succeeded) :
    DeliveryInvariant (workers.enter worker execution phase) := by
  constructor
  · intro other held hheld
    by_cases hother : other = worker
    · subst hother
      rw [DeliveryWorkers.enter_self, Option.some.injEq] at hheld
      subst hheld
      exact h.held other execution hexecution
    · rw [DeliveryWorkers.enter_of_ne _ _ _ hother] at hheld
      exact h.held other held hheld
  · intro kind input hmem
    rcases h.delivered kind input hmem with hsucceeded | ⟨hrunning, hreporting⟩
    · exact Or.inl hsucceeded
    · refine Or.inr ⟨hrunning, hreporting.update (fun retryCount responseStatus hown => ?_) _⟩
      rw [hexecution, Option.some.injEq] at hown
      subst hown
      have hsucceeded := hdelivered responseStatus rfl
      rw [hrunning] at hsucceeded
      cases hsucceeded

theorem DeliveryInvariant.begin {workers : DeliveryWorkers ν} (h : DeliveryInvariant workers) (worker : Nat)
    (kind : DeliveryKind) (input : DeliveryInput) (retryCount : Nat) (now : Int) :
    DeliveryInvariant (workers.beginExecution worker kind input retryCount now) := by
  unfold DeliveryWorkers.beginExecution
  split
  · exact h
  rename_i hidle
  split
  · rename_i started hready
    have hstarted := markDeliveryRunning_ready hready
    constructor
    · intro other execution hexecution
      by_cases hother : other = worker
      · subst hother
        rw [DeliveryWorkers.enter_self, Option.some.injEq] at hexecution
        subst hexecution
        exact Or.inl hstarted.own
      · rw [DeliveryWorkers.enter_of_ne _ _ _ hother] at hexecution
        show started.deliveryStatus execution.kind execution.input = some .running ∨
          started.deliveryStatus execution.kind execution.input = some .succeeded
        by_cases hsame : execution.kind = kind ∧ execution.input = input
        · rw [hsame.1, hsame.2]
          exact Or.inl hstarted.own
        · rw [hstarted.others _ _ hsame]
          exact h.held other execution hexecution
    · intro otherKind other hmem
      have hreporting : Reporting workers.executions otherKind other →
          Reporting (Function.update workers.executions worker (some ⟨kind, input, retryCount, .started⟩)) otherKind other := by
        intro hreporting
        refine hreporting.update (fun _ _ hown => ?_) _
        rw [hidle] at hown
        cases hown
      by_cases hsame : otherKind = kind ∧ other = input
      · obtain ⟨rfl, rfl⟩ := hsame
        rcases h.delivered otherKind other hmem with hsucceeded | ⟨_, hreport⟩
        · obtain ⟨status, hstatus, hactive⟩ := hstarted.open_
          rw [hsucceeded, Option.some.injEq] at hstatus
          subst hstatus
          cases hactive
        · exact Or.inr ⟨hstarted.own, hreporting hreport⟩
      · rcases h.delivered otherKind other hmem with hsucceeded | ⟨hrunning, hreport⟩
        · exact Or.inl ((hstarted.others _ _ hsame).trans hsucceeded)
        · exact Or.inr ⟨(hstarted.others _ _ hsame).trans hrunning, hreporting hreport⟩
  · exact h

theorem DeliveryInvariant.acknowledge {workers : DeliveryWorkers ν} (h : DeliveryInvariant workers) {worker : Nat}
    {execution : DeliveryExecution} (hexecution : workers.executions worker = some execution)
    (hphase : execution.phase = .started) (responseStatus : Nat) :
    DeliveryInvariant ({ workers with
      acknowledged := (execution.kind, execution.input) :: workers.acknowledged }.enter worker execution
        (.acknowledged responseStatus)) := by
  have hentered := h.enter hexecution (.acknowledged responseStatus) fun _ hother => by
    rw [hphase] at hother
    cases hother
  refine ⟨hentered.held, ?_⟩
  intro kind input hmem
  rcases List.mem_cons.mp hmem with heq | hmem
  · obtain ⟨rfl, rfl⟩ := Prod.mk.inj heq
    rcases h.held worker execution hexecution with hrunning | hsucceeded
    · refine Or.inr ⟨hrunning, worker, execution.retryCount, responseStatus, ?_⟩
      rw [DeliveryWorkers.enter_self]
    · exact Or.inl hsucceeded
  · exact hentered.delivered kind input hmem

theorem DeliveryInvariant.answer {workers : DeliveryWorkers ν} (h : DeliveryInvariant workers) {worker status : Nat}
    {execution : DeliveryExecution} {unread : Option ExecutionFailure}
    (hexecution : workers.executions worker = some execution) (hphase : execution.phase = .started)
    (hread : execution.kind = .writeback → execution.kind.classify status = none → unread = none) :
    DeliveryInvariant (workers.answerExecution worker execution status unread) := by
  simp only [DeliveryWorkers.answerExecution]
  split
  · refine h.enter hexecution _ fun _ hother => ?_
    rw [hphase] at hother
    cases hother
  · rename_i hsuccess
    split
    · rename_i hkind
      cases hread hkind hsuccess
    · exact h.acknowledge hexecution hphase status

theorem DeliveryInvariant.succeed {workers : DeliveryWorkers ν} (h : DeliveryInvariant workers) {worker : Nat}
    {execution : DeliveryExecution} {responseStatus : Nat} {now : Int} {succeeded : DeliveryWorkspace ν}
    (hexecution : workers.executions worker = some execution)
    (hsucceeded : markDeliverySucceeded workers.workspace execution.kind execution.input responseStatus now =
      .ok succeeded) (next : Option DeliveryExecution)
    (hnext : ∀ other, next = some other → other.kind = execution.kind ∧ other.input = execution.input) :
    DeliveryInvariant { workers with
      workspace := succeeded, executions := Function.update workers.executions worker next } := by
  obtain ⟨_, hown, hothers⟩ := markDeliverySucceeded_eq_ok hsucceeded
  have hheld : ∀ other : DeliveryExecution,
      (workers.workspace.deliveryStatus other.kind other.input = some .running ∨
        workers.workspace.deliveryStatus other.kind other.input = some .succeeded) →
      succeeded.deliveryStatus other.kind other.input = some .running ∨
        succeeded.deliveryStatus other.kind other.input = some .succeeded := by
    intro other hother
    by_cases hsame : other.kind = execution.kind ∧ other.input = execution.input
    · rw [hsame.1, hsame.2]
      exact Or.inr hown
    · rw [hothers _ _ hsame]
      exact hother
  constructor
  · intro other held hstored
    by_cases hother : other = worker
    · subst hother
      simp only [Function.update_self] at hstored
      obtain ⟨hkind, hinput⟩ := hnext held hstored
      refine hheld held ?_
      rw [hkind, hinput]
      exact h.held other execution hexecution
    · simp only [Function.update_of_ne hother] at hstored
      exact hheld held (h.held other held hstored)
  · intro kind input hmem
    by_cases hsame : kind = execution.kind ∧ input = execution.input
    · obtain ⟨rfl, rfl⟩ := hsame
      exact Or.inl hown
    · rcases h.delivered kind input hmem with hdone | ⟨hrunning, hreporting⟩
      · exact Or.inl ((hothers _ _ hsame).trans hdone)
      · refine Or.inr ⟨(hothers _ _ hsame).trans hrunning, hreporting.update (fun _ _ hown => ?_) _⟩
        rw [hexecution, Option.some.injEq] at hown
        subst hown
        exact hsame ⟨rfl, rfl⟩

theorem DeliveryInvariant.reportSuccess {workers : DeliveryWorkers ν} (h : DeliveryInvariant workers) {worker : Nat}
    {execution : DeliveryExecution} (hexecution : workers.executions worker = some execution) (responseStatus : Nat)
    (now : Int) (credentialNoted : Bool) :
    DeliveryInvariant (workers.reportSuccess worker execution responseStatus now credentialNoted) := by
  unfold DeliveryWorkers.reportSuccess
  split
  · rename_i hrefused
    refine h.enter hexecution _ fun _ _ => ?_
    -- a running delivery would have taken the report
    rcases h.held worker execution hexecution with hrunning | hsucceeded
    · obtain ⟨succeeded, hok⟩ := markDeliverySucceeded_running hrunning responseStatus now
      rw [hrefused] at hok
      cases hok
    · exact hsucceeded
  · rename_i succeeded hsucceeded
    split
    · exact h.succeed hexecution hsucceeded none nofun
    · refine h.succeed hexecution hsucceeded (some _) fun other hother => ?_
      cases hother
      exact ⟨rfl, rfl⟩

theorem DeliveryInvariant.reportFailure {workers : DeliveryWorkers ν} (h : DeliveryInvariant workers) {worker : Nat}
    {execution : DeliveryExecution} {failure : ExecutionFailure}
    (hexecution : workers.executions worker = some execution) (hphase : execution.phase = .failing failure)
    (halone : (∃ status, workers.workspace.deliveryStatus execution.kind execution.input = some status ∧
      status.active = true) → ∀ other held, other ≠ worker → workers.executions other = some held →
        ¬ (held.kind = execution.kind ∧ held.input = execution.input)) (now : Int) :
    DeliveryInvariant (workers.reportFailure worker execution failure now) := by
  have hstatus : ∀ kind input status, workers.workspace.deliveryStatus kind input = some status →
      (kind = execution.kind ∧ input = execution.input → status.active = false) →
      (setDeliveryFailure workers.workspace execution.kind execution.input (execution.report failure) now).deliveryStatus
        kind input = some status := by
    intro kind input status hbefore hinactive
    rw [setDeliveryFailure_status]
    split
    · rename_i hsame
      rw [hbefore, Option.map_some, hinactive hsame]
      rfl
    · exact hbefore
  constructor
  · intro other held hstored
    by_cases hother : other = worker
    · subst hother
      rw [DeliveryWorkers.reportFailure, DeliveryWorkers.leave_self] at hstored
      cases hstored
    · rw [DeliveryWorkers.reportFailure, DeliveryWorkers.leave_of_ne _ hother] at hstored
      rcases h.held other held hstored with hrunning | hsucceeded
      · refine Or.inl (hstatus _ _ _ hrunning fun hsame => ?_)
        rw [hsame.1, hsame.2] at hrunning
        exact absurd hsame (halone ⟨_, hrunning, rfl⟩ other held hother hstored)
      · exact Or.inr (hstatus _ _ _ hsucceeded fun _ => rfl)
  · intro kind input hmem
    rcases h.delivered kind input hmem with hdone | ⟨hrunning, hreporting⟩
    · exact Or.inl (hstatus _ _ _ hdone fun _ => rfl)
    · have hworker : ∀ retryCount responseStatus,
          workers.executions worker ≠ some ⟨kind, input, retryCount, .acknowledged responseStatus⟩ := by
        intro retryCount responseStatus hown
        rw [hexecution, Option.some.injEq] at hown
        rw [hown] at hphase
        cases hphase
      refine Or.inr ⟨hstatus _ _ _ hrunning fun hsame => ?_, hreporting.update hworker none⟩
      obtain ⟨other, retryCount, responseStatus, hother⟩ := hreporting
      have hne : other ≠ worker := by
        rintro rfl
        exact hworker retryCount responseStatus hother
      rw [hsame.1, hsame.2] at hrunning hother
      exact absurd ⟨rfl, rfl⟩ (halone ⟨_, hrunning, rfl⟩ other _ hne hother)

theorem DeliveryInvariant.crash {workers : DeliveryWorkers ν} (h : DeliveryInvariant workers) {worker : Nat}
    (hreported : ∀ kind input retryCount responseStatus,
      workers.executions worker = some ⟨kind, input, retryCount, .acknowledged responseStatus⟩ →
        workers.workspace.deliveryStatus kind input = some .succeeded) : DeliveryInvariant (workers.leave worker) := by
  constructor
  · intro other held hstored
    by_cases hother : other = worker
    · subst hother
      rw [DeliveryWorkers.leave_self] at hstored
      cases hstored
    · rw [DeliveryWorkers.leave_of_ne _ hother] at hstored
      exact h.held other held hstored
  · intro kind input hmem
    rcases h.delivered kind input hmem with hsucceeded | ⟨hrunning, hreporting⟩
    · exact Or.inl hsucceeded
    · refine Or.inr ⟨hrunning, hreporting.update (fun retryCount responseStatus hown => ?_) none⟩
      have hsucceeded := hreported kind input retryCount responseStatus hown
      rw [hrunning] at hsucceeded
      cases hsucceeded

theorem DeliveryInvariant.of_kept {workers : DeliveryWorkers ν} (h : DeliveryInvariant workers)
    {workspace : DeliveryWorkspace ν} (hkept : DeliveriesKept workers.workspace workspace) :
    DeliveryInvariant { workers with workspace := workspace } where
  held worker execution hstored := by
    rcases h.held worker execution hstored with hrunning | hsucceeded
    · exact Or.inl (hkept.status hrunning)
    · exact Or.inr (hkept.status hsucceeded)
  delivered kind input hmem := by
    rcases h.delivered kind input hmem with hsucceeded | ⟨hrunning, hreporting⟩
    · exact Or.inl (hkept.status hsucceeded)
    · exact Or.inr ⟨hkept.status hrunning, hreporting⟩

variable [JsRuntime ν] [ConnectorRuntime ν] [NumberComparison ν]

theorem DeliveryInvariant.step {workers : DeliveryWorkers ν} {event : DeliveryEvent ν} (h : DeliveryInvariant workers)
    (hfenced : workers.Fenced event) : DeliveryInvariant (workers.step event) := by
  cases event with
  | begin worker kind input retryCount now => exact h.begin worker kind input retryCount now
  | throw worker failure =>
    simp only [DeliveryWorkers.step]
    split
    · rename_i kind input retryCount hexecution
      exact h.enter hexecution _ nofun
    · exact h
  | answer worker status unread =>
    simp only [DeliveryWorkers.step]
    split
    · rename_i kind input retryCount hexecution
      exact h.answer hexecution rfl (hfenced _ hexecution)
    · exact h
  | report worker now credentialNoted =>
    simp only [DeliveryWorkers.step]
    split
    · rename_i kind input retryCount responseStatus hexecution
      exact h.reportSuccess hexecution responseStatus now credentialNoted
    · rename_i kind input retryCount failure hexecution
      exact h.reportFailure hexecution rfl (hfenced kind input retryCount failure hexecution) now
    · exact h
  | crash worker => exact h.crash hfenced
  | store action =>
    simp only [DeliveryWorkers.step]
    split
    · exact h
    · rename_i hledger
      exact h.of_kept (stepDelivery_kept _ (Bool.not_eq_true _ ▸ hledger))

theorem step_reporting {workers : DeliveryWorkers ν} {kind : DeliveryKind} {input : DeliveryInput} {worker : Nat}
    {retryCount responseStatus : Nat} (hrunning : workers.workspace.deliveryStatus kind input = some .running)
    (hexecution : workers.executions worker = some ⟨kind, input, retryCount, .acknowledged responseStatus⟩) (now : Int)
    (credentialNoted : Bool) :
    (workers.step (.report worker now credentialNoted)).workspace.deliveryStatus kind input = some .succeeded := by
  obtain ⟨succeeded, hsucceeded⟩ := markDeliverySucceeded_running hrunning responseStatus now
  have hown := (markDeliverySucceeded_eq_ok hsucceeded).2.1
  simp only [DeliveryWorkers.step, hexecution, DeliveryWorkers.reportSuccess, hsucceeded]
  cases credentialNoted
  · exact hown
  · exact hown

end Fenced

section Sample

local instance overlapRuntime : ConnectorRuntime SafeInteger where
  sha256 text := text
  requestUrl baseUrl _ _ := baseUrl
  hostname requestUrl := requestUrl

def overlapWorkspace : DeliveryWorkspace SafeInteger where
  db :=
    { grid :=
        { dataTables := Table.singleton ⟨"crm", none⟩
          columns := Table.empty
          columnDependencies := Table.empty
          rows := Table.singleton ⟨"lovelace", "crm", 1, none⟩
          cells := fun _ _ => none }
      workspaceMembers := Table.singleton ⟨"ada", .owner⟩
      credentials := Table.empty
      connectorRevocations := Table.empty
      cellRuns := Table.empty
      bulkRunBatches := Table.empty
      bulkRunItems := Table.empty
      rowSettlements := Table.empty
      webhookDestinations := Table.singleton { id := "hook", tableId := "crm", triggerMode := .manual, createdAt := 0 }
      writebackDestinations := Table.empty
      outbox := Table.empty }
  webhookDeliveries := Table.empty
  writebackDeliveries := Table.empty

def overlapQueue : DeliveryEvent SafeInteger :=
  .store (.queueWebhook ⟨"delivery", "hook", "lovelace", "crm", "ada", "event"⟩
    ⟨"workspace", "2026-01-01T00:00:00.000Z", 0⟩ "Contacts")

def overlapInput : DeliveryInput := ⟨"delivery", "hook", "crm"⟩

def aloneEvents : List (DeliveryEvent SafeInteger) :=
  [overlapQueue, .begin 1 .webhook overlapInput 0 1, .answer 1 200 none, .report 1 2 true]

/-- The endpoint answers the first worker with a success and refuses the second one, which reports first. -/
def overlapEvents : List (DeliveryEvent SafeInteger) :=
  [overlapQueue, .begin 1 .webhook overlapInput 0 1, .begin 2 .webhook overlapInput 0 2, .answer 1 200 none,
    .answer 2 409 none, .report 2 3 true, .report 1 4 true, .report 1 5 true]

end Sample

end ByokGrid
