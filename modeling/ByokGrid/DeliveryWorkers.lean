import ByokGrid.DeliverySystem
import Mathlib.Logic.Function.Basic

/-! The workers which execute deliveries, at least once each: any number of them may
hold the same delivery, in any phase, and each reports what became of its request. -/

namespace ByokGrid

def MAXIMUM_WEBHOOK_RETRIES : Nat := 4

def MAXIMUM_WRITEBACK_RETRIES : Nat := 3

def DeliveryKind.maximumRetries : DeliveryKind → Nat
  | .webhook => MAXIMUM_WEBHOOK_RETRIES
  | .writeback => MAXIMUM_WRITEBACK_RETRIES

/-- What `classifyFailure` makes of a thrown error. -/
structure ExecutionFailure where
  code : String
  message : String
  responseStatus : Option Nat
  retryable : Bool
  deriving Repr, DecidableEq

/-- `classifyFailure` of an error which none of its cases names. -/
def DeliveryKind.unnamedFailure : DeliveryKind → ExecutionFailure
  | .webhook => ⟨"transient", "The webhook endpoint could not be reached.", none, true⟩
  | .writeback => ⟨"internal", "The writeback delivery failed unexpectedly.", none, true⟩

def classifyWebhookStatus (status : Nat) : Option ExecutionFailure :=
  if 200 ≤ status ∧ status < 300 then none
  else if status = 408 ∨ status = 425 ∨ status = 429 ∨ (500 ≤ status ∧ status ≤ 599) then
    some ⟨"upstream_retryable", "The webhook endpoint returned retryable HTTP " ++ toString status ++ ".",
      some status, true⟩
  else
    some ⟨"upstream_rejected", "The webhook endpoint rejected the delivery with HTTP " ++ toString status ++ ".",
      some status, false⟩

def classifyHubSpotResponse (status : Nat) : Option ExecutionFailure :=
  if 200 ≤ status ∧ status < 300 then none
  else if 300 ≤ status ∧ status < 400 then
    some ⟨"policy", "HubSpot redirected the request.", some status, false⟩
  else if status = 401 ∨ status = 403 then
    some ⟨"authentication", "HubSpot rejected the private app token or required scope.", some status, false⟩
  else if status = 429 then
    some ⟨"rate_limited", "The HubSpot account reached a rate limit.", some status, true⟩
  else if status = 400 ∨ status = 404 ∨ status = 409 ∨ status = 422 then
    some ⟨"invalid_input", "HubSpot rejected the contact update with HTTP " ++ toString status ++ ".",
      some status, false⟩
  else some ⟨"upstream", "HubSpot returned HTTP " ++ toString status ++ ".", some status, 500 ≤ status⟩

def DeliveryKind.classify : DeliveryKind → Nat → Option ExecutionFailure
  | .webhook => classifyWebhookStatus
  | .writeback => classifyHubSpotResponse

inductive ExecutionPhase where
  /-- The delivery is marked running, the request may be on its way. -/
  | started
  /-- The request was answered with a success, which is to be reported. -/
  | acknowledged (responseStatus : Nat)
  /-- An error was thrown, which is to be reported. -/
  | failing (failure : ExecutionFailure)
  deriving Repr, DecidableEq

structure DeliveryExecution where
  kind : DeliveryKind
  input : DeliveryInput
  retryCount : Nat
  phase : ExecutionPhase
  deriving Repr, DecidableEq

def DeliveryExecution.report (execution : DeliveryExecution) (failure : ExecutionFailure) : DeliveryFailure where
  errorCode := failure.code
  errorMessage := failure.message
  responseStatus := failure.responseStatus
  retrying := failure.retryable && execution.retryCount < execution.kind.maximumRetries

/-- The workers hold executions. What was acknowledged to any of them is only remembered, no step reads it. -/
structure DeliveryWorkers (ν : Type) where
  workspace : DeliveryWorkspace ν
  executions : Nat → Option DeliveryExecution
  acknowledged : List (DeliveryKind × DeliveryInput)

inductive DeliveryEvent (ν : Type) where
  | begin (worker : Nat) (kind : DeliveryKind) (input : DeliveryInput) (retryCount : Nat) (now : Int)
  /-- Nothing answers: loading the delivery or sending the request throws. -/
  | throw (worker : Nat) (failure : ExecutionFailure)
  /-- The answer to the request, with the error reading its body throws. Webhooks do not read it. -/
  | answer (worker : Nat) (status : Nat) (unread : Option ExecutionFailure)
  /-- The worker reports its phase. Noting the use of the credential may throw. -/
  | report (worker : Nat) (now : Int) (credentialNoted : Bool)
  | crash (worker : Nat)
  /-- A transaction of other code, which is not one of the three ledger operations. -/
  | store (action : DeliveryAction ν)

def DeliveryAction.ledger {ν : Type} : DeliveryAction ν → Bool
  | .start .. | .succeed .. | .fail .. => true
  | _ => false

section Step

variable {ν : Type}

def DeliveryWorkers.initial (workspace : DeliveryWorkspace ν) : DeliveryWorkers ν :=
  ⟨workspace, fun _ => none, []⟩

def DeliveryWorkers.enter (workers : DeliveryWorkers ν) (worker : Nat) (execution : DeliveryExecution)
    (phase : ExecutionPhase) : DeliveryWorkers ν :=
  { workers with executions := Function.update workers.executions worker (some { execution with phase := phase }) }

def DeliveryWorkers.leave (workers : DeliveryWorkers ν) (worker : Nat) : DeliveryWorkers ν :=
  { workers with executions := Function.update workers.executions worker none }

@[simp] theorem DeliveryWorkers.enter_self (workers : DeliveryWorkers ν) (worker : Nat) (execution : DeliveryExecution)
    (phase : ExecutionPhase) :
    (workers.enter worker execution phase).executions worker = some { execution with phase := phase } := by
  rw [DeliveryWorkers.enter]
  exact Function.update_self ..

theorem DeliveryWorkers.enter_of_ne (workers : DeliveryWorkers ν) {worker other : Nat} (execution : DeliveryExecution)
    (phase : ExecutionPhase) (h : other ≠ worker) :
    (workers.enter worker execution phase).executions other = workers.executions other := by
  rw [DeliveryWorkers.enter]
  exact Function.update_of_ne h ..

@[simp] theorem DeliveryWorkers.leave_self (workers : DeliveryWorkers ν) (worker : Nat) :
    (workers.leave worker).executions worker = none := by
  rw [DeliveryWorkers.leave]
  exact Function.update_self ..

theorem DeliveryWorkers.leave_of_ne (workers : DeliveryWorkers ν) {worker other : Nat} (h : other ≠ worker) :
    (workers.leave worker).executions other = workers.executions other := by
  rw [DeliveryWorkers.leave]
  exact Function.update_of_ne h ..

def DeliveryWorkers.beginExecution (workers : DeliveryWorkers ν) (worker : Nat) (kind : DeliveryKind)
    (input : DeliveryInput) (retryCount : Nat) (now : Int) : DeliveryWorkers ν :=
  match workers.executions worker with
  | some _ => workers
  | none =>
    match markDeliveryRunning workers.workspace kind input now with
    | .ok (.ready, started) =>
      { workers with workspace := started }.enter worker ⟨kind, input, retryCount, .started⟩ .started
    | _ => workers

def DeliveryWorkers.answerExecution (workers : DeliveryWorkers ν) (worker : Nat) (execution : DeliveryExecution)
    (status : Nat) (unread : Option ExecutionFailure) : DeliveryWorkers ν :=
  match execution.kind.classify status with
  | some failure => workers.enter worker execution (.failing failure)
  | none =>
    let told := { workers with acknowledged := (execution.kind, execution.input) :: workers.acknowledged }
    match execution.kind, unread with
    | .writeback, some failure => told.enter worker execution (.failing failure)
    | _, _ => told.enter worker execution (.acknowledged status)

def DeliveryWorkers.reportSuccess (workers : DeliveryWorkers ν) (worker : Nat) (execution : DeliveryExecution)
    (responseStatus : Nat) (now : Int) (credentialNoted : Bool) : DeliveryWorkers ν :=
  match markDeliverySucceeded workers.workspace execution.kind execution.input responseStatus now with
  | .error _ => workers.enter worker execution (.failing execution.kind.unnamedFailure)
  | .ok succeeded =>
    if credentialNoted then { workers with workspace := succeeded }.leave worker
    else { workers with workspace := succeeded }.enter worker execution (.failing execution.kind.unnamedFailure)

def DeliveryWorkers.reportFailure (workers : DeliveryWorkers ν) (worker : Nat) (execution : DeliveryExecution)
    (failure : ExecutionFailure) (now : Int) : DeliveryWorkers ν :=
  { workers with
    workspace := setDeliveryFailure workers.workspace execution.kind execution.input (execution.report failure) now }.leave
      worker

variable [JsRuntime ν] [ConnectorRuntime ν] [NumberComparison ν]

def DeliveryWorkers.step (workers : DeliveryWorkers ν) : DeliveryEvent ν → DeliveryWorkers ν
  | .begin worker kind input retryCount now => workers.beginExecution worker kind input retryCount now
  | .throw worker failure =>
    match workers.executions worker with
    | some ⟨kind, input, retryCount, .started⟩ =>
      workers.enter worker ⟨kind, input, retryCount, .started⟩ (.failing failure)
    | _ => workers
  | .answer worker status unread =>
    match workers.executions worker with
    | some ⟨kind, input, retryCount, .started⟩ =>
      workers.answerExecution worker ⟨kind, input, retryCount, .started⟩ status unread
    | _ => workers
  | .report worker now credentialNoted =>
    match workers.executions worker with
    | some ⟨kind, input, retryCount, .acknowledged responseStatus⟩ =>
      workers.reportSuccess worker ⟨kind, input, retryCount, .acknowledged responseStatus⟩ responseStatus now
        credentialNoted
    | some ⟨kind, input, retryCount, .failing failure⟩ =>
      workers.reportFailure worker ⟨kind, input, retryCount, .failing failure⟩ failure now
    | _ => workers
  | .crash worker => workers.leave worker
  | .store action =>
    if action.ledger then workers else { workers with workspace := workers.workspace.stepDelivery action }

end Step

section Status

variable {ν : Type}

def DeliveryWorkspace.deliveryStatus (workspace : DeliveryWorkspace ν) :
    DeliveryKind → DeliveryInput → Option DeliveryStatus
  | .webhook, input => (workspace.webhookDeliveries.records.find? (webhookScope input)).map WebhookDelivery.status
  | .writeback, input => (workspace.writebackDeliveries.records.find? (deliveryScope input)).map WritebackDelivery.status

theorem webhookScope_iff {input : DeliveryInput} {delivery : WebhookDelivery ν} :
    webhookScope input delivery = true ↔ (⟨delivery.id, delivery.destinationId, delivery.tableId⟩ : DeliveryInput) = input := by
  obtain ⟨deliveryId, destinationId, tableId⟩ := input
  simp [webhookScope, and_assoc]

theorem deliveryScope_iff {input : DeliveryInput} {delivery : WritebackDelivery ν} :
    deliveryScope input delivery = true ↔ delivery.input = input := by
  obtain ⟨deliveryId, destinationId, tableId⟩ := input
  simp [deliveryScope, WritebackDelivery.input, and_assoc]

theorem deliveryStatus_updateWebhooks (workspace : DeliveryWorkspace ν) (input : DeliveryInput)
    (p : WebhookDelivery ν → Bool) (f : WebhookDelivery ν → WebhookDelivery ν) (hf : KeepsKey f)
    (hinput : ∀ delivery, (f delivery).destinationId = delivery.destinationId ∧ (f delivery).tableId = delivery.tableId)
    (active : DeliveryStatus → Bool) (next : DeliveryStatus)
    (hp : ∀ delivery ∈ workspace.webhookDeliveries,
      p delivery = (webhookScope input delivery && active delivery.status))
    (hnext : ∀ delivery, (f delivery).status = next) (kind : DeliveryKind) (other : DeliveryInput) :
    (updateWebhooks workspace p f hf).deliveryStatus kind other =
      if kind = .webhook ∧ other = input then
        (workspace.deliveryStatus kind other).map fun status => if active status then next else status
      else workspace.deliveryStatus kind other := by
  cases kind with
  | writeback => simp [DeliveryWorkspace.deliveryStatus, updateWebhooks]
  | webhook =>
    have hscope : ∀ delivery, webhookScope other (f delivery) = webhookScope other delivery := by
      intro delivery
      have hid : (f delivery).id = delivery.id := hf.key delivery
      simp only [webhookScope, hid, (hinput delivery).1, (hinput delivery).2]
    simp only [DeliveryWorkspace.deliveryStatus, updateWebhooks, find?_modify hf hscope]
    cases hfind : workspace.webhookDeliveries.records.find? (webhookScope other) with
    | none => simp
    | some delivery =>
      have hmem : delivery ∈ workspace.webhookDeliveries := List.mem_of_find?_eq_some hfind
      have hother := webhookScope_iff.mp (List.find?_some hfind)
      simp only [Option.map_some, true_and, hp delivery hmem]
      by_cases heq : other = input
      · subst heq
        rw [List.find?_some hfind, Bool.true_and, if_pos rfl]
        split
        · rw [hnext]
        · rfl
      · have hout : webhookScope input delivery = false := by
          rw [← Bool.not_eq_true, webhookScope_iff, hother]
          exact heq
        rw [hout, Bool.false_and, if_neg heq]
        rfl

theorem deliveryStatus_updateDeliveries (workspace : DeliveryWorkspace ν) (input : DeliveryInput)
    (p : WritebackDelivery ν → Bool) (f : WritebackDelivery ν → WritebackDelivery ν) (hf : KeepsKey f)
    (hinput : ∀ delivery, (f delivery).destinationId = delivery.destinationId ∧ (f delivery).tableId = delivery.tableId)
    (active : DeliveryStatus → Bool) (next : DeliveryStatus)
    (hp : ∀ delivery ∈ workspace.writebackDeliveries,
      p delivery = (deliveryScope input delivery && active delivery.status))
    (hnext : ∀ delivery, (f delivery).status = next) (kind : DeliveryKind) (other : DeliveryInput) :
    (updateDeliveries workspace p f hf).deliveryStatus kind other =
      if kind = .writeback ∧ other = input then
        (workspace.deliveryStatus kind other).map fun status => if active status then next else status
      else workspace.deliveryStatus kind other := by
  cases kind with
  | webhook => simp [DeliveryWorkspace.deliveryStatus, updateDeliveries]
  | writeback =>
    have hscope : ∀ delivery, deliveryScope other (f delivery) = deliveryScope other delivery := by
      intro delivery
      have hid : (f delivery).id = delivery.id := hf.key delivery
      simp only [deliveryScope, hid, (hinput delivery).1, (hinput delivery).2]
    simp only [DeliveryWorkspace.deliveryStatus, updateDeliveries, find?_modify hf hscope]
    cases hfind : workspace.writebackDeliveries.records.find? (deliveryScope other) with
    | none => simp
    | some delivery =>
      have hmem : delivery ∈ workspace.writebackDeliveries := List.mem_of_find?_eq_some hfind
      have hother := deliveryScope_iff.mp (List.find?_some hfind)
      simp only [Option.map_some, true_and, hp delivery hmem]
      by_cases heq : other = input
      · subst heq
        rw [List.find?_some hfind, Bool.true_and, if_pos rfl]
        split
        · rw [hnext]
        · rfl
      · have hout : deliveryScope input delivery = false := by
          rw [← Bool.not_eq_true, deliveryScope_iff, hother]
          exact heq
        rw [hout, Bool.false_and, if_neg heq]
        rfl

structure Started (before after : DeliveryWorkspace ν) (kind : DeliveryKind) (input : DeliveryInput) : Prop where
  open_ : ∃ status, before.deliveryStatus kind input = some status ∧ status.active = true
  own : after.deliveryStatus kind input = some .running
  others : ∀ otherKind other, ¬ (otherKind = kind ∧ other = input) →
    after.deliveryStatus otherKind other = before.deliveryStatus otherKind other

theorem markDeliveryRunning_ready {workspace started : DeliveryWorkspace ν} {kind : DeliveryKind}
    {input : DeliveryInput} {now : Int} (h : markDeliveryRunning workspace kind input now = .ok (.ready, started)) :
    Started workspace started kind input := by
  cases kind with
  | webhook =>
    simp only [markDeliveryRunning, markSqliteWebhookDeliveryRunning, except_bind_eq_ok, requireSome_eq_ok] at h
    obtain ⟨delivery, hfind, h⟩ := h
    have hactive : delivery.status.active = true ∧ started =
        updateWebhooks workspace (fun other => other.id = delivery.id) (startWebhook now) ⟨fun _ => rfl⟩ := by
      cases hstatus : delivery.status <;> rw [hstatus] at h <;> cases h
      · exact ⟨rfl, rfl⟩
      · exact ⟨rfl, rfl⟩
    obtain ⟨hopen, rfl⟩ := hactive
    have hmem : delivery ∈ workspace.webhookDeliveries := List.mem_of_find?_eq_some hfind
    have hbefore : workspace.deliveryStatus .webhook input = some delivery.status := by
      rw [DeliveryWorkspace.deliveryStatus, hfind]
      rfl
    have hown : ∀ other ∈ workspace.webhookDeliveries,
        decide (other.id = delivery.id) = (webhookScope input other && true) := by
      intro other hother
      rw [Bool.and_true]
      by_cases hid : other.id = delivery.id
      · obtain rfl := Table.eq_of_key hother hmem hid
        rw [decide_eq_true rfl, List.find?_some hfind]
      · rw [decide_eq_false hid, eq_comm, ← Bool.not_eq_true]
        intro hscope
        have hfound := webhookScope_iff.mp (List.find?_some hfind)
        rw [webhookScope_iff, ← hfound, DeliveryInput.mk.injEq] at hscope
        exact hid hscope.1
    have hafter := deliveryStatus_updateWebhooks workspace input (fun other => other.id = delivery.id) (startWebhook now)
      ⟨fun _ => rfl⟩ (fun _ => ⟨rfl, rfl⟩) (fun _ => true) .running hown fun _ => rfl
    refine ⟨⟨_, hbefore, hopen⟩, ?_, fun otherKind other hne => ?_⟩
    · rw [hafter, if_pos ⟨rfl, rfl⟩, hbefore]
      rfl
    · rw [hafter, if_neg hne]
  | writeback =>
    simp only [markDeliveryRunning, markSqliteWritebackDeliveryRunning, except_bind_eq_ok, requireSome_eq_ok] at h
    obtain ⟨delivery, hfind, h⟩ := h
    have hactive : delivery.status.active = true ∧ started = updateDeliveries workspace
        (fun delivery => deliveryScope input delivery && delivery.status.active) (startDelivery now) ⟨fun _ => rfl⟩ := by
      cases hstatus : delivery.status <;> rw [hstatus] at h <;> cases h
      · exact ⟨rfl, rfl⟩
      · exact ⟨rfl, rfl⟩
    obtain ⟨hopen, rfl⟩ := hactive
    have hbefore : workspace.deliveryStatus .writeback input = some delivery.status := by
      rw [DeliveryWorkspace.deliveryStatus, hfind]
      rfl
    have hafter := deliveryStatus_updateDeliveries workspace input
      (fun delivery => deliveryScope input delivery && delivery.status.active) (startDelivery now) ⟨fun _ => rfl⟩
      (fun _ => ⟨rfl, rfl⟩) DeliveryStatus.active .running (fun _ _ => rfl) fun _ => rfl
    refine ⟨⟨_, hbefore, hopen⟩, ?_, fun otherKind other hne => ?_⟩
    · rw [hafter, if_pos ⟨rfl, rfl⟩, hbefore, Option.map_some, if_pos hopen]
    · rw [hafter, if_neg hne]

theorem running_find {α : Type} {records : List α} {scope : α → Bool} {status : α → DeliveryStatus}
    (h : (records.any fun x => scope x && status x = .running) = true)
    (hscope : ∀ x ∈ records, ∀ y ∈ records, scope x = true → scope y = true → x = y) :
    (records.find? scope).map status = some .running := by
  simp only [List.any_eq_true, Bool.and_eq_true, decide_eq_true_eq] at h
  obtain ⟨x, hmem, hx, hrunning⟩ := h
  cases hfind : records.find? scope with
  | none => exact absurd hx (List.find?_eq_none.mp hfind x hmem)
  | some y =>
    obtain rfl := hscope x hmem y (List.mem_of_find?_eq_some hfind) hx (List.find?_some hfind)
    rw [Option.map_some, hrunning]

theorem webhookScope_unique {workspace : DeliveryWorkspace ν} {input : DeliveryInput} :
    ∀ x ∈ workspace.webhookDeliveries.records, ∀ y ∈ workspace.webhookDeliveries.records,
      webhookScope input x = true → webhookScope input y = true → x = y := by
  intro x hx y hy hxs hys
  have hsame := (webhookScope_iff.mp hxs).trans (webhookScope_iff.mp hys).symm
  exact Table.eq_of_key hx hy (DeliveryInput.mk.inj hsame).1

theorem deliveryScope_unique {workspace : DeliveryWorkspace ν} {input : DeliveryInput} :
    ∀ x ∈ workspace.writebackDeliveries.records, ∀ y ∈ workspace.writebackDeliveries.records,
      deliveryScope input x = true → deliveryScope input y = true → x = y := by
  intro x hx y hy hxs hys
  have hsame := (deliveryScope_iff.mp hxs).trans (deliveryScope_iff.mp hys).symm
  exact Table.eq_of_key hx hy (DeliveryInput.mk.inj hsame).1

theorem markDeliverySucceeded_eq_ok {workspace succeeded : DeliveryWorkspace ν} {kind : DeliveryKind}
    {input : DeliveryInput} {responseStatus : Nat} {now : Int}
    (h : markDeliverySucceeded workspace kind input responseStatus now = .ok succeeded) :
    workspace.deliveryStatus kind input = some .running ∧ succeeded.deliveryStatus kind input = some .succeeded ∧
      ∀ otherKind other, ¬ (otherKind = kind ∧ other = input) →
        succeeded.deliveryStatus otherKind other = workspace.deliveryStatus otherKind other := by
  cases kind with
  | webhook =>
    simp only [markDeliverySucceeded, markSqliteWebhookDeliverySucceeded, except_bind_eq_ok, requireThat_eq_ok, pure,
      Except.pure, Except.ok.injEq] at h
    obtain ⟨_, hany, rfl⟩ := h
    have hrunning : workspace.deliveryStatus .webhook input = some .running := running_find hany webhookScope_unique
    have hafter := deliveryStatus_updateWebhooks workspace input
      (fun delivery => webhookScope input delivery && delivery.status = .running) (succeedWebhook responseStatus now)
      ⟨fun _ => rfl⟩ (fun _ => ⟨rfl, rfl⟩) (fun status => status = .running) .succeeded (fun _ _ => rfl) fun _ => rfl
    refine ⟨hrunning, ?_, fun otherKind other hne => ?_⟩
    · rw [hafter, if_pos ⟨rfl, rfl⟩, hrunning]
      rfl
    · rw [hafter, if_neg hne]
  | writeback =>
    simp only [markDeliverySucceeded, markSqliteWritebackDeliverySucceeded, except_bind_eq_ok, requireThat_eq_ok, pure,
      Except.pure, Except.ok.injEq] at h
    obtain ⟨_, hany, rfl⟩ := h
    have hrunning : workspace.deliveryStatus .writeback input = some .running := running_find hany deliveryScope_unique
    have hafter := deliveryStatus_updateDeliveries workspace input
      (fun delivery => deliveryScope input delivery && delivery.status = .running) (succeedDelivery responseStatus now)
      ⟨fun _ => rfl⟩ (fun _ => ⟨rfl, rfl⟩) (fun status => status = .running) .succeeded (fun _ _ => rfl) fun _ => rfl
    refine ⟨hrunning, ?_, fun otherKind other hne => ?_⟩
    · rw [hafter, if_pos ⟨rfl, rfl⟩, hrunning]
      rfl
    · rw [hafter, if_neg hne]

theorem find_running {α : Type} {records : List α} {scope : α → Bool} {status : α → DeliveryStatus}
    (h : (records.find? scope).map status = some .running) :
    (records.any fun x => scope x && status x = .running) = true := by
  obtain ⟨x, hfind, hrunning⟩ := Option.map_eq_some_iff.mp h
  simp only [List.any_eq_true, Bool.and_eq_true, decide_eq_true_eq]
  exact ⟨x, List.mem_of_find?_eq_some hfind, List.find?_some hfind, hrunning⟩

theorem markDeliverySucceeded_running {workspace : DeliveryWorkspace ν} {kind : DeliveryKind} {input : DeliveryInput}
    (h : workspace.deliveryStatus kind input = some .running) (responseStatus : Nat) (now : Int) :
    ∃ succeeded, markDeliverySucceeded workspace kind input responseStatus now = .ok succeeded := by
  cases kind with
  | webhook =>
    simp only [markDeliverySucceeded, markSqliteWebhookDeliverySucceeded, except_bind_eq_ok, requireThat_eq_ok]
    exact ⟨_, (), find_running h, rfl⟩
  | writeback =>
    simp only [markDeliverySucceeded, markSqliteWritebackDeliverySucceeded, except_bind_eq_ok, requireThat_eq_ok]
    exact ⟨_, (), find_running h, rfl⟩

theorem DeliveriesKept.status {before after : DeliveryWorkspace ν} (h : DeliveriesKept before after)
    {kind : DeliveryKind} {input : DeliveryInput} {status : DeliveryStatus}
    (hstatus : before.deliveryStatus kind input = some status) : after.deliveryStatus kind input = some status := by
  cases kind with
  | webhook =>
    obtain ⟨delivery, hfind, rfl⟩ := Option.map_eq_some_iff.mp hstatus
    have hmem := h.webhooks delivery (List.mem_of_find?_eq_some hfind)
    cases hafter : after.webhookDeliveries.records.find? (webhookScope input) with
    | none => exact absurd (List.find?_some hfind) (List.find?_eq_none.mp hafter delivery hmem)
    | some found =>
      obtain rfl := webhookScope_unique found (List.mem_of_find?_eq_some hafter) delivery hmem (List.find?_some hafter)
        (List.find?_some hfind)
      rw [DeliveryWorkspace.deliveryStatus, hafter, Option.map_some]
  | writeback =>
    obtain ⟨delivery, hfind, rfl⟩ := Option.map_eq_some_iff.mp hstatus
    have hmem := h.writebacks delivery (List.mem_of_find?_eq_some hfind)
    cases hafter : after.writebackDeliveries.records.find? (deliveryScope input) with
    | none => exact absurd (List.find?_some hfind) (List.find?_eq_none.mp hafter delivery hmem)
    | some found =>
      obtain rfl := deliveryScope_unique found (List.mem_of_find?_eq_some hafter) delivery hmem (List.find?_some hafter)
        (List.find?_some hfind)
      rw [DeliveryWorkspace.deliveryStatus, hafter, Option.map_some]

theorem setDeliveryFailure_status (workspace : DeliveryWorkspace ν) (kind : DeliveryKind) (input : DeliveryInput)
    (failure : DeliveryFailure) (now : Int) (otherKind : DeliveryKind) (other : DeliveryInput) :
    (setDeliveryFailure workspace kind input failure now).deliveryStatus otherKind other =
      if otherKind = kind ∧ other = input then
        (workspace.deliveryStatus otherKind other).map fun status =>
          if status.active then (if failure.retrying then .queued else .failed) else status
      else workspace.deliveryStatus otherKind other := by
  cases kind with
  | webhook =>
    exact deliveryStatus_updateWebhooks workspace input (fun delivery => webhookScope input delivery && delivery.status.active)
      (failWebhook failure now) ⟨fun _ => rfl⟩ (fun _ => ⟨rfl, rfl⟩) DeliveryStatus.active
      (if failure.retrying then .queued else .failed) (fun _ _ => rfl) (fun _ => rfl) _ _
  | writeback =>
    exact deliveryStatus_updateDeliveries workspace input
      (fun delivery => deliveryScope input delivery && delivery.status.active) (failDelivery failure now) ⟨fun _ => rfl⟩
      (fun _ => ⟨rfl, rfl⟩) DeliveryStatus.active (if failure.retrying then .queued else .failed) (fun _ _ => rfl)
      (fun _ => rfl) _ _

end Status

end ByokGrid
