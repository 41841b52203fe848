import ByokGrid.SettlementOutcomes
import ByokGrid.Transition
import ByokGrid.WebhookDeliveries

/-! The system of the deliveries: queueing by hand, by workflows and by settlements,
and the workers. No step changes what the key of a delivery stands for. -/

namespace ByokGrid

inductive DeliveryKind where
  | webhook
  | writeback
  deriving Repr, DecidableEq

structure DeliveryBinding where
  destinationId : String
  tableId : String
  rowId : String
  deriving Repr, DecidableEq

section Bindings

variable {ν : Type}

def WebhookDelivery.binding (delivery : WebhookDelivery ν) : DeliveryBinding :=
  ⟨delivery.destinationId, delivery.tableId, delivery.rowId⟩

def WritebackDelivery.binding (delivery : WritebackDelivery ν) : DeliveryBinding :=
  ⟨delivery.destinationId, delivery.tableId, delivery.rowId⟩

def DeliveryWorkspace.binding (workspace : DeliveryWorkspace ν) : DeliveryKind → String → Option DeliveryBinding
  | .webhook, deliveryId => (workspace.webhookDeliveries.get? deliveryId).map WebhookDelivery.binding
  | .writeback, deliveryId => (workspace.writebackDeliveries.get? deliveryId).map WritebackDelivery.binding

def BindingsKept (before after : DeliveryWorkspace ν) : Prop :=
  ∀ kind deliveryId binding, before.binding kind deliveryId = some binding → after.binding kind deliveryId = some binding

structure DeliveriesKept (before after : DeliveryWorkspace ν) : Prop where
  webhooks : ∀ delivery ∈ before.webhookDeliveries, delivery ∈ after.webhookDeliveries
  writebacks : ∀ delivery ∈ before.writebackDeliveries, delivery ∈ after.writebackDeliveries

theorem DeliveriesKept.refl (workspace : DeliveryWorkspace ν) : DeliveriesKept workspace workspace where
  webhooks _ hmem := hmem
  writebacks _ hmem := hmem

theorem DeliveriesKept.trans {a b c : DeliveryWorkspace ν} (hab : DeliveriesKept a b) (hbc : DeliveriesKept b c) :
    DeliveriesKept a c where
  webhooks delivery hmem := hbc.webhooks delivery (hab.webhooks delivery hmem)
  writebacks delivery hmem := hbc.writebacks delivery (hab.writebacks delivery hmem)

theorem DeliveriesKept.bindings {before after : DeliveryWorkspace ν} (h : DeliveriesKept before after) :
    BindingsKept before after := by
  intro kind deliveryId binding hbinding
  cases kind with
  | webhook =>
    obtain ⟨delivery, hstored, rfl⟩ := Option.map_eq_some_iff.mp hbinding
    obtain ⟨hmem, hid⟩ := Table.get?_eq_some.mp hstored
    have hkept : after.webhookDeliveries.get? deliveryId = some delivery :=
      Table.get?_eq_some.mpr ⟨h.webhooks delivery hmem, hid⟩
    rw [DeliveryWorkspace.binding, hkept]
    rfl
  | writeback =>
    obtain ⟨delivery, hstored, rfl⟩ := Option.map_eq_some_iff.mp hbinding
    obtain ⟨hmem, hid⟩ := Table.get?_eq_some.mp hstored
    have hkept : after.writebackDeliveries.get? deliveryId = some delivery :=
      Table.get?_eq_some.mpr ⟨h.writebacks delivery hmem, hid⟩
    rw [DeliveryWorkspace.binding, hkept]
    rfl

theorem BindingsKept.refl (workspace : DeliveryWorkspace ν) : BindingsKept workspace workspace :=
  (DeliveriesKept.refl workspace).bindings

theorem BindingsKept.trans {a b c : DeliveryWorkspace ν} (hab : BindingsKept a b) (hbc : BindingsKept b c) :
    BindingsKept a c := by
  intro kind deliveryId binding hbinding
  exact hbc kind deliveryId binding (hab kind deliveryId binding hbinding)

theorem BindingsKept.updateWebhooks (workspace : DeliveryWorkspace ν) (p : WebhookDelivery ν → Bool)
    {f : WebhookDelivery ν → WebhookDelivery ν} (hf : KeepsKey f)
    (hbinding : ∀ delivery, (f delivery).binding = delivery.binding) :
    BindingsKept workspace (updateWebhooks workspace p f hf) := by
  intro kind deliveryId binding h
  cases kind with
  | writeback => exact h
  | webhook =>
    obtain ⟨delivery, hstored, rfl⟩ := Option.map_eq_some_iff.mp h
    rw [DeliveryWorkspace.binding, ByokGrid.updateWebhooks, Table.get?_modify, hstored, Option.map_some, Option.map_some]
    split
    · rw [hbinding]
    · rfl

theorem BindingsKept.updateDeliveries (workspace : DeliveryWorkspace ν) (p : WritebackDelivery ν → Bool)
    {f : WritebackDelivery ν → WritebackDelivery ν} (hf : KeepsKey f)
    (hbinding : ∀ delivery, (f delivery).binding = delivery.binding) :
    BindingsKept workspace (updateDeliveries workspace p f hf) := by
  intro kind deliveryId binding h
  cases kind with
  | webhook => exact h
  | writeback =>
    obtain ⟨delivery, hstored, rfl⟩ := Option.map_eq_some_iff.mp h
    rw [DeliveryWorkspace.binding, ByokGrid.updateDeliveries, Table.get?_modify, hstored, Option.map_some, Option.map_some]
    split
    · rw [hbinding]
    · rfl

end Bindings

section Queueing

variable {ν : Type}

theorem queueWriteback_kept {candidate : WritebackCandidate ν} {row : Row} {stamp : SettlementStamp}
    {state state' : Queued ν} (h : queueWriteback candidate row stamp state = .ok state') :
    DeliveriesKept state.2 state'.2 := by
  simp only [queueWriteback] at h
  split at h
  · cases h
    exact DeliveriesKept.refl _
  · split at h
    · cases h
      exact DeliveriesKept.refl _
    · rename_i deliveries hinsert
      simp only [enqueueWritebackDelivery, except_bind_eq_ok, requireSome_eq_ok, pure, Except.pure,
        Except.ok.injEq] at h
      obtain ⟨_, ⟨events, _, rfl⟩, rfl⟩ := h
      exact ⟨fun _ hmem => hmem, fun _ hmem => (Table.mem_insert hinsert).mpr (Or.inl hmem)⟩

theorem queueWritebacks_kept {candidates : List (WritebackCandidate ν)} {row : Row} {stamp : SettlementStamp}
    {destinationIds : List String} {state state' : Queued ν}
    (h : queueWritebacks candidates row stamp destinationIds state = .ok state') : DeliveriesKept state.2 state'.2 := by
  induction destinationIds generalizing state with
  | nil =>
    cases h
    exact DeliveriesKept.refl _
  | cons destinationId destinationIds ih =>
    unfold queueWritebacks at h
    split at h
    · exact ih h
    · rw [except_bind_eq_ok] at h
      obtain ⟨next, hnext, hrest⟩ := h
      exact (queueWriteback_kept hnext).trans (ih hrest)

theorem insertRequested_kept {workspace queued : DeliveryWorkspace ν} {input : WebhookRequest}
    {delivery returned : WebhookDelivery ν} {now : Int}
    (h : insertRequested workspace input delivery now = .ok (returned, queued)) : DeliveriesKept workspace queued := by
  unfold insertRequested at h
  split at h
  · simp only [except_bind_eq_ok, pure, Except.pure, Except.ok.injEq, Prod.mk.injEq] at h
    obtain ⟨_, _, _, rfl⟩ := h
    exact DeliveriesKept.refl _
  · rename_i deliveries hinsert
    have hkept : ∀ other ∈ workspace.webhookDeliveries, other ∈ deliveries :=
      fun other hmem => (Table.mem_insert hinsert).mpr (Or.inl hmem)
    split at h
    · simp only [except_bind_eq_ok, pure, Except.pure, Except.ok.injEq, Prod.mk.injEq] at h
      obtain ⟨_, _, _, rfl⟩ := h
      exact ⟨hkept, fun _ hmem => hmem⟩
    · cases h
      exact ⟨hkept, fun _ hmem => hmem⟩

variable [JsRuntime ν]

theorem queueDelivery_kept {workspace queued : DeliveryWorkspace ν} {input : WebhookRequest} {context : DeliveryContext}
    {tableName : String} {returned : WebhookDelivery ν}
    (h : queueDelivery workspace input context tableName = .ok (returned, queued)) : DeliveriesKept workspace queued := by
  simp only [queueDelivery, except_bind_eq_ok] at h
  obtain ⟨_, _, _, _, hinsert⟩ := h
  exact insertRequested_kept hinsert

theorem queueSqliteWebhookDelivery_kept {workspace queued : DeliveryWorkspace ν} {input : QueueWebhook}
    {context : DeliveryContext} {tableName : String} {returned : WebhookDelivery ν}
    (h : queueSqliteWebhookDelivery workspace input context tableName = .ok (returned, queued)) :
    DeliveriesKept workspace queued := by
  simp only [queueSqliteWebhookDelivery, except_bind_eq_ok] at h
  obtain ⟨_, _, hqueued⟩ := h
  exact queueDelivery_kept hqueued

theorem queueWorkflowDeliveries_kept [ConnectorRuntime ν] {input : QueueWorkflowWebhooks} {tableId : String}
    {context : DeliveryContext} {tableName : String} {rows : List WorkflowRowReference}
    {workspace queued : DeliveryWorkspace ν} {deliveries : List DeliveryInput}
    (h : queueWorkflowDeliveries input tableId context tableName rows workspace = .ok (deliveries, queued)) :
    DeliveriesKept workspace queued := by
  induction rows generalizing workspace deliveries with
  | nil =>
    cases h
    exact DeliveriesKept.refl _
  | cons row rows ih =>
    simp only [queueWorkflowDeliveries, except_bind_eq_ok, pure, Except.pure, Except.ok.injEq, Prod.mk.injEq] at h
    obtain ⟨next, hnext, rest, hrest, _, rfl⟩ := h
    exact (queueDelivery_kept hnext).trans (ih hrest)

theorem queueWebhook_kept {snapshot : WebhookRowSnapshot ν} {stamp : SettlementStamp} {destination : WebhookDestination}
    {state state' : Queued ν} (h : queueWebhook snapshot stamp destination state = .ok state') :
    DeliveriesKept state.2 state'.2 := by
  simp only [queueWebhook, except_bind_eq_ok] at h
  obtain ⟨_, _, h⟩ := h
  split at h
  · cases h
    exact DeliveriesKept.refl _
  · split at h
    · cases h
      exact DeliveriesKept.refl _
    · rename_i deliveries hinsert
      simp only [except_bind_eq_ok, pure, Except.pure, Except.ok.injEq] at h
      obtain ⟨_, _, rfl⟩ := h
      exact ⟨fun _ hmem => (Table.mem_insert hinsert).mpr (Or.inl hmem), fun _ hmem => hmem⟩

theorem queueWebhooks_kept {snapshot : WebhookRowSnapshot ν} {stamp : SettlementStamp}
    {destinations : List WebhookDestination} {state state' : Queued ν}
    (h : queueWebhooks snapshot stamp destinations state = .ok state') : DeliveriesKept state.2 state'.2 := by
  induction destinations generalizing state with
  | nil =>
    cases h
    exact DeliveriesKept.refl _
  | cons destination destinations ih =>
    unfold queueWebhooks at h
    rw [except_bind_eq_ok] at h
    obtain ⟨next, hnext, hrest⟩ := h
    exact (queueWebhook_kept hnext).trans (ih hrest)

theorem queueSettledSqliteWebhookDeliveries_kept {workspace : DeliveryWorkspace ν} {row : Row} {stamp : SettlementStamp}
    {hooked : Queued ν} (h : queueSettledSqliteWebhookDeliveries workspace row stamp = .ok hooked) :
    DeliveriesKept workspace hooked.2 := by
  unfold queueSettledSqliteWebhookDeliveries at h
  split at h
  · cases h
    exact DeliveriesKept.refl workspace
  · exact queueWebhooks_kept h

theorem queueSqliteWorkflowWebhookDeliveries_kept [ConnectorRuntime ν] {workspace queued : DeliveryWorkspace ν}
    {input : QueueWorkflowWebhooks} {context : DeliveryContext} {tableName : String} {deliveries : List DeliveryInput}
    (h : queueSqliteWorkflowWebhookDeliveries workspace input context tableName = .ok (deliveries, queued)) :
    DeliveriesKept workspace queued := by
  simp only [queueSqliteWorkflowWebhookDeliveries, except_bind_eq_ok] at h
  obtain ⟨_, _, _, _, _, _, _, _, hqueued⟩ := h
  exact queueWorkflowDeliveries_kept hqueued

variable [ConnectorRuntime ν] [NumberComparison ν]

omit [NumberComparison ν] in
theorem queueSqliteWritebackDelivery_kept {workspace queued : DeliveryWorkspace ν} {input : QueueWriteback}
    {context : DeliveryContext} {returned : WritebackDelivery ν}
    (h : queueSqliteWritebackDelivery workspace input context = .ok (returned, queued)) :
    DeliveriesKept workspace queued := by
  simp only [queueSqliteWritebackDelivery, except_bind_eq_ok] at h
  obtain ⟨_, _, destination, _, row, _, h⟩ := h
  split at h
  · simp only [except_bind_eq_ok, pure, Except.pure, Except.ok.injEq, Prod.mk.injEq] at h
    obtain ⟨_, _, _, rfl⟩ := h
    exact DeliveriesKept.refl _
  · simp only [insertManualDelivery, enqueueWritebackDelivery, except_bind_eq_ok, requireSome_eq_ok, pure, Except.pure,
      Except.ok.injEq, Prod.mk.injEq] at h
    obtain ⟨_, _, prepared, _, deliveries, hinsert, _, ⟨_, _, rfl⟩, _, rfl⟩ := h
    exact ⟨fun _ hmem => hmem, fun _ hmem => (Table.mem_insert hinsert).mpr (Or.inl hmem)⟩

theorem queueSettledSqliteWritebackDeliveries_kept {workspace : DeliveryWorkspace ν} {settled : SettledRow} {limit : Nat}
    {stamp : SettlementStamp} {written : Queued ν}
    (h : queueSettledSqliteWritebackDeliveries workspace settled limit stamp = .ok (.ok written)) :
    DeliveriesKept workspace written.2 := by
  unfold queueSettledSqliteWritebackDeliveries at h
  split at h
  · cases h
    exact DeliveriesKept.refl workspace
  · simp only [except_bind_eq_ok] at h
    obtain ⟨_, _, candidates, _, h⟩ := h
    split at h
    · cases h
    · simp only [except_bind_eq_ok, pure, Except.pure, Except.ok.injEq] at h
      obtain ⟨queued, hqueued, rfl⟩ := h
      exact queueWritebacks_kept hqueued

theorem processSqliteRowSettlement_kept {workspace : DeliveryWorkspace ν} {input : RowSettlementInput}
    {limits : SettlementLimits} {stamp : SettlementStamp} {result : SettlementResult × DeliveryWorkspace ν}
    (h : processSqliteRowSettlement workspace input limits stamp = .ok result) : DeliveriesKept workspace result.2 := by
  cases processSqliteRowSettlement_eq_ok h with
  | finished _ => exact DeliveriesKept.refl workspace
  | stale row settlement _ stored _ open_ _ => exact ⟨fun _ hmem => hmem, fun _ hmem => hmem⟩
  | settled row settlement _ found _ stored scope open_ _ version outcome =>
    cases outcome with
    | waiting _ => exact ⟨fun _ hmem => hmem, fun _ hmem => hmem⟩
    | refused _ => exact ⟨fun _ hmem => hmem, fun _ hmem => hmem⟩
    | dispatched _ _ _ _ _ => exact ⟨fun _ hmem => hmem, fun _ hmem => hmem⟩
    | delivered written hooked _ _ hwritten hhooked =>
      have hstart : DeliveriesKept workspace (workspace.start settlement.id stamp.context.now) :=
        ⟨fun _ hmem => hmem, fun _ hmem => hmem⟩
      have hqueued := (queueSettledSqliteWritebackDeliveries_kept hwritten).trans
        (queueSettledSqliteWebhookDeliveries_kept hhooked)
      have hdelivered : DeliveriesKept hooked.2 (deliveredWith (workspace.start settlement.id stamp.context.now) hooked
          settlement (written.1 + hooked.1) stamp.context.now).2 := ⟨fun _ hmem => hmem, fun _ hmem => hmem⟩
      exact (hstart.trans hqueued).trans hdelivered

end Queueing

inductive DeliveryAction (ν : Type) where
  | queueWebhook (input : QueueWebhook) (context : DeliveryContext) (tableName : String)
  | queueWorkflowWebhooks (input : QueueWorkflowWebhooks) (context : DeliveryContext) (tableName : String)
  | queueWriteback (input : QueueWriteback) (context : DeliveryContext)
  | settle (input : RowSettlementInput) (limits : SettlementLimits) (stamp : SettlementStamp)
  | start (kind : DeliveryKind) (input : DeliveryInput) (now : Int)
  | succeed (kind : DeliveryKind) (input : DeliveryInput) (responseStatus : Nat) (now : Int)
  | fail (kind : DeliveryKind) (input : DeliveryInput) (failure : DeliveryFailure) (now : Int)
  /-- Any other transaction, of rows and destinations too: it does not touch the deliveries. -/
  | other (db : Database ν)

section System

variable {ν : Type}

def markDeliveryRunning (workspace : DeliveryWorkspace ν) :
    DeliveryKind → DeliveryInput → Int → Except StoreError (DeliveryStart × DeliveryWorkspace ν)
  | .webhook => markSqliteWebhookDeliveryRunning workspace
  | .writeback => markSqliteWritebackDeliveryRunning workspace

def markDeliverySucceeded (workspace : DeliveryWorkspace ν) :
    DeliveryKind → DeliveryInput → Nat → Int → Except StoreError (DeliveryWorkspace ν)
  | .webhook => markSqliteWebhookDeliverySucceeded workspace
  | .writeback => markSqliteWritebackDeliverySucceeded workspace

def setDeliveryFailure (workspace : DeliveryWorkspace ν) :
    DeliveryKind → DeliveryInput → DeliveryFailure → Int → DeliveryWorkspace ν
  | .webhook => setSqliteWebhookDeliveryFailure workspace
  | .writeback => setSqliteWritebackDeliveryWorkerFailure workspace

def DeliveryWorkspace.committed {α : Type} (workspace : DeliveryWorkspace ν) :
    Except StoreError (α × DeliveryWorkspace ν) → DeliveryWorkspace ν
  | .ok result => result.2
  | .error _ => workspace

theorem markDeliveryRunning_bindings {workspace started : DeliveryWorkspace ν} {kind : DeliveryKind}
    {input : DeliveryInput} {now : Int} {state : DeliveryStart}
    (h : markDeliveryRunning workspace kind input now = .ok (state, started)) : BindingsKept workspace started := by
  cases kind with
  | webhook =>
    simp only [markDeliveryRunning, markSqliteWebhookDeliveryRunning, except_bind_eq_ok] at h
    obtain ⟨delivery, _, h⟩ := h
    split at h
    all_goals cases h
    · exact BindingsKept.refl workspace
    · exact BindingsKept.refl workspace
    · exact BindingsKept.updateWebhooks _ _ (f := startWebhook now) ⟨fun _ => rfl⟩ fun _ => rfl
    · exact BindingsKept.updateWebhooks _ _ (f := startWebhook now) ⟨fun _ => rfl⟩ fun _ => rfl
  | writeback =>
    simp only [markDeliveryRunning, markSqliteWritebackDeliveryRunning, except_bind_eq_ok] at h
    obtain ⟨delivery, _, h⟩ := h
    split at h
    all_goals cases h
    · exact BindingsKept.refl workspace
    · exact BindingsKept.refl workspace
    · exact BindingsKept.updateDeliveries _ _ (f := startDelivery now) ⟨fun _ => rfl⟩ fun _ => rfl
    · exact BindingsKept.updateDeliveries _ _ (f := startDelivery now) ⟨fun _ => rfl⟩ fun _ => rfl

theorem markDeliverySucceeded_bindings {workspace succeeded : DeliveryWorkspace ν} {kind : DeliveryKind}
    {input : DeliveryInput} {responseStatus : Nat} {now : Int}
    (h : markDeliverySucceeded workspace kind input responseStatus now = .ok succeeded) :
    BindingsKept workspace succeeded := by
  cases kind with
  | webhook =>
    simp only [markDeliverySucceeded, markSqliteWebhookDeliverySucceeded, except_bind_eq_ok] at h
    obtain ⟨_, _, h⟩ := h
    cases h
    exact BindingsKept.updateWebhooks _ _ (f := succeedWebhook responseStatus now) ⟨fun _ => rfl⟩ fun _ => rfl
  | writeback =>
    simp only [markDeliverySucceeded, markSqliteWritebackDeliverySucceeded, except_bind_eq_ok] at h
    obtain ⟨_, _, h⟩ := h
    cases h
    exact BindingsKept.updateDeliveries _ _ (f := succeedDelivery responseStatus now) ⟨fun _ => rfl⟩ fun _ => rfl

theorem setDeliveryFailure_bindings (workspace : DeliveryWorkspace ν) (kind : DeliveryKind) (input : DeliveryInput)
    (failure : DeliveryFailure) (now : Int) : BindingsKept workspace (setDeliveryFailure workspace kind input failure now) := by
  cases kind with
  | webhook => exact BindingsKept.updateWebhooks _ _ (f := failWebhook failure now) ⟨fun _ => rfl⟩ fun _ => rfl
  | writeback => exact BindingsKept.updateDeliveries _ _ (f := failDelivery failure now) ⟨fun _ => rfl⟩ fun _ => rfl

variable [JsRuntime ν] [ConnectorRuntime ν] [NumberComparison ν]

def DeliveryWorkspace.stepDelivery (workspace : DeliveryWorkspace ν) : DeliveryAction ν → DeliveryWorkspace ν
  | .queueWebhook input context tableName =>
    workspace.committed (queueSqliteWebhookDelivery workspace input context tableName)
  | .queueWorkflowWebhooks input context tableName =>
    workspace.committed (queueSqliteWorkflowWebhookDeliveries workspace input context tableName)
  | .queueWriteback input context => workspace.committed (queueSqliteWritebackDelivery workspace input context)
  | .settle input limits stamp => workspace.committed (processSqliteRowSettlement workspace input limits stamp)
  | .start kind input now => workspace.committed (markDeliveryRunning workspace kind input now)
  | .succeed kind input responseStatus now =>
    match markDeliverySucceeded workspace kind input responseStatus now with
    | .ok next => next
    | .error _ => workspace
  | .fail kind input failure now => setDeliveryFailure workspace kind input failure now
  | .other db => workspace.withDatabase db

omit [JsRuntime ν] [ConnectorRuntime ν] [NumberComparison ν] in
theorem committed_bindings {α : Type} {workspace : DeliveryWorkspace ν}
    {result : Except StoreError (α × DeliveryWorkspace ν)}
    (h : ∀ value next, result = .ok (value, next) → BindingsKept workspace next) :
    BindingsKept workspace (workspace.committed result) := by
  cases result with
  | error _ => exact BindingsKept.refl workspace
  | ok result => exact h result.1 result.2 rfl

theorem stepDelivery_bindings (workspace : DeliveryWorkspace ν) (action : DeliveryAction ν) :
    BindingsKept workspace (workspace.stepDelivery action) := by
  cases action with
  | queueWebhook input context tableName =>
    exact committed_bindings fun _ _ h => (queueSqliteWebhookDelivery_kept h).bindings
  | queueWorkflowWebhooks input context tableName =>
    exact committed_bindings fun _ _ h => (queueSqliteWorkflowWebhookDeliveries_kept h).bindings
  | queueWriteback input context =>
    exact committed_bindings fun _ _ h => (queueSqliteWritebackDelivery_kept h).bindings
  | settle input limits stamp =>
    exact committed_bindings fun _ _ h => (processSqliteRowSettlement_kept h).bindings
  | start kind input now => exact committed_bindings fun _ _ h => markDeliveryRunning_bindings h
  | succeed kind input responseStatus now =>
    simp only [DeliveryWorkspace.stepDelivery]
    cases hsucceed : markDeliverySucceeded workspace kind input responseStatus now with
    | error _ => exact BindingsKept.refl workspace
    | ok next => exact markDeliverySucceeded_bindings hsucceed
  | fail kind input failure now => exact setDeliveryFailure_bindings workspace kind input failure now
  | other db => exact (DeliveriesKept.mk (fun _ hmem => hmem) fun _ hmem => hmem).bindings

theorem runActions_bindings (workspace : DeliveryWorkspace ν) (actions : List (DeliveryAction ν)) :
    BindingsKept workspace (runActions DeliveryWorkspace.stepDelivery workspace actions) := by
  induction actions generalizing workspace with
  | nil => exact BindingsKept.refl workspace
  | cons action actions ih => exact (stepDelivery_bindings workspace action).trans (ih _)

end System

end ByokGrid
