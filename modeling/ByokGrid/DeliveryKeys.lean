import ByokGrid.DeliverySystem

/-! The keys of deliveries over every history: a key stands for the request it was
first accepted for, and asking again for that request changes nothing. -/

namespace ByokGrid

structure DeliveryRequest where
  kind : DeliveryKind
  deliveryId : String
  destinationId : String
  rowId : String
  tableId : String
  userId : String
  eventId : String
  tableName : String
  deriving Repr, DecidableEq

def DeliveryRequest.binding (request : DeliveryRequest) : DeliveryBinding :=
  ⟨request.destinationId, request.tableId, request.rowId⟩

def DeliveryRequest.webhook (request : DeliveryRequest) : QueueWebhook where
  deliveryId := request.deliveryId
  destinationId := request.destinationId
  rowId := request.rowId
  tableId := request.tableId
  userId := request.userId
  eventId := request.eventId

def DeliveryRequest.writeback (request : DeliveryRequest) : QueueWriteback where
  deliveryId := request.deliveryId
  destinationId := request.destinationId
  rowId := request.rowId
  tableId := request.tableId
  userId := request.userId
  eventId := request.eventId

section Requests

variable {ν : Type} [JsRuntime ν]

def DeliveryWorkspace.delivery (workspace : DeliveryWorkspace ν) :
    DeliveryKind → String → Option (WebhookDelivery ν ⊕ WritebackDelivery ν)
  | .webhook, deliveryId => (workspace.webhookDeliveries.get? deliveryId).map .inl
  | .writeback, deliveryId => (workspace.writebackDeliveries.get? deliveryId).map .inr

def DeliveryWorkspace.queue [ConnectorRuntime ν] (workspace : DeliveryWorkspace ν) (request : DeliveryRequest)
    (context : DeliveryContext) : Except StoreError ((WebhookDelivery ν ⊕ WritebackDelivery ν) × DeliveryWorkspace ν) :=
  match request.kind with
  | .webhook =>
    (queueSqliteWebhookDelivery workspace request.webhook context request.tableName).map fun queued =>
      (.inl queued.1, queued.2)
  | .writeback =>
    (queueSqliteWritebackDelivery workspace request.writeback context).map fun queued => (.inr queued.1, queued.2)

/-- The user may write the table, and the row of the webhook can be sent as it is now:
the destination is in use and the payload of the row is accepted. -/
def WebhookRepeatable (db : Database ν) (request : DeliveryRequest) (context : DeliveryContext) : Prop :=
  requireTablePermission db request.tableId request.userId .dataWrite = .ok () ∧
    ∃ destination row, db.webhookDestinations.get? request.destinationId = some destination ∧
      destination.tableId = request.tableId ∧ db.grid.rows.get? request.rowId = some row ∧
      row.tableId = request.tableId ∧ row.archivedAt = none ∧ destination.status = .active ∧
      (manualPayload (webhookRowSnapshot db.grid row request.tableName) context request.deliveryId).accepted = true

def WritebackRepeatable (db : Database ν) (request : DeliveryRequest) : Prop :=
  assertSqliteWritebackTableAccess db request.tableId request.userId = .ok () ∧
    ∃ destination row, db.writebackDestinations.get? request.destinationId = some destination ∧
      destination.tableId = request.tableId ∧ db.grid.rows.get? request.rowId = some row ∧
      row.tableId = request.tableId ∧ row.archivedAt = none

def DeliveryRequest.Repeatable (request : DeliveryRequest) (db : Database ν) (context : DeliveryContext) : Prop :=
  match request.kind with
  | .webhook => WebhookRepeatable db request context
  | .writeback => WritebackRepeatable db request

end Requests

section Webhooks

variable {ν : Type} [JsRuntime ν] {workspace : DeliveryWorkspace ν} {stored : WebhookDelivery ν}

omit [JsRuntime ν] in
theorem insert_taken {delivery : WebhookDelivery ν}
    (hstored : workspace.webhookDeliveries.get? delivery.id = some stored) :
    workspace.webhookDeliveries.insert delivery = none := by
  refine Table.insert_eq_none.mpr ?_
  show (workspace.webhookDeliveries.get? delivery.id).isSome = true
  rw [hstored]
  rfl

omit [JsRuntime ν] in
theorem find_webhookScope {input : DeliveryInput}
    (hstored : workspace.webhookDeliveries.get? input.deliveryId = some stored) {found : WebhookDelivery ν}
    (hfound : workspace.webhookDeliveries.records.find? (webhookScope input) = some found) :
    found = stored ∧ stored.destinationId = input.destinationId ∧ stored.tableId = input.tableId := by
  have hscope := List.find?_some hfound
  simp only [webhookScope, Bool.and_eq_true, decide_eq_true_eq] at hscope
  have hget : workspace.webhookDeliveries.get? input.deliveryId = some found :=
    Table.get?_eq_some.mpr ⟨List.mem_of_find?_eq_some hfound, hscope.1.1⟩
  obtain rfl : stored = found := Option.some.inj (hstored.symm.trans hget)
  exact ⟨rfl, hscope.1.2, hscope.2⟩

omit [JsRuntime ν] in
theorem find_webhookScope_of_binding {input : DeliveryInput}
    (hstored : workspace.webhookDeliveries.get? input.deliveryId = some stored)
    (hdestination : stored.destinationId = input.destinationId) (htable : stored.tableId = input.tableId) :
    workspace.webhookDeliveries.records.find? (webhookScope input) = some stored := by
  obtain ⟨hmem, hid⟩ := Table.get?_eq_some.mp hstored
  have hscope : webhookScope input stored = true := by
    simp only [webhookScope, Bool.and_eq_true, decide_eq_true_eq]
    exact ⟨⟨hid, hdestination⟩, htable⟩
  cases hfind : workspace.webhookDeliveries.records.find? (webhookScope input) with
  | none =>
    have hnone := List.find?_eq_none.mp hfind stored hmem
    exact absurd hscope hnone
  | some found => rw [(find_webhookScope hstored hfind).1]

omit [JsRuntime ν] in
theorem insertRequested_taken {input : WebhookRequest} {delivery returned : WebhookDelivery ν}
    {queued : DeliveryWorkspace ν} {now : Int} (hid : delivery.id = input.deliveryId)
    (hstored : workspace.webhookDeliveries.get? input.deliveryId = some stored) :
    insertRequested workspace input delivery now = .ok (returned, queued) ↔
      stored.binding = ⟨input.destinationId, input.tableId, input.rowId⟩ ∧ returned = stored ∧ queued = workspace := by
  have htaken : workspace.webhookDeliveries.insert delivery = none := insert_taken (hid ▸ hstored)
  simp only [insertRequested, htaken, except_bind_eq_ok, requireSome_eq_ok, Option.filter_eq_some_iff, pure,
    Except.pure, Except.ok.injEq, Prod.mk.injEq, decide_eq_true_eq]
  constructor
  · rintro ⟨existing, ⟨hfind, hrow⟩, rfl, rfl⟩
    obtain ⟨rfl, hdestination, htable⟩ := find_webhookScope hstored hfind
    refine ⟨?_, rfl, rfl⟩
    rw [WebhookDelivery.binding, hrow, hdestination, htable]
    rfl
  · rintro ⟨hbinding, rfl, rfl⟩
    simp only [WebhookDelivery.binding, DeliveryBinding.mk.injEq] at hbinding
    exact ⟨returned, ⟨find_webhookScope_of_binding hstored hbinding.1 hbinding.2.1, hbinding.2.2⟩, rfl, rfl⟩

omit [JsRuntime ν] in
theorem webhookTarget_eq_ok {db : Database ν} {input : WebhookRequest} {target : WebhookDestination × Row} :
    webhookTarget db input = .ok target ↔
      db.webhookDestinations.get? input.destinationId = some target.1 ∧ target.1.tableId = input.tableId ∧
        db.grid.rows.get? input.rowId = some target.2 ∧ target.2.tableId = input.tableId ∧
        target.2.archivedAt = none := by
  obtain ⟨destination, row⟩ := target
  simp only [webhookTarget, except_bind_eq_ok, requireSome_eq_ok, Option.filter_eq_some_iff, pure, Except.pure,
    Except.ok.injEq, Prod.mk.injEq, Bool.and_eq_true, decide_eq_true_eq, Option.isNone_iff_eq_none]
  constructor
  · rintro ⟨_, ⟨hdestination, htable⟩, _, ⟨hrow, hrowTable, hused⟩, rfl, rfl⟩
    exact ⟨hdestination, htable, hrow, hrowTable.trans htable, hused⟩
  · rintro ⟨hdestination, htable, hrow, hrowTable, hused⟩
    exact ⟨destination, ⟨hdestination, htable⟩, row, ⟨hrow, hrowTable.trans htable.symm, hused⟩, rfl, rfl⟩

omit [JsRuntime ν] in
theorem insertRequested_binding {input : WebhookRequest} {delivery returned : WebhookDelivery ν}
    {queued : DeliveryWorkspace ν} {now : Int} (hid : delivery.id = input.deliveryId)
    (hbinding : delivery.binding = ⟨input.destinationId, input.tableId, input.rowId⟩)
    (h : insertRequested workspace input delivery now = .ok (returned, queued)) :
    queued.binding .webhook input.deliveryId = some ⟨input.destinationId, input.tableId, input.rowId⟩ := by
  cases hstored : workspace.webhookDeliveries.get? input.deliveryId with
  | some stored =>
    obtain ⟨hsame, _, rfl⟩ := (insertRequested_taken hid hstored).mp h
    rw [DeliveryWorkspace.binding, hstored, Option.map_some, hsame]
  | none =>
    have hnew : ∀ deliveries, workspace.webhookDeliveries.insert delivery = some deliveries →
        (deliveries.get? input.deliveryId).map WebhookDelivery.binding =
          some ⟨input.destinationId, input.tableId, input.rowId⟩ := by
      intro deliveries hinsert
      have hkey : input.deliveryId = Keyed.key delivery := hid.symm
      rw [Table.get?_insert hinsert, if_pos hkey, Option.map_some, hbinding]
    unfold insertRequested at h
    split at h
    · rename_i hinsert
      have htaken : (workspace.webhookDeliveries.get? delivery.id).isSome = true := Table.insert_eq_none.mp hinsert
      rw [hid, hstored] at htaken
      cases htaken
    · rename_i deliveries hinsert
      split at h
      · simp only [except_bind_eq_ok, pure, Except.pure, Except.ok.injEq, Prod.mk.injEq] at h
        obtain ⟨_, _, _, rfl⟩ := h
        exact hnew deliveries hinsert
      · cases h
        exact hnew deliveries hinsert

theorem queueSqliteWebhookDelivery_taken {request : DeliveryRequest} {context : DeliveryContext}
    {returned : WebhookDelivery ν} {queued : DeliveryWorkspace ν}
    (hstored : workspace.webhookDeliveries.get? request.deliveryId = some stored) :
    queueSqliteWebhookDelivery workspace request.webhook context request.tableName = .ok (returned, queued) ↔
      WebhookRepeatable workspace.db request context ∧ stored.binding = request.binding ∧ returned = stored ∧
        queued = workspace := by
  have htable : requireTablePermission workspace.db request.tableId request.userId .dataWrite = .ok () →
      ((workspace.db.grid.dataTables.get? request.tableId).any fun table => table.archivedAt.isNone) = true := by
    intro hpermission
    rw [requireTablePermission, requireThat_eq_ok, Bool.and_eq_true] at hpermission
    exact hpermission.1
  simp only [queueSqliteWebhookDelivery, queueDelivery, preparePayload, except_bind_eq_ok, webhookTarget_eq_ok,
    requireThat_eq_ok, decide_eq_true_eq, pure, Except.pure, Except.ok.injEq]
  constructor
  · rintro ⟨_, hpermission, ⟨destination, row⟩, ⟨hdestination, htableId, hrow, hrowTable, hused⟩, payload,
      ⟨_, hactive, _, _, _, haccepted, rfl⟩, hinsert⟩
    obtain ⟨hbinding, rfl, rfl⟩ := (insertRequested_taken rfl hstored).mp hinsert
    exact ⟨⟨hpermission, destination, row, hdestination, htableId, hrow, hrowTable, hused, hactive, haccepted⟩,
      hbinding, rfl, rfl⟩
  · rintro ⟨⟨hpermission, destination, row, hdestination, htableId, hrow, hrowTable, hused, hactive, haccepted⟩,
      hbinding, rfl, rfl⟩
    refine ⟨(), hpermission, (destination, row), ⟨hdestination, htableId, hrow, hrowTable, hused⟩, _,
      ⟨(), hactive, (), htable hpermission, (), haccepted, rfl⟩, ?_⟩
    exact (insertRequested_taken rfl hstored).mpr ⟨hbinding, rfl, rfl⟩

end Webhooks

section Writebacks

variable {ν : Type} [JsRuntime ν] [ConnectorRuntime ν] {workspace : DeliveryWorkspace ν}
  {stored : WritebackDelivery ν}

theorem queueSqliteWritebackDelivery_taken {request : DeliveryRequest} {context : DeliveryContext}
    {returned : WritebackDelivery ν} {queued : DeliveryWorkspace ν}
    (hstored : workspace.writebackDeliveries.get? request.deliveryId = some stored) :
    queueSqliteWritebackDelivery workspace request.writeback context = .ok (returned, queued) ↔
      WritebackRepeatable workspace.db request ∧ stored.binding = request.binding ∧ returned = stored ∧
        queued = workspace := by
  have hkey : workspace.writebackDeliveries.get? request.writeback.deliveryId = some stored := hstored
  simp only [queueSqliteWritebackDelivery, hkey, except_bind_eq_ok, requireSome_eq_ok, Option.filter_eq_some_iff,
    requireThat_eq_ok, Bool.and_eq_true, decide_eq_true_eq, Option.isNone_iff_eq_none, pure, Except.pure,
    Except.ok.injEq, Prod.mk.injEq]
  constructor
  · rintro ⟨_, haccess, destination, ⟨hdestination, htable⟩, row, ⟨hrow, hrowTable, hused⟩, _,
      ⟨⟨hsameDestination, hsameRow⟩, hsameTable⟩, rfl, rfl⟩
    refine ⟨⟨haccess, destination, row, hdestination, htable, hrow, hrowTable.trans htable, hused⟩, ?_, rfl, rfl⟩
    rw [WritebackDelivery.binding, hsameDestination, hsameRow, hsameTable]
    rfl
  · rintro ⟨⟨haccess, destination, row, hdestination, htable, hrow, hrowTable, hused⟩, hbinding, rfl, rfl⟩
    simp only [WritebackDelivery.binding, DeliveryRequest.binding, DeliveryBinding.mk.injEq] at hbinding
    exact ⟨(), haccess, destination, ⟨hdestination, htable⟩, row, ⟨hrow, hrowTable.trans htable.symm, hused⟩, (),
      ⟨⟨hbinding.1, hbinding.2.2⟩, hbinding.2.1⟩, rfl, rfl⟩

theorem queueSqliteWritebackDelivery_binding {request : DeliveryRequest} {context : DeliveryContext}
    {returned : WritebackDelivery ν} {queued : DeliveryWorkspace ν}
    (h : queueSqliteWritebackDelivery workspace request.writeback context = .ok (returned, queued)) :
    queued.binding .writeback request.deliveryId = some request.binding := by
  cases hstored : workspace.writebackDeliveries.get? request.deliveryId with
  | some stored =>
    obtain ⟨_, hsame, _, rfl⟩ := (queueSqliteWritebackDelivery_taken hstored).mp h
    rw [DeliveryWorkspace.binding, hstored, Option.map_some, hsame]
  | none =>
    have hkey : workspace.writebackDeliveries.get? request.writeback.deliveryId = none := hstored
    simp only [queueSqliteWritebackDelivery, hkey, insertManualDelivery, enqueueWritebackDelivery, except_bind_eq_ok,
      requireSome_eq_ok, pure, Except.pure, Except.ok.injEq, Prod.mk.injEq] at h
    obtain ⟨_, _, _, _, row, _, _, _, prepared, _, deliveries, hinsert, _, ⟨_, _, rfl⟩, _, rfl⟩ := h
    show (deliveries.get? request.deliveryId).map WritebackDelivery.binding = some request.binding
    have hown : request.deliveryId = Keyed.key (manualDelivery (ν := ν) request.writeback row prepared) := rfl
    rw [Table.get?_insert hinsert, if_pos hown]
    rfl

end Writebacks

section Histories

variable {ν : Type} [JsRuntime ν] [ConnectorRuntime ν] {workspace : DeliveryWorkspace ν} {request : DeliveryRequest}
  {context : DeliveryContext}

theorem queue_binding {delivery : WebhookDelivery ν ⊕ WritebackDelivery ν} {queued : DeliveryWorkspace ν}
    (h : workspace.queue request context = .ok (delivery, queued)) :
    queued.binding request.kind request.deliveryId = some request.binding := by
  unfold DeliveryWorkspace.queue at h
  split at h
  · rename_i hkind
    obtain ⟨⟨returned, next⟩, hqueue, heq⟩ := except_map_eq_ok.mp h
    cases heq
    simp only [queueSqliteWebhookDelivery, queueDelivery, except_bind_eq_ok] at hqueue
    obtain ⟨_, _, target, htarget, payload, _, hinsert⟩ := hqueue
    rw [hkind]
    exact insertRequested_binding rfl rfl hinsert
  · rename_i hkind
    obtain ⟨⟨returned, next⟩, hqueue, heq⟩ := except_map_eq_ok.mp h
    cases heq
    rw [hkind]
    exact queueSqliteWritebackDelivery_binding hqueue

theorem queue_taken (context : DeliveryContext) {binding : DeliveryBinding}
    (hbinding : workspace.binding request.kind request.deliveryId = some binding) :
    ∃ stored, workspace.delivery request.kind request.deliveryId = some stored ∧ ∀ result,
      workspace.queue request context = .ok result ↔
        request.Repeatable workspace.db context ∧ binding = request.binding ∧ result = (stored, workspace) := by
  unfold DeliveryWorkspace.queue DeliveryRequest.Repeatable
  cases hkind : request.kind with
  | webhook =>
    rw [hkind] at hbinding
    obtain ⟨stored, hstored, rfl⟩ := Option.map_eq_some_iff.mp hbinding
    refine ⟨.inl stored, by rw [DeliveryWorkspace.delivery, hstored, Option.map_some], ?_⟩
    rintro ⟨returned, queued⟩
    rw [except_map_eq_ok]
    constructor
    · rintro ⟨⟨delivery, next⟩, hqueue, heq⟩
      cases heq
      obtain ⟨hrepeatable, hsame, rfl, rfl⟩ := (queueSqliteWebhookDelivery_taken hstored).mp hqueue
      exact ⟨hrepeatable, hsame, rfl⟩
    · rintro ⟨hrepeatable, hsame, heq⟩
      cases heq
      exact ⟨(stored, workspace), (queueSqliteWebhookDelivery_taken hstored).mpr ⟨hrepeatable, hsame, rfl, rfl⟩, rfl⟩
  | writeback =>
    rw [hkind] at hbinding
    obtain ⟨stored, hstored, rfl⟩ := Option.map_eq_some_iff.mp hbinding
    refine ⟨.inr stored, by rw [DeliveryWorkspace.delivery, hstored, Option.map_some], ?_⟩
    rintro ⟨returned, queued⟩
    rw [except_map_eq_ok]
    constructor
    · rintro ⟨⟨delivery, next⟩, hqueue, heq⟩
      cases heq
      obtain ⟨hrepeatable, hsame, rfl, rfl⟩ := (queueSqliteWritebackDelivery_taken hstored).mp hqueue
      exact ⟨hrepeatable, hsame, rfl⟩
    · rintro ⟨hrepeatable, hsame, heq⟩
      cases heq
      exact ⟨(stored, workspace), (queueSqliteWritebackDelivery_taken hstored).mpr ⟨hrepeatable, hsame, rfl, rfl⟩, rfl⟩

variable [NumberComparison ν]

/-- After any history a key which was accepted stands for the same destination and
row. The request for them gets its delivery and changes nothing, with no event,
exactly when the row and the destination are still in reach. -/
theorem deliveryKeys_run {first : DeliveryRequest} {firstContext : DeliveryContext}
    {accepted : WebhookDelivery ν ⊕ WritebackDelivery ν} {queued : DeliveryWorkspace ν}
    (haccepted : workspace.queue first firstContext = .ok (accepted, queued)) (actions : List (DeliveryAction ν))
    (request : DeliveryRequest) (context : DeliveryContext) (hkind : request.kind = first.kind)
    (hid : request.deliveryId = first.deliveryId) :
    (∀ result, (runActions DeliveryWorkspace.stepDelivery queued actions).queue request context = .ok result →
      request.binding = first.binding) ∧
    (request.binding = first.binding →
      ((∃ delivery, (runActions DeliveryWorkspace.stepDelivery queued actions).delivery request.kind request.deliveryId =
          some delivery ∧
        (runActions DeliveryWorkspace.stepDelivery queued actions).queue request context =
          .ok (delivery, runActions DeliveryWorkspace.stepDelivery queued actions)) ↔
      request.Repeatable (runActions DeliveryWorkspace.stepDelivery queued actions).db context)) := by
  have hkept := runActions_bindings queued actions first.kind first.deliveryId first.binding (queue_binding haccepted)
  rw [← hkind, ← hid] at hkept
  obtain ⟨stored, hstored, hqueue⟩ := queue_taken context hkept
  refine ⟨fun result hresult => ((hqueue result).mp hresult).2.1.symm, fun hsame => ?_⟩
  constructor
  · rintro ⟨delivery, _, hok⟩
    exact ((hqueue _).mp hok).1
  · intro hrepeatable
    exact ⟨stored, hstored, (hqueue _).mpr ⟨hrepeatable, hsame.symm, rfl⟩⟩

end Histories

section Sample

local instance keyRuntime : ConnectorRuntime SafeInteger where
  sha256 text := text
  requestUrl baseUrl _ _ := baseUrl
  hostname requestUrl := requestUrl

def hookWorkspace : DeliveryWorkspace SafeInteger where
  db :=
    { grid :=
        { dataTables := Table.singleton ⟨"crm", none⟩
          columns := Table.empty
          columnDependencies := Table.empty
          rows := Table.singleton ⟨"lovelace", "crm", 1, none⟩
          cells := fun _ _ => none }
      workspaceMembers := Table.singleton ⟨"ada", .owner⟩
      credentials := Table.empty
      connectorRevocations := Table.empty
      cellRuns := Table.empty
      bulkRunBatches := Table.empty
      bulkRunItems := Table.empty
      rowSettlements := Table.empty
      webhookDestinations := Table.singleton { id := "hook", tableId := "crm", triggerMode := .manual, createdAt := 0 }
      writebackDestinations := Table.empty
      outbox := Table.empty }
  webhookDeliveries := Table.empty
  writebackDeliveries := Table.empty

def hookRequest : DeliveryRequest where
  kind := .webhook
  deliveryId := "key"
  destinationId := "hook"
  rowId := "lovelace"
  tableId := "crm"
  userId := "ada"
  eventId := "event"
  tableName := "Contacts"

def hookContext : DeliveryContext := ⟨"workspace", "2026-01-01T00:00:00.000Z", 0⟩

def pausedDestinations : Table WebhookDestination :=
  Table.singleton { id := "hook", tableId := "crm", status := .paused, triggerMode := .manual, createdAt := 0 }

def pauseHook (workspace : DeliveryWorkspace SafeInteger) : DeliveryAction SafeInteger :=
  .other { workspace.db with webhookDestinations := pausedDestinations }

/-- A second row may not be sent with the key of the first one, which is sent by then. -/
theorem deliveryKeys_run_hook : ∃ accepted queued, hookWorkspace.queue hookRequest hookContext = .ok (accepted, queued) ∧
    ∀ result, (runActions DeliveryWorkspace.stepDelivery queued
      [.start .webhook ⟨"key", "hook", "crm"⟩ 1, .succeed .webhook ⟨"key", "hook", "crm"⟩ 200 2]).queue
        { hookRequest with rowId := "hopper" } hookContext ≠ .ok result := by
  have hok : (hookWorkspace.queue hookRequest hookContext).isOk = true := by
    decide +kernel
  cases hqueue : hookWorkspace.queue hookRequest hookContext with
  | error _ =>
    rw [hqueue] at hok
    cases hok
  | ok result =>
    refine ⟨result.1, result.2, rfl, fun repeated hrepeated => ?_⟩
    have hsame := (deliveryKeys_run hqueue _ { hookRequest with rowId := "hopper" } _ rfl rfl).1 repeated hrepeated
    simp [DeliveryRequest.binding, hookRequest] at hsame

def hookQueued : DeliveryWorkspace SafeInteger :=
  hookWorkspace.committed (hookWorkspace.queue hookRequest hookContext)

def hookPaused : DeliveryWorkspace SafeInteger :=
  runActions DeliveryWorkspace.stepDelivery hookQueued [pauseHook hookQueued]

/-- The request is accepted, and refused when it is repeated though its delivery is stored. -/
theorem deliveryKeys_paused :
    (hookWorkspace.queue hookRequest hookContext).isOk = true ∧
    (hookPaused.delivery .webhook "key").isSome = true ∧
    ¬ ∃ delivery, hookPaused.queue hookRequest hookContext = .ok (delivery, hookPaused) := by
  have hrun : (hookWorkspace.queue hookRequest hookContext).isOk = true ∧
      (hookPaused.delivery .webhook "key").isSome = true ∧
      (hookPaused.queue hookRequest hookContext).isOk = false := by
    decide +kernel
  refine ⟨hrun.1, hrun.2.1, ?_⟩
  rintro ⟨delivery, hqueue⟩
  have hrefused := hrun.2.2
  rw [hqueue] at hrefused
  cases hrefused

end Sample

end ByokGrid
