import ByokGrid.DeliverySystem

/-! What a settlement queues and consumes. Its transaction throws and changes nothing, or it is done as a whole. Then the
settlement is not done again. -/

namespace ByokGrid

section Slots

variable {α κ σ : Type} [Keyed α κ] {slot : α → Option σ}

def OnceEach (slot : α → Option σ) (t : Table α) : Prop :=
  ∀ a ∈ t, ∀ b ∈ t, ∀ s, slot a = some s → slot b = some s → a = b

theorem OnceEach.empty : OnceEach slot (Table.empty : Table α) :=
  fun _ h => absurd h Table.not_mem_empty

theorem OnceEach.insert [DecidableEq κ] {t t' : Table α} {x : α} (h : OnceEach slot t) (hinsert : t.insert x = some t')
    (hfree : ∀ s, slot x = some s → ∀ a ∈ t, slot a ≠ some s) : OnceEach slot t' := by
  intro a ha b hb s hslot hslot'
  rcases (Table.mem_insert hinsert).mp ha with hold | rfl
  · rcases (Table.mem_insert hinsert).mp hb with hold' | rfl
    · exact h a hold b hold' s hslot hslot'
    · exact absurd hslot (hfree s hslot' a hold)
  · rcases (Table.mem_insert hinsert).mp hb with hold' | rfl
    · exact absurd hslot' (hfree s hslot b hold')
    · rfl

theorem OnceEach.modify {t : Table α} {p : α → Bool} {f : α → α} (hf : KeepsKey f) (h : OnceEach slot t)
    (hslot : ∀ x, slot (f x) = slot x) : OnceEach slot (t.modify p f hf) := by
  have hsame : ∀ x, slot (if p x then f x else x) = slot x := by
    intro x
    split
    · exact hslot x
    · rfl
  intro a ha b hb s hs hs'
  obtain ⟨old, hold, rfl⟩ := (Table.mem_modify hf).mp ha
  obtain ⟨old', hold', rfl⟩ := (Table.mem_modify hf).mp hb
  rw [h old hold old' hold' s ((hsame old).symm.trans hs) ((hsame old').symm.trans hs')]

end Slots

structure DeliverySlot where
  destinationId : String
  rowId : String
  rowVersion : Nat
  deriving Repr, DecidableEq

section Automatic

variable {ν : Type}

def WebhookDelivery.slot (delivery : WebhookDelivery ν) : Option DeliverySlot :=
  if delivery.triggerMode = .rowSettled then some ⟨delivery.destinationId, delivery.rowId, delivery.rowVersion⟩ else none

def WritebackDelivery.slot (delivery : WritebackDelivery ν) : Option DeliverySlot :=
  if delivery.triggerMode = .rowSettled then some ⟨delivery.destinationId, delivery.rowId, delivery.rowVersion⟩ else none

structure AutomaticOnce (workspace : DeliveryWorkspace ν) : Prop where
  webhooks : OnceEach WebhookDelivery.slot workspace.webhookDeliveries
  writebacks : OnceEach WritebackDelivery.slot workspace.writebackDeliveries

theorem WebhookDelivery.slot_free {deliveries : Table (WebhookDelivery ν)} {delivery : WebhookDelivery ν}
    (h : delivery.conflicts deliveries = false) : ∀ s, delivery.slot = some s → ∀ old ∈ deliveries, old.slot ≠ some s := by
  intro s hs old hold hsame
  unfold WebhookDelivery.slot at hs hsame
  split at hs
  · rename_i hmode
    split at hsame
    · rename_i hmode'
      rw [← hs, Option.some.injEq, DeliverySlot.mk.injEq] at hsame
      obtain ⟨hdestination, hrow, hversion⟩ := hsame
      simp only [WebhookDelivery.conflicts, hmode, decide_true, Bool.true_and, List.any_eq_false] at h
      exact h old hold (by simp [hmode', hdestination, hrow, hversion])
    · cases hsame
  · cases hs

theorem WritebackDelivery.slot_free {deliveries : Table (WritebackDelivery ν)} {delivery : WritebackDelivery ν}
    (h : delivery.conflicts deliveries = false) : ∀ s, delivery.slot = some s → ∀ old ∈ deliveries, old.slot ≠ some s := by
  intro s hs old hold hsame
  unfold WritebackDelivery.slot at hs hsame
  split at hs
  · rename_i hmode
    split at hsame
    · rename_i hmode'
      rw [← hs, Option.some.injEq, DeliverySlot.mk.injEq] at hsame
      obtain ⟨hdestination, hrow, hversion⟩ := hsame
      simp only [WritebackDelivery.conflicts, hmode, decide_true, Bool.true_and, List.any_eq_false] at h
      exact h old hold (by simp [WritebackDelivery.automaticFor, hmode', hdestination, hrow, hversion])
    · cases hsame
  · cases hs

inductive QueuedDelivery (ν : Type) where
  | webhook (delivery : WebhookDelivery ν)
  | writeback (delivery : WritebackDelivery ν)

def QueuedDelivery.webhook? : QueuedDelivery ν → Option (WebhookDelivery ν)
  | .webhook delivery => some delivery
  | .writeback _ => none

def QueuedDelivery.writeback? : QueuedDelivery ν → Option (WritebackDelivery ν)
  | .webhook _ => none
  | .writeback delivery => some delivery

def QueuedDelivery.request : QueuedDelivery ν → OutboxPayload
  | .webhook delivery => .webhookDeliveryRequested ⟨delivery.id, delivery.destinationId, delivery.tableId⟩
  | .writeback delivery => .writebackDeliveryRequested delivery.input

structure DeliveriesAdded (P : QueuedDelivery ν → Prop) (before after : DeliveryWorkspace ν)
    (added : List (QueuedDelivery ν)) : Prop where
  webhooks : after.webhookDeliveries.records = before.webhookDeliveries.records ++ added.filterMap QueuedDelivery.webhook?
  writebacks : after.writebackDeliveries.records =
    before.writebackDeliveries.records ++ added.filterMap QueuedDelivery.writeback?
  events : ∃ events, after.db.outbox.records = before.db.outbox.records ++ events ∧
    events.map OutboxEvent.payload = added.map QueuedDelivery.request
  runs : after.db.cellRuns = before.db.cellRuns
  each : ∀ delivery ∈ added, P delivery
  freeWebhooks : ∀ delivery, .webhook delivery ∈ added → ∀ old ∈ before.webhookDeliveries, old.slot ≠ delivery.slot
  freeWritebacks : ∀ delivery, .writeback delivery ∈ added → ∀ old ∈ before.writebackDeliveries, old.slot ≠ delivery.slot
  once : AutomaticOnce before → AutomaticOnce after

def QueueFrame (before after : DeliveryWorkspace ν) : Prop :=
  after = { before with
    db := { before.db with outbox := after.db.outbox }
    webhookDeliveries := after.webhookDeliveries
    writebackDeliveries := after.writebackDeliveries }

theorem QueueFrame.trans {a b c : DeliveryWorkspace ν} (hab : QueueFrame a b) (hbc : QueueFrame b c) : QueueFrame a c := by
  unfold QueueFrame at hab hbc ⊢
  rw [hbc, hab]

structure QueueAdds (P : QueuedDelivery ν → Prop) (before after : Queued ν) (added : List (QueuedDelivery ν)) : Prop where
  deliveries : DeliveriesAdded P before.2 after.2 added
  count : after.1 = before.1 + added.length
  frame : QueueFrame before.2 after.2

variable {P : QueuedDelivery ν → Prop}

theorem DeliveriesAdded.refl (workspace : DeliveryWorkspace ν) : DeliveriesAdded P workspace workspace [] where
  webhooks := (List.append_nil _).symm
  writebacks := (List.append_nil _).symm
  events := ⟨[], (List.append_nil _).symm, rfl⟩
  runs := rfl
  each _ h := absurd h List.not_mem_nil
  freeWebhooks _ h := absurd h List.not_mem_nil
  freeWritebacks _ h := absurd h List.not_mem_nil
  once h := h

theorem DeliveriesAdded.trans {a b c : DeliveryWorkspace ν} {first second : List (QueuedDelivery ν)}
    (hab : DeliveriesAdded P a b first) (hbc : DeliveriesAdded P b c second) : DeliveriesAdded P a c (first ++ second) where
  webhooks := by rw [hbc.webhooks, hab.webhooks, List.filterMap_append, List.append_assoc]
  writebacks := by rw [hbc.writebacks, hab.writebacks, List.filterMap_append, List.append_assoc]
  events := by
    obtain ⟨events, hevents, hrequests⟩ := hab.events
    obtain ⟨later, hlater, hrequests'⟩ := hbc.events
    refine ⟨events ++ later, ?_, ?_⟩
    · rw [hlater, hevents, List.append_assoc]
    · rw [List.map_append, List.map_append, hrequests, hrequests']
  runs := hbc.runs.trans hab.runs
  each delivery hmem := by
    rcases List.mem_append.mp hmem with hfirst | hsecond
    · exact hab.each delivery hfirst
    · exact hbc.each delivery hsecond
  freeWebhooks delivery hmem old hold := by
    rcases List.mem_append.mp hmem with hfirst | hsecond
    · exact hab.freeWebhooks delivery hfirst old hold
    · refine hbc.freeWebhooks delivery hsecond old ?_
      rw [Table.mem_def, hab.webhooks]
      exact List.mem_append_left _ hold
  freeWritebacks delivery hmem old hold := by
    rcases List.mem_append.mp hmem with hfirst | hsecond
    · exact hab.freeWritebacks delivery hfirst old hold
    · refine hbc.freeWritebacks delivery hsecond old ?_
      rw [Table.mem_def, hab.writebacks]
      exact List.mem_append_left _ hold
  once h := hbc.once (hab.once h)

theorem QueueAdds.refl (state : Queued ν) : QueueAdds P state state [] :=
  ⟨DeliveriesAdded.refl state.2, rfl, rfl⟩

theorem QueueAdds.trans {a b c : Queued ν} {first second : List (QueuedDelivery ν)} (hab : QueueAdds P a b first)
    (hbc : QueueAdds P b c second) : QueueAdds P a c (first ++ second) where
  deliveries := hab.deliveries.trans hbc.deliveries
  count := by rw [hbc.count, hab.count, List.length_append, Nat.add_assoc]
  frame := hab.frame.trans hbc.frame

theorem queueWriteback_adds {candidate : WritebackCandidate ν} {row : Row} {stamp : SettlementStamp} {state next : Queued ν}
    (hP : P (.writeback (candidate.delivery row stamp))) (h : queueWriteback candidate row stamp state = .ok next) :
    ∃ added, QueueAdds P state next added := by
  simp only [queueWriteback] at h
  split at h
  · cases h
    exact ⟨[], QueueAdds.refl state⟩
  · rename_i hconflicts
    split at h
    · cases h
      exact ⟨[], QueueAdds.refl state⟩
    · rename_i deliveries hinsert
      simp only [enqueueWritebackDelivery, except_bind_eq_ok, requireSome_eq_ok, pure, Except.pure, Except.ok.injEq] at h
      obtain ⟨_, ⟨events, hevents, rfl⟩, rfl⟩ := h
      have hfree := WritebackDelivery.slot_free (Bool.eq_false_iff.mpr hconflicts)
      refine ⟨[.writeback (candidate.delivery row stamp)], ?_, rfl, rfl⟩
      exact
        { webhooks := (List.append_nil _).symm
          writebacks := (Table.insert_eq_some hinsert).1
          events := ⟨_, (Table.insert_eq_some hevents).1, rfl⟩
          runs := rfl
          each := fun _ hmem => List.mem_singleton.mp hmem ▸ hP
          freeWebhooks := fun _ hmem => by simp at hmem
          freeWritebacks := fun delivery hmem old hold => by
            obtain rfl : delivery = candidate.delivery row stamp := by simpa using hmem
            exact hfree _ rfl old hold
          once := fun honce => ⟨honce.webhooks, honce.writebacks.insert hinsert hfree⟩ }

theorem queueWritebacks_adds {candidates : List (WritebackCandidate ν)} {row : Row} {stamp : SettlementStamp}
    {destinationIds : List String} {state next : Queued ν}
    (hP : ∀ candidate ∈ candidates, P (.writeback (candidate.delivery row stamp)))
    (h : queueWritebacks candidates row stamp destinationIds state = .ok next) : ∃ added, QueueAdds P state next added := by
  induction destinationIds generalizing state with
  | nil =>
    cases h
    exact ⟨[], QueueAdds.refl _⟩
  | cons destinationId destinationIds ih =>
    unfold queueWritebacks at h
    split at h
    · exact ih h
    · rename_i candidate hfind
      rw [except_bind_eq_ok] at h
      obtain ⟨middle, hmiddle, hrest⟩ := h
      obtain ⟨first, hfirst⟩ := queueWriteback_adds (hP candidate (List.mem_of_find?_eq_some hfind)) hmiddle
      obtain ⟨later, hlater⟩ := ih hrest
      exact ⟨first ++ later, hfirst.trans hlater⟩

variable [JsRuntime ν]

theorem queueWebhook_adds {snapshot : WebhookRowSnapshot ν} {stamp : SettlementStamp} {destination : WebhookDestination}
    {state next : Queued ν} (hP : P (.webhook (webhookDelivery snapshot stamp destination.id)))
    (h : queueWebhook snapshot stamp destination state = .ok next) : ∃ added, QueueAdds P state next added := by
  simp only [queueWebhook, except_bind_eq_ok] at h
  obtain ⟨_, _, h⟩ := h
  split at h
  · cases h
    exact ⟨[], QueueAdds.refl state⟩
  · rename_i hconflicts
    split at h
    · cases h
      exact ⟨[], QueueAdds.refl state⟩
    · rename_i deliveries hinsert
      simp only [except_bind_eq_ok, requireSome_eq_ok, pure, Except.pure, Except.ok.injEq] at h
      obtain ⟨events, hevents, rfl⟩ := h
      have hfree := WebhookDelivery.slot_free (Bool.eq_false_iff.mpr hconflicts)
      refine ⟨[.webhook (webhookDelivery snapshot stamp destination.id)], ?_, rfl, rfl⟩
      exact
        { webhooks := (Table.insert_eq_some hinsert).1
          writebacks := (List.append_nil _).symm
          events := ⟨_, (Table.insert_eq_some hevents).1, rfl⟩
          runs := rfl
          each := fun _ hmem => List.mem_singleton.mp hmem ▸ hP
          freeWebhooks := fun delivery hmem old hold => by
            obtain rfl : delivery = webhookDelivery snapshot stamp destination.id := by simpa using hmem
            exact hfree _ rfl old hold
          freeWritebacks := fun _ hmem => by simp at hmem
          once := fun honce => ⟨honce.webhooks.insert hinsert hfree, honce.writebacks⟩ }

theorem queueWebhooks_adds {snapshot : WebhookRowSnapshot ν} {stamp : SettlementStamp}
    {destinations : List WebhookDestination} {state next : Queued ν}
    (hP : ∀ destination ∈ destinations, P (.webhook (webhookDelivery snapshot stamp destination.id)))
    (h : queueWebhooks snapshot stamp destinations state = .ok next) : ∃ added, QueueAdds P state next added := by
  induction destinations generalizing state with
  | nil =>
    cases h
    exact ⟨[], QueueAdds.refl _⟩
  | cons destination destinations ih =>
    unfold queueWebhooks at h
    rw [except_bind_eq_ok] at h
    obtain ⟨middle, hmiddle, hrest⟩ := h
    obtain ⟨hhead, htail⟩ := List.forall_mem_cons.mp hP
    obtain ⟨first, hfirst⟩ := queueWebhook_adds hhead hmiddle
    obtain ⟨later, hlater⟩ := ih htail hrest
    exact ⟨first ++ later, hfirst.trans hlater⟩

end Automatic

section Settled

variable {ν : Type} [JsRuntime ν] [ConnectorRuntime ν] [NumberComparison ν]

/-- A new delivery of the row at its version to a destination which is automatic, and which selects the row if it is one
of writebacks. -/
def QueuedDelivery.Matches (db : Database ν) (settled : SettledRow) : QueuedDelivery ν → Prop
  | .webhook delivery => delivery.status = .queued ∧ ∃ destination ∈ automaticWebhooks db settled.row.tableId,
      delivery.slot = some ⟨destination.id, settled.row.id, settled.row.version⟩
  | .writeback delivery => delivery.status = .queued ∧ ∃ destination ∈ automaticWritebacks db settled.row.tableId,
      destination.selects db.grid settled = true ∧
        delivery.slot = some ⟨destination.id, settled.row.id, settled.row.version⟩

theorem queueSettledSqliteWritebackDeliveries_adds {workspace : DeliveryWorkspace ν} {settled : SettledRow} {limit : Nat}
    {stamp : SettlementStamp} {written : Queued ν}
    (h : queueSettledSqliteWritebackDeliveries workspace settled limit stamp = .ok (.ok written)) :
    ∃ added, QueueAdds (QueuedDelivery.Matches workspace.db settled) (0, workspace) written added := by
  unfold queueSettledSqliteWritebackDeliveries at h
  split at h
  · cases h
    exact ⟨[], QueueAdds.refl _⟩
  · simp only [except_bind_eq_ok] at h
    obtain ⟨_, _, candidates, hcandidates, h⟩ := h
    split at h
    · cases h
    · simp only [except_bind_eq_ok, pure, Except.pure, Except.ok.injEq] at h
      obtain ⟨queued, hqueued, rfl⟩ := h
      refine queueWritebacks_adds ?_ hqueued
      intro candidate hcandidate
      obtain ⟨hmem, hselects, _⟩ := (mem_writebackCandidates hcandidates candidate).mp hcandidate
      exact ⟨rfl, candidate.destination, (orderedWritebacks_perm _ _).mem_iff.mp hmem, hselects, rfl⟩

theorem queueSettledSqliteWritebackDeliveries_over {workspace : DeliveryWorkspace ν} {settled : SettledRow} {limit count : Nat}
    {stamp : SettlementStamp} (h : queueSettledSqliteWritebackDeliveries workspace settled limit stamp = .ok (.error count)) :
    limit < (readyWritebacks workspace.db.grid settled (automaticWritebacks workspace.db settled.row.tableId)).length := by
  unfold queueSettledSqliteWritebackDeliveries at h
  split at h
  · cases h
  · simp only [except_bind_eq_ok] at h
    obtain ⟨_, _, candidates, hcandidates, h⟩ := h
    have hperm := orderedWritebacks_perm workspace.db settled.row.tableId
    have hids : (candidates.map fun candidate => candidate.destination.id).Nodup := by
      have hsub := (writebackCandidates_sublist hcandidates).map WritebackDestination.id
      rw [List.map_map] at hsub
      exact ((hperm.map _).nodup_iff.mpr (automaticWritebacks_nodup workspace.db settled.row.tableId)).sublist hsub
    have hlength : (candidates.map fun candidate => candidate.destination.id).length =
        (readyWritebacks workspace.db.grid settled (automaticWritebacks workspace.db settled.row.tableId)).length := by
      rw [List.length_map, ← List.length_map (f := WritebackCandidate.destination), writebackCandidates_ready hcandidates]
      exact (hperm.filter _).length_eq
    by_contra hwithin
    rw [← hlength] at hwithin
    obtain ⟨sorted, hfanout, _⟩ := decideAutomaticFanout_within hids (Nat.not_lt.mp hwithin)
    rw [hfanout] at h
    simp only [except_bind_eq_ok] at h
    obtain ⟨_, _, h⟩ := h
    cases h

omit [ConnectorRuntime ν] in
theorem queueSettledSqliteWebhookDeliveries_adds {db : Database ν} {workspace : DeliveryWorkspace ν} {settled : SettledRow}
    {stamp : SettlementStamp} {hooked : Queued ν} (hsame : workspace.db.webhookDestinations = db.webhookDestinations)
    (h : queueSettledSqliteWebhookDeliveries workspace settled.row stamp = .ok hooked) :
    ∃ added, QueueAdds (QueuedDelivery.Matches db settled) (0, workspace) hooked added := by
  unfold queueSettledSqliteWebhookDeliveries at h
  split at h
  · cases h
    exact ⟨[], QueueAdds.refl _⟩
  · refine queueWebhooks_adds ?_ h
    intro destination hmem
    have hautomatic : destination ∈ automaticWebhooks workspace.db settled.row.tableId :=
      (orderedWebhooks_perm _ _).mem_iff.mp hmem
    unfold automaticWebhooks at hautomatic
    rw [hsame] at hautomatic
    exact ⟨rfl, destination, hautomatic, rfl⟩

def RunsAdded (rowId : String) (before after : Database ν) (columnIds : List String) : Prop :=
  ∃ (runs : List (CellRun ν)) (events : List OutboxEvent),
    after.cellRuns.records = before.cellRuns.records ++ runs ∧ after.outbox.records = before.outbox.records ++ events ∧
    runs.map (fun run => (run.rowId, run.columnId, run.status)) =
      columnIds.map (fun columnId => (rowId, columnId, CellRunStatus.queued)) ∧
    events.map OutboxEvent.payload = runs.map fun run => .cellRunRequested run.durableInput

omit [JsRuntime ν] [ConnectorRuntime ν] [NumberComparison ν] in
theorem insertCellRun_adds {db db' : Database ν} {input : QueueCellRun} {run : CellRun ν} {output : CellRunInput}
    (hdispatch : input.dispatch = true) (hrow : run.rowId = input.rowId) (hcolumn : run.columnId = input.columnId)
    (hstatus : run.status = .queued) (h : insertCellRun db input run = .ok (output, db')) :
    RunsAdded input.rowId db db' [input.columnId] := by
  simp only [insertCellRun, except_bind_eq_ok, requireSome_eq_ok] at h
  obtain ⟨grid, _, runs, hruns, h⟩ := h
  rw [if_pos hdispatch] at h
  simp only [except_bind_eq_ok, requireSome_eq_ok, pure, Except.pure, Except.ok.injEq, Prod.mk.injEq] at h
  obtain ⟨events, hevents, _, rfl⟩ := h
  refine ⟨[run], [_], (Table.insert_eq_some hruns).1, (Table.insert_eq_some hevents).1, ?_, rfl⟩
  rw [List.map_singleton, List.map_singleton, hrow, hcolumn, hstatus]

omit [NumberComparison ν] in
theorem queueAutomatic_adds {db db' : Database ν} {input : QueueAutomatically} {output : CellRunInput}
    (h : queueAutomaticSqliteEnrichmentCellRunInTransaction db input = .ok (output, db')) :
    RunsAdded input.rowId db db' [input.columnId] := by
  simp only [queueAutomaticSqliteEnrichmentCellRunInTransaction, queueConnectorActionRun, except_bind_eq_ok,
    requireSome_eq_ok] at h
  obtain ⟨configuration, _, h⟩ := h
  split at h
  · simp only [queueSqliteHttpWaterfallRun, except_bind_eq_ok] at h
    obtain ⟨_, _, _, _, h⟩ := h
    exact insertCellRun_adds rfl rfl rfl rfl h
  · simp only [queueSqliteHttpRun, except_bind_eq_ok] at h
    obtain ⟨_, _, _, _, h⟩ := h
    exact insertCellRun_adds rfl rfl rfl rfl h
  · simp only [queueConnectorAction, except_bind_eq_ok] at h
    obtain ⟨_, _, _, _, _, _, h⟩ := h
    exact insertCellRun_adds rfl rfl rfl rfl h
  · cases h

omit [JsRuntime ν] [ConnectorRuntime ν] [NumberComparison ν] in
theorem RunsAdded.trans {rowId : String} {a b c : Database ν} {first second : List String} (hab : RunsAdded rowId a b first)
    (hbc : RunsAdded rowId b c second) : RunsAdded rowId a c (first ++ second) := by
  obtain ⟨runs, events, hruns, hevents, hqueued, hrequests⟩ := hab
  obtain ⟨runs', events', hruns', hevents', hqueued', hrequests'⟩ := hbc
  refine ⟨runs ++ runs', events ++ events', ?_, ?_, ?_, ?_⟩
  · rw [hruns', hruns, List.append_assoc]
  · rw [hevents', hevents, List.append_assoc]
  · rw [List.map_append, List.map_append, hqueued, hqueued']
  · rw [List.map_append, List.map_append, hrequests, hrequests']

omit [NumberComparison ν] in
theorem queueDependents_adds {settlement : RowSettlement} {stamp : SettlementStamp} {columnIds : List String}
    {db db' : Database ν} (h : queueDependents settlement stamp columnIds db = .ok db') :
    RunsAdded settlement.rowId db db' columnIds ∧ db'.grid.rows = db.grid.rows := by
  induction columnIds generalizing db with
  | nil =>
    cases h
    exact ⟨⟨[], [], (List.append_nil _).symm, (List.append_nil _).symm, rfl, rfl⟩, rfl⟩
  | cons columnId columnIds ih =>
    simp only [queueDependents, except_bind_eq_ok] at h
    obtain ⟨⟨output, next⟩, hqueue, hrest⟩ := h
    obtain ⟨_, _, hgrid⟩ := (queueConnectorActionRun_eq_ok hqueue).cell
    have hrows : next.grid.rows = db.grid.rows := by
      rw [hgrid]
      rfl
    obtain ⟨hlater, hrows'⟩ := ih hrest
    exact ⟨(queueAutomatic_adds hqueue).trans hlater, hrows'.trans hrows⟩

def consumption (db : Database ν) (id : String) : Option (Option String) :=
  (db.rowSettlements.get? id).map RowSettlement.consumedById

/-- Of the other settlements just these are consumed by the settlement, which has the given mark itself. -/
structure Consumes (before after : Database ν) (settlementId : String) (ids : List String) (own : Option String) : Prop where
  others : ∀ id, id ≠ settlementId →
    consumption after id = (consumption before id).map fun mark => if id ∈ ids then some settlementId else mark
  own : consumption after settlementId = some own

omit [JsRuntime ν] [ConnectorRuntime ν] [NumberComparison ν] in
theorem get?_closed (db : Database ν) (ids : List String) (id : String) (now : Int) (f : RowSettlement → RowSettlement)
    (hf : KeepsKey f) (k : String) :
    (updateSettlements (consumeCandidateSettlements db ids id now) (fun candidate => candidate.id = id) f hf).rowSettlements.get? k =
      (db.rowSettlements.get? k).map fun stored =>
        let consumed := if stored.id ∈ ids then consumeSettlement id now stored else stored
        if stored.id = id then f consumed else consumed := by
  rw [get?_updateSettlements, consumeCandidateSettlements, get?_updateSettlements, Option.map_map]
  congr 1
  funext stored
  by_cases hmem : stored.id ∈ ids
  · simp [hmem, consumeSettlement]
  · simp [hmem]

omit [JsRuntime ν] [ConnectorRuntime ν] [NumberComparison ν] in
theorem Consumes.closed {db : Database ν} (ids : List String) {id : String} (now : Int) {f : RowSettlement → RowSettlement}
    (hf : KeepsKey f) {own : Option String} (hown : ∀ settlement, settlement.id = id → (f settlement).consumedById = own)
    (hstored : ∃ stored, db.rowSettlements.get? id = some stored) :
    Consumes db (updateSettlements (consumeCandidateSettlements db ids id now) (fun candidate => candidate.id = id) f hf) id
      ids own := by
  constructor
  · intro other hother
    rw [consumption, get?_closed, consumption]
    cases hget : db.rowSettlements.get? other with
    | none => rfl
    | some stored =>
      obtain rfl : stored.id = other := (Table.get?_eq_some.mp hget).2
      simp only [Option.map_some, if_neg hother]
      split <;> rfl
  · obtain ⟨stored, hget⟩ := hstored
    have hid : stored.id = id := (Table.get?_eq_some.mp hget).2
    have hconsumed : (if stored.id ∈ ids then consumeSettlement id now stored else stored).id = id := by
      split
      · exact hid
      · exact hid
    rw [consumption, get?_closed, hget]
    simp only [Option.map_some, if_pos hid, hown _ hconsumed]

omit [JsRuntime ν] [ConnectorRuntime ν] [NumberComparison ν] in
theorem Consumes.skipped {db : Database ν} {stored : RowSettlement} {id : String} (now : Int)
    (hstored : db.rowSettlements.get? id = some stored) :
    Consumes db (markSettlementSkipped db id now) id [] stored.consumedById := by
  have hsame : ∀ other, consumption (markSettlementSkipped db id now) other = consumption db other := by
    intro other
    rw [consumption, markSettlementSkipped, get?_updateSettlements, Option.map_map, consumption]
    congr 1
    funext settlement
    simp only [Function.comp_apply]
    split <;> rfl
  constructor
  · intro other _
    rw [hsame]
    simp
  · rw [hsame, consumption, hstored]
    rfl

omit [JsRuntime ν] [ConnectorRuntime ν] [NumberComparison ν] in
theorem consumption_start (workspace : DeliveryWorkspace ν) (settlementId : String) (now : Int) (id : String) :
    consumption (workspace.start settlementId now).db id = consumption workspace.db id := by
  rw [consumption, DeliveryWorkspace.start, DeliveryWorkspace.withDatabase, get?_updateSettlements, Option.map_map, consumption]
  congr 1
  funext settlement
  simp only [Function.comp_apply]
  split <;> rfl

omit [JsRuntime ν] [ConnectorRuntime ν] [NumberComparison ν] in
theorem Consumes.of_same {before before' after : Database ν} {id : String} {ids : List String} {own : Option String}
    (h : Consumes before' after id ids own) (hsame : before'.rowSettlements = before.rowSettlements) :
    Consumes before after id ids own where
  others other hother := by
    rw [h.others other hother, consumption, hsame]
    rfl
  own := h.own

omit [JsRuntime ν] [ConnectorRuntime ν] [NumberComparison ν] in
theorem Consumes.of_filter {before after : Database ν} {id : String} {ids : List String} {own : Option String}
    (h : Consumes before after id (ids.filter fun other => other ≠ id) own) : Consumes before after id ids own where
  others other hother := by
    rw [h.others other hother]
    congr 1
    funext mark
    simp [List.mem_filter, hother]
  own := h.own

omit [JsRuntime ν] [ConnectorRuntime ν] [NumberComparison ν] in
theorem Consumes.of_start {workspace : DeliveryWorkspace ν} {now : Int} {after : Database ν} {id : String} {ids : List String}
    {own : Option String} (h : Consumes (workspace.start id now).db after id ids own) : Consumes workspace.db after id ids own where
  others other hother := by
    rw [h.others other hother, consumption_start]
  own := h.own

/-- The settlements which an attempt is about: those of the row up to its version which none has consumed. -/
def coveredSettlements (db : Database ν) (settlement : RowSettlement) : List String :=
  (settlementCandidates db settlement).map RowSettlement.id

omit [JsRuntime ν] [ConnectorRuntime ν] [NumberComparison ν] in
theorem coveredSettlements_start (workspace : DeliveryWorkspace ν) (settlementId : String) (now : Int)
    (settlement : RowSettlement) :
    coveredSettlements (workspace.start settlementId now).db settlement = coveredSettlements workspace.db settlement := by
  unfold coveredSettlements DeliveryWorkspace.start DeliveryWorkspace.withDatabase
  rw [settlementCandidates_start, List.map_map]
  congr 1
  funext candidate
  simp only [Function.comp_apply]
  split <;> rfl

structure QueuesNothing (before after : DeliveryWorkspace ν) : Prop where
  webhooks : after.webhookDeliveries = before.webhookDeliveries
  writebacks : after.writebackDeliveries = before.writebackDeliveries
  runs : after.db.cellRuns = before.db.cellRuns
  outbox : after.db.outbox = before.db.outbox

def FanoutOver (workspace : DeliveryWorkspace ν) (row : Row) (settlement : RowSettlement) (limits : SettlementLimits) : Prop :=
  limits.maximumAutomaticRuns < (settlementDependents workspace.db settlement).length ∨
    settlementDependents workspace.db settlement = [] ∧
      WritebackFanout workspace (settledRow workspace.db row settlement) limits

inductive SettlementCommit (workspace : DeliveryWorkspace ν) (row : Row) (settlement : RowSettlement)
    (limits : SettlementLimits) : SettlementResult → DeliveryWorkspace ν → Prop where
  | succeededBefore (status : settlement.status = .succeeded) : SettlementCommit workspace row settlement limits
      ⟨settlement.queuedDeliveryCount, settlement.queuedRunCount, .succeeded⟩ workspace
  | skippedBefore (status : settlement.status = .skipped) :
    SettlementCommit workspace row settlement limits ⟨0, 0, .skipped⟩ workspace
  | skipped {after : DeliveryWorkspace ν}
    (waits : row.archivedAt.isSome = true ∨ row.version ≠ settlement.rowVersion ∨
      rowActive workspace.db.grid settlement.rowId settlement.tableId = true)
    (recorded : SettlementRecorded after settlement.id .skipped) (nothing : QueuesNothing workspace after)
    (consumed : Consumes workspace.db after.db settlement.id [] settlement.consumedById) :
    SettlementCommit workspace row settlement limits ⟨0, 0, .skipped⟩ after
  | blocked {after : DeliveryWorkspace ν} (exceeded : FanoutOver workspace row settlement limits)
    (recorded : SettlementRecorded after settlement.id .failed) (nothing : QueuesNothing workspace after)
    (consumed : Consumes workspace.db after.db settlement.id (coveredSettlements workspace.db settlement) (some settlement.id)) :
    SettlementCommit workspace row settlement limits ⟨0, 0, .failed⟩ after
  | dispatched {after : DeliveryWorkspace ν} {columnIds : List String} (nonempty : columnIds ≠ [])
    (dependents : columnIds.Perm (settlementDependents workspace.db settlement))
    (runs : RunsAdded settlement.rowId workspace.db after.db columnIds)
    (webhooks : after.webhookDeliveries = workspace.webhookDeliveries)
    (writebacks : after.writebackDeliveries = workspace.writebackDeliveries)
    (recorded : SettlementRecorded after settlement.id .succeeded)
    (consumed : Consumes workspace.db after.db settlement.id (coveredSettlements workspace.db settlement) none) :
    SettlementCommit workspace row settlement limits ⟨0, columnIds.length, .succeeded⟩ after
  | delivered {after : DeliveryWorkspace ν} {added : List (QueuedDelivery ν)}
    (noDependents : settlementDependents workspace.db settlement = [])
    (idle : rowActive workspace.db.grid settlement.rowId settlement.tableId = false)
    (deliveries : DeliveriesAdded (QueuedDelivery.Matches workspace.db (settledRow workspace.db row settlement)) workspace after
      added)
    (recorded : SettlementRecorded after settlement.id .succeeded)
    (consumed : Consumes workspace.db after.db settlement.id (coveredSettlements workspace.db settlement) (some settlement.id)) :
    SettlementCommit workspace row settlement limits ⟨added.length, 0, .succeeded⟩ after

theorem settleCurrentRow_failed {workspace : DeliveryWorkspace ν} {row : Row} {settlement : RowSettlement}
    {limits : SettlementLimits} {stamp : SettlementStamp} {result : SettlementResult × DeliveryWorkspace ν}
    (h : settleCurrentRow workspace row settlement limits stamp = .ok result) (hfailed : result.1.status = .failed) :
    FanoutOver workspace row settlement limits := by
  have hnd : (settlementDependents workspace.db settlement).Nodup := nodup_distinct _
  by_cases hover : limits.maximumAutomaticRuns < (settlementDependents workspace.db settlement).length
  · exact Or.inl hover
  · obtain ⟨sorted, hfanout, hsorted⟩ := decideAutomaticFanout_within hnd (Nat.not_lt.mp hover)
    unfold settlementDependents at hfanout
    unfold settleCurrentRow at h
    simp only [hfanout] at h
    split at h
    · cases h
      cases hfailed
    · cases sorted with
      | cons columnId columnIds =>
        simp only [settleWithRuns, except_bind_eq_ok] at h
        obtain ⟨_, _, h⟩ := h
        cases h
        cases hfailed
      | nil =>
        simp only at h
        split at h
        · cases h
          cases hfailed
        · simp only [settleWithDeliveries, except_bind_eq_ok] at h
          obtain ⟨written, hwritten, h⟩ := h
          cases written with
          | error count =>
            exact Or.inr ⟨hsorted.nil_eq.symm, queueSettledSqliteWritebackDeliveries_over hwritten⟩
          | ok written =>
            simp only [except_bind_eq_ok] at h
            obtain ⟨_, _, h⟩ := h
            cases h
            cases hfailed

omit [ConnectorRuntime ν] in
theorem FanoutOver.of_start {workspace : DeliveryWorkspace ν} {settlementId : String} {now : Int} {row : Row}
    {settlement : RowSettlement} {limits : SettlementLimits}
    (h : FanoutOver (workspace.start settlementId now) row settlement limits) : FanoutOver workspace row settlement limits := by
  unfold FanoutOver settledRow at h ⊢
  rw [settlementDependents_start, changedColumns_start] at h
  exact h

theorem SettlementOutcome.commit {workspace : DeliveryWorkspace ν} {row : Row} {settlement : RowSettlement}
    {limits : SettlementLimits} {stamp : SettlementStamp} {result : SettlementResult × DeliveryWorkspace ν}
    (hstored : workspace.db.rowSettlements.get? settlement.id = some settlement)
    (hsettle : settleCurrentRow (workspace.start settlement.id stamp.context.now) row settlement limits stamp = .ok result)
    (h : SettlementOutcome (workspace.start settlement.id stamp.context.now) row settlement limits stamp result) :
    SettlementCommit workspace row settlement limits result.1 result.2 := by
  have hstarted : ∃ stored, (workspace.start settlement.id stamp.context.now).db.rowSettlements.get? settlement.id = some stored ∧
      stored.consumedById = settlement.consumedById := by
    rw [DeliveryWorkspace.start, DeliveryWorkspace.withDatabase, get?_updateSettlements, hstored]
    refine ⟨_, rfl, ?_⟩
    dsimp only
    split <;> rfl
  obtain ⟨stored, hget, hmark⟩ := hstarted
  have hcovered := coveredSettlements_start workspace settlement.id stamp.context.now settlement
  have hdependents := settlementDependents_start workspace settlement.id stamp.context.now settlement
  cases h with
  | waiting active =>
    refine .skipped (Or.inr (Or.inr active)) (recorded_skipWith ⟨stored, hget⟩) ⟨rfl, rfl, rfl, rfl⟩ ?_
    rw [← hmark]
    exact (Consumes.skipped stamp.context.now hget).of_start
  | refused message =>
    refine .blocked (settleCurrentRow_failed hsettle rfl).of_start (recorded_failWith ⟨stored, hget⟩) ⟨rfl, rfl, rfl, rfl⟩ ?_
    rw [← hcovered]
    have hown : ∀ candidate : RowSettlement, candidate.id = settlement.id →
        (failSettlement message stamp.context.now candidate).consumedById = some settlement.id :=
      fun _ hid => congrArg some hid
    have hclosed := Consumes.closed (coveredSettlements (workspace.start settlement.id stamp.context.now).db settlement)
      stamp.context.now (f := failSettlement message stamp.context.now) ⟨fun _ => rfl⟩ hown ⟨stored, hget⟩
    exact hclosed.of_start
  | dispatched columnIds queued hsome hperm hqueue =>
    have hsame : queued.rowSettlements = (workspace.start settlement.id stamp.context.now).db.rowSettlements := by
      rw [(queueDependents_eq_ok hqueue).frame]
    have hqueued : ∃ stored, queued.rowSettlements.get? settlement.id = some stored := ⟨stored, hsame ▸ hget⟩
    refine .dispatched hsome (hdependents ▸ hperm) (queueDependents_adds hqueue).1 rfl rfl ?_ ?_
    · obtain ⟨final, hfinal⟩ := recorded_update (f := succeedWithRuns
        (changedColumns (settlementCandidates (workspace.start settlement.id stamp.context.now).db settlement)) columnIds.length
          stamp.context.now) ⟨fun _ => rfl⟩
        (stored_update (p := fun candidate => candidate.id ∈ (coveredSettlements
            (workspace.start settlement.id stamp.context.now).db settlement).filter fun id => id ≠ settlement.id)
          (f := consumeSettlement settlement.id stamp.context.now) ⟨fun _ => rfl⟩ hqueued)
      refine ⟨_, hfinal, rfl, ?_⟩
      intro hfailed
      cases hfailed
    · rw [← hcovered]
      have hown : ∀ candidate : RowSettlement, candidate.id = settlement.id → (succeedWithRuns
          (changedColumns (settlementCandidates (workspace.start settlement.id stamp.context.now).db settlement))
          columnIds.length stamp.context.now candidate).consumedById = none :=
        fun _ _ => rfl
      have hclosed := Consumes.closed ((coveredSettlements (workspace.start settlement.id stamp.context.now).db settlement).filter
        fun id => id ≠ settlement.id) stamp.context.now (f := succeedWithRuns
          (changedColumns (settlementCandidates (workspace.start settlement.id stamp.context.now).db settlement))
          columnIds.length stamp.context.now) ⟨fun _ => rfl⟩ hown hqueued
      exact (hclosed.of_same hsame).of_filter.of_start
  | delivered written hooked hnone hidle hwritten hhooked =>
    obtain ⟨first, hfirst⟩ := queueSettledSqliteWritebackDeliveries_adds hwritten
    have hdestinations : written.2.db.webhookDestinations =
        (workspace.start settlement.id stamp.context.now).db.webhookDestinations := by
      rw [hfirst.frame]
    have hsettled : settledRow (workspace.start settlement.id stamp.context.now).db row settlement =
        settledRow workspace.db row settlement := by
      unfold settledRow
      rw [changedColumns_start]
    have hadds : ∃ later, QueueAdds (QueuedDelivery.Matches (workspace.start settlement.id stamp.context.now).db
        (settledRow (workspace.start settlement.id stamp.context.now).db row settlement)) (0, written.2) hooked later :=
      queueSettledSqliteWebhookDeliveries_adds hdestinations hhooked
    obtain ⟨later, hlater⟩ := hadds
    have hadded := hfirst.deliveries.trans hlater.deliveries
    have hcount : written.1 + hooked.1 = (first ++ later).length := by
      rw [hfirst.count, hlater.count, List.length_append, Nat.zero_add, Nat.zero_add]
    have hsame : hooked.2.db.rowSettlements = (workspace.start settlement.id stamp.context.now).db.rowSettlements := by
      rw [hlater.frame, hfirst.frame]
    have hqueued : ∃ stored, hooked.2.db.rowSettlements.get? settlement.id = some stored := ⟨stored, hsame ▸ hget⟩
    show SettlementCommit workspace row settlement limits ⟨written.1 + hooked.1, 0, .succeeded⟩ _
    rw [hcount]
    refine .delivered (hdependents ▸ hnone) hidle ?_ (recorded_succeeded hqueued) ?_
    · rw [← hsettled]
      exact
        { webhooks := hadded.webhooks
          writebacks := hadded.writebacks
          events := hadded.events
          runs := hadded.runs
          each := hadded.each
          freeWebhooks := hadded.freeWebhooks
          freeWritebacks := hadded.freeWritebacks
          once := fun honce => ⟨(hadded.once ⟨honce.webhooks, honce.writebacks⟩).webhooks,
            (hadded.once ⟨honce.webhooks, honce.writebacks⟩).writebacks⟩ }
    · rw [← hcovered]
      have hown : ∀ candidate : RowSettlement, candidate.id = settlement.id →
          (succeedWithDeliveries (written.1 + hooked.1) stamp.context.now candidate).consumedById = some settlement.id :=
        fun _ hid => congrArg some hid
      have hclosed := Consumes.closed (coveredSettlements (workspace.start settlement.id stamp.context.now).db settlement)
        stamp.context.now (f := succeedWithDeliveries (written.1 + hooked.1) stamp.context.now) ⟨fun _ => rfl⟩ hown hqueued
      rw [hcount] at hclosed
      exact (hclosed.of_same hsame).of_start

structure SettlementFound (workspace : DeliveryWorkspace ν) (input : RowSettlementInput) (row : Row)
    (settlement : RowSettlement) : Prop where
  found : workspace.db.grid.rows.get? input.rowId = some row
  table : row.tableId = input.tableId
  stored : workspace.db.rowSettlements.get? input.settlementId = some settlement
  scope : settlement.rowId = input.rowId ∧ settlement.rowVersion = input.rowVersion ∧ settlement.tableId = input.tableId

theorem processSqliteRowSettlement_cases {workspace : DeliveryWorkspace ν} {input : RowSettlementInput}
    {limits : SettlementLimits} {stamp : SettlementStamp} {result : SettlementResult × DeliveryWorkspace ν}
    (h : processSqliteRowSettlement workspace input limits stamp = .ok result) :
    ∃ row settlement, SettlementFound workspace input row settlement ∧
      (settlement.status = .succeeded ∧
          result = (⟨settlement.queuedDeliveryCount, settlement.queuedRunCount, .succeeded⟩, workspace) ∨
        settlement.status = .skipped ∧ result = (⟨0, 0, .skipped⟩, workspace) ∨
        (row.archivedAt.isSome = true ∨ row.version ≠ settlement.rowVersion) ∧
          result = skipWith (workspace.start settlement.id stamp.context.now) settlement.id stamp.context.now ∨
        settleCurrentRow (workspace.start settlement.id stamp.context.now) row settlement limits stamp = .ok result) := by
  simp only [processSqliteRowSettlement, except_bind_eq_ok, requireSome_eq_ok, Option.filter_eq_some_iff,
    Bool.and_eq_true, decide_eq_true_eq] at h
  obtain ⟨row, ⟨hfound, htable⟩, settlement, ⟨hstored, ⟨hrow, hversion⟩, hsettled⟩, h⟩ := h
  refine ⟨row, settlement, ⟨hfound, htable, hstored, hrow, hversion, hsettled⟩, ?_⟩
  have hopen : ∀ (h : (if row.archivedAt.isSome = true ∨ row.version ≠ input.rowVersion then
        .ok (skipWith (workspace.start settlement.id stamp.context.now) settlement.id stamp.context.now)
      else settleCurrentRow (workspace.start settlement.id stamp.context.now) row settlement limits stamp) = .ok result),
      (row.archivedAt.isSome = true ∨ row.version ≠ settlement.rowVersion) ∧
          result = skipWith (workspace.start settlement.id stamp.context.now) settlement.id stamp.context.now ∨
        settleCurrentRow (workspace.start settlement.id stamp.context.now) row settlement limits stamp = .ok result := by
    intro h
    rw [← hversion] at h
    split at h
    · rename_i hlost
      cases h
      exact Or.inl ⟨hlost, rfl⟩
    · exact Or.inr h
  cases hstatus : settlement.status with
  | succeeded =>
    rw [hstatus] at h
    cases h
    exact Or.inl ⟨rfl, rfl⟩
  | skipped =>
    rw [hstatus] at h
    cases h
    exact Or.inr (Or.inl ⟨rfl, rfl⟩)
  | failed =>
    rw [hstatus] at h
    cases h
  | queued =>
    rw [hstatus] at h
    exact Or.inr (Or.inr (hopen h))
  | running =>
    rw [hstatus] at h
    exact Or.inr (Or.inr (hopen h))

theorem processSqliteRowSettlement_commit {workspace : DeliveryWorkspace ν} {input : RowSettlementInput}
    {limits : SettlementLimits} {stamp : SettlementStamp} {result : SettlementResult × DeliveryWorkspace ν}
    (h : processSqliteRowSettlement workspace input limits stamp = .ok result) :
    ∃ row settlement, SettlementFound workspace input row settlement ∧
      SettlementCommit workspace row settlement limits result.1 result.2 := by
  obtain ⟨row, settlement, hfound, hcases⟩ := processSqliteRowSettlement_cases h
  refine ⟨row, settlement, hfound, ?_⟩
  have hid : settlement.id = input.settlementId := (Table.get?_eq_some.mp hfound.stored).2
  have hstored : workspace.db.rowSettlements.get? settlement.id = some settlement := hid ▸ hfound.stored
  obtain ⟨hstatus, rfl⟩ | ⟨hstatus, rfl⟩ | ⟨hlost, rfl⟩ | hsettle := hcases
  · exact .succeededBefore hstatus
  · exact .skippedBefore hstatus
  · have hstarted : (workspace.start settlement.id stamp.context.now).db.rowSettlements.get? settlement.id =
        some (startSettlement stamp.context.now settlement) := by
      rw [DeliveryWorkspace.start, DeliveryWorkspace.withDatabase, get?_updateSettlements, hstored]
      simp
    refine .skipped ?_ (recorded_skipWith ⟨_, hstarted⟩) ⟨rfl, rfl, rfl, rfl⟩ ?_
    · rcases hlost with harchived | hversion
      · exact Or.inl harchived
      · exact Or.inr (Or.inl hversion)
    · exact (Consumes.skipped stamp.context.now hstarted).of_start
  · exact (settleCurrentRow_outcome hsettle).commit hstored hsettle

structure SettlementDone (workspace : DeliveryWorkspace ν) (input : RowSettlementInput) : Prop where
  found : ∃ row settlement, SettlementFound workspace input row settlement ∧ settlement.status = .succeeded

theorem SettlementDone.step {workspace : DeliveryWorkspace ν} {input : RowSettlementInput} (h : SettlementDone workspace input)
    (limits : SettlementLimits) (stamp : SettlementStamp) :
    workspace.stepDelivery (.settle input limits stamp) = workspace := by
  obtain ⟨row, settlement, hfound, hstatus⟩ := h.found
  have hprocess : processSqliteRowSettlement workspace input limits stamp =
      .ok (⟨settlement.queuedDeliveryCount, settlement.queuedRunCount, .succeeded⟩, workspace) := by
    simp only [processSqliteRowSettlement, hfound.found, hfound.stored, Option.filter_some, hfound.table, hfound.scope.1,
      hfound.scope.2.1, hfound.scope.2.2, decide_true, Bool.and_self, if_true, requireSome, hstatus, bind, Except.bind]
    rfl
  rw [DeliveryWorkspace.stepDelivery, hprocess]
  rfl

omit [JsRuntime ν] [ConnectorRuntime ν] [NumberComparison ν] in
theorem closed_found {db : Database ν} {stored : RowSettlement} (ids : List String) (now : Int)
    {f : RowSettlement → RowSettlement} (hf : KeepsKey f)
    (hkept : ∀ settlement, (f settlement).rowId = settlement.rowId ∧ (f settlement).rowVersion = settlement.rowVersion ∧
      (f settlement).tableId = settlement.tableId ∧ (f settlement).status = .succeeded)
    (hget : db.rowSettlements.get? stored.id = some stored) :
    ∃ final, (updateSettlements (consumeCandidateSettlements db ids stored.id now) (fun candidate => candidate.id = stored.id) f
        hf).rowSettlements.get? stored.id = some final ∧ final.rowId = stored.rowId ∧
      final.rowVersion = stored.rowVersion ∧ final.tableId = stored.tableId ∧ final.status = .succeeded := by
  rw [get?_closed, hget]
  simp only [Option.map_some, if_true, Option.some.injEq]
  refine ⟨_, rfl, ?_⟩
  obtain ⟨hrow, hversion, htable, hstatus⟩ := hkept (if stored.id ∈ ids then consumeSettlement stored.id now stored else stored)
  rw [hrow, hversion, htable, hstatus]
  split
  · exact ⟨rfl, rfl, rfl, rfl⟩
  · exact ⟨rfl, rfl, rfl, rfl⟩

theorem SettlementFound.done {workspace : DeliveryWorkspace ν} {input : RowSettlementInput} {row : Row}
    {settlement : RowSettlement} {limits : SettlementLimits} {stamp : SettlementStamp}
    {result : SettlementResult × DeliveryWorkspace ν} (h : SettlementFound workspace input row settlement)
    (houtcome : SettlementOutcome (workspace.start settlement.id stamp.context.now) row settlement limits stamp result)
    (hsucceeded : result.1.status = .succeeded) : SettlementDone result.2 input := by
  have hid : settlement.id = input.settlementId := (Table.get?_eq_some.mp h.stored).2
  have hstarted : (workspace.start settlement.id stamp.context.now).db.rowSettlements.get? settlement.id =
      some (startSettlement stamp.context.now settlement) := by
    rw [DeliveryWorkspace.start, DeliveryWorkspace.withDatabase, get?_updateSettlements, hid, h.stored]
    simp [hid]
  have hdone : ∀ {after : DeliveryWorkspace ν} {final : RowSettlement}, after.db.grid.rows = workspace.db.grid.rows →
      after.db.rowSettlements.get? settlement.id = some final → final.rowId = settlement.rowId →
      final.rowVersion = settlement.rowVersion → final.tableId = settlement.tableId → final.status = .succeeded →
      SettlementDone after input := by
    intro after final hrows hfinal hrow hversion htable hstatus
    refine ⟨row, final, ⟨hrows ▸ h.found, h.table, hid ▸ hfinal, ?_⟩, hstatus⟩
    exact ⟨hrow.trans h.scope.1, hversion.trans h.scope.2.1, htable.trans h.scope.2.2⟩
  cases houtcome with
  | waiting _ => cases hsucceeded
  | refused _ => cases hsucceeded
  | dispatched columnIds queued _ _ hqueue =>
    have hsame : queued.rowSettlements = (workspace.start settlement.id stamp.context.now).db.rowSettlements := by
      rw [(queueDependents_eq_ok hqueue).frame]
    have hget : queued.rowSettlements.get? (startSettlement stamp.context.now settlement).id =
        some (startSettlement stamp.context.now settlement) := hsame ▸ hstarted
    obtain ⟨final, hfinal, hrow, hversion, htable, hstatus⟩ := closed_found
      ((coveredSettlements (workspace.start settlement.id stamp.context.now).db settlement).filter fun id => id ≠ settlement.id)
      stamp.context.now (f := succeedWithRuns
        (changedColumns (settlementCandidates (workspace.start settlement.id stamp.context.now).db settlement)) columnIds.length
        stamp.context.now) ⟨fun _ => rfl⟩ (fun _ => ⟨rfl, rfl, rfl, rfl⟩) hget
    exact hdone (queueDependents_adds hqueue).2 hfinal hrow hversion htable hstatus
  | delivered written hooked _ _ hwritten hhooked =>
    obtain ⟨first, hfirst⟩ := queueSettledSqliteWritebackDeliveries_adds hwritten
    have hadds : ∃ later, QueueAdds (QueuedDelivery.Matches written.2.db (settledRow workspace.db row settlement))
        (0, written.2) hooked later := queueSettledSqliteWebhookDeliveries_adds rfl hhooked
    obtain ⟨later, hlater⟩ := hadds
    have hframe := hfirst.frame.trans hlater.frame
    have hsame : hooked.2.db.rowSettlements = (workspace.start settlement.id stamp.context.now).db.rowSettlements := by
      rw [hframe]
    have hrows : hooked.2.db.grid.rows = workspace.db.grid.rows := by
      rw [hframe]
      rfl
    have hget : hooked.2.db.rowSettlements.get? (startSettlement stamp.context.now settlement).id =
        some (startSettlement stamp.context.now settlement) := hsame ▸ hstarted
    obtain ⟨final, hfinal, hrow, hversion, htable, hstatus⟩ := closed_found
      (coveredSettlements (workspace.start settlement.id stamp.context.now).db settlement) stamp.context.now
      (f := succeedWithDeliveries (written.1 + hooked.1) stamp.context.now) ⟨fun _ => rfl⟩ (fun _ => ⟨rfl, rfl, rfl, rfl⟩)
      hget
    exact hdone hrows hfinal hrow hversion htable hstatus

theorem processSqliteRowSettlement_done {workspace : DeliveryWorkspace ν} {input : RowSettlementInput}
    {limits : SettlementLimits} {stamp : SettlementStamp} {result : SettlementResult × DeliveryWorkspace ν}
    (h : processSqliteRowSettlement workspace input limits stamp = .ok result) (hsucceeded : result.1.status = .succeeded) :
    SettlementDone result.2 input := by
  obtain ⟨row, settlement, hfound, hcases⟩ := processSqliteRowSettlement_cases h
  obtain ⟨hstatus, rfl⟩ | ⟨_, rfl⟩ | ⟨_, rfl⟩ | hsettle := hcases
  · exact ⟨row, settlement, hfound, hstatus⟩
  · cases hsucceeded
  · cases hsucceeded
  · exact hfound.done (settleCurrentRow_outcome hsettle) hsucceeded

end Settled

section Once

variable {ν : Type} {workspace : DeliveryWorkspace ν}

theorem AutomaticOnce.updateWebhooks (h : AutomaticOnce workspace) (p : WebhookDelivery ν → Bool)
    {f : WebhookDelivery ν → WebhookDelivery ν} (hf : KeepsKey f) (hslot : ∀ delivery, (f delivery).slot = delivery.slot) :
    AutomaticOnce (updateWebhooks workspace p f hf) :=
  ⟨h.webhooks.modify hf hslot, h.writebacks⟩

theorem AutomaticOnce.updateDeliveries (h : AutomaticOnce workspace) (p : WritebackDelivery ν → Bool)
    {f : WritebackDelivery ν → WritebackDelivery ν} (hf : KeepsKey f) (hslot : ∀ delivery, (f delivery).slot = delivery.slot) :
    AutomaticOnce (updateDeliveries workspace p f hf) :=
  ⟨h.webhooks, h.writebacks.modify hf hslot⟩

theorem AutomaticOnce.running (h : AutomaticOnce workspace) {kind : DeliveryKind} {input : DeliveryInput} {now : Int}
    {result : DeliveryStart × DeliveryWorkspace ν} (hstart : markDeliveryRunning workspace kind input now = .ok result) :
    AutomaticOnce result.2 := by
  cases kind with
  | webhook =>
    simp only [markDeliveryRunning, markSqliteWebhookDeliveryRunning, except_bind_eq_ok] at hstart
    obtain ⟨delivery, _, hstart⟩ := hstart
    split at hstart
    all_goals cases hstart
    · exact h
    · exact h
    · exact h.updateWebhooks _ (f := startWebhook now) ⟨fun _ => rfl⟩ fun _ => rfl
    · exact h.updateWebhooks _ (f := startWebhook now) ⟨fun _ => rfl⟩ fun _ => rfl
  | writeback =>
    simp only [markDeliveryRunning, markSqliteWritebackDeliveryRunning, except_bind_eq_ok] at hstart
    obtain ⟨delivery, _, hstart⟩ := hstart
    split at hstart
    all_goals cases hstart
    · exact h
    · exact h
    · exact h.updateDeliveries _ (f := startDelivery now) ⟨fun _ => rfl⟩ fun _ => rfl
    · exact h.updateDeliveries _ (f := startDelivery now) ⟨fun _ => rfl⟩ fun _ => rfl

theorem AutomaticOnce.succeeded (h : AutomaticOnce workspace) {kind : DeliveryKind} {input : DeliveryInput}
    {responseStatus : Nat} {now : Int} {next : DeliveryWorkspace ν}
    (hsucceed : markDeliverySucceeded workspace kind input responseStatus now = .ok next) : AutomaticOnce next := by
  cases kind with
  | webhook =>
    simp only [markDeliverySucceeded, markSqliteWebhookDeliverySucceeded, except_bind_eq_ok] at hsucceed
    obtain ⟨_, _, hsucceed⟩ := hsucceed
    cases hsucceed
    exact h.updateWebhooks _ (f := succeedWebhook responseStatus now) ⟨fun _ => rfl⟩ fun _ => rfl
  | writeback =>
    simp only [markDeliverySucceeded, markSqliteWritebackDeliverySucceeded, except_bind_eq_ok] at hsucceed
    obtain ⟨_, _, hsucceed⟩ := hsucceed
    cases hsucceed
    exact h.updateDeliveries _ (f := succeedDelivery responseStatus now) ⟨fun _ => rfl⟩ fun _ => rfl

theorem AutomaticOnce.failed (h : AutomaticOnce workspace) (kind : DeliveryKind) (input : DeliveryInput)
    (failure : DeliveryFailure) (now : Int) : AutomaticOnce (setDeliveryFailure workspace kind input failure now) := by
  cases kind with
  | webhook => exact h.updateWebhooks _ (f := failWebhook failure now) ⟨fun _ => rfl⟩ fun _ => rfl
  | writeback => exact h.updateDeliveries _ (f := failDelivery failure now) ⟨fun _ => rfl⟩ fun _ => rfl

theorem AutomaticOnce.requested (h : AutomaticOnce workspace) {input : WebhookRequest} {delivery : WebhookDelivery ν}
    {now : Int} {result : WebhookDelivery ν × DeliveryWorkspace ν} (hslot : delivery.slot = none)
    (hinsert : insertRequested workspace input delivery now = .ok result) : AutomaticOnce result.2 := by
  unfold insertRequested at hinsert
  split at hinsert
  · simp only [except_bind_eq_ok] at hinsert
    obtain ⟨_, _, hinsert⟩ := hinsert
    cases hinsert
    exact h
  · rename_i deliveries hstored
    have honce : OnceEach WebhookDelivery.slot deliveries := by
      apply h.webhooks.insert hstored
      intro s hs
      rw [hslot] at hs
      cases hs
    split at hinsert
    · simp only [except_bind_eq_ok] at hinsert
      obtain ⟨_, _, hinsert⟩ := hinsert
      cases hinsert
      exact ⟨honce, h.writebacks⟩
    · cases hinsert
      exact ⟨honce, h.writebacks⟩

variable [JsRuntime ν]

theorem AutomaticOnce.queueDelivery (h : AutomaticOnce workspace) {input : WebhookRequest} {context : DeliveryContext}
    {tableName : String} {result : WebhookDelivery ν × DeliveryWorkspace ν}
    (hqueue : queueDelivery workspace input context tableName = .ok result) : AutomaticOnce result.2 := by
  simp only [ByokGrid.queueDelivery, except_bind_eq_ok] at hqueue
  obtain ⟨_, _, _, _, hinsert⟩ := hqueue
  exact h.requested rfl hinsert

variable [ConnectorRuntime ν]

theorem AutomaticOnce.queueWorkflowDeliveries {input : QueueWorkflowWebhooks} {tableId : String} {context : DeliveryContext}
    {tableName : String} {rows : List WorkflowRowReference} {workspace : DeliveryWorkspace ν}
    {result : List DeliveryInput × DeliveryWorkspace ν} (h : AutomaticOnce workspace)
    (hqueue : queueWorkflowDeliveries input tableId context tableName rows workspace = .ok result) : AutomaticOnce result.2 := by
  induction rows generalizing workspace result with
  | nil =>
    cases hqueue
    exact h
  | cons row rows ih =>
    simp only [ByokGrid.queueWorkflowDeliveries, except_bind_eq_ok, pure, Except.pure, Except.ok.injEq] at hqueue
    obtain ⟨next, hnext, rest, hrest, rfl⟩ := hqueue
    have hqueued : AutomaticOnce next.2 := h.queueDelivery hnext
    have hrested : AutomaticOnce rest.2 := ih hqueued hrest
    exact hrested

theorem AutomaticOnce.queueWriteback (h : AutomaticOnce workspace) {input : QueueWriteback} {context : DeliveryContext}
    {result : WritebackDelivery ν × DeliveryWorkspace ν}
    (hqueue : queueSqliteWritebackDelivery workspace input context = .ok result) : AutomaticOnce result.2 := by
  simp only [queueSqliteWritebackDelivery, except_bind_eq_ok] at hqueue
  obtain ⟨_, _, destination, _, row, _, hqueue⟩ := hqueue
  split at hqueue
  · simp only [except_bind_eq_ok] at hqueue
    obtain ⟨_, _, hqueue⟩ := hqueue
    cases hqueue
    exact h
  · simp only [insertManualDelivery, enqueueWritebackDelivery, except_bind_eq_ok, requireSome_eq_ok, pure, Except.pure,
      Except.ok.injEq] at hqueue
    obtain ⟨_, _, prepared, _, deliveries, hinsert, _, ⟨_, _, rfl⟩, rfl⟩ := hqueue
    refine ⟨h.webhooks, h.writebacks.insert hinsert ?_⟩
    intro slot hslot
    cases hslot

variable [NumberComparison ν]

omit [ConnectorRuntime ν] in
theorem SettlementCommit.once {row : Row} {settlement : RowSettlement} {limits : SettlementLimits} {result : SettlementResult}
    {after : DeliveryWorkspace ν} (hcommit : SettlementCommit workspace row settlement limits result after)
    (h : AutomaticOnce workspace) : AutomaticOnce after := by
  cases hcommit with
  | succeededBefore _ => exact h
  | skippedBefore _ => exact h
  | skipped _ _ nothing _ => exact ⟨nothing.webhooks ▸ h.webhooks, nothing.writebacks ▸ h.writebacks⟩
  | blocked _ _ nothing _ => exact ⟨nothing.webhooks ▸ h.webhooks, nothing.writebacks ▸ h.writebacks⟩
  | dispatched _ _ _ webhooks writebacks _ _ => exact ⟨webhooks ▸ h.webhooks, writebacks ▸ h.writebacks⟩
  | delivered _ _ deliveries _ _ => exact deliveries.once h

omit [JsRuntime ν] [ConnectorRuntime ν] [NumberComparison ν] in
theorem AutomaticOnce.committed {α : Type} (h : AutomaticOnce workspace) {result : Except StoreError (α × DeliveryWorkspace ν)}
    (hresult : ∀ next, result = .ok next → AutomaticOnce next.2) : AutomaticOnce (workspace.committed result) := by
  cases result with
  | error _ => exact h
  | ok next => exact hresult next rfl

theorem AutomaticOnce.step (h : AutomaticOnce workspace) (action : DeliveryAction ν) :
    AutomaticOnce (workspace.stepDelivery action) := by
  cases action with
  | queueWebhook input context tableName =>
    refine h.committed fun next hnext => ?_
    simp only [queueSqliteWebhookDelivery, except_bind_eq_ok] at hnext
    obtain ⟨_, _, hnext⟩ := hnext
    exact h.queueDelivery hnext
  | queueWorkflowWebhooks input context tableName =>
    refine h.committed fun next hnext => ?_
    simp only [queueSqliteWorkflowWebhookDeliveries, except_bind_eq_ok] at hnext
    obtain ⟨_, _, _, _, _, _, _, _, hnext⟩ := hnext
    exact h.queueWorkflowDeliveries hnext
  | queueWriteback input context => exact h.committed fun _ hnext => h.queueWriteback hnext
  | settle input limits stamp =>
    refine h.committed fun next hnext => ?_
    obtain ⟨_, _, _, hcommit⟩ := processSqliteRowSettlement_commit hnext
    exact hcommit.once h
  | start kind input now => exact h.committed fun _ hnext => h.running hnext
  | succeed kind input responseStatus now =>
    simp only [DeliveryWorkspace.stepDelivery]
    cases hsucceed : markDeliverySucceeded workspace kind input responseStatus now with
    | error _ => exact h
    | ok next => exact h.succeeded hsucceed
  | fail kind input failure now => exact h.failed kind input failure now
  | other db => exact ⟨h.webhooks, h.writebacks⟩

def withoutDeliveries (db : Database ν) : DeliveryWorkspace ν :=
  ⟨db, Table.empty, Table.empty⟩

theorem automaticOnce_run (db : Database ν) (actions : List (DeliveryAction ν)) :
    AutomaticOnce (runActions DeliveryWorkspace.stepDelivery (withoutDeliveries db) actions) :=
  runActions_invariant (fun _ action h => h.step action) ⟨OnceEach.empty, OnceEach.empty⟩ actions

/-- In every state reached a settlement throws and changes nothing, or it is done as a whole. What has succeeded is not done
again, and no row has a second automatic delivery to a destination at a version. -/
theorem settlement_allOrNothing (db : Database ν) (actions : List (DeliveryAction ν)) (input : RowSettlementInput)
    (limits : SettlementLimits) (stamp : SettlementStamp) :
    let workspace := runActions DeliveryWorkspace.stepDelivery (withoutDeliveries db) actions
    let after := workspace.stepDelivery (.settle input limits stamp)
    AutomaticOnce workspace ∧ AutomaticOnce after ∧
      ((∃ error, processSqliteRowSettlement workspace input limits stamp = .error error) ∧ after = workspace ∨
        ∃ row settlement result, SettlementFound workspace input row settlement ∧
          processSqliteRowSettlement workspace input limits stamp = .ok (result, after) ∧
          SettlementCommit workspace row settlement limits result after ∧
          (result.status = .succeeded → ∀ limits stamp, after.stepDelivery (.settle input limits stamp) = after)) := by
  intro workspace after
  have honce : AutomaticOnce workspace := automaticOnce_run db actions
  refine ⟨honce, honce.step _, ?_⟩
  cases hprocess : processSqliteRowSettlement workspace input limits stamp with
  | error error =>
    refine Or.inl ⟨⟨error, rfl⟩, ?_⟩
    show workspace.committed (processSqliteRowSettlement workspace input limits stamp) = workspace
    rw [hprocess]
    rfl
  | ok result =>
    have hafter : after = result.2 := by
      show workspace.committed (processSqliteRowSettlement workspace input limits stamp) = result.2
      rw [hprocess]
      rfl
    obtain ⟨row, settlement, hfound, hcommit⟩ := processSqliteRowSettlement_commit hprocess
    rw [hafter]
    exact Or.inr ⟨row, settlement, result.1, hfound, rfl, hcommit, fun hsucceeded =>
      (processSqliteRowSettlement_done hprocess hsucceeded).step⟩

end Once

/-- With a limit of one dependent two which can run are both left out, and the settlement is closed. -/
theorem settlement_blocked_lead :
    recordSqliteRowMutationAndMaybeQueueSettlement (leadDatabase (some ⟨.text "grace@grace.example", .idle, 1⟩))
      ⟨["website"], "grace", "leads"⟩ ⟨"settlement", "settled", 0⟩ =
        .ok (leadWorkspace (some ⟨.text "grace@grace.example", .idle, 1⟩)).db ∧
    dependentReady (leadWorkspace (some ⟨.text "grace@grace.example", .idle, 1⟩)).db "leads" "grace" "logo" = true ∧
    ∃ after, processSqliteRowSettlement (leadWorkspace (some ⟨.text "grace@grace.example", .idle, 1⟩)) leadInputs
        { maximumAutomaticRuns := 1 } leadStamp = .ok (⟨0, 0, .failed⟩, after) ∧
      after.db.cellRuns.records = [] ∧ after.webhookDeliveries.records = [] := by
  exact ⟨rfl, rfl, _, rfl, rfl, rfl⟩

end ByokGrid
