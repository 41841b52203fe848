import ByokGrid.CellRunContract
import ByokGrid.SettlementDelivery

/-! When the settlement of a current row goes through: a dependent which cannot
take a run, or a payload over its limits, stops all of it. -/

namespace ByokGrid

theorem sortStrings_distinct_length {ids : List String} (hnd : ids.Nodup) :
    (sortStrings (distinct ids)).length = ids.length := by
  rw [(sortStrings_perm (distinct ids)).length_eq]
  exact length_distinct hnd fun _ => Iff.rfl

theorem decideAutomaticFanout_over {ids : List String} {limit : Nat} (hnd : ids.Nodup) (h : limit < ids.length) :
    decideAutomaticFanout ids limit = .error ids.length := by
  have hlength := sortStrings_distinct_length hnd
  unfold decideAutomaticFanout
  rw [if_pos (hlength ▸ h), hlength]

theorem decideAutomaticFanout_within {ids : List String} {limit : Nat} (hnd : ids.Nodup) (h : ids.length ≤ limit) :
    ∃ sorted, decideAutomaticFanout ids limit = .ok sorted ∧ sorted.Perm ids := by
  have hlength := sortStrings_distinct_length hnd
  refine ⟨sortStrings (distinct ids), ?_, ?_⟩
  · unfold decideAutomaticFanout
    rw [if_neg]
    omega
  · have hdistinct : (distinct ids).Perm ids :=
      (List.perm_ext_iff_of_nodup (nodup_distinct ids) hnd).mpr fun _ => mem_distinct
    exact (sortStrings_perm (distinct ids)).trans hdistinct

section Deliver

variable {ν : Type} [JsRuntime ν] [ConnectorRuntime ν] [NumberComparison ν]

def readyWritebacks (grid : Grid ν) (settled : SettledRow) (destinations : List (WritebackDestination ν)) :
    List (WritebackDestination ν) :=
  destinations.filter fun destination => destination.selects grid settled &&
    (writebackContent grid settled.row.id destination).isOk

structure WritebacksFit (workspace : DeliveryWorkspace ν) (settled : SettledRow) (stamp : SettlementStamp) : Prop where
  number : (automaticWritebacks workspace.db settled.row.tableId).length ≤ MAXIMUM_WRITEBACK_DESTINATIONS_PER_TABLE
  fits : ∀ destination ∈ automaticWritebacks workspace.db settled.row.tableId,
    destination.selects workspace.db.grid settled = true →
      destination.fits workspace.db.grid settled.row stamp = true

def WebhooksFit (workspace : DeliveryWorkspace ν) (row : Row) (stamp : SettlementStamp) : Prop :=
  ∀ webhook ∈ automaticWebhooks workspace.db row.tableId,
    (buildWebhookPayload (webhookRowSnapshot workspace.db.grid row stamp.tableName) stamp webhook.id).accepted = true

def WritebackFanout (workspace : DeliveryWorkspace ν) (settled : SettledRow) (limits : SettlementLimits) : Prop :=
  limits.maximumAutomaticWritebacks <
    (readyWritebacks workspace.db.grid settled (automaticWritebacks workspace.db settled.row.tableId)).length

def Deliverable (workspace : DeliveryWorkspace ν) (settled : SettledRow) (limits : SettlementLimits)
    (stamp : SettlementStamp) : Prop :=
  currentRow workspace.db.grid settled.row.id settled.row.tableId settled.row.version = none ∨
    WritebacksFit workspace settled stamp ∧
      (WritebackFanout workspace settled limits ∨ WebhooksFit workspace settled.row stamp)

omit [NumberComparison ν] in
theorem prepare_isOk_iff {grid : Grid ν} {row : Row} {stamp : SettlementStamp} {destination : WritebackDestination ν}
    {prepared : Option PreparedWriteback} (h : leaveOutUnready (prepareSqliteWritebackDelivery grid stamp.context
      (stamp.writebackId destination.id) destination row) = .ok prepared) :
    prepared.isSome = (writebackContent grid row.id destination).isOk := by
  have hfits := (leaveOutUnready_prepare grid row stamp destination).mp ⟨prepared, h⟩
  simp only [WritebackDestination.fits, Bool.and_eq_true] at hfits
  unfold prepareSqliteWritebackDelivery at h
  cases hcontent : writebackContent grid row.id destination with
  | error error =>
    rw [hcontent] at h
    cases error <;> cases h <;> rfl
  | ok content =>
    rw [hcontent] at h hfits
    simp only [bind, Except.bind, requireThat, hfits.2, if_true, pure, Except.pure, leaveOutUnready,
      Except.ok.injEq] at h
    subst h
    rfl

theorem writebackCandidates_ready {grid : Grid ν} {settled : SettledRow} {stamp : SettlementStamp}
    {destinations : List (WritebackDestination ν)} {candidates : List (WritebackCandidate ν)}
    (h : writebackCandidates grid settled stamp destinations = .ok candidates) :
    candidates.map WritebackCandidate.destination = readyWritebacks grid settled destinations := by
  induction destinations generalizing candidates with
  | nil =>
    cases h
    rfl
  | cons destination destinations ih =>
    unfold writebackCandidates at h
    unfold readyWritebacks
    by_cases hselects : destination.selects grid settled = true
    · simp only [if_pos hselects, except_bind_eq_ok, pure, Except.pure, Except.ok.injEq] at h
      obtain ⟨prepared, hprepared, rest, hrest, rfl⟩ := h
      have hready := prepare_isOk_iff hprepared
      have htail := ih hrest
      unfold readyWritebacks at htail
      rw [List.filter_cons, hselects, Bool.true_and, ← hready, List.map_append, htail]
      cases prepared <;> rfl
    · rw [if_neg hselects] at h
      rw [List.filter_cons, if_neg (by simp [hselects])]
      exact ih h

omit [JsRuntime ν] [ConnectorRuntime ν] [NumberComparison ν] in
theorem orderedWritebacks_perm (db : Database ν) (tableId : String) :
    (orderedWritebacks db tableId).Perm (automaticWritebacks db tableId) :=
  List.perm_insertionSort _ _

omit [JsRuntime ν] [ConnectorRuntime ν] [NumberComparison ν] in
theorem automaticWritebacks_nodup (db : Database ν) (tableId : String) :
    ((automaticWritebacks db tableId).map WritebackDestination.id).Nodup :=
  db.writebackDestinations.nodup.sublist (List.filter_sublist.map _)

omit [JsRuntime ν] [ConnectorRuntime ν] [NumberComparison ν] in
theorem orderedWebhooks_perm (db : Database ν) (tableId : String) :
    (orderedWebhooks db tableId).Perm (automaticWebhooks db tableId) :=
  List.perm_insertionSort _ _

omit [JsRuntime ν] [ConnectorRuntime ν] [NumberComparison ν] in
theorem automaticWebhooks_nodup (db : Database ν) (tableId : String) :
    ((automaticWebhooks db tableId).map WebhookDestination.id).Nodup :=
  db.webhookDestinations.nodup.sublist (List.filter_sublist.map _)

def WrittenBack (grid : Grid ν) (row : Row) (destination : WritebackDestination ν) (after : DeliveryWorkspace ν) :
    Prop :=
  ∀ content, writebackContent grid row.id destination = .ok content →
    ∃ delivery ∈ after.writebackDeliveries, delivery.automaticFor destination.id row.id = true ∧
      (delivery.rowVersion = row.version ∨ delivery.payloadFingerprint = ConnectorRuntime.sha256 ν (content.text ν))

omit [NumberComparison ν] in
theorem prepare_eq_ok {grid : Grid ν} {row : Row} {stamp : SettlementStamp} {destination : WritebackDestination ν}
    {content : WritebackContent} (hfits : destination.fits grid row stamp = true)
    (hcontent : writebackContent grid row.id destination = .ok content) :
    prepareSqliteWritebackDelivery grid stamp.context (stamp.writebackId destination.id) destination row = .ok
      ⟨writebackPayload stamp.context (stamp.writebackId destination.id) content row,
        ConnectorRuntime.sha256 ν (content.text ν)⟩ := by
  simp only [WritebackDestination.fits, hcontent, Bool.and_eq_true] at hfits
  simp only [prepareSqliteWritebackDelivery, hcontent, hfits.2, requireThat, if_true, bind, Except.bind, pure,
    Except.pure]

theorem find_candidate {grid : Grid ν} {settled : SettledRow} {stamp : SettlementStamp}
    {destinations : List (WritebackDestination ν)} {candidates : List (WritebackCandidate ν)}
    (hnd : (destinations.map WritebackDestination.id).Nodup)
    (h : writebackCandidates grid settled stamp destinations = .ok candidates) {candidate : WritebackCandidate ν}
    (hmem : candidate ∈ candidates) :
    (candidates.find? fun other => other.destination.id = candidate.destination.id) = some candidate := by
  have hids : (candidates.map fun other => other.destination.id).Nodup := by
    have hsub := (writebackCandidates_sublist h).map WritebackDestination.id
    rw [List.map_map] at hsub
    exact hnd.sublist hsub
  cases hfind : candidates.find? fun other => other.destination.id = candidate.destination.id with
  | none =>
    have hnone := List.find?_eq_none.mp hfind candidate hmem
    simp at hnone
  | some found =>
    have hsame : found.destination.id = candidate.destination.id := by simpa using List.find?_some hfind
    rw [List.inj_on_of_nodup_map hids (List.mem_of_find?_eq_some hfind) hmem hsame]

structure WritebacksSettled (workspace : DeliveryWorkspace ν) (settled : SettledRow) (stamp : SettlementStamp)
    (after : DeliveryWorkspace ν) : Prop where
  queued : ∃ candidates destinationIds, writebackCandidates workspace.db.grid settled stamp
      (orderedWritebacks workspace.db settled.row.tableId) = .ok candidates ∧
    (∀ destinationId ∈ destinationIds, ∃ destination ∈ automaticWritebacks workspace.db settled.row.tableId,
      destination.id = destinationId) ∧
    (∀ candidate ∈ candidates, candidate.destination.id ∈ destinationIds) ∧
    WritebacksQueued candidates settled.row stamp destinationIds workspace after
  writtenBack : ∀ destination ∈ automaticWritebacks workspace.db settled.row.tableId,
    destination.selects workspace.db.grid settled = true → WrittenBack workspace.db.grid settled.row destination after

omit [JsRuntime ν] [ConnectorRuntime ν] [NumberComparison ν] in
theorem ordered_length (db : Database ν) (tableId : String) :
    (orderedWritebacks db tableId).length = (automaticWritebacks db tableId).length :=
  (orderedWritebacks_perm db tableId).length_eq

theorem orderedCandidates_isOk (workspace : DeliveryWorkspace ν) (settled : SettledRow) (stamp : SettlementStamp) :
    (∃ candidates, writebackCandidates workspace.db.grid settled stamp
      (orderedWritebacks workspace.db settled.row.tableId) = .ok candidates) ↔
      ∀ destination ∈ automaticWritebacks workspace.db settled.row.tableId,
        destination.selects workspace.db.grid settled = true →
          destination.fits workspace.db.grid settled.row stamp = true := by
  rw [writebackCandidates_isOk]
  simp only [(orderedWritebacks_perm workspace.db settled.row.tableId).mem_iff]

theorem queueSettledSqliteWritebackDeliveries_fit {workspace : DeliveryWorkspace ν} {settled : SettledRow}
    {limit : Nat} {stamp : SettlementStamp} {row : Row} {result : Except Nat (Queued ν)}
    (hcurrent : currentRow workspace.db.grid settled.row.id settled.row.tableId settled.row.version = some row)
    (h : queueSettledSqliteWritebackDeliveries workspace settled limit stamp = .ok result) :
    WritebacksFit workspace settled stamp := by
  simp only [queueSettledSqliteWritebackDeliveries, hcurrent, except_bind_eq_ok, requireThat_eq_ok,
    decide_eq_true_eq] at h
  obtain ⟨_, hnumber, candidates, hcandidates, _⟩ := h
  rw [ordered_length] at hnumber
  exact ⟨hnumber, (orderedCandidates_isOk workspace settled stamp).mp ⟨candidates, hcandidates⟩⟩

theorem queueSettledSqliteWritebackDeliveries_spec {workspace : DeliveryWorkspace ν} {settled : SettledRow}
    (limit : Nat) {stamp : SettlementStamp} {row : Row}
    (hcurrent : currentRow workspace.db.grid settled.row.id settled.row.tableId settled.row.version = some row)
    (hfit : WritebacksFit workspace settled stamp)
    (hdeliveries : NewIds workspace.writebackDeliveries stamp.writebackId
      ((automaticWritebacks workspace.db settled.row.tableId).map WritebackDestination.id))
    (hevents : NewIds workspace.db.outbox stamp.writebackEventId
      ((automaticWritebacks workspace.db settled.row.tableId).map WritebackDestination.id)) :
    let ready := readyWritebacks workspace.db.grid settled (automaticWritebacks workspace.db settled.row.tableId)
    (limit < ready.length ∧
      queueSettledSqliteWritebackDeliveries workspace settled limit stamp = .ok (.error ready.length)) ∨
    (ready.length ≤ limit ∧ ∃ queued, queueSettledSqliteWritebackDeliveries workspace settled limit stamp =
      .ok (.ok queued) ∧ WritebacksSettled workspace settled stamp queued.2) := by
  intro ready
  obtain ⟨candidates, hcandidates⟩ := (orderedCandidates_isOk workspace settled stamp).mpr hfit.fits
  have hperm := orderedWritebacks_perm workspace.db settled.row.tableId
  have hnd : ((orderedWritebacks workspace.db settled.row.tableId).map WritebackDestination.id).Nodup :=
    ((hperm.map _).nodup_iff).mpr (automaticWritebacks_nodup workspace.db settled.row.tableId)
  have hready := writebackCandidates_ready hcandidates
  have hcandidateIds : candidates.map (fun candidate => candidate.destination.id) =
      (readyWritebacks workspace.db.grid settled (orderedWritebacks workspace.db settled.row.tableId)).map
        WritebackDestination.id := by
    rw [← hready, List.map_map]
    rfl
  have hids : (candidates.map fun candidate => candidate.destination.id).Nodup := by
    rw [hcandidateIds]
    exact hnd.sublist (List.filter_sublist.map _)
  have hlength : (candidates.map fun candidate => candidate.destination.id).length = ready.length := by
    rw [hcandidateIds, List.length_map]
    exact (hperm.filter _).length_eq
  have hnumber : (decide ((orderedWritebacks workspace.db settled.row.tableId).length ≤
      MAXIMUM_WRITEBACK_DESTINATIONS_PER_TABLE)) = true := by
    rw [ordered_length]
    exact decide_eq_true hfit.number
  by_cases hover : limit < ready.length
  · refine Or.inl ⟨hover, ?_⟩
    have hfanout := decideAutomaticFanout_over hids (hlength.symm ▸ hover)
    simp only [queueSettledSqliteWritebackDeliveries, hcurrent, hnumber, requireThat, if_true, hcandidates, hfanout,
      hlength, bind, Except.bind, pure, Except.pure]
  · have hwithin : ready.length ≤ limit := Nat.not_lt.mp hover
    obtain ⟨sorted, hfanout, hsorted⟩ := decideAutomaticFanout_within hids (hlength.symm ▸ hwithin)
    have hsub : ∀ id ∈ sorted, id ∈ (automaticWritebacks workspace.db settled.row.tableId).map WritebackDestination.id := by
      intro id hid
      have hmem := hsorted.mem_iff.mp hid
      rw [hcandidateIds] at hmem
      exact (hperm.map _).mem_iff.mp ((List.filter_sublist.map _).mem hmem)
    obtain ⟨queued, hqueue, hqueued⟩ := queueWritebacks_isOk candidates settled.row (hsorted.nodup_iff.mpr hids)
      (0, workspace) (hdeliveries.mono hsub) (hevents.mono hsub)
    refine Or.inr ⟨hwithin, queued, ?_, ⟨⟨candidates, sorted, hcandidates, ?_, ?_, hqueued⟩, ?_⟩⟩
    · simp only [queueSettledSqliteWritebackDeliveries, hcurrent, hnumber, requireThat, if_true, hcandidates, hfanout,
        hqueue, bind, Except.bind, pure, Except.pure]
    · intro id hid
      obtain ⟨destination, hmem, heq⟩ := List.mem_map.mp (hsub id hid)
      exact ⟨destination, hmem, heq⟩
    · intro candidate hcandidate
      exact hsorted.mem_iff.mpr (List.mem_map_of_mem (f := fun candidate => candidate.destination.id) hcandidate)
    · intro destination hmem hselects content hcontent
      have hprepared := prepare_eq_ok (hfit.fits destination hmem hselects) hcontent
      have hcandidate := (mem_writebackCandidates hcandidates ⟨destination, _⟩).mpr
        ⟨hperm.mem_iff.mpr hmem, hselects, hprepared⟩
      have hid := hsorted.mem_iff.mpr (List.mem_map_of_mem (f := fun candidate => candidate.destination.id) hcandidate)
      rcases hqueued.queued _ hid _ (find_candidate hnd hcandidates hcandidate) with hconflict | hstored
      · simp only [WritebackDelivery.conflicts, Bool.and_eq_true, List.any_eq_true, Bool.or_eq_true,
          decide_eq_true_eq] at hconflict
        obtain ⟨_, existing, hexisting, hautomatic, hsame⟩ := hconflict
        exact ⟨existing, hqueued.kept existing hexisting, hautomatic, hsame⟩
      · refine ⟨_, hstored, ?_, Or.inl rfl⟩
        simp [WritebackDelivery.automaticFor, WritebackCandidate.delivery]

end Deliver

section Settle

variable {ν : Type} [JsRuntime ν] [ConnectorRuntime ν] [NumberComparison ν]

def settlementDependents (db : Database ν) (settlement : RowSettlement) : List String :=
  automaticColumnIds db settlement.tableId (undispatchedColumns (settlementCandidates db settlement))

def settledRow (db : Database ν) (row : Row) (settlement : RowSettlement) : SettledRow :=
  ⟨row, changedColumns (settlementCandidates db settlement)⟩

structure FreshSettlement (workspace : DeliveryWorkspace ν) (settlement : RowSettlement) (stamp : SettlementStamp) :
    Prop where
  dispatch : FreshDispatch workspace.db stamp (settlementDependents workspace.db settlement)
  writebacks : NewIds workspace.writebackDeliveries stamp.writebackId
    ((automaticWritebacks workspace.db settlement.tableId).map WritebackDestination.id)
  writebackEvents : NewIds workspace.db.outbox stamp.writebackEventId
    ((automaticWritebacks workspace.db settlement.tableId).map WritebackDestination.id)
  webhooks : NewIds workspace.webhookDeliveries stamp.webhookId
    ((automaticWebhooks workspace.db settlement.tableId).map WebhookDestination.id)
  webhookEvents : NewIds workspace.db.outbox stamp.webhookEventId
    ((automaticWebhooks workspace.db settlement.tableId).map WebhookDestination.id)
  events : ∀ writeback ∈ automaticWritebacks workspace.db settlement.tableId,
    ∀ webhook ∈ automaticWebhooks workspace.db settlement.tableId,
      stamp.writebackEventId writeback.id ≠ stamp.webhookEventId webhook.id

def Settleable (workspace : DeliveryWorkspace ν) (row : Row) (settlement : RowSettlement) (limits : SettlementLimits)
    (stamp : SettlementStamp) : Prop :=
  let columnIds := settlementDependents workspace.db settlement
  (∃ columnId ∈ columnIds, activeCell workspace.db.grid settlement.rowId columnId = true) ∨
    limits.maximumAutomaticRuns < columnIds.length ∨
    if columnIds = [] then
      rowActive workspace.db.grid settlement.rowId settlement.tableId = true ∨
        Deliverable workspace (settledRow workspace.db row settlement) limits stamp
    else
      ∀ columnId ∈ columnIds, dependentReady workspace.db settlement.tableId settlement.rowId columnId = true

def SettlementRecorded (workspace : DeliveryWorkspace ν) (settlementId : String) (status : RowSettlementStatus) : Prop :=
  ∃ settlement, workspace.db.rowSettlements.get? settlementId = some settlement ∧ settlement.status = status ∧
    (status = .failed → settlement.errorMessage.isSome = true)

/-- What becomes of the row: its settlement waits for an active cell, is refused
as a whole for its fan-out, queues every dependent, or delivers the row. -/
inductive SettlementHandled (workspace : DeliveryWorkspace ν) (row : Row) (settlement : RowSettlement)
    (after : DeliveryWorkspace ν) : Prop where
  | waiting (active : rowActive workspace.db.grid settlement.rowId settlement.tableId = true)
    (recorded : SettlementRecorded after settlement.id .skipped)
  | refused (recorded : SettlementRecorded after settlement.id .failed)
  | dispatched (recorded : SettlementRecorded after settlement.id .succeeded)
    (queued : ∀ columnId ∈ settlementDependents workspace.db settlement, ∃ run ∈ after.db.cellRuns,
      run.rowId = settlement.rowId ∧ run.columnId = columnId ∧ run.status = .queued)
  | delivered (recorded : SettlementRecorded after settlement.id .succeeded)
    (none : settlementDependents workspace.db settlement = [])
    (writtenBack : ∀ destination ∈ automaticWritebacks workspace.db settlement.tableId,
      destination.selects workspace.db.grid (settledRow workspace.db row settlement) = true →
        WrittenBack workspace.db.grid row destination after)
    (hooked : ∀ webhook ∈ automaticWebhooks workspace.db settlement.tableId,
      WebhookDelivered after row.id row.version webhook.id)
  | outOfUse (recorded : SettlementRecorded after settlement.id .succeeded)
    (table : currentRow workspace.db.grid row.id row.tableId row.version = Option.none)

omit [JsRuntime ν] [ConnectorRuntime ν] [NumberComparison ν] in
theorem get?_updateSettlements (db : Database ν) (p : RowSettlement → Bool) (f : RowSettlement → RowSettlement)
    (hf : KeepsKey f) (id : String) : (updateSettlements db p f hf).rowSettlements.get? id =
      (db.rowSettlements.get? id).map fun settlement => if p settlement then f settlement else settlement :=
  Table.get?_modify _ _ _ hf _

omit [JsRuntime ν] [ConnectorRuntime ν] [NumberComparison ν] in
theorem recorded_update {db : Database ν} {settlement : RowSettlement} {f : RowSettlement → RowSettlement}
    (hf : KeepsKey f) (hstored : ∃ stored, db.rowSettlements.get? settlement.id = some stored) :
    ∃ stored, (updateSettlements db (fun candidate => candidate.id = settlement.id) f hf).rowSettlements.get?
      settlement.id = some (f stored) := by
  obtain ⟨stored, hget⟩ := hstored
  have hid : stored.id = settlement.id := (Table.get?_eq_some.mp hget).2
  refine ⟨stored, ?_⟩
  rw [get?_updateSettlements, hget]
  simp [hid]

omit [JsRuntime ν] [ConnectorRuntime ν] [NumberComparison ν] in
theorem stored_update {db : Database ν} {p : RowSettlement → Bool} {f : RowSettlement → RowSettlement} {id : String}
    (hf : KeepsKey f) (hstored : ∃ stored, db.rowSettlements.get? id = some stored) :
    ∃ stored, (updateSettlements db p f hf).rowSettlements.get? id = some stored := by
  obtain ⟨stored, hget⟩ := hstored
  rw [get?_updateSettlements, hget]
  exact ⟨_, rfl⟩

omit [JsRuntime ν] [ConnectorRuntime ν] [NumberComparison ν] in
theorem mem_automaticColumnIds {db : Database ν} {tableId columnId : String} {changedColumnIds : List String}
    (h : columnId ∈ automaticColumnIds db tableId changedColumnIds) :
    ∃ column, db.grid.columns.get? columnId = some column ∧ column.tableId = tableId ∧ column.automatic = true := by
  simp only [automaticColumnIds, mem_distinct, List.mem_map, List.mem_filter, dependentConnectors, List.mem_filterMap,
    Option.filter_eq_some_iff, Bool.and_eq_true, decide_eq_true_eq] at h
  obtain ⟨column, ⟨⟨dependency, _, hget, htable, _⟩, hautomatic⟩, rfl⟩ := h
  have hid : column.id = dependency.columnId := (Table.get?_eq_some.mp hget).2
  exact ⟨column, hid ▸ hget, htable, hautomatic⟩

omit [JsRuntime ν] [ConnectorRuntime ν] [NumberComparison ν] in
theorem actionColumn_of_automatic {db : Database ν} {tableId columnId : String} {changedColumnIds : List String}
    (h : columnId ∈ automaticColumnIds db tableId changedColumnIds) : ActionColumn db columnId := by
  obtain ⟨column, hget, _, hautomatic⟩ := mem_automaticColumnIds h
  unfold Column.automatic at hautomatic
  cases hconfiguration : column.configuration with
  | connectorAction configuration => exact ⟨column, configuration, hget, hconfiguration⟩
  | _ =>
    rw [hconfiguration] at hautomatic
    cases hautomatic

omit [JsRuntime ν] [ConnectorRuntime ν] [NumberComparison ν] in
theorem rowActive_of_automatic {db : Database ν} {tableId rowId columnId : String} {changedColumnIds : List String}
    (h : columnId ∈ automaticColumnIds db tableId changedColumnIds) (hactive : activeCell db.grid rowId columnId = true) :
    rowActive db.grid rowId tableId = true := by
  obtain ⟨column, hget, htable, _⟩ := mem_automaticColumnIds h
  obtain ⟨hcolumn, hid⟩ := Table.get?_eq_some.mp hget
  have hid' : column.id = columnId := hid
  refine List.any_eq_true.mpr ⟨column, hcolumn, ?_⟩
  simp [htable, hid', hactive]

omit [JsRuntime ν] [ConnectorRuntime ν] [NumberComparison ν] in
theorem FreshDispatch.perm {db : Database ν} {stamp : SettlementStamp} {columnIds others : List String}
    (h : FreshDispatch db stamp columnIds) (hperm : others.Perm columnIds) : FreshDispatch db stamp others where
  runs columnId hmem := h.runs columnId (hperm.mem_iff.mp hmem)
  events columnId hmem := h.events columnId (hperm.mem_iff.mp hmem)
  runIds := (hperm.map stamp.runId).nodup_iff.mpr h.runIds
  eventIds := (hperm.map stamp.runEventId).nodup_iff.mpr h.eventIds

theorem settleWithDeliveries_deliverable {workspace : DeliveryWorkspace ν} {row : Row} {settlement : RowSettlement}
    {limits : SettlementLimits} {stamp : SettlementStamp} {result : SettlementResult × DeliveryWorkspace ν}
    (hfresh : FreshSettlement workspace settlement stamp) (htable : row.tableId = settlement.tableId)
    (h : settleWithDeliveries workspace row settlement (settlementCandidates workspace.db settlement) limits stamp =
      .ok result) : Deliverable workspace (settledRow workspace.db row settlement) limits stamp := by
  simp only [settleWithDeliveries, except_bind_eq_ok] at h
  obtain ⟨written, hwritten, h⟩ := h
  cases hcurrent : currentRow workspace.db.grid row.id row.tableId row.version with
  | none => exact Or.inl hcurrent
  | some current =>
    have hfit : WritebacksFit workspace (settledRow workspace.db row settlement) stamp :=
      queueSettledSqliteWritebackDeliveries_fit hcurrent hwritten
    refine Or.inr ⟨hfit, ?_⟩
    rcases queueSettledSqliteWritebackDeliveries_spec limits.maximumAutomaticWritebacks hcurrent hfit
      (htable ▸ hfresh.writebacks) (htable ▸ hfresh.writebackEvents) with ⟨hover, _⟩ | ⟨_, queued, hqueue, hsettled⟩
    · exact Or.inl hover
    · refine Or.inr ?_
      have hsame : written = .ok queued := by
        have hboth := hwritten.symm.trans hqueue
        exact Except.ok.inj hboth
      subst hsame
      simp only [except_bind_eq_ok] at h
      obtain ⟨hooked, hhook, _⟩ := h
      obtain ⟨_, _, _, _, _, hqueued⟩ := hsettled.queued
      have hgrid : queued.2.db.grid = workspace.db.grid := by rw [hqueued.frame]
      have hwebhooks : queued.2.db.webhookDestinations = workspace.db.webhookDestinations := by rw [hqueued.frame]
      simp only [queueSettledSqliteWebhookDeliveries, hgrid, hcurrent] at hhook
      intro webhook hmem
      apply queueWebhooks_accepted hhook webhook
      apply (orderedWebhooks_perm queued.2.db row.tableId).mem_iff.mpr
      unfold automaticWebhooks
      rw [hwebhooks]
      exact hmem

omit [JsRuntime ν] [ConnectorRuntime ν] [NumberComparison ν] in
theorem recorded_succeeded {workspace : DeliveryWorkspace ν} {db : Database ν} {settlement : RowSettlement}
    {candidateIds : List String} {count : Nat} {now : Int}
    (hstored : ∃ stored, db.rowSettlements.get? settlement.id = some stored) :
    SettlementRecorded (workspace.withDatabase (updateSettlements
        (consumeCandidateSettlements db candidateIds settlement.id now)
        (fun candidate => candidate.id = settlement.id) (succeedWithDeliveries count now) ⟨fun _ => rfl⟩))
      settlement.id .succeeded := by
  obtain ⟨stored, hget⟩ := recorded_update (f := succeedWithDeliveries count now) ⟨fun _ => rfl⟩
    (stored_update (p := fun candidate => candidate.id ∈ candidateIds)
      (f := consumeSettlement settlement.id now) ⟨fun _ => rfl⟩ hstored)
  refine ⟨_, hget, rfl, ?_⟩
  intro hfailed
  cases hfailed

omit [JsRuntime ν] [ConnectorRuntime ν] [NumberComparison ν] in
theorem recorded_failWith {workspace : DeliveryWorkspace ν} {settlement : RowSettlement} {candidateIds : List String}
    {message : String} {now : Int} (hstored : ∃ stored, workspace.db.rowSettlements.get? settlement.id = some stored) :
    SettlementRecorded (failWith workspace candidateIds settlement.id message now).2 settlement.id .failed := by
  obtain ⟨stored, hget⟩ := recorded_update (f := failSettlement message now) ⟨fun _ => rfl⟩
    (stored_update (p := fun candidate => candidate.id ∈ candidateIds)
      (f := consumeSettlement settlement.id now) ⟨fun _ => rfl⟩ hstored)
  exact ⟨_, hget, rfl, fun _ => rfl⟩

omit [JsRuntime ν] [ConnectorRuntime ν] [NumberComparison ν] in
theorem recorded_skipWith {workspace : DeliveryWorkspace ν} {settlement : RowSettlement} {now : Int}
    (hstored : ∃ stored, workspace.db.rowSettlements.get? settlement.id = some stored) :
    SettlementRecorded (skipWith workspace settlement.id now).2 settlement.id .skipped := by
  obtain ⟨stored, hget⟩ := recorded_update (f := skipSettlement now) ⟨fun _ => rfl⟩ hstored
  refine ⟨_, hget, rfl, ?_⟩
  intro hfailed
  cases hfailed

theorem settleWithDeliveries_handled {workspace : DeliveryWorkspace ν} {row : Row} {settlement : RowSettlement}
    {limits : SettlementLimits} {stamp : SettlementStamp} (hfresh : FreshSettlement workspace settlement stamp)
    (htable : row.tableId = settlement.tableId) (hnone : settlementDependents workspace.db settlement = [])
    (hstored : ∃ stored, workspace.db.rowSettlements.get? settlement.id = some stored)
    (h : Deliverable workspace (settledRow workspace.db row settlement) limits stamp) :
    ∃ result, settleWithDeliveries workspace row settlement (settlementCandidates workspace.db settlement) limits stamp =
      .ok result ∧ SettlementHandled workspace row settlement result.2 := by
  cases hcurrent : currentRow workspace.db.grid row.id row.tableId row.version with
  | none =>
    simp only [settleWithDeliveries, queueSettledSqliteWritebackDeliveries, queueSettledSqliteWebhookDeliveries,
      hcurrent, bind, Except.bind, pure, Except.pure]
    exact ⟨_, rfl, .outOfUse (recorded_succeeded hstored) hcurrent⟩
  | some current =>
    obtain hout | ⟨hfit, hrest⟩ := h
    · rw [show (settledRow workspace.db row settlement).row = row from rfl, hcurrent] at hout
      cases hout
    rcases queueSettledSqliteWritebackDeliveries_spec limits.maximumAutomaticWritebacks hcurrent hfit
      (htable ▸ hfresh.writebacks) (htable ▸ hfresh.writebackEvents) with ⟨_, hover⟩ | ⟨hwithin, queued, hqueue, hsettled⟩
    · unfold settledRow at hover
      simp only [settleWithDeliveries, hover, bind, Except.bind, pure, Except.pure]
      exact ⟨_, rfl, .refused (recorded_failWith hstored)⟩
    · have hhooks : WebhooksFit workspace row stamp := by
        rcases hrest with hover | hhooks
        · exact absurd hover (Nat.not_lt.mpr hwithin)
        · exact hhooks
      obtain ⟨_, destinationIds, _, hdestinations, _, hqueued⟩ := hsettled.queued
      have hgrid : queued.2.db.grid = workspace.db.grid := by rw [hqueued.frame]
      have hwebhooks : automaticWebhooks queued.2.db row.tableId = automaticWebhooks workspace.db row.tableId := by
        unfold automaticWebhooks
        rw [hqueued.frame]
      have hstoredHooks : queued.2.webhookDeliveries = workspace.webhookDeliveries := by rw [hqueued.frame]
      have hperm := orderedWebhooks_perm queued.2.db row.tableId
      rw [hwebhooks] at hperm
      have hsub : ∀ id ∈ (orderedWebhooks queued.2.db row.tableId).map WebhookDestination.id,
          id ∈ (automaticWebhooks workspace.db settlement.tableId).map WebhookDestination.id := by
        intro id hid
        exact htable ▸ (hperm.map _).mem_iff.mp hid
      have hevents : NewIds queued.2.db.outbox stamp.webhookEventId
          ((automaticWebhooks workspace.db settlement.tableId).map WebhookDestination.id) := by
        refine ⟨?_, hfresh.webhookEvents.injective⟩
        intro id hid
        apply hqueued.events _ (hfresh.webhookEvents.fresh id hid)
        intro destinationId hdestination hsame
        obtain ⟨writeback, hwriteback, rfl⟩ := hdestinations destinationId hdestination
        obtain ⟨webhook, hwebhook, rfl⟩ := List.mem_map.mp hid
        exact hfresh.events writeback (htable ▸ hwriteback) webhook hwebhook hsame
      obtain ⟨hooked, hhook, hhooked⟩ := queueWebhooks_queued
        (((hperm.map WebhookDestination.id).nodup_iff).mpr (automaticWebhooks_nodup workspace.db row.tableId))
        (fun webhook hmem => hhooks webhook (hperm.mem_iff.mp hmem)) (0, queued.2)
        ((hstoredHooks ▸ hfresh.webhooks : NewIds queued.2.webhookDeliveries stamp.webhookId _).mono hsub)
        (hevents.mono hsub)
      unfold settledRow at hqueue
      simp only [settleWithDeliveries, hqueue, queueSettledSqliteWebhookDeliveries, hgrid, hcurrent, hhook, bind,
        Except.bind, pure, Except.pure]
      refine ⟨_, rfl, .delivered (recorded_succeeded ?_) hnone ?_ ?_⟩
      · rw [hhooked.frame, hqueued.frame]
        exact hstored
      · intro destination hmem hselects content hcontent
        obtain ⟨delivery, hdelivery, hrest⟩ := hsettled.writtenBack destination (htable ▸ hmem) hselects content hcontent
        refine ⟨delivery, ?_, hrest⟩
        show delivery ∈ hooked.2.writebackDeliveries
        rw [hhooked.frame]
        exact hdelivery
      · intro webhook hmem
        exact hhooked.delivered webhook (hperm.mem_iff.mpr (htable ▸ hmem))

theorem settleCurrentRow_settleable {workspace : DeliveryWorkspace ν} {row : Row} {settlement : RowSettlement}
    {limits : SettlementLimits} {stamp : SettlementStamp} {result : SettlementResult × DeliveryWorkspace ν}
    (hfresh : FreshSettlement workspace settlement stamp) (htable : row.tableId = settlement.tableId)
    (h : settleCurrentRow workspace row settlement limits stamp = .ok result) :
    Settleable workspace row settlement limits stamp := by
  have hnd : (settlementDependents workspace.db settlement).Nodup := nodup_distinct _
  unfold settleCurrentRow at h
  unfold Settleable
  by_cases hactive : ∃ columnId ∈ settlementDependents workspace.db settlement,
      activeCell workspace.db.grid settlement.rowId columnId = true
  · exact Or.inl hactive
  · refine Or.inr ?_
    have hany : (settlementDependents workspace.db settlement).any (activeCell workspace.db.grid settlement.rowId) =
        false := by
      rw [Bool.eq_false_iff]
      intro hsome
      exact hactive (List.any_eq_true.mp hsome)
    by_cases hover : limits.maximumAutomaticRuns < (settlementDependents workspace.db settlement).length
    · exact Or.inl hover
    · refine Or.inr ?_
      obtain ⟨sorted, hfanout, hsorted⟩ := decideAutomaticFanout_within hnd (Nat.not_lt.mp hover)
      unfold settlementDependents at hany hfanout
      simp only [hany, hfanout, Bool.false_eq_true, if_false] at h
      cases sorted with
      | nil =>
        have hnone : settlementDependents workspace.db settlement = [] := hsorted.nil_eq.symm
        rw [if_pos hnone]
        by_cases hrow : rowActive workspace.db.grid settlement.rowId settlement.tableId = true
        · exact Or.inl hrow
        · simp only [if_neg hrow] at h
          exact Or.inr (settleWithDeliveries_deliverable hfresh htable h)
      | cons columnId columnIds =>
        have hsome : settlementDependents workspace.db settlement ≠ [] := by
          intro hnone
          have hlength := hsorted.length_eq
          rw [hnone] at hlength
          cases hlength
        rw [if_neg hsome]
        simp only [settleWithRuns, except_bind_eq_ok] at h
        obtain ⟨queued, hqueued, _⟩ := h
        have hready := (queueDependents_isOk (hsorted.nodup_iff.mpr hnd)
          (fun other hmem => actionColumn_of_automatic (hsorted.mem_iff.mp hmem))
          (fun other hmem => Bool.eq_false_iff.mpr fun hcell => hactive ⟨other, hsorted.mem_iff.mp hmem, hcell⟩)
          (hfresh.dispatch.perm hsorted)).mp ⟨queued, hqueued⟩
        intro other hmem
        exact hready other (hsorted.mem_iff.mpr hmem)

theorem settleCurrentRow_handled {workspace : DeliveryWorkspace ν} {row : Row} {settlement : RowSettlement}
    {limits : SettlementLimits} {stamp : SettlementStamp} (hfresh : FreshSettlement workspace settlement stamp)
    (htable : row.tableId = settlement.tableId)
    (hstored : ∃ stored, workspace.db.rowSettlements.get? settlement.id = some stored)
    (h : Settleable workspace row settlement limits stamp) :
    ∃ result, settleCurrentRow workspace row settlement limits stamp = .ok result ∧
      SettlementHandled workspace row settlement result.2 := by
  have hnd : (settlementDependents workspace.db settlement).Nodup := nodup_distinct _
  unfold settleCurrentRow
  by_cases hactive : ∃ columnId ∈ settlementDependents workspace.db settlement,
      activeCell workspace.db.grid settlement.rowId columnId = true
  · obtain ⟨columnId, hmem, hcell⟩ := hactive
    have hany : (settlementDependents workspace.db settlement).any (activeCell workspace.db.grid settlement.rowId) =
        true := List.any_eq_true.mpr ⟨columnId, hmem, hcell⟩
    unfold settlementDependents at hany
    simp only [hany, if_true]
    exact ⟨_, rfl, .waiting (rowActive_of_automatic hmem hcell) (recorded_skipWith hstored)⟩
  · have hany : (settlementDependents workspace.db settlement).any (activeCell workspace.db.grid settlement.rowId) =
        false := by
      rw [Bool.eq_false_iff]
      intro hsome
      exact hactive (List.any_eq_true.mp hsome)
    by_cases hover : limits.maximumAutomaticRuns < (settlementDependents workspace.db settlement).length
    · have hfanout := decideAutomaticFanout_over hnd hover
      unfold settlementDependents at hany hfanout
      simp only [hany, hfanout, Bool.false_eq_true, if_false]
      exact ⟨_, rfl, .refused (recorded_failWith hstored)⟩
    · obtain ⟨sorted, hfanout, hsorted⟩ := decideAutomaticFanout_within hnd (Nat.not_lt.mp hover)
      obtain hcell | hlimit | hrest := h
      · exact absurd hcell hactive
      · exact absurd hlimit hover
      unfold settlementDependents at hany hfanout
      simp only [hany, hfanout, Bool.false_eq_true, if_false]
      cases sorted with
      | nil =>
        have hnone : settlementDependents workspace.db settlement = [] := hsorted.nil_eq.symm
        rw [if_pos hnone] at hrest
        by_cases hrow : rowActive workspace.db.grid settlement.rowId settlement.tableId = true
        · simp only [if_pos hrow]
          exact ⟨_, rfl, .waiting hrow (recorded_skipWith hstored)⟩
        · simp only [if_neg hrow]
          obtain hbusy | hdeliverable := hrest
          · exact absurd hbusy hrow
          · exact settleWithDeliveries_handled hfresh htable hnone hstored hdeliverable
      | cons columnId columnIds =>
        have hsome : settlementDependents workspace.db settlement ≠ [] := by
          intro hnone
          have hlength := hsorted.length_eq
          rw [hnone] at hlength
          cases hlength
        rw [if_neg hsome] at hrest
        obtain ⟨queued, hqueued⟩ := (queueDependents_isOk (hsorted.nodup_iff.mpr hnd)
          (fun other hmem => actionColumn_of_automatic (hsorted.mem_iff.mp hmem))
          (fun other hmem => Bool.eq_false_iff.mpr fun hcell => hactive ⟨other, hsorted.mem_iff.mp hmem, hcell⟩)
          (hfresh.dispatch.perm hsorted)).mpr fun other hmem => hrest other (hsorted.mem_iff.mp hmem)
        have hruns := queueDependents_eq_ok hqueued
        simp only [settleWithRuns, hqueued, bind, Except.bind, pure, Except.pure]
        refine ⟨_, rfl, .dispatched ?_ ?_⟩
        · have hkept : ∃ stored, queued.rowSettlements.get? settlement.id = some stored := by
            rw [hruns.frame]
            exact hstored
          have hconsumed := stored_update (p := fun candidate => candidate.id ∈
              ((settlementCandidates workspace.db settlement).map RowSettlement.id).filter fun id => id ≠ settlement.id)
            (f := consumeSettlement settlement.id stamp.context.now) ⟨fun _ => rfl⟩ hkept
          obtain ⟨stored, hget⟩ := recorded_update (f := succeedWithRuns
              (changedColumns (settlementCandidates workspace.db settlement)) (columnId :: columnIds).length
              stamp.context.now) ⟨fun _ => rfl⟩ hconsumed
          refine ⟨_, hget, rfl, ?_⟩
          intro hfailed
          cases hfailed
        · intro other hmem
          exact hruns.queued other (hsorted.mem_iff.mpr hmem)

omit [JsRuntime ν] [ConnectorRuntime ν] [NumberComparison ν] in
theorem settlementCandidates_start (db : Database ν) (p : RowSettlement → Bool) (now : Int) (settlement : RowSettlement) :
    settlementCandidates (updateSettlements db p (startSettlement now) ⟨fun _ => rfl⟩) settlement =
      (settlementCandidates db settlement).map fun candidate =>
        if p candidate then startSettlement now candidate else candidate := by
  unfold settlementCandidates updateSettlements Table.modify
  rw [List.filter_map]
  congr 1
  apply List.filter_congr
  intro candidate _
  by_cases hp : p candidate = true
  · simp [hp, startSettlement]
  · simp [hp]

theorem changedColumns_map {f : RowSettlement → RowSettlement}
    (hf : ∀ candidate, (f candidate).changedColumnIds = candidate.changedColumnIds) (candidates : List RowSettlement) :
    changedColumns (candidates.map f) = changedColumns candidates := by
  unfold changedColumns
  rw [List.flatMap_map]
  simp only [hf]

theorem undispatchedColumns_map {f : RowSettlement → RowSettlement}
    (hf : ∀ candidate, (f candidate).changedColumnIds = candidate.changedColumnIds)
    (hcount : ∀ candidate, (f candidate).queuedRunCount = candidate.queuedRunCount) (candidates : List RowSettlement) :
    undispatchedColumns (candidates.map f) = undispatchedColumns candidates := by
  unfold undispatchedColumns
  rw [List.filter_map, changedColumns_map hf]
  simp only [Function.comp_def, hcount]

def DeliveryWorkspace.start (workspace : DeliveryWorkspace ν) (settlementId : String) (now : Int) : DeliveryWorkspace ν :=
  workspace.withDatabase (updateSettlements workspace.db (fun candidate => candidate.id = settlementId)
    (startSettlement now) ⟨fun _ => rfl⟩)

omit [JsRuntime ν] [ConnectorRuntime ν] [NumberComparison ν] in
theorem changedColumns_start (workspace : DeliveryWorkspace ν) (settlementId : String) (now : Int)
    (settlement : RowSettlement) :
    changedColumns (settlementCandidates (workspace.start settlementId now).db settlement) =
      changedColumns (settlementCandidates workspace.db settlement) := by
  unfold DeliveryWorkspace.start DeliveryWorkspace.withDatabase
  rw [settlementCandidates_start, changedColumns_map]
  intro candidate
  split <;> rfl

omit [JsRuntime ν] [ConnectorRuntime ν] [NumberComparison ν] in
theorem settlementDependents_start (workspace : DeliveryWorkspace ν) (settlementId : String) (now : Int)
    (settlement : RowSettlement) :
    settlementDependents (workspace.start settlementId now).db settlement =
      settlementDependents workspace.db settlement := by
  unfold settlementDependents DeliveryWorkspace.start DeliveryWorkspace.withDatabase
  rw [settlementCandidates_start, undispatchedColumns_map]
  · rfl
  · intro candidate
    split <;> rfl
  · intro candidate
    split <;> rfl

omit [JsRuntime ν] [ConnectorRuntime ν] [NumberComparison ν] in
theorem FreshSettlement.start {workspace : DeliveryWorkspace ν} {settlement : RowSettlement} {stamp : SettlementStamp}
    (h : FreshSettlement workspace settlement stamp) (settlementId : String) (now : Int) :
    FreshSettlement (workspace.start settlementId now) settlement stamp where
  dispatch := by
    rw [settlementDependents_start]
    exact ⟨h.dispatch.runs, h.dispatch.events, h.dispatch.runIds, h.dispatch.eventIds⟩
  writebacks := h.writebacks
  writebackEvents := h.writebackEvents
  webhooks := h.webhooks
  webhookEvents := h.webhookEvents
  events := h.events

omit [ConnectorRuntime ν] in
theorem Settleable.start_iff (workspace : DeliveryWorkspace ν) (settlementId : String) (now : Int) (row : Row)
    (settlement : RowSettlement) (limits : SettlementLimits) (stamp : SettlementStamp) :
    Settleable (workspace.start settlementId now) row settlement limits stamp ↔
      Settleable workspace row settlement limits stamp := by
  unfold Settleable settledRow
  rw [settlementDependents_start, changedColumns_start]
  have hdeliverable : ∀ settled, Deliverable (workspace.start settlementId now) settled limits stamp ↔
      Deliverable workspace settled limits stamp := by
    intro settled
    constructor
    · intro h
      obtain hout | ⟨hfit, hrest⟩ := h
      · exact Or.inl hout
      · exact Or.inr ⟨⟨hfit.number, hfit.fits⟩, hrest⟩
    · intro h
      obtain hout | ⟨hfit, hrest⟩ := h
      · exact Or.inl hout
      · exact Or.inr ⟨⟨hfit.number, hfit.fits⟩, hrest⟩
  rw [hdeliverable]
  exact Iff.rfl

theorem SettlementHandled.of_start {workspace after : DeliveryWorkspace ν} {settlementId : String} {now : Int} {row : Row}
    {settlement : RowSettlement} (h : SettlementHandled (workspace.start settlementId now) row settlement after) :
    SettlementHandled workspace row settlement after := by
  have hdependents := settlementDependents_start workspace settlementId now settlement
  cases h with
  | waiting active recorded => exact .waiting active recorded
  | refused recorded => exact .refused recorded
  | dispatched recorded queued => exact .dispatched recorded (hdependents ▸ queued)
  | delivered recorded none writtenBack hooked =>
    unfold settledRow at writtenBack
    rw [changedColumns_start] at writtenBack
    exact .delivered recorded (hdependents ▸ none) writtenBack hooked
  | outOfUse recorded table => exact .outOfUse recorded table

structure CurrentSettlement (workspace : DeliveryWorkspace ν) (input : RowSettlementInput) (row : Row)
    (settlement : RowSettlement) : Prop where
  found : workspace.db.grid.rows.get? input.rowId = some row
  table : row.tableId = input.tableId
  version : row.version = input.rowVersion
  used : row.archivedAt = none
  stored : workspace.db.rowSettlements.get? input.settlementId = some settlement
  settledRow : settlement.rowId = input.rowId
  settledVersion : settlement.rowVersion = input.rowVersion
  settledTable : settlement.tableId = input.tableId
  queued : settlement.status = .queued

theorem processSqliteRowSettlement_current {workspace : DeliveryWorkspace ν} {input : RowSettlementInput} {row : Row}
    {settlement : RowSettlement} (h : CurrentSettlement workspace input row settlement) (limits : SettlementLimits)
    (stamp : SettlementStamp) :
    processSqliteRowSettlement workspace input limits stamp =
      settleCurrentRow (workspace.start settlement.id stamp.context.now) row settlement limits stamp := by
  have hcurrent : ¬ (row.archivedAt.isSome = true ∨ row.version ≠ input.rowVersion) := by
    rw [h.used, h.version]
    simp
  simp only [processSqliteRowSettlement, h.found, h.stored, Option.filter_some, h.table, h.settledRow,
    h.settledVersion, h.settledTable, decide_true, Bool.and_self, if_true, requireSome, h.queued, bind, Except.bind]
  rw [if_neg hcurrent]
  rfl

end Settle

section Sample

def leadConnector (id : String) (inputBindings : List (String × ConnectorActionInputBinding SafeInteger)) :
    Column SafeInteger where
  id := id
  tableId := "leads"
  name := id
  kind := .connector
  valueType := .text
  configuration := .connectorAction
    { actionId := "lookup"
      artifactSha256 := none
      connectorId := "acme.lookup"
      connectorVersion := "1.0.0"
      credentialId := none
      inputBindings := inputBindings
      outputValueType := .text
      publisherKeyIds := []
      runMode := .onChange }
  archivedAt := none

def leadInput (id : String) : Column SafeInteger where
  id := id
  tableId := "leads"
  name := id
  kind := .input
  valueType := .text
  configuration := .plain
  archivedAt := none

def leadDatabase (email : Option (Cell SafeInteger)) : Database SafeInteger where
  grid :=
    { dataTables := ⟨[⟨"leads", none⟩], by decide⟩
      columns :=
        ⟨[leadInput "website", leadInput "email", leadConnector "logo" [("site", .column "website")],
          leadConnector "profile" [("site", .column "website"), ("email", .column "email")]], by decide⟩
      columnDependencies :=
        ⟨[⟨"logo", "website", "leads"⟩, ⟨"profile", "website", "leads"⟩, ⟨"profile", "email", "leads"⟩], by decide⟩
      rows := ⟨[⟨"grace", "leads", 2, none⟩], by decide⟩
      cells := fun rowId columnId =>
        if rowId = "grace" ∧ columnId = "website" then some ⟨.text "https://grace.example", .idle, 2⟩
        else if rowId = "grace" ∧ columnId = "email" then email
        else none }
  workspaceMembers := Table.empty
  credentials := Table.empty
  connectorRevocations := Table.empty
  cellRuns := Table.empty
  bulkRunBatches := Table.empty
  bulkRunItems := Table.empty
  rowSettlements := Table.empty
  webhookDestinations := ⟨[⟨"hook", "leads", .active, .rowSettled, 0⟩], by decide⟩
  writebackDestinations := Table.empty
  outbox := Table.empty

def leadInputs : RowSettlementInput := ⟨"grace", 3, "settlement", "leads"⟩

def leadSettlement : RowSettlement where
  id := "settlement"
  tableId := "leads"
  rowId := "grace"
  rowVersion := 3
  changedColumnIds := ["website"]

def leadWorkspace (email : Option (Cell SafeInteger)) : DeliveryWorkspace SafeInteger where
  db :=
    { leadDatabase email with
      grid := { (leadDatabase email).grid with rows := ⟨[⟨"grace", "leads", 3, none⟩], by decide⟩ }
      rowSettlements := ⟨[leadSettlement], by decide⟩
      outbox := ⟨[{ id := "settled", payload := .rowSettled leadInputs, createdAt := 0 }], by decide⟩ }
  webhookDeliveries := Table.empty
  writebackDeliveries := Table.empty

def leadStamp : SettlementStamp where
  context := ⟨"workspace", "2026-01-01T00:00:00.000Z", 1⟩
  tableName := "Leads"
  runId columnId := "run-" ++ columnId
  runEventId columnId := "run-event-" ++ columnId
  writebackId destinationId := "writeback-" ++ destinationId
  writebackEventId destinationId := "writeback-event-" ++ destinationId
  webhookId destinationId := "webhook-" ++ destinationId
  webhookEventId destinationId := "webhook-event-" ++ destinationId

theorem leadWorkspace_current (email : Option (Cell SafeInteger)) :
    CurrentSettlement (leadWorkspace email) leadInputs ⟨"grace", "leads", 3, none⟩ leadSettlement :=
  ⟨rfl, rfl, rfl, rfl, rfl, rfl, rfl, rfl, rfl⟩

theorem leadWorkspace_fresh (email : Option (Cell SafeInteger)) :
    FreshSettlement (leadWorkspace email) leadSettlement leadStamp := by
  have hdependents : settlementDependents (leadWorkspace email).db leadSettlement = ["logo", "profile"] := rfl
  have hwebhooks : (automaticWebhooks (leadWorkspace email).db leadSettlement.tableId).map WebhookDestination.id =
      ["hook"] := rfl
  have hwritebacks : automaticWritebacks (leadWorkspace email).db leadSettlement.tableId = [] := rfl
  refine ⟨?_, ?_, ?_, ?_, ?_, ?_⟩
  · rw [hdependents]
    refine ⟨fun _ _ => rfl, ?_, by decide, by decide⟩
    intro columnId hmem
    rcases List.mem_cons.mp hmem with rfl | hlater
    · rfl
    · obtain rfl := List.mem_singleton.mp hlater
      rfl
  · rw [hwritebacks]
    exact NewIds.nil
  · rw [hwritebacks]
    exact NewIds.nil
  · rw [hwebhooks]
    exact NewIds.singleton rfl
  · rw [hwebhooks]
    exact NewIds.singleton rfl
  · rw [hwritebacks]
    exact nofun

end Sample

end ByokGrid
