import ByokGrid.SettlementTotality

/-! What the transaction of a settlement leaves behind, whichever way it ends. -/

namespace ByokGrid

section Outcomes

variable {ν : Type} [JsRuntime ν] [ConnectorRuntime ν] [NumberComparison ν]

def dispatchedWith (started : DeliveryWorkspace ν) (queued : Database ν) (settlement : RowSettlement) (count : Nat)
    (now : Int) : SettlementResult × DeliveryWorkspace ν :=
  let candidates := settlementCandidates started.db settlement
  let consumed := consumeCandidateSettlements queued
    ((candidates.map RowSettlement.id).filter fun id => id ≠ settlement.id) settlement.id now
  (⟨0, count, .succeeded⟩, started.withDatabase (updateSettlements consumed
    (fun candidate => candidate.id = settlement.id) (succeedWithRuns (changedColumns candidates) count now) ⟨fun _ => rfl⟩))

def deliveredWith (started : DeliveryWorkspace ν) (hooked : Queued ν) (settlement : RowSettlement) (count : Nat)
    (now : Int) : SettlementResult × DeliveryWorkspace ν :=
  let consumed := consumeCandidateSettlements hooked.2.db ((settlementCandidates started.db settlement).map
    RowSettlement.id) settlement.id now
  (⟨count, 0, .succeeded⟩, hooked.2.withDatabase (updateSettlements consumed
    (fun candidate => candidate.id = settlement.id) (succeedWithDeliveries count now) ⟨fun _ => rfl⟩))

inductive SettlementOutcome (started : DeliveryWorkspace ν) (row : Row) (settlement : RowSettlement)
    (limits : SettlementLimits) (stamp : SettlementStamp) : SettlementResult × DeliveryWorkspace ν → Prop where
  | waiting (active : rowActive started.db.grid settlement.rowId settlement.tableId = true) :
    SettlementOutcome started row settlement limits stamp (skipWith started settlement.id stamp.context.now)
  | refused (message : String) :
    SettlementOutcome started row settlement limits stamp (failWith started
      ((settlementCandidates started.db settlement).map RowSettlement.id) settlement.id message stamp.context.now)
  | dispatched (columnIds : List String) (queued : Database ν) (some : columnIds ≠ [])
    (dependents : columnIds.Perm (settlementDependents started.db settlement))
    (queue : queueDependents settlement stamp columnIds started.db = .ok queued) :
    SettlementOutcome started row settlement limits stamp
      (dispatchedWith started queued settlement columnIds.length stamp.context.now)
  | delivered (written hooked : Queued ν) (none : settlementDependents started.db settlement = [])
    (idle : rowActive started.db.grid settlement.rowId settlement.tableId = false)
    (writebacks : queueSettledSqliteWritebackDeliveries started (settledRow started.db row settlement)
      limits.maximumAutomaticWritebacks stamp = .ok (.ok written))
    (webhooks : queueSettledSqliteWebhookDeliveries written.2 row stamp = .ok hooked) :
    SettlementOutcome started row settlement limits stamp
      (deliveredWith started hooked settlement (written.1 + hooked.1) stamp.context.now)

theorem settleWithDeliveries_outcome {started : DeliveryWorkspace ν} {row : Row} {settlement : RowSettlement}
    {limits : SettlementLimits} {stamp : SettlementStamp} {result : SettlementResult × DeliveryWorkspace ν}
    (hnone : settlementDependents started.db settlement = [])
    (hidle : rowActive started.db.grid settlement.rowId settlement.tableId = false)
    (h : settleWithDeliveries started row settlement (settlementCandidates started.db settlement) limits stamp =
      .ok result) : SettlementOutcome started row settlement limits stamp result := by
  simp only [settleWithDeliveries, except_bind_eq_ok] at h
  obtain ⟨written, hwritten, h⟩ := h
  cases written with
  | error count =>
    cases h
    exact .refused _
  | ok written =>
    simp only [except_bind_eq_ok] at h
    obtain ⟨hooked, hhooked, h⟩ := h
    cases h
    exact .delivered written hooked hnone hidle hwritten hhooked

theorem settleCurrentRow_outcome {started : DeliveryWorkspace ν} {row : Row} {settlement : RowSettlement}
    {limits : SettlementLimits} {stamp : SettlementStamp} {result : SettlementResult × DeliveryWorkspace ν}
    (h : settleCurrentRow started row settlement limits stamp = .ok result) :
    SettlementOutcome started row settlement limits stamp result := by
  have hnd : (settlementDependents started.db settlement).Nodup := nodup_distinct _
  unfold settleCurrentRow at h
  by_cases hactive : (settlementDependents started.db settlement).any (activeCell started.db.grid settlement.rowId) = true
  · obtain ⟨columnId, hmem, hcell⟩ := List.any_eq_true.mp hactive
    unfold settlementDependents at hactive
    simp only [hactive, if_true] at h
    cases h
    exact .waiting (rowActive_of_automatic hmem hcell)
  · by_cases hover : limits.maximumAutomaticRuns < (settlementDependents started.db settlement).length
    · have hfanout := decideAutomaticFanout_over hnd hover
      unfold settlementDependents at hactive hfanout
      simp only [hactive, hfanout, Bool.false_eq_true, if_false] at h
      cases h
      exact .refused _
    · obtain ⟨sorted, hfanout, hsorted⟩ := decideAutomaticFanout_within hnd (Nat.not_lt.mp hover)
      unfold settlementDependents at hactive hfanout
      simp only [hactive, hfanout, Bool.false_eq_true, if_false] at h
      cases sorted with
      | nil =>
        by_cases hrow : rowActive started.db.grid settlement.rowId settlement.tableId = true
        · simp only [if_pos hrow] at h
          cases h
          exact .waiting hrow
        · simp only [if_neg hrow] at h
          exact settleWithDeliveries_outcome hsorted.nil_eq.symm (Bool.eq_false_iff.mpr hrow) h
      | cons columnId columnIds =>
        simp only [settleWithRuns, except_bind_eq_ok] at h
        obtain ⟨queued, hqueued, h⟩ := h
        cases h
        exact .dispatched (columnId :: columnIds) queued (List.cons_ne_nil columnId columnIds) hsorted hqueued

inductive Processed (workspace : DeliveryWorkspace ν) (input : RowSettlementInput) (limits : SettlementLimits)
    (stamp : SettlementStamp) : SettlementResult × DeliveryWorkspace ν → Prop where
  | finished (result : SettlementResult) : Processed workspace input limits stamp (result, workspace)
  | stale (row : Row) (settlement : RowSettlement) (found : workspace.db.grid.rows.get? input.rowId = some row)
    (stored : workspace.db.rowSettlements.get? input.settlementId = some settlement)
    (scope : settlement.rowId = input.rowId ∧ settlement.rowVersion = input.rowVersion ∧
      settlement.tableId = input.tableId)
    (open_ : settlement.status = .queued ∨ settlement.status = .running)
    (lost : row.archivedAt.isSome = true ∨ row.version ≠ input.rowVersion) :
    Processed workspace input limits stamp
      (skipWith (workspace.start settlement.id stamp.context.now) settlement.id stamp.context.now)
  | settled (row : Row) (settlement : RowSettlement) (result : SettlementResult × DeliveryWorkspace ν)
    (found : workspace.db.grid.rows.get? input.rowId = some row) (table : row.tableId = input.tableId)
    (stored : workspace.db.rowSettlements.get? input.settlementId = some settlement)
    (scope : settlement.rowId = input.rowId ∧ settlement.rowVersion = input.rowVersion ∧
      settlement.tableId = input.tableId)
    (open_ : settlement.status = .queued ∨ settlement.status = .running)
    (used : row.archivedAt = none) (version : row.version = input.rowVersion)
    (outcome : SettlementOutcome (workspace.start settlement.id stamp.context.now) row settlement limits stamp result) :
    Processed workspace input limits stamp result

theorem processSqliteRowSettlement_eq_ok {workspace : DeliveryWorkspace ν} {input : RowSettlementInput}
    {limits : SettlementLimits} {stamp : SettlementStamp} {result : SettlementResult × DeliveryWorkspace ν}
    (h : processSqliteRowSettlement workspace input limits stamp = .ok result) :
    Processed workspace input limits stamp result := by
  simp only [processSqliteRowSettlement, except_bind_eq_ok, requireSome_eq_ok, Option.filter_eq_some_iff,
    Bool.and_eq_true, decide_eq_true_eq] at h
  obtain ⟨row, ⟨hfound, htable⟩, settlement, ⟨hstored, ⟨hrow, hversion⟩, hsettled⟩, h⟩ := h
  have hopen : ∀ (hstatus : settlement.status = .queued ∨ settlement.status = .running)
      (h : (if row.archivedAt.isSome = true ∨ row.version ≠ input.rowVersion then
          .ok (skipWith (workspace.start settlement.id stamp.context.now) settlement.id stamp.context.now)
        else settleCurrentRow (workspace.start settlement.id stamp.context.now) row settlement limits stamp) = .ok result),
      Processed workspace input limits stamp result := by
    intro hstatus h
    by_cases hlost : row.archivedAt.isSome = true ∨ row.version ≠ input.rowVersion
    · rw [if_pos hlost] at h
      cases h
      exact .stale row settlement hfound hstored ⟨hrow, hversion, hsettled⟩ hstatus hlost
    · rw [if_neg hlost] at h
      obtain ⟨hused, hcurrent⟩ := not_or.mp hlost
      exact .settled row settlement result hfound htable hstored ⟨hrow, hversion, hsettled⟩ hstatus
        (Option.not_isSome_iff_eq_none.mp hused) (not_not.mp hcurrent) (settleCurrentRow_outcome h)
  cases hstatus : settlement.status with
  | queued =>
    rw [hstatus] at h
    exact hopen (Or.inl hstatus) h
  | running =>
    rw [hstatus] at h
    exact hopen (Or.inr hstatus) h
  | succeeded =>
    rw [hstatus] at h
    cases h
    exact .finished _
  | failed =>
    rw [hstatus] at h
    cases h
  | skipped =>
    rw [hstatus] at h
    cases h
    exact .finished _

end Outcomes

end ByokGrid
