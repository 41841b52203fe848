import ByokGrid.SettlementOutcomes
import ByokGrid.Transition
import ByokGrid.Writebacks

/-! Automatic writebacks over every history: a row is written back to a
destination once for each content. -/

namespace ByokGrid

inductive WritebackAction (ν : Type) where
  | record (input : RowMutation) (stamp : MutationStamp)
  | settle (input : RowSettlementInput) (limits : SettlementLimits) (stamp : SettlementStamp)
  | settlementFailure (failure : SettlementFailure)
  | queue (input : QueueWriteback) (context : DeliveryContext)
  | start (input : DeliveryInput) (now : Int)
  | succeed (input : DeliveryInput) (responseStatus : Nat) (now : Int)
  | fail (input : DeliveryInput) (failure : DeliveryFailure) (now : Int)
  /-- Any other transaction: it does not touch the settlements. -/
  | other (db : Database ν)

section System

variable {ν : Type} [JsRuntime ν] [ConnectorRuntime ν] [NumberComparison ν]

def DeliveryWorkspace.commit (workspace : DeliveryWorkspace ν) :
    Except StoreError (DeliveryWorkspace ν) → DeliveryWorkspace ν
  | .ok next => next
  | .error _ => workspace

def DeliveryWorkspace.stepWriteback (workspace : DeliveryWorkspace ν) : WritebackAction ν → DeliveryWorkspace ν
  | .record input stamp =>
    workspace.withDatabase (workspace.db.commit
      (recordSqliteRowMutationAndMaybeQueueSettlement workspace.db input stamp))
  | .settle input limits stamp =>
    workspace.commit ((processSqliteRowSettlement workspace input limits stamp).map Prod.snd)
  | .settlementFailure failure =>
    workspace.withDatabase (setSqliteRowSettlementWorkerFailure workspace.db failure)
  | .queue input context => workspace.commit ((queueSqliteWritebackDelivery workspace input context).map Prod.snd)
  | .start input now => workspace.commit ((markSqliteWritebackDeliveryRunning workspace input now).map Prod.snd)
  | .succeed input responseStatus now =>
    workspace.commit (markSqliteWritebackDeliverySucceeded workspace input responseStatus now)
  | .fail input failure now => setSqliteWritebackDeliveryWorkerFailure workspace input failure now
  | .other db => workspace.withDatabase { db with rowSettlements := workspace.db.rowSettlements }

end System

section Ledger

variable {ν : Type}

def RowSettlement.delivered (settlement : RowSettlement) : Bool :=
  settlement.status = .succeeded && settlement.consumedById.isSome

structure WritebackLedger (workspace : DeliveryWorkspace ν) : Prop where
  unique : ∀ a ∈ workspace.db.rowSettlements, ∀ b ∈ workspace.db.rowSettlements, a.rowId = b.rowId →
    a.rowVersion = b.rowVersion → a = b
  settled : ∀ delivery ∈ workspace.writebackDeliveries, delivery.triggerMode = .rowSettled →
    ∃ settlement ∈ workspace.db.rowSettlements, settlement.rowId = delivery.rowId ∧
      settlement.rowVersion = delivery.rowVersion ∧ settlement.delivered = true

structure SettlementsKept (before after : Table RowSettlement) : Prop where
  back : ∀ settlement ∈ after, ∃ old ∈ before, old.id = settlement.id ∧ old.rowId = settlement.rowId ∧
    old.rowVersion = settlement.rowVersion
  kept : ∀ settlement ∈ before, settlement.delivered = true → settlement ∈ after

theorem SettlementsKept.refl (settlements : Table RowSettlement) : SettlementsKept settlements settlements where
  back settlement hmem := ⟨settlement, hmem, rfl, rfl, rfl⟩
  kept _ hmem _ := hmem

theorem SettlementsKept.trans {a b c : Table RowSettlement} (hab : SettlementsKept a b) (hbc : SettlementsKept b c) :
    SettlementsKept a c where
  back settlement hmem := by
    obtain ⟨middle, hmiddle, hid, hrow, hversion⟩ := hbc.back settlement hmem
    obtain ⟨old, hold, hid', hrow', hversion'⟩ := hab.back middle hmiddle
    exact ⟨old, hold, hid'.trans hid, hrow'.trans hrow, hversion'.trans hversion⟩
  kept settlement hmem hdelivered := hbc.kept settlement (hab.kept settlement hmem hdelivered) hdelivered

theorem SettlementsKept.modify {settlements : Table RowSettlement} {p : RowSettlement → Bool}
    {f : RowSettlement → RowSettlement} (hf : KeepsKey f)
    (hrow : ∀ settlement, (f settlement).rowId = settlement.rowId ∧ (f settlement).rowVersion = settlement.rowVersion)
    (hopen : ∀ settlement ∈ settlements, settlement.delivered = true → p settlement = false) :
    SettlementsKept settlements (settlements.modify p f hf) where
  back settlement hmem := by
    obtain ⟨old, hold, rfl⟩ := (Table.mem_modify hf).mp hmem
    refine ⟨old, hold, ?_⟩
    by_cases hp : p old = true
    · rw [if_pos hp]
      exact ⟨(hf.key old).symm, (hrow old).1.symm, (hrow old).2.symm⟩
    · rw [if_neg hp]
      exact ⟨rfl, rfl, rfl⟩
  kept settlement hmem hdelivered := by
    refine (Table.mem_modify hf).mpr ⟨settlement, hmem, ?_⟩
    rw [hopen settlement hmem hdelivered]
    rfl

theorem WritebackLedger.of_kept {before after : DeliveryWorkspace ν} (h : WritebackLedger before)
    (hkept : SettlementsKept before.db.rowSettlements after.db.rowSettlements)
    (hnew : ∀ delivery ∈ after.writebackDeliveries, delivery.triggerMode = .rowSettled →
      (∃ old ∈ before.writebackDeliveries, old.triggerMode = .rowSettled ∧ old.rowId = delivery.rowId ∧
        old.rowVersion = delivery.rowVersion) ∨
      ∃ settlement ∈ after.db.rowSettlements, settlement.rowId = delivery.rowId ∧
        settlement.rowVersion = delivery.rowVersion ∧ settlement.delivered = true) : WritebackLedger after where
  unique a ha b hb hrow hversion := by
    obtain ⟨x, hx, hxid, hxrow, hxversion⟩ := hkept.back a ha
    obtain ⟨y, hy, hyid, hyrow, hyversion⟩ := hkept.back b hb
    have hsame := h.unique x hx y hy ((hxrow.trans hrow).trans hyrow.symm) ((hxversion.trans hversion).trans hyversion.symm)
    apply Table.eq_of_key ha hb
    show a.id = b.id
    rw [← hxid, ← hyid, hsame]
  settled delivery hmem hmode := by
    rcases hnew delivery hmem hmode with ⟨old, hold, holdMode, hrow, hversion⟩ | hsettled
    · obtain ⟨settlement, hsettlement, hsrow, hsversion, hdelivered⟩ := h.settled old hold holdMode
      exact ⟨settlement, hkept.kept settlement hsettlement hdelivered, hsrow.trans hrow, hsversion.trans hversion,
        hdelivered⟩
    · exact hsettled

theorem record_settlements {db db' : Database ν} {input : RowMutation} {stamp : MutationStamp}
    (h : recordSqliteRowMutationAndMaybeQueueSettlement db input stamp = .ok db') :
    db'.rowSettlements = db.rowSettlements ∨
      ∃ settlement, db.rowSettlements.insert settlement = some db'.rowSettlements ∧
        ∀ other ∈ db.rowSettlements, other.rowId = settlement.rowId → other.rowVersion ≠ settlement.rowVersion := by
  simp only [recordSqliteRowMutationAndMaybeQueueSettlement, except_bind_eq_ok] at h
  obtain ⟨row, _, h⟩ := h
  split at h
  · cases h
    exact Or.inl rfl
  · split at h
    · cases h
      exact Or.inl rfl
    · rename_i hunused
      split at h
      · cases h
        exact Or.inl rfl
      · rename_i settlements hinsert
        simp only [except_bind_eq_ok, pure, Except.pure, Except.ok.injEq] at h
        obtain ⟨events, _, rfl⟩ := h
        refine Or.inr ⟨_, hinsert, ?_⟩
        intro other hother hrow hversion
        apply hunused
        refine List.any_eq_true.mpr ⟨other, hother, ?_⟩
        rw [Bool.and_eq_true, decide_eq_true_eq, decide_eq_true_eq]
        exact ⟨hrow, hversion⟩

theorem WritebackLedger.record {workspace : DeliveryWorkspace ν} (h : WritebackLedger workspace) {db : Database ν}
    {input : RowMutation} {stamp : MutationStamp}
    (hrecord : recordSqliteRowMutationAndMaybeQueueSettlement workspace.db input stamp = .ok db) :
    WritebackLedger (workspace.withDatabase db) := by
  rcases record_settlements hrecord with hsame | ⟨settlement, hinsert, hunused⟩
  · constructor
    · intro a ha b hb
      exact h.unique a (hsame ▸ ha) b (hsame ▸ hb)
    · intro delivery hmem hmode
      obtain ⟨settled, hsettled, hrest⟩ := h.settled delivery hmem hmode
      exact ⟨settled, (show settled ∈ db.rowSettlements from hsame ▸ hsettled), hrest⟩
  · constructor
    · intro a ha b hb hrow hversion
      rcases (Table.mem_insert hinsert).mp ha with hold | rfl
      · rcases (Table.mem_insert hinsert).mp hb with hold' | rfl
        · exact h.unique a hold b hold' hrow hversion
        · exact absurd hversion (hunused a hold hrow)
      · rcases (Table.mem_insert hinsert).mp hb with hold' | rfl
        · exact absurd hversion.symm (hunused b hold' hrow.symm)
        · rfl
    · intro delivery hmem hmode
      obtain ⟨settled, hsettled, hrest⟩ := h.settled delivery hmem hmode
      exact ⟨settled, (Table.mem_insert hinsert).mpr (Or.inl hsettled), hrest⟩

def Undelivered (settlements : Table RowSettlement) (id : String) : Prop :=
  ∀ settlement ∈ settlements, settlement.id = id → settlement.delivered = false

theorem Undelivered.of_kept_status {settlements : Table RowSettlement} {id : String} {p : RowSettlement → Bool}
    {f : RowSettlement → RowSettlement} (hf : KeepsKey f) (h : Undelivered settlements id)
    (hstatus : ∀ settlement, (f settlement).status ≠ .succeeded) : Undelivered (settlements.modify p f hf) id := by
  intro settlement hmem hid
  obtain ⟨old, hold, rfl⟩ := (Table.mem_modify hf).mp hmem
  by_cases hp : p old = true
  · rw [if_pos hp]
    simp [RowSettlement.delivered, hstatus old]
  · rw [if_neg hp] at hid ⊢
    exact h old hold hid

theorem SettlementsKept.own {settlements : Table RowSettlement} {id : String} {f : RowSettlement → RowSettlement}
    (hf : KeepsKey f) (h : Undelivered settlements id)
    (hrow : ∀ settlement, (f settlement).rowId = settlement.rowId ∧ (f settlement).rowVersion = settlement.rowVersion) :
    SettlementsKept settlements (settlements.modify (fun settlement => settlement.id = id) f hf) := by
  apply SettlementsKept.modify hf hrow
  intro settlement hmem hdelivered
  rw [decide_eq_false_iff_not]
  intro hid
  rw [h settlement hmem hid] at hdelivered
  cases hdelivered

def Unconsumed (settlements : Table RowSettlement) (ids : List String) : Prop :=
  ∀ id ∈ ids, ∃ candidate ∈ settlements, candidate.id = id ∧ candidate.consumedById = none

theorem unconsumed_candidates (db : Database ν) (settlement : RowSettlement) :
    Unconsumed db.rowSettlements ((settlementCandidates db settlement).map RowSettlement.id) := by
  intro id hid
  obtain ⟨candidate, hcandidate, hsame⟩ := List.mem_map.mp hid
  obtain ⟨hstored, hunconsumed⟩ := List.mem_filter.mp hcandidate
  rw [Bool.and_eq_true] at hunconsumed
  exact ⟨candidate, hstored, hsame, Option.isNone_iff_eq_none.mp hunconsumed.2⟩

theorem Unconsumed.mono {settlements : Table RowSettlement} {ids others : List String} (h : Unconsumed settlements ids)
    (hsub : ∀ id ∈ others, id ∈ ids) : Unconsumed settlements others :=
  fun id hid => h id (hsub id hid)

theorem SettlementsKept.consume {db : Database ν} {ids : List String} {consumedById : String} {now : Int}
    (hids : Unconsumed db.rowSettlements ids) :
    SettlementsKept db.rowSettlements (consumeCandidateSettlements db ids consumedById now).rowSettlements := by
  refine SettlementsKept.modify (f := consumeSettlement consumedById now) ⟨fun _ => rfl⟩ (fun _ => ⟨rfl, rfl⟩) ?_
  intro delivered hmem hdelivered
  rw [decide_eq_false_iff_not]
  intro hid
  obtain ⟨candidate, hstored, hsame, hnone⟩ := hids delivered.id hid
  have heq : candidate = delivered := Table.eq_of_key hstored hmem hsame
  rw [← heq, RowSettlement.delivered, hnone, Option.isSome_none, Bool.and_false] at hdelivered
  cases hdelivered

theorem SettlementsKept.close {db : Database ν} {id : String} {ids : List String} (now : Int)
    {f : RowSettlement → RowSettlement} (hf : KeepsKey f) (h : Undelivered db.rowSettlements id)
    (hids : Unconsumed db.rowSettlements ids)
    (hrow : ∀ settlement, (f settlement).rowId = settlement.rowId ∧ (f settlement).rowVersion = settlement.rowVersion) :
    SettlementsKept db.rowSettlements (updateSettlements (consumeCandidateSettlements db ids id now)
      (fun candidate => candidate.id = id) f hf).rowSettlements := by
  have hundelivered : Undelivered (consumeCandidateSettlements db ids id now).rowSettlements id := by
    refine Undelivered.of_kept_status (f := consumeSettlement id now) ⟨fun _ => rfl⟩ h ?_
    intro _ hstatus
    cases hstatus
  exact (SettlementsKept.consume hids).trans (SettlementsKept.own hf hundelivered hrow)

theorem closed_delivered {db : Database ν} {id : String} (ids : List String) (count : Nat) (now : Int)
    {stored : RowSettlement} (hstored : stored ∈ db.rowSettlements) (hid : stored.id = id) :
    ∃ final ∈ (updateSettlements (consumeCandidateSettlements db ids id now) (fun candidate => candidate.id = id)
      (succeedWithDeliveries count now) ⟨fun _ => rfl⟩).rowSettlements, final.rowId = stored.rowId ∧
      final.rowVersion = stored.rowVersion ∧ final.delivered = true := by
  obtain ⟨consumed, hconsumed, hcid, hrow, hversion⟩ : ∃ consumed ∈ (consumeCandidateSettlements db ids id
      now).rowSettlements, consumed.id = id ∧ consumed.rowId = stored.rowId ∧ consumed.rowVersion = stored.rowVersion := by
    refine ⟨_, (Table.mem_modify (f := consumeSettlement id now) ⟨fun _ => rfl⟩).mpr ⟨stored, hstored, rfl⟩, ?_⟩
    by_cases hmem : stored.id ∈ ids
    · rw [if_pos (decide_eq_true hmem)]
      exact ⟨hid, rfl, rfl⟩
    · rw [if_neg (by simp [hmem])]
      exact ⟨hid, rfl, rfl⟩
  refine ⟨succeedWithDeliveries count now consumed, ?_, hrow, hversion, rfl⟩
  refine (Table.mem_modify (f := succeedWithDeliveries count now) ⟨fun _ => rfl⟩).mpr ⟨consumed, hconsumed, ?_⟩
  rw [if_pos (decide_eq_true hcid)]

theorem start_undelivered (workspace : DeliveryWorkspace ν) (id : String) (now : Int) :
    Undelivered (workspace.start id now).db.rowSettlements id := by
  intro settlement hmem hid
  obtain ⟨old, _, rfl⟩ := (Table.mem_modify (f := startSettlement now) ⟨fun _ => rfl⟩).mp hmem
  by_cases hold : old.id = id
  · rw [if_pos (decide_eq_true hold)]
    rfl
  · rw [if_neg (by simp [hold])] at hid
    exact absurd hid hold

theorem start_kept {workspace : DeliveryWorkspace ν} {settlement : RowSettlement} {now : Int}
    (hstored : workspace.db.rowSettlements.get? settlement.id = some settlement)
    (hopen : settlement.status = .queued ∨ settlement.status = .running) :
    SettlementsKept workspace.db.rowSettlements (workspace.start settlement.id now).db.rowSettlements := by
  refine SettlementsKept.own (f := startSettlement now) ⟨fun _ => rfl⟩ ?_ fun _ => ⟨rfl, rfl⟩
  intro other hmem hid
  have hsame : other = settlement := Table.eq_of_key hmem (Table.get?_eq_some.mp hstored).1 hid
  rw [hsame]
  rcases hopen with hstatus | hstatus
  · simp [RowSettlement.delivered, hstatus]
  · simp [RowSettlement.delivered, hstatus]

def DeliveriesFrom (before after : DeliveryWorkspace ν) (row : Row) : Prop :=
  ∀ delivery ∈ after.writebackDeliveries, delivery ∈ before.writebackDeliveries ∨
    delivery.rowId = row.id ∧ delivery.rowVersion = row.version

theorem queueWriteback_from {candidate : WritebackCandidate ν} {row : Row} {stamp : SettlementStamp}
    {state state' : Queued ν} (h : queueWriteback candidate row stamp state = .ok state') :
    DeliveriesFrom state.2 state'.2 row ∧ state'.2.db.rowSettlements = state.2.db.rowSettlements := by
  simp only [queueWriteback] at h
  split at h
  · cases h
    exact ⟨fun _ hmem => Or.inl hmem, rfl⟩
  · split at h
    · cases h
      exact ⟨fun _ hmem => Or.inl hmem, rfl⟩
    · rename_i deliveries hinsert
      simp only [enqueueWritebackDelivery, except_bind_eq_ok, requireSome_eq_ok, pure, Except.pure,
        Except.ok.injEq] at h
      obtain ⟨_, ⟨events, _, rfl⟩, rfl⟩ := h
      refine ⟨?_, rfl⟩
      intro delivery hmem
      rcases (Table.mem_insert hinsert).mp hmem with hold | rfl
      · exact Or.inl hold
      · exact Or.inr ⟨rfl, rfl⟩

theorem queueWritebacks_from {candidates : List (WritebackCandidate ν)} {row : Row} {stamp : SettlementStamp}
    {destinationIds : List String} {state state' : Queued ν}
    (h : queueWritebacks candidates row stamp destinationIds state = .ok state') :
    DeliveriesFrom state.2 state'.2 row ∧ state'.2.db.rowSettlements = state.2.db.rowSettlements := by
  induction destinationIds generalizing state with
  | nil =>
    cases h
    exact ⟨fun _ hmem => Or.inl hmem, rfl⟩
  | cons destinationId destinationIds ih =>
    unfold queueWritebacks at h
    split at h
    · exact ih h
    · rw [except_bind_eq_ok] at h
      obtain ⟨next, hnext, hrest⟩ := h
      obtain ⟨hhead, hsettlements⟩ := queueWriteback_from hnext
      obtain ⟨htail, hsettlements'⟩ := ih hrest
      refine ⟨?_, hsettlements'.trans hsettlements⟩
      intro delivery hmem
      rcases htail delivery hmem with hold | hrow
      · exact hhead delivery hold
      · exact Or.inr hrow

theorem queueWebhooks_frame [JsRuntime ν] {snapshot : WebhookRowSnapshot ν} {stamp : SettlementStamp}
    {destinations : List WebhookDestination} {state state' : Queued ν}
    (h : queueWebhooks snapshot stamp destinations state = .ok state') :
    state'.2.writebackDeliveries = state.2.writebackDeliveries ∧
      state'.2.db.rowSettlements = state.2.db.rowSettlements := by
  induction destinations generalizing state with
  | nil =>
    cases h
    exact ⟨rfl, rfl⟩
  | cons destination destinations ih =>
    unfold queueWebhooks at h
    rw [except_bind_eq_ok] at h
    obtain ⟨next, hnext, hrest⟩ := h
    have hhead : next.2.writebackDeliveries = state.2.writebackDeliveries ∧
        next.2.db.rowSettlements = state.2.db.rowSettlements := by
      simp only [queueWebhook, except_bind_eq_ok] at hnext
      obtain ⟨_, _, hnext⟩ := hnext
      split at hnext
      · cases hnext
        exact ⟨rfl, rfl⟩
      · split at hnext
        · cases hnext
          exact ⟨rfl, rfl⟩
        · simp only [except_bind_eq_ok, pure, Except.pure, Except.ok.injEq] at hnext
          obtain ⟨_, _, rfl⟩ := hnext
          exact ⟨rfl, rfl⟩
    exact ⟨(ih hrest).1.trans hhead.1, (ih hrest).2.trans hhead.2⟩

end Ledger

section Steps

variable {ν : Type} [JsRuntime ν] [ConnectorRuntime ν] [NumberComparison ν]

theorem queueSettledSqliteWritebackDeliveries_from {workspace : DeliveryWorkspace ν} {settled : SettledRow} {limit : Nat}
    {stamp : SettlementStamp} {written : Queued ν}
    (h : queueSettledSqliteWritebackDeliveries workspace settled limit stamp = .ok (.ok written)) :
    DeliveriesFrom workspace written.2 settled.row ∧ written.2.db.rowSettlements = workspace.db.rowSettlements := by
  unfold queueSettledSqliteWritebackDeliveries at h
  split at h
  · cases h
    exact ⟨fun _ hmem => Or.inl hmem, rfl⟩
  · simp only [except_bind_eq_ok] at h
    obtain ⟨_, _, candidates, _, h⟩ := h
    split at h
    · cases h
    · simp only [except_bind_eq_ok, pure, Except.pure, Except.ok.injEq] at h
      obtain ⟨queued, hqueued, rfl⟩ := h
      exact queueWritebacks_from hqueued

omit [ConnectorRuntime ν] [NumberComparison ν] in
theorem queueSettledSqliteWebhookDeliveries_frame {workspace : DeliveryWorkspace ν} {row : Row} {stamp : SettlementStamp}
    {hooked : Queued ν} (h : queueSettledSqliteWebhookDeliveries workspace row stamp = .ok hooked) :
    hooked.2.writebackDeliveries = workspace.writebackDeliveries ∧
      hooked.2.db.rowSettlements = workspace.db.rowSettlements := by
  unfold queueSettledSqliteWebhookDeliveries at h
  split at h
  · cases h
    exact ⟨rfl, rfl⟩
  · exact queueWebhooks_frame h

omit [JsRuntime ν] [ConnectorRuntime ν] [NumberComparison ν] in
theorem WritebackLedger.of_same {before after : DeliveryWorkspace ν} (h : WritebackLedger before)
    (hkept : SettlementsKept before.db.rowSettlements after.db.rowSettlements)
    (hsame : after.writebackDeliveries = before.writebackDeliveries) : WritebackLedger after := by
  apply h.of_kept hkept
  intro delivery hmem hmode
  exact Or.inl ⟨delivery, hsame ▸ hmem, hmode, rfl, rfl⟩

theorem SettlementOutcome.ledger {started : DeliveryWorkspace ν} {row : Row} {settlement : RowSettlement}
    {limits : SettlementLimits} {stamp : SettlementStamp} {result : SettlementResult × DeliveryWorkspace ν}
    (h : WritebackLedger started) (hopen : Undelivered started.db.rowSettlements settlement.id)
    (hstored : ∃ stored ∈ started.db.rowSettlements, stored.id = settlement.id ∧ stored.rowId = row.id ∧
      stored.rowVersion = row.version)
    (houtcome : SettlementOutcome started row settlement limits stamp result) : WritebackLedger result.2 := by
  have hcandidates := unconsumed_candidates started.db settlement
  cases houtcome with
  | waiting _ =>
    exact h.of_same (SettlementsKept.own (f := skipSettlement stamp.context.now) ⟨fun _ => rfl⟩ hopen
      fun _ => ⟨rfl, rfl⟩) rfl
  | refused message =>
    exact h.of_same (SettlementsKept.close stamp.context.now (f := failSettlement message stamp.context.now)
      ⟨fun _ => rfl⟩ hopen hcandidates fun _ => ⟨rfl, rfl⟩) rfl
  | dispatched columnIds queued _ _ hqueue =>
    have hsettlements : queued.rowSettlements = started.db.rowSettlements := by
      rw [(queueDependents_eq_ok hqueue).frame]
    have hothers : Unconsumed queued.rowSettlements (((settlementCandidates started.db settlement).map
        RowSettlement.id).filter fun id => id ≠ settlement.id) := by
      rw [hsettlements]
      exact hcandidates.mono fun id hid => List.mem_of_mem_filter hid
    have hclose := SettlementsKept.close stamp.context.now
      (f := succeedWithRuns (changedColumns (settlementCandidates started.db settlement)) columnIds.length stamp.context.now)
      ⟨fun _ => rfl⟩ (hsettlements ▸ hopen) hothers fun _ => ⟨rfl, rfl⟩
    rw [hsettlements] at hclose
    exact h.of_same hclose rfl
  | delivered written hooked _ _ hwritten hhooked =>
    obtain ⟨hfrom, hsettlements⟩ := queueSettledSqliteWritebackDeliveries_from hwritten
    obtain ⟨hdeliveries, hsettlements'⟩ := queueSettledSqliteWebhookDeliveries_frame hhooked
    have hsame : hooked.2.db.rowSettlements = started.db.rowSettlements := hsettlements'.trans hsettlements
    have hclose := SettlementsKept.close stamp.context.now
      (f := succeedWithDeliveries (written.1 + hooked.1) stamp.context.now) ⟨fun _ => rfl⟩ (hsame ▸ hopen)
      (hsame ▸ hcandidates) fun _ => ⟨rfl, rfl⟩
    rw [hsame] at hclose
    apply h.of_kept hclose
    intro delivery hmem hmode
    rcases hfrom delivery (hdeliveries ▸ hmem) with hold | ⟨hrow, hversion⟩
    · exact Or.inl ⟨delivery, hold, hmode, rfl, rfl⟩
    · obtain ⟨stored, hstored, hid, hstoredRow, hstoredVersion⟩ := hstored
      obtain ⟨final, hfinal, hfinalRow, hfinalVersion, hfinalDelivered⟩ := closed_delivered
        ((settlementCandidates started.db settlement).map RowSettlement.id) (written.1 + hooked.1) stamp.context.now
        (hsame ▸ hstored) hid
      exact Or.inr ⟨final, hfinal, (hfinalRow.trans hstoredRow).trans hrow.symm,
        (hfinalVersion.trans hstoredVersion).trans hversion.symm, hfinalDelivered⟩

omit [JsRuntime ν] [ConnectorRuntime ν] [NumberComparison ν] in
theorem WritebackLedger.updateDeliveries {workspace : DeliveryWorkspace ν} (h : WritebackLedger workspace)
    {p : WritebackDelivery ν → Bool} {f : WritebackDelivery ν → WritebackDelivery ν} (hf : KeepsKey f)
    (hsame : ∀ delivery, (f delivery).triggerMode = delivery.triggerMode ∧ (f delivery).rowId = delivery.rowId ∧
      (f delivery).rowVersion = delivery.rowVersion) : WritebackLedger (updateDeliveries workspace p f hf) := by
  refine h.of_kept (SettlementsKept.refl _) ?_
  intro delivery hmem hmode
  obtain ⟨old, hold, rfl⟩ := (Table.mem_modify hf).mp hmem
  refine Or.inl ⟨old, hold, ?_⟩
  by_cases hp : p old = true
  · rw [if_pos hp] at hmode ⊢
    obtain ⟨hsameMode, hrow, hversion⟩ := hsame old
    exact ⟨hsameMode.symm.trans hmode, hrow.symm, hversion.symm⟩
  · rw [if_neg hp] at hmode ⊢
    exact ⟨hmode, rfl, rfl⟩

omit [NumberComparison ν] in
theorem WritebackLedger.queue {workspace queued : DeliveryWorkspace ν} {input : QueueWriteback}
    {context : DeliveryContext} {delivery : WritebackDelivery ν} (h : WritebackLedger workspace)
    (hqueue : queueSqliteWritebackDelivery workspace input context = .ok (delivery, queued)) : WritebackLedger queued := by
  simp only [queueSqliteWritebackDelivery, except_bind_eq_ok] at hqueue
  obtain ⟨_, _, destination, _, row, _, hqueue⟩ := hqueue
  split at hqueue
  · simp only [except_bind_eq_ok, pure, Except.pure, Except.ok.injEq, Prod.mk.injEq] at hqueue
    obtain ⟨_, _, _, rfl⟩ := hqueue
    exact h
  · simp only [insertManualDelivery, enqueueWritebackDelivery, except_bind_eq_ok, requireSome_eq_ok, pure, Except.pure,
      Except.ok.injEq, Prod.mk.injEq] at hqueue
    obtain ⟨_, _, prepared, _, deliveries, hinsert, _, ⟨_, _, rfl⟩, _, rfl⟩ := hqueue
    refine h.of_kept (SettlementsKept.refl _) ?_
    intro other hmem hmode
    rcases (Table.mem_insert hinsert).mp hmem with hold | rfl
    · exact Or.inl ⟨other, hold, hmode, rfl, rfl⟩
    · cases hmode

theorem WritebackLedger.settle {workspace : DeliveryWorkspace ν} {input : RowSettlementInput} {limits : SettlementLimits}
    {stamp : SettlementStamp} {result : SettlementResult × DeliveryWorkspace ν} (h : WritebackLedger workspace)
    (hprocess : processSqliteRowSettlement workspace input limits stamp = .ok result) : WritebackLedger result.2 := by
  have hstart : ∀ settlement : RowSettlement,
      workspace.db.rowSettlements.get? input.settlementId = some settlement →
      (settlement.status = .queued ∨ settlement.status = .running) →
      SettlementsKept workspace.db.rowSettlements
        (workspace.start settlement.id stamp.context.now).db.rowSettlements := by
    intro settlement hstored hopen
    have hid : settlement.id = input.settlementId := (Table.get?_eq_some.mp hstored).2
    exact start_kept (hid ▸ hstored) hopen
  cases processSqliteRowSettlement_eq_ok hprocess with
  | finished _ => exact h
  | stale row settlement _ stored _ open_ _ =>
    have hstarted := h.of_same (hstart settlement stored open_) rfl
    exact hstarted.of_same (SettlementsKept.own (f := skipSettlement stamp.context.now) ⟨fun _ => rfl⟩
      (start_undelivered workspace settlement.id stamp.context.now) fun _ => ⟨rfl, rfl⟩) rfl
  | settled row settlement _ found _ stored scope open_ _ version outcome =>
    have hkept := hstart settlement stored open_
    have hstarted := h.of_same hkept rfl
    have hmem : settlement ∈ workspace.db.rowSettlements := (Table.get?_eq_some.mp stored).1
    have hrow : row.id = input.rowId := (Table.get?_eq_some.mp found).2
    refine outcome.ledger hstarted (start_undelivered workspace settlement.id stamp.context.now) ?_
    refine ⟨_, (Table.mem_modify (f := startSettlement stamp.context.now) ⟨fun _ => rfl⟩).mpr ⟨settlement, hmem, rfl⟩, ?_⟩
    rw [if_pos (decide_eq_true rfl)]
    exact ⟨rfl, scope.1.trans hrow.symm, scope.2.1.trans version.symm⟩

theorem WritebackLedger.step {workspace : DeliveryWorkspace ν} (h : WritebackLedger workspace)
    (action : WritebackAction ν) : WritebackLedger (workspace.stepWriteback action) := by
  cases action with
  | record input stamp =>
    simp only [DeliveryWorkspace.stepWriteback]
    cases hrecord : recordSqliteRowMutationAndMaybeQueueSettlement workspace.db input stamp with
    | error _ => exact h
    | ok db => exact h.record hrecord
  | settle input limits stamp =>
    simp only [DeliveryWorkspace.stepWriteback]
    cases hprocess : processSqliteRowSettlement workspace input limits stamp with
    | error _ => exact h
    | ok result => exact h.settle hprocess
  | settlementFailure failure =>
    refine h.of_same (SettlementsKept.modify (f := reportSettlement failure) ⟨fun _ => rfl⟩ (fun _ => ⟨rfl, rfl⟩) ?_) rfl
    intro settlement _ hdelivered
    simp only [RowSettlement.delivered, Bool.and_eq_true, decide_eq_true_eq] at hdelivered
    simp [hdelivered.1]
  | queue input context =>
    simp only [DeliveryWorkspace.stepWriteback]
    cases hqueue : queueSqliteWritebackDelivery workspace input context with
    | error _ => exact h
    | ok result => exact h.queue hqueue
  | start input now =>
    simp only [DeliveryWorkspace.stepWriteback]
    cases hstart : markSqliteWritebackDeliveryRunning workspace input now with
    | error _ => exact h
    | ok result =>
      simp only [markSqliteWritebackDeliveryRunning, except_bind_eq_ok] at hstart
      obtain ⟨delivery, _, hstart⟩ := hstart
      split at hstart
      all_goals cases hstart
      · exact h
      · exact h
      · exact h.updateDeliveries (f := startDelivery now) ⟨fun _ => rfl⟩ fun _ => ⟨rfl, rfl, rfl⟩
      · exact h.updateDeliveries (f := startDelivery now) ⟨fun _ => rfl⟩ fun _ => ⟨rfl, rfl, rfl⟩
  | succeed input responseStatus now =>
    simp only [DeliveryWorkspace.stepWriteback]
    cases hsucceed : markSqliteWritebackDeliverySucceeded workspace input responseStatus now with
    | error _ => exact h
    | ok result =>
      simp only [markSqliteWritebackDeliverySucceeded, except_bind_eq_ok] at hsucceed
      obtain ⟨_, _, hsucceed⟩ := hsucceed
      cases hsucceed
      exact h.updateDeliveries (f := succeedDelivery responseStatus now) ⟨fun _ => rfl⟩ fun _ => ⟨rfl, rfl, rfl⟩
  | fail input failure now =>
    exact h.updateDeliveries (f := failDelivery failure now) ⟨fun _ => rfl⟩ fun _ => ⟨rfl, rfl, rfl⟩
  | other db => exact h.of_same (SettlementsKept.refl _) rfl

/-- The row is written back to the destination once for each content: a new
delivery is queued exactly when no automatic one had its fingerprint before. -/
structure WrittenBackOnce (before after : DeliveryWorkspace ν) (row : Row) (destination : WritebackDestination ν)
    (content : WritebackContent) : Prop where
  queued : (∀ existing ∈ before.writebackDeliveries, existing.automaticFor destination.id row.id = true →
      existing.payloadFingerprint ≠ ConnectorRuntime.sha256 ν (content.text ν)) →
    ∃ delivery ∈ after.writebackDeliveries, delivery ∉ before.writebackDeliveries ∧
      delivery.automaticFor destination.id row.id = true ∧ delivery.rowVersion = row.version ∧
      delivery.payload.recordId = content.recordId ∧ delivery.payload.properties = content.properties ∧
      delivery.payloadFingerprint = ConnectorRuntime.sha256 ν (content.text ν) ∧ delivery.status = .queued
  suppressed : (∃ existing ∈ before.writebackDeliveries, existing.automaticFor destination.id row.id = true ∧
      existing.payloadFingerprint = ConnectorRuntime.sha256 ν (content.text ν)) →
    ∀ delivery ∈ after.writebackDeliveries, delivery.automaticFor destination.id row.id = true →
      delivery ∈ before.writebackDeliveries

def WritebackDestination.candidate (destination : WritebackDestination ν) (row : Row) (stamp : SettlementStamp)
    (content : WritebackContent) : WritebackCandidate ν where
  destination := destination
  prepared := ⟨writebackPayload stamp.context (stamp.writebackId destination.id) content row,
    ConnectorRuntime.sha256 ν (content.text ν)⟩

omit [JsRuntime ν] [ConnectorRuntime ν] [NumberComparison ν] in
theorem automaticFor_delivery (candidate : WritebackCandidate ν) (row : Row) (stamp : SettlementStamp) :
    (candidate.delivery row stamp).automaticFor candidate.destination.id row.id = true := by
  simp [WritebackDelivery.automaticFor, WritebackCandidate.delivery]

theorem WritebacksSettled.once {workspace after : DeliveryWorkspace ν} {settled : SettledRow} {stamp : SettlementStamp}
    {destination : WritebackDestination ν} {content : WritebackContent}
    (hversion : ∀ existing ∈ workspace.writebackDeliveries,
      existing.automaticFor destination.id settled.row.id = true → existing.rowVersion ≠ settled.row.version)
    (hfit : WritebacksFit workspace settled stamp) (hsettled : WritebacksSettled workspace settled stamp after)
    (hdestination : destination ∈ automaticWritebacks workspace.db settled.row.tableId)
    (hselects : destination.selects workspace.db.grid settled = true)
    (hcontent : writebackContent workspace.db.grid settled.row.id destination = .ok content) :
    WrittenBackOnce workspace after settled.row destination content := by
  obtain ⟨candidates, destinationIds, hcandidates, _, hids, hqueued⟩ := hsettled.queued
  have hperm := orderedWritebacks_perm workspace.db settled.row.tableId
  have hnd : ((orderedWritebacks workspace.db settled.row.tableId).map WritebackDestination.id).Nodup :=
    ((hperm.map _).nodup_iff).mpr (automaticWritebacks_nodup workspace.db settled.row.tableId)
  have hprepared := prepare_eq_ok (hfit.fits destination hdestination hselects) hcontent
  have hcandidate : destination.candidate settled.row stamp content ∈ candidates :=
    (mem_writebackCandidates hcandidates _).mpr ⟨hperm.mem_iff.mpr hdestination, hselects, hprepared⟩
  have hfind := find_candidate hnd hcandidates hcandidate
  constructor
  · intro hnew
    have hautomatic := automaticFor_delivery (destination.candidate settled.row stamp content) settled.row stamp
    rcases hqueued.queued _ (hids _ hcandidate) _ hfind with hconflict | hstored
    · simp only [WritebackDelivery.conflicts, Bool.and_eq_true, List.any_eq_true, Bool.or_eq_true,
        decide_eq_true_eq] at hconflict
      obtain ⟨_, existing, hexisting, hexistingAutomatic, hsame⟩ := hconflict
      rcases hsame with hsameVersion | hsameContent
      · exact absurd hsameVersion (hversion existing hexisting hexistingAutomatic)
      · exact absurd hsameContent (hnew existing hexisting hexistingAutomatic)
    · refine ⟨_, hstored, ?_, hautomatic, rfl, rfl, rfl, rfl, rfl⟩
      intro hold
      exact hnew _ hold hautomatic rfl
  · intro hold delivery hmem hautomatic
    rcases hqueued.origin delivery hmem with hbefore | ⟨candidate, hother, _, rfl, hfree⟩
    · exact hbefore
    · -- a new delivery of the row would be that of the destination, which is in conflict
      have hid : candidate.destination.id = destination.id := by
        simp only [WritebackDelivery.automaticFor, WritebackCandidate.delivery, Bool.and_eq_true,
          decide_eq_true_eq] at hautomatic
        exact of_decide_eq_true hautomatic.1.2
      have hsame := find_candidate hnd hcandidates hother
      rw [hid] at hsame
      have heq := Option.some.inj (hfind.symm.trans hsame)
      subst heq
      obtain ⟨existing, hexisting, hexistingAutomatic, hfingerprint⟩ := hold
      have hconflict : ((destination.candidate settled.row stamp content).delivery settled.row stamp).conflicts
          workspace.writebackDeliveries = true := by
        simp only [WritebackDelivery.conflicts, Bool.and_eq_true, List.any_eq_true, Bool.or_eq_true, decide_eq_true_eq]
        exact ⟨rfl, existing, hexisting, hexistingAutomatic, Or.inr hfingerprint⟩
      rw [hfree] at hconflict
      cases hconflict

/-- A queued settlement of a current row which delivers it, to a destination
which selects the row and the row is ready for. -/
structure Delivering (workspace : DeliveryWorkspace ν) (row : Row) (destination : WritebackDestination ν)
    (content : WritebackContent) (after : DeliveryWorkspace ν) : Prop where
  processed : ∃ input settlement limits stamp result, CurrentSettlement workspace input row settlement ∧
    FreshSettlement workspace settlement stamp ∧
    processSqliteRowSettlement workspace input limits stamp = .ok (result, after) ∧ result.status = .succeeded ∧
    result.queuedRunCount = 0 ∧ destination.selects workspace.db.grid (settledRow workspace.db row settlement) = true
  used : (currentRow workspace.db.grid row.id row.tableId row.version).isSome
  active : destination ∈ automaticWritebacks workspace.db row.tableId
  content : writebackContent workspace.db.grid row.id destination = .ok content

theorem WritebackLedger.once {workspace after : DeliveryWorkspace ν} {row : Row} {destination : WritebackDestination ν}
    {content : WritebackContent} (h : WritebackLedger workspace)
    (hdelivering : Delivering workspace row destination content after) :
    WrittenBackOnce workspace after row destination content := by
  obtain ⟨input, settlement, limits, stamp, result, hcurrent, hfresh, hprocess, hsucceeded, hruns, hselects⟩ :=
    hdelivering.processed
  obtain ⟨current, hrow⟩ := Option.isSome_iff_exists.mp hdelivering.used
  have htable : row.tableId = settlement.tableId := hcurrent.table.trans hcurrent.settledTable.symm
  have hversion : ∀ existing ∈ workspace.writebackDeliveries, existing.automaticFor destination.id row.id = true →
      existing.rowVersion ≠ row.version := by
    -- a delivery of this version would have a delivered settlement, and the version has only this one
    intro existing hexisting hautomatic hsame
    simp only [WritebackDelivery.automaticFor, Bool.and_eq_true, decide_eq_true_eq] at hautomatic
    obtain ⟨settled, hsettled, hsettledRow, hsettledVersion, hdelivered⟩ := h.settled existing hexisting hautomatic.1.1
    have hid : row.id = input.rowId := (Table.get?_eq_some.mp hcurrent.found).2
    have heq := h.unique settled hsettled settlement (Table.get?_eq_some.mp hcurrent.stored).1
      (((hsettledRow.trans hautomatic.2).trans hid).trans hcurrent.settledRow.symm)
      (((hsettledVersion.trans hsame).trans hcurrent.version).trans hcurrent.settledVersion.symm)
    rw [heq, RowSettlement.delivered, hcurrent.queued] at hdelivered
    cases hdelivered
  rw [processSqliteRowSettlement_current hcurrent] at hprocess
  cases settleCurrentRow_outcome hprocess with
  | waiting _ => cases hsucceeded
  | refused _ => cases hsucceeded
  | dispatched columnIds _ hsome _ _ => exact absurd (List.length_eq_zero_iff.mp hruns) hsome
  | delivered written hooked _ _ hwritten hhooked =>
    have hstart := hfresh.start settlement.id stamp.context.now
    have hstartRow : currentRow (workspace.start settlement.id stamp.context.now).db.grid
        (settledRow (workspace.start settlement.id stamp.context.now).db row settlement).row.id row.tableId row.version =
        some current := hrow
    have hfit := queueSettledSqliteWritebackDeliveries_fit hstartRow hwritten
    rcases queueSettledSqliteWritebackDeliveries_spec limits.maximumAutomaticWritebacks hstartRow hfit
      (htable ▸ hstart.writebacks) (htable ▸ hstart.writebackEvents) with
      ⟨_, hover⟩ | ⟨_, queued, hqueue, hsettled⟩
    · rw [hwritten] at hover
      cases hover
    · obtain rfl : written = queued := by
        rw [hwritten] at hqueue
        exact Except.ok.inj (Except.ok.inj hqueue)
      have hdeliveries : hooked.2.writebackDeliveries = written.2.writebackDeliveries :=
        (queueSettledSqliteWebhookDeliveries_frame hhooked).1
      have hselected : destination.selects (workspace.start settlement.id stamp.context.now).db.grid
          (settledRow (workspace.start settlement.id stamp.context.now).db row settlement) = true := by
        unfold settledRow at hselects ⊢
        rw [changedColumns_start]
        exact hselects
      have honce := WritebacksSettled.once hversion hfit hsettled hdelivering.active hselected hdelivering.content
      constructor
      · intro hnew
        obtain ⟨delivery, hmem, hrest⟩ := honce.queued hnew
        exact ⟨delivery, hdeliveries ▸ hmem, hrest⟩
      · intro hold delivery hmem hautomatic
        exact honce.suppressed hold delivery (hdeliveries ▸ hmem) hautomatic

/-- In every state of a run a settlement which delivers its row writes it back to
each destination which selects it once for each content, whatever became of the
earlier deliveries and whatever was delivered in between. -/
theorem writebackConvergence_run {initial : DeliveryWorkspace ν} (hinitial : WritebackLedger initial)
    (actions : List (WritebackAction ν)) {row : Row} {destination : WritebackDestination ν} {content : WritebackContent}
    {after : DeliveryWorkspace ν}
    (h : Delivering (runActions DeliveryWorkspace.stepWriteback initial actions) row destination content after) :
    WrittenBackOnce (runActions DeliveryWorkspace.stepWriteback initial actions) after row destination content :=
  (runActions_invariant (fun _ action h => h.step action) hinitial actions).once h

end Steps

section Sample

local instance crmRuntime : ConnectorRuntime SafeInteger where
  sha256 text :=
    if text = "\x7b\"adapterId\":\"hubspot_contact\",\"properties\":\x7b\"company\":\"Acme\"\x7d,\"recordId\":\"12345\"\x7d"
    then "8120596d928c4bbbb4280ea438fed848d9a00025d19294ab625c1e69627a78e3"
    else if text =
      "\x7b\"adapterId\":\"hubspot_contact\",\"properties\":\x7b\"company\":\"Bolt\"\x7d,\"recordId\":\"12345\"\x7d"
    then "f89a244f616e74b82b754e3819382c67e4b304356ef868d6d234fdeb14ebb2f8"
    else ""
  requestUrl baseUrl queryParameter value := baseUrl ++ "?" ++ queryParameter ++ "=" ++ value
  hostname requestUrl := requestUrl

def crmRecordId : String := "00000000-0000-0000-0000-000000000000"

def crmColumn (id name : String) : Column SafeInteger where
  id := id
  tableId := "crm"
  name := name
  kind := .input
  valueType := .text
  configuration := .plain
  archivedAt := none

def crmDestination : WritebackDestination SafeInteger where
  id := "hubspot"
  tableId := "crm"
  credentialId := "token"
  name := "Company"
  recordIdColumnId := crmRecordId
  fieldMappings := [⟨"company", "company"⟩]
  filterTree := ⟨.and, [.leaf (.text crmRecordId false "12345")]⟩
  triggerMode := .rowSettled
  createdAt := 0

def crmWorkspace : DeliveryWorkspace SafeInteger where
  db :=
    { grid :=
        { dataTables := ⟨[⟨"crm", none⟩], by decide⟩
          columns := ⟨[crmColumn crmRecordId "Record", crmColumn "company" "Company"], by decide⟩
          columnDependencies := Table.empty
          rows := ⟨[⟨"lovelace", "crm", 1, none⟩], by decide⟩
          cells := fun rowId columnId =>
            if rowId = "lovelace" ∧ columnId = crmRecordId then some ⟨.text "12345", .idle, 1⟩ else none }
      workspaceMembers := Table.empty
      credentials := Table.empty
      connectorRevocations := Table.empty
      cellRuns := Table.empty
      bulkRunBatches := Table.empty
      bulkRunItems := Table.empty
      rowSettlements := Table.empty
      webhookDestinations := Table.empty
      writebackDestinations := ⟨[crmDestination], by decide⟩
      outbox := Table.empty }
  webhookDeliveries := Table.empty
  writebackDeliveries := Table.empty

def crmStamp (change : String) : SettlementStamp where
  context := ⟨"workspace", "2026-01-01T00:00:00.000Z", 1⟩
  tableName := "Contacts"
  runId columnId := change ++ columnId
  runEventId columnId := change ++ columnId
  writebackId destinationId := change ++ destinationId
  writebackEventId destinationId := change ++ destinationId
  webhookId destinationId := change ++ destinationId
  webhookEventId destinationId := change ++ destinationId

def changeCompany (workspace : DeliveryWorkspace SafeInteger) (change company : String) :
    List (WritebackAction SafeInteger) :=
  [.other { workspace.db with
      grid := workspace.db.grid.setCell "lovelace" "company" ⟨.text company, .idle, 1⟩ },
    .record ⟨["company"], "lovelace", "crm"⟩ ⟨change, change, 0⟩]

def changedWorkspace (workspace : DeliveryWorkspace SafeInteger) (change company : String) :
    DeliveryWorkspace SafeInteger :=
  runActions DeliveryWorkspace.stepWriteback workspace (changeCompany workspace change company)

def settledWorkspace (workspace : DeliveryWorkspace SafeInteger) (change : String) (rowVersion : Nat) :
    DeliveryWorkspace SafeInteger :=
  workspace.stepWriteback (.settle ⟨"lovelace", rowVersion, change, "crm"⟩ {} (crmStamp change))

def crmFirst : DeliveryWorkspace SafeInteger := settledWorkspace (changedWorkspace crmWorkspace "first" "Acme") "first" 2

def crmSecond : DeliveryWorkspace SafeInteger := settledWorkspace (changedWorkspace crmFirst "second" "Bolt") "second" 3

def crmReturned : DeliveryWorkspace SafeInteger := changedWorkspace crmSecond "third" "Acme"

def crmSettled : DeliveryWorkspace SafeInteger := settledWorkspace crmReturned "third" 4

def deliveredProperties (workspace : DeliveryWorkspace SafeInteger) : List (List (String × String)) :=
  workspace.writebackDeliveries.records.map fun delivery => delivery.payload.properties

def crmContent (company : String) : WritebackContent := ⟨"12345", [("company", company)]⟩

theorem crmWorkspace_ledger : WritebackLedger crmWorkspace where
  unique _ hmem := absurd hmem Table.not_mem_empty
  settled _ hmem := absurd hmem Table.not_mem_empty

def crmSettlement (change : String) (rowVersion : Nat) : RowSettlement where
  id := change
  tableId := "crm"
  rowId := "lovelace"
  rowVersion := rowVersion
  changedColumnIds := ["company"]

def CrmReady (workspace : DeliveryWorkspace SafeInteger) (change company : String) (rowVersion : Nat) : Prop :=
  workspace.db.grid.rows.get? "lovelace" = some ⟨"lovelace", "crm", rowVersion, none⟩ ∧
  workspace.db.rowSettlements.get? change = some (crmSettlement change rowVersion) ∧
  settlementDependents workspace.db (crmSettlement change rowVersion) = [] ∧
  automaticWebhooks workspace.db "crm" = [] ∧
  (automaticWritebacks workspace.db "crm").map WritebackDestination.id = ["hubspot"] ∧
  (workspace.writebackDeliveries.get? (change ++ "hubspot")).isNone = true ∧
  workspace.db.outbox.get? (change ++ "hubspot") = none ∧
  (processSqliteRowSettlement workspace ⟨"lovelace", rowVersion, change, "crm"⟩ {} (crmStamp change)).toOption.any
    (fun result => result.1.status = .succeeded && result.1.queuedRunCount = 0) = true ∧
  (currentRow workspace.db.grid "lovelace" "crm" rowVersion).isSome = true ∧
  (automaticWritebacks workspace.db "crm").all (fun destination =>
    destination.selects workspace.db.grid (settledRow workspace.db ⟨"lovelace", "crm", rowVersion, none⟩
      (crmSettlement change rowVersion)) &&
      writebackContent workspace.db.grid "lovelace" destination = .ok (crmContent company)) = true

theorem CrmReady.delivering {workspace : DeliveryWorkspace SafeInteger} {change company : String} {rowVersion : Nat}
    (h : CrmReady workspace change company rowVersion) : ∃ destination, destination.id = "hubspot" ∧
      Delivering workspace ⟨"lovelace", "crm", rowVersion, none⟩ destination (crmContent company)
        (settledWorkspace workspace change rowVersion) := by
  obtain ⟨hrow, hsettlement, hdependents, hwebhooks, hwritebacks, hdelivery, hevent, hprocessed, hused, hready⟩ := h
  have htable : (crmSettlement change rowVersion).tableId = "crm" := rfl
  have hcurrent : CurrentSettlement workspace ⟨"lovelace", rowVersion, change, "crm"⟩ ⟨"lovelace", "crm", rowVersion, none⟩
      (crmSettlement change rowVersion) := ⟨hrow, rfl, rfl, rfl, hsettlement, rfl, rfl, rfl, rfl⟩
  have hfresh : FreshSettlement workspace (crmSettlement change rowVersion) (crmStamp change) := by
    refine ⟨?_, ?_, ?_, ?_, ?_, ?_⟩
    · rw [hdependents]
      exact ⟨nofun, nofun, List.nodup_nil, List.nodup_nil⟩
    · rw [htable, hwritebacks]
      exact NewIds.singleton (Option.isNone_iff_eq_none.mp hdelivery)
    · rw [htable, hwritebacks]
      exact NewIds.singleton hevent
    · rw [htable, hwebhooks]
      exact NewIds.nil
    · rw [htable, hwebhooks]
      exact NewIds.nil
    · rw [htable, hwebhooks]
      intro _ _ _ hmem
      exact absurd hmem List.not_mem_nil
  obtain ⟨destination, hid, hmem⟩ : ∃ destination, destination.id = "hubspot" ∧
      destination ∈ automaticWritebacks workspace.db "crm" := by
    have hhub : "hubspot" ∈ (automaticWritebacks workspace.db "crm").map WritebackDestination.id := by
      rw [hwritebacks]
      exact List.mem_cons_self
    obtain ⟨destination, hmem, hid⟩ := List.mem_map.mp hhub
    exact ⟨destination, hid, hmem⟩
  have hselects := List.all_eq_true.mp hready destination hmem
  rw [Bool.and_eq_true, decide_eq_true_eq] at hselects
  refine ⟨destination, hid, ⟨?_, hused, hmem, hselects.2⟩⟩
  cases hprocess : processSqliteRowSettlement workspace ⟨"lovelace", rowVersion, change, "crm"⟩ {} (crmStamp change) with
  | error _ =>
    rw [hprocess] at hprocessed
    cases hprocessed
  | ok result =>
    rw [hprocess] at hprocessed
    simp only [Except.toOption, Option.any_some, Bool.and_eq_true, decide_eq_true_eq] at hprocessed
    have hafter : settledWorkspace workspace change rowVersion = result.2 := by
      unfold settledWorkspace
      simp only [DeliveryWorkspace.stepWriteback, hprocess]
      rfl
    rw [hafter]
    exact ⟨_, _, {}, _, result.1, hcurrent, hfresh, hprocess, hprocessed.1, hprocessed.2, hselects.1⟩

/-- The first change of the company is delivered. -/
theorem writebackConvergence_run_crm : ∃ destination, destination.id = "hubspot" ∧
    WrittenBackOnce (runActions DeliveryWorkspace.stepWriteback crmWorkspace (changeCompany crmWorkspace "first" "Acme"))
      crmFirst ⟨"lovelace", "crm", 2, none⟩ destination (crmContent "Acme") := by
  have hready : CrmReady (changedWorkspace crmWorkspace "first" "Acme") "first" "Acme" 2 := by
    unfold CrmReady
    decide +kernel
  obtain ⟨destination, hid, hdelivering⟩ := hready.delivering
  exact ⟨destination, hid, writebackConvergence_run crmWorkspace_ledger _ hdelivering⟩

/-- Two deliveries, and the change back to the first value is not delivered. -/
theorem writebackConvergence_broken :
    (∃ destination, destination.id = "hubspot" ∧
      Delivering crmReturned ⟨"lovelace", "crm", 4, none⟩ destination (crmContent "Acme") crmSettled) ∧
    deliveredProperties crmReturned = [[("company", "Acme")], [("company", "Bolt")]] ∧
    deliveredProperties crmSettled = [[("company", "Acme")], [("company", "Bolt")]] ∧
    ¬ ∃ delivery ∈ crmSettled.writebackDeliveries, delivery.rowVersion = 4 := by
  have hready : CrmReady crmReturned "third" "Acme" 4 := by
    unfold CrmReady
    decide +kernel
  have hdeliveries : deliveredProperties crmReturned = [[("company", "Acme")], [("company", "Bolt")]] ∧
      deliveredProperties crmSettled = [[("company", "Acme")], [("company", "Bolt")]] ∧
      (crmSettled.writebackDeliveries.records.all fun delivery => delivery.rowVersion ≠ 4) = true := by
    decide +kernel
  refine ⟨hready.delivering, hdeliveries.1, hdeliveries.2.1, ?_⟩
  intro h
  obtain ⟨delivery, hmem, hversion⟩ := h
  have hother := List.all_eq_true.mp hdeliveries.2.2 delivery hmem
  simp [hversion] at hother

end Sample

end ByokGrid
