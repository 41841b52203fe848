import ByokGrid.AnalyticsConvergence

/-! The erasure of a purged workspace. An insert which was checked before the purge has its last
effect within the grace period, and the deletion waits that period out. -/

namespace ByokGrid

structure CheckedBefore (latency : Int) (receipts : Table AnalyticsPurgeReceipt) (time checkedAt : Int) (workspaceIds : List String) :
    Prop where
  past : checkedAt ≤ time
  before : ∀ receipt ∈ receipts, receipt.workspaceId ∈ workspaceIds → checkedAt ≤ receipt.purgedAt + latency

namespace CheckedBefore

variable {latency time checkedAt : Int} {receipts after : Table AnalyticsPurgeReceipt} {workspaceIds : List String}

theorem later (h : CheckedBefore latency receipts time checkedAt workspaceIds) {now : Int} (hnow : time ≤ now) :
    CheckedBefore latency receipts now checkedAt workspaceIds :=
  ⟨h.past.trans hnow, h.before⟩

theorem of_receipts (h : CheckedBefore latency receipts time checkedAt workspaceIds) (hsame : SameReceipts receipts after) :
    CheckedBefore latency after time checkedAt workspaceIds := by
  refine ⟨h.past, fun receipt hreceipt hworkspace => ?_⟩
  obtain ⟨before, hbefore, -, hsameWorkspace, hpurged, -⟩ := hsame.known receipt hreceipt
  rw [hpurged]
  exact h.before before hbefore (hsameWorkspace ▸ hworkspace)

theorem purge (h : CheckedBefore latency receipts time checkedAt workspaceIds) {receipt : AnalyticsPurgeReceipt}
    (hlatency : time ≤ receipt.purgedAt + latency) (hinsert : receipts.insert receipt = some after) :
    CheckedBefore latency after time checkedAt workspaceIds := by
  refine ⟨h.past, fun other hother hworkspace => ?_⟩
  rcases (Table.mem_insert hinsert).mp hother with hold | rfl
  · exact h.before other hold hworkspace
  · exact h.past.trans hlatency

theorem subset (h : CheckedBefore latency receipts time checkedAt workspaceIds) {fewer : List String} (hfewer : fewer ⊆ workspaceIds) :
    CheckedBefore latency receipts time checkedAt fewer :=
  ⟨h.past, fun receipt hreceipt hworkspace => h.before receipt hreceipt (hfewer hworkspace)⟩

end CheckedBefore

section Phases

variable {ν : Type}

def ProjectorPhase.Checked (latency : Int) (receipts : Table AnalyticsPurgeReceipt) (time : Int) : ProjectorPhase ν → Prop
  | .checked eligible checkedAt => CheckedBefore latency receipts time checkedAt (eligible.map fun event => event.workspaceId)
  | .converting _ valid remaining checkedAt =>
    CheckedBefore latency receipts time checkedAt
      ((valid.map fun entry => entry.1.workspaceId) ++ remaining.map fun event => event.workspaceId)
  | _ => True

theorem ProjectorPhase.Checked.imp {latency time now : Int} {receipts after : Table AnalyticsPurgeReceipt} {phase : ProjectorPhase ν}
    (h : phase.Checked latency receipts time)
    (himp : ∀ checkedAt workspaceIds, CheckedBefore latency receipts time checkedAt workspaceIds →
      CheckedBefore latency after now checkedAt workspaceIds) : phase.Checked latency after now := by
  cases phase with
  | checked eligible checkedAt => exact himp _ _ h
  | converting projectedAt valid remaining checkedAt => exact himp _ _ h
  | _ => trivial

end Phases

structure ChecksSound {ν : Type} (latency : Int) (world : AnalyticsWorld ν) : Prop where
  phases : ∀ claimId phase, world.projectors claimId = some phase → phase.Checked latency world.receipts world.time
  requests : ∀ request ∈ world.requests,
    CheckedBefore latency world.receipts world.time request.checkedAt (request.rows.map AnalyticsProjectionRow.workspaceId)

namespace AnalyticsWorld

variable {ν : Type} [JsRuntime ν] [CountReader ν] {world next : AnalyticsWorld ν} {timing : AnalyticsTiming}

omit [JsRuntime ν] [CountReader ν] in
theorem keep_checks {latency : Int} (h : ChecksSound latency world) {after : AnalyticsWorld ν}
    (hprojectors : after.projectors = world.projectors) (hrequests : after.requests = world.requests)
    (himp : ∀ checkedAt workspaceIds, CheckedBefore latency world.receipts world.time checkedAt workspaceIds →
      CheckedBefore latency after.receipts after.time checkedAt workspaceIds) : ChecksSound latency after := by
  refine ⟨fun claimId phase hphase => ?_, fun request hrequest => ?_⟩
  · rw [hprojectors] at hphase
    exact (h.phases claimId phase hphase).imp himp
  · rw [hrequests] at hrequest
    exact himp _ _ (h.requests request hrequest)

omit [JsRuntime ν] [CountReader ν] in
theorem setPhase_checks {latency : Int} (h : ChecksSound latency world) {claimId : String} {phase : ProjectorPhase ν}
    (outbox : Table (AnalyticsOutboxEvent ν)) (hphase : phase.Checked latency world.receipts world.time) :
    ChecksSound latency { (world.setProjector claimId phase) with outbox := outbox } :=
  ⟨update_phase h.phases hphase, h.requests⟩

omit [JsRuntime ν] [CountReader ν] in
theorem check_checks {latency : Int} {claimId : String} (h : ChecksSound latency world) (hstep : world.check claimId = some next) :
    ChecksSound latency next := by
  rw [check] at hstep
  split at hstep
  · rename_i events hphase
    cases hstep
    refine setPhase_checks h world.outbox ?_
    split_ifs
    · trivial
    · refine ⟨le_refl _, fun receipt hreceipt hworkspace => ?_⟩
      obtain ⟨event, hevent, heq⟩ := List.mem_map.mp hworkspace
      obtain ⟨hmem, hkept⟩ := List.mem_filter.mp hevent
      refine absurd ?_ (decide_eq_true_eq.mp hkept)
      refine List.mem_map.mpr ⟨receipt, List.mem_filter.mpr ⟨hreceipt, decide_eq_true ?_⟩, heq.symm⟩
      exact List.mem_map.mpr ⟨event, hmem, heq⟩
  · cases hstep

omit [JsRuntime ν] [CountReader ν] in
theorem stamp_checks {latency : Int} {claimId : String} {projectedAt : TimeValue} (h : ChecksSound latency world)
    (hstep : world.stamp claimId projectedAt = some next) : ChecksSound latency next := by
  rw [stamp] at hstep
  split at hstep
  · rename_i eligible checkedAt hphase
    split_ifs at hstep
    cases hstep
    have hchecked := h.phases claimId _ hphase
    exact setPhase_checks h world.outbox hchecked
  · cases hstep

theorem convert_checks {latency : Int} {claimId : String} (h : ChecksSound latency world)
    (hstep : world.convert claimId = some next) : ChecksSound latency next := by
  rw [convert] at hstep
  split at hstep
  · rename_i projectedAt valid event remaining checkedAt hphase
    have hchecked : CheckedBefore latency world.receipts world.time checkedAt _ := h.phases claimId _ hphase
    split at hstep
    · cases hstep
      refine setPhase_checks h world.outbox (hchecked.subset ?_)
      intro workspaceId hworkspace
      simpa using hworkspace
    · cases hstep
      refine setPhase_checks h _ ?_
      split_ifs
      · refine hchecked.subset fun workspaceId hworkspace => ?_
        simp only [List.map_cons, List.mem_append, List.mem_cons] at hworkspace ⊢
        rcases hworkspace with hvalid | hremaining
        · exact .inl hvalid
        · exact .inr (.inr hremaining)
      · trivial
  · cases hstep

theorem send_checks {latency : Int} {claimId : String} (h : ChecksSound latency world) (hprojects : world.Projects)
    (hstep : world.send claimId = some next) : ChecksSound latency next := by
  rw [send] at hstep
  split at hstep
  · rename_i projectedAt valid checkedAt hphase
    have hchecked : CheckedBefore latency world.receipts world.time checkedAt _ := h.phases claimId _ hphase
    have hrows := (hprojects.phases claimId _ hphase).rows
    split_ifs at hstep
    · cases hstep
      exact setPhase_checks h world.outbox trivial
    · cases hstep
      refine ⟨update_phase h.phases trivial, fun request hrequest => ?_⟩
      rcases List.mem_append.mp hrequest with hold | hnew
      · exact h.requests request hold
      · rw [List.mem_singleton.mp hnew]
        refine hchecked.subset fun workspaceId hworkspace => ?_
        obtain ⟨row, hrow, rfl⟩ := List.mem_map.mp hworkspace
        obtain ⟨entry, hentry, rfl⟩ := List.mem_map.mp hrow
        rw [(toAnalyticsProjectionRow_key (hrows entry hentry)).1]
        exact List.mem_append_left _ (List.mem_map_of_mem hentry)
  · cases hstep

theorem step_checks {action : AnalyticsAction ν} (h : ChecksSound timing.purgeLatency world) (hprojects : world.Projects)
    (hstep : world.step timing action = some next) : ChecksSound timing.purgeLatency next := by
  by_cases heraser : action.byEraser = true
  · obtain ⟨receipts, warehouse, deletions, erasers, hsame, rfl⟩ := eraser_step heraser hstep
    exact keep_checks h rfl rfl fun _ _ hchecked => hchecked.of_receipts hsame
  · cases action with
    | tick time =>
      rw [step, tick] at hstep
      split_ifs at hstep with htime
      cases hstep
      exact keep_checks h rfl rfl fun _ _ hchecked => hchecked.later htime
    | recordEvent event =>
      rw [step, recordEvent] at hstep
      split_ifs at hstep
      obtain ⟨outbox, -, rfl⟩ := Option.map_eq_some_iff.mp hstep
      exact ⟨h.phases, h.requests⟩
    | purge workspaceId receiptId purgedAt =>
      rw [step, purge] at hstep
      split_ifs at hstep with hpurge
      obtain ⟨receipts, hinsert, rfl⟩ := Option.map_eq_some_iff.mp hstep
      exact keep_checks h rfl rfl fun _ _ hchecked => hchecked.purge hpurge.2.1 hinsert
    | claim input =>
      rw [step, claim] at hstep
      split_ifs at hstep
      cases hstep
      refine setPhase_checks h _ ?_
      split_ifs <;> trivial
    | check claimId => exact check_checks h hstep
    | stamp claimId projectedAt => exact stamp_checks h hstep
    | convert claimId => exact convert_checks h hstep
    | send claimId => exact send_checks h hprojects hstep
    | land request rows =>
      rw [step, land] at hstep
      split at hstep
      · split_ifs at hstep
        cases hstep
        exact ⟨h.phases, h.requests⟩
      · cases hstep
    | insertEnds claimId failure =>
      rw [step, insertEnds.eq_def] at hstep
      split at hstep
      · split_ifs at hstep
        cases hstep
        exact setPhase_checks h world.outbox trivial
      · cases hstep
        exact setPhase_checks h world.outbox trivial
      · cases hstep
    | complete claimId =>
      rw [step, complete] at hstep
      split at hstep
      · cases hstep
        refine setPhase_checks h _ ?_
        split_ifs <;> trivial
      · cases hstep
    | retry claimId =>
      rw [step, retry] at hstep
      split at hstep
      · cases hstep
        exact setPhase_checks h _ trivial
      · cases hstep
    | stop claimId =>
      rw [step, stop] at hstep
      split at hstep
      · cases hstep
        exact setPhase_checks h world.outbox trivial
      · cases hstep
    | _ => exact absurd rfl heraser

end AnalyticsWorld

def EraserPhase.items : EraserPhase → List SqliteClaimedWorkspaceAnalyticsErasure
  | .next receipts => receipts
  | .deleting receipt rest _ _ | .completing receipt rest _ | .retrying receipt rest _ _ => receipt :: rest
  | .over => []

def EraserPhase.Cleared (warehouse : List AnalyticsProjectionRow) : EraserPhase → Prop
  | .deleting receipt _ _ true | .completing receipt _ _ => ∀ row ∈ warehouse, row.workspaceId ≠ receipt.workspaceId
  | _ => True

def Ripe (receipts : Table AnalyticsPurgeReceipt) (time : Int) (item : SqliteClaimedWorkspaceAnalyticsErasure) : Prop :=
  ∃ receipt ∈ receipts, receipt.id = item.receiptId ∧ receipt.workspaceId = item.workspaceId ∧
    receipt.purgedAt + erasureGraceSeconds * 1000 ≤ time

structure EraserSound (receipts : Table AnalyticsPurgeReceipt) (time : Int) (warehouse : List AnalyticsProjectionRow)
    (phase : EraserPhase) : Prop where
  ripe : ∀ item ∈ phase.items, Ripe receipts time item
  cleared : phase.Cleared warehouse

def ErasureHolds (time : Int) (warehouse : List AnalyticsProjectionRow) (receipt : AnalyticsPurgeReceipt) : Prop :=
  receipt.analyticsErasedAt.isSome = true →
    receipt.purgedAt + erasureGraceSeconds * 1000 ≤ time ∧ ∀ row ∈ warehouse, row.workspaceId ≠ receipt.workspaceId

structure ErasuresSound {ν : Type} (world : AnalyticsWorld ν) : Prop where
  erasers : ∀ claimId phase, world.erasers claimId = some phase → EraserSound world.receipts world.time world.warehouse phase
  erased : ∀ receipt ∈ world.receipts, ErasureHolds world.time world.warehouse receipt

section Erasures

variable {receipts after : Table AnalyticsPurgeReceipt} {time now : Int} {warehouse rows : List AnalyticsProjectionRow}
  {item : SqliteClaimedWorkspaceAnalyticsErasure} {phase : EraserPhase}

theorem Ripe.later (h : Ripe receipts time item) (hnow : time ≤ now) : Ripe receipts now item := by
  obtain ⟨receipt, hreceipt, hid, hworkspace, hripe⟩ := h
  exact ⟨receipt, hreceipt, hid, hworkspace, hripe.trans hnow⟩

theorem Ripe.of_kept (h : Ripe receipts time item) (hkept : ∀ receipt ∈ receipts, ∃ later ∈ after, receipt.Continues later) :
    Ripe after time item := by
  obtain ⟨receipt, hreceipt, hid, hworkspace, hripe⟩ := h
  obtain ⟨next, hnext, hsameId, hsameWorkspace, hpurged, -⟩ := hkept receipt hreceipt
  exact ⟨next, hnext, hsameId.trans hid, hsameWorkspace.trans hworkspace, by rw [hpurged]; exact hripe⟩

theorem EraserSound.imp (h : EraserSound receipts time warehouse phase) (hripe : ∀ item, Ripe receipts time item → Ripe after now item)
    (hrows : ∀ item, Ripe receipts time item → (∀ row ∈ warehouse, row.workspaceId ≠ item.workspaceId) →
      ∀ row ∈ rows, row.workspaceId ≠ item.workspaceId) : EraserSound after now rows phase := by
  refine ⟨fun item hitem => hripe item (h.ripe item hitem), ?_⟩
  cases phase with
  | deleting receipt rest attemptedAt executed =>
    cases executed with
    | true => exact hrows receipt (h.ripe receipt List.mem_cons_self) h.cleared
    | false => trivial
  | completing receipt rest attemptedAt => exact hrows receipt (h.ripe receipt List.mem_cons_self) h.cleared
  | _ => trivial

theorem mem_mergeRow {row other : AnalyticsProjectionRow} (h : other ∈ mergeRow warehouse row) : other ∈ warehouse ∨ other = row := by
  simp only [mergeRow] at h
  split_ifs at h
  · exact .inl h
  · rcases List.mem_append.mp h with hkept | hnew
    · exact .inl (List.mem_filter.mp hkept).1
    · exact .inr (List.mem_singleton.mp hnew)

theorem mem_mergeRows {rows : List AnalyticsProjectionRow} {row : AnalyticsProjectionRow} (h : row ∈ rows.foldl mergeRow warehouse) :
    row ∈ warehouse ∨ row ∈ rows := by
  induction rows generalizing warehouse with
  | nil => exact .inl h
  | cons first rows ih =>
    rcases ih h with hmerged | hlater
    · rcases mem_mergeRow hmerged with hold | rfl
      · exact .inl hold
      · exact .inr List.mem_cons_self
    · exact .inr (List.mem_cons_of_mem _ hlater)

theorem ripe_claimed {input : ClaimErasuresInput} (hnow : input.now ≤ time)
    (h : item ∈ (claimSqliteWorkspaceAnalyticsErasures receipts input).1) : Ripe receipts time item := by
  obtain ⟨receipt, hmem, rfl⟩ := List.mem_map.mp h
  obtain ⟨hreceipt, heligible⟩ := Table.mem_selection hmem
  simp only [analyticsErasureEligibility, Bool.and_eq_true, decide_eq_true_eq] at heligible
  have hready := heligible.1.2
  have hgrace : erasureGraceSeconds ≤ max erasureGraceSeconds (input.graceSeconds.getD erasureGraceSeconds) := le_max_left _ _
  refine ⟨receipt, hreceipt, rfl, rfl, ?_⟩
  rw [ClaimErasuresInput.readyBefore] at hready
  omega

theorem ErasureHolds.imp {receipt : AnalyticsPurgeReceipt} (h : ErasureHolds time warehouse receipt) (hnow : time ≤ now)
    {rows : List AnalyticsProjectionRow} (hrows : receipt.purgedAt + erasureGraceSeconds * 1000 ≤ time →
      (∀ row ∈ warehouse, row.workspaceId ≠ receipt.workspaceId) → ∀ row ∈ rows, row.workspaceId ≠ receipt.workspaceId) :
    ErasureHolds now rows receipt := by
  intro herased
  obtain ⟨hripe, haway⟩ := h herased
  exact ⟨hripe.trans hnow, hrows hripe haway⟩

end Erasures

namespace AnalyticsWorld

variable {ν : Type} {world next : AnalyticsWorld ν} {timing : AnalyticsTiming}

theorem setEraser_erasures (h : ErasuresSound world) {claimId : String} {phase : EraserPhase} {receipts : Table AnalyticsPurgeReceipt}
    {warehouse : List AnalyticsProjectionRow} (deletions : List String) (hkept : SameReceipts world.receipts receipts)
    (hwarehouse : ∀ row ∈ warehouse, row ∈ world.warehouse) (hphase : EraserSound receipts world.time warehouse phase)
    (herased : ∀ receipt ∈ receipts, ErasureHolds world.time warehouse receipt) :
    ErasuresSound { (world.setEraser claimId phase) with receipts := receipts, warehouse := warehouse, deletions := deletions } := by
  refine ⟨update_phase ?_ hphase, herased⟩
  intro other otherPhase hother
  exact (h.erasers other otherPhase hother).imp (fun item hripe => hripe.of_kept hkept.kept)
    fun item _ haway row hrow => haway row (hwarehouse row hrow)

theorem setEraser_same (h : ErasuresSound world) {claimId : String} {phase : EraserPhase} {warehouse : List AnalyticsProjectionRow}
    (deletions : List String) (hwarehouse : ∀ row ∈ warehouse, row ∈ world.warehouse)
    (hphase : EraserSound world.receipts world.time warehouse phase) :
    ErasuresSound { (world.setEraser claimId phase) with warehouse := warehouse, deletions := deletions } := by
  apply setEraser_erasures h _ (SameReceipts.refl _) hwarehouse hphase
  intro receipt hreceipt
  exact (h.erased receipt hreceipt).imp (le_refl _) fun _ haway row hrow => haway row (hwarehouse row hrow)

theorem claimErasures_erasures {input : ClaimErasuresInput} (h : ErasuresSound world)
    (hstep : world.claimErasures input = some next) : ErasuresSound next := by
  rw [claimErasures] at hstep
  split_ifs at hstep with hclaim
  cases hstep
  have hsame := sameReceipts_claim world.receipts input
  refine setEraser_erasures h _ hsame (fun _ hrow => hrow) ⟨fun item hitem => ?_, trivial⟩ ?_
  · exact (ripe_claimed hclaim.2 hitem).of_kept hsame.kept
  · intro receipt hreceipt
    simp only [claimSqliteWorkspaceAnalyticsErasures, Table.mem_modify] at hreceipt
    obtain ⟨before, hbefore, rfl⟩ := hreceipt
    split_ifs
    · exact h.erased before hbefore
    · exact h.erased before hbefore

theorem attempt_erasures {claimId : String} {attemptedAt : Int} (h : ErasuresSound world)
    (hstep : world.attempt claimId attemptedAt = some next) : ErasuresSound next := by
  rw [attempt] at hstep
  split at hstep
  · rename_i receipt rest hphase
    split_ifs at hstep
    cases hstep
    exact setEraser_same h _ (fun _ hrow => hrow) ⟨(h.erasers claimId _ hphase).ripe, trivial⟩
  · cases hstep

theorem delete_erasures {claimId : String} (h : ErasuresSound world) (hstep : world.delete claimId = some next) : ErasuresSound next := by
  rw [delete] at hstep
  split at hstep
  · rename_i receipt rest attemptedAt executed hphase
    cases hstep
    refine setEraser_same h world.deletions (fun row hrow => (List.mem_filter.mp hrow).1)
      ⟨(h.erasers claimId _ hphase).ripe, fun row hrow => ?_⟩
    exact of_decide_eq_true (List.mem_filter.mp hrow).2
  · cases hstep

theorem strayDelete_erasures {workspaceId : String} (h : ErasuresSound world) (hstep : world.strayDelete workspaceId = some next) :
    ErasuresSound next := by
  rw [strayDelete] at hstep
  split_ifs at hstep
  cases hstep
  refine ⟨fun claimId phase hphase => ?_, fun receipt hreceipt => ?_⟩
  · exact (h.erasers claimId phase hphase).imp (fun _ hripe => hripe) fun _ _ haway row hrow => haway row (List.mem_filter.mp hrow).1
  · exact (h.erased receipt hreceipt).imp (le_refl _) fun _ haway row hrow => haway row (List.mem_filter.mp hrow).1

theorem deleteEnds_erasures {claimId : String} {failure : Option String} (h : ErasuresSound world)
    (hstep : world.deleteEnds claimId failure = some next) : ErasuresSound next := by
  rw [deleteEnds.eq_def] at hstep
  split at hstep
  · rename_i hphase
    cases hstep
    have hsound := h.erasers claimId _ hphase
    exact setEraser_same h world.deletions (fun _ hrow => hrow) ⟨hsound.ripe, hsound.cleared⟩
  · rename_i hphase
    cases hstep
    have hsound := h.erasers claimId _ hphase
    exact setEraser_same h world.deletions (fun _ hrow => hrow) ⟨hsound.ripe, trivial⟩
  · cases hstep

theorem completeErasure_erasures {claimId : String} (h : ErasuresSound world) (hstep : world.completeErasure claimId = some next) :
    ErasuresSound next := by
  rw [completeErasure] at hstep
  split at hstep
  · rename_i item rest attemptedAt hphase
    cases hstep
    have hsound := h.erasers claimId _ hphase
    have hsame := sameReceipts_complete world.receipts claimId item.receiptId attemptedAt
    have hripe : ∀ other ∈ item :: rest, Ripe (completeSqliteWorkspaceAnalyticsErasure world.receipts claimId item.receiptId
        attemptedAt).2 world.time other := fun other hother => (hsound.ripe other hother).of_kept hsame.kept
    have herased : ∀ receipt ∈ (completeSqliteWorkspaceAnalyticsErasure world.receipts claimId item.receiptId attemptedAt).2,
        ErasureHolds world.time world.warehouse receipt := by
      intro receipt hreceipt
      simp only [completeSqliteWorkspaceAnalyticsErasure, Table.mem_modify] at hreceipt
      obtain ⟨before, hbefore, rfl⟩ := hreceipt
      split_ifs with hheld
      · intro _
        obtain ⟨known, hknown, hid, hworkspace, hripe⟩ := hsound.ripe item List.mem_cons_self
        simp only [heldReceipt, Bool.and_eq_true, decide_eq_true_eq] at hheld
        obtain rfl : known = before := Table.eq_of_key hknown hbefore (hid.trans hheld.1.1.symm)
        refine ⟨hripe, ?_⟩
        show ∀ row ∈ world.warehouse, row.workspaceId ≠ known.workspaceId
        rw [hworkspace]
        exact hsound.cleared
      · exact h.erased before hbefore
    refine setEraser_erasures h world.deletions hsame (fun _ hrow => hrow) ?_ herased
    split_ifs
    · exact ⟨fun other hother => hripe other (List.mem_cons_of_mem _ hother), trivial⟩
    · exact ⟨hripe, trivial⟩
  · cases hstep

theorem retryErasure_erasures {claimId : String} (h : ErasuresSound world) (hstep : world.retryErasure claimId = some next) :
    ErasuresSound next := by
  rw [retryErasure] at hstep
  split at hstep
  · rename_i item rest attemptedAt message hphase
    cases hstep
    have hsound := h.erasers claimId _ hphase
    have hsame := sameReceipts_retry world.receipts claimId item.receiptId message (retryTime attemptedAt item.attempt)
    have herased : ∀ receipt ∈ (retrySqliteWorkspaceAnalyticsErasure world.receipts claimId item.receiptId message
        (retryTime attemptedAt item.attempt)).2, ErasureHolds world.time world.warehouse receipt := by
      intro receipt hreceipt
      simp only [retrySqliteWorkspaceAnalyticsErasure, Table.mem_modify] at hreceipt
      obtain ⟨before, hbefore, rfl⟩ := hreceipt
      split_ifs
      · exact h.erased before hbefore
      · exact h.erased before hbefore
    refine setEraser_erasures h world.deletions hsame (fun _ hrow => hrow) ?_ herased
    split_ifs
    · exact ⟨fun other hother => (hsound.ripe other (List.mem_cons_of_mem _ hother)).of_kept hsame.kept, trivial⟩
    · exact ⟨List.forall_mem_nil _, trivial⟩
  · cases hstep

theorem stopEraser_erasures {claimId : String} (h : ErasuresSound world) (hstep : world.stopEraser claimId = some next) :
    ErasuresSound next := by
  rw [stopEraser] at hstep
  split at hstep
  · cases hstep
    exact setEraser_same h world.deletions (fun _ hrow => hrow) ⟨List.forall_mem_nil _, trivial⟩
  · cases hstep

theorem tick_erasures {time : Int} (h : ErasuresSound world) (hstep : world.tick time = some next) : ErasuresSound next := by
  rw [tick] at hstep
  split_ifs at hstep with htime
  cases hstep
  refine ⟨fun claimId phase hphase => ?_, fun receipt hreceipt => ?_⟩
  · exact (h.erasers claimId phase hphase).imp (fun _ hripe => hripe.later htime) fun _ _ haway => haway
  · exact (h.erased receipt hreceipt).imp htime fun _ haway => haway

theorem purge_erasures {workspaceId receiptId : String} {purgedAt : Int} (h : ErasuresSound world)
    (hstep : world.purge timing workspaceId receiptId purgedAt = some next) : ErasuresSound next := by
  rw [purge] at hstep
  split_ifs at hstep
  obtain ⟨receipts, hinsert, rfl⟩ := Option.map_eq_some_iff.mp hstep
  refine ⟨fun claimId phase hphase => ?_, fun receipt hreceipt => ?_⟩
  · refine (h.erasers claimId phase hphase).imp (fun item hripe => hripe.of_kept fun receipt hreceipt => ?_) fun _ _ haway => haway
    exact ⟨receipt, (Table.mem_insert hinsert).mpr (.inl hreceipt), rfl, rfl, rfl, id⟩
  · rcases (Table.mem_insert hinsert).mp hreceipt with hold | rfl
    · exact h.erased receipt hold
    · intro herased
      cases herased

theorem land_ripe (htiming : timing.insertWindow + timing.purgeLatency < erasureGraceSeconds * 1000)
    (hchecks : ChecksSound timing.purgeLatency world) {request : InsertRequest} (hrequest : request ∈ world.requests)
    (htime : world.time ≤ request.checkedAt + timing.insertWindow) {receipt : AnalyticsPurgeReceipt} (hreceipt : receipt ∈ world.receipts)
    (hripe : receipt.purgedAt + erasureGraceSeconds * 1000 ≤ world.time) {row : AnalyticsProjectionRow} (hrow : row ∈ request.rows) :
    row.workspaceId ≠ receipt.workspaceId := by
  intro hworkspace
  have hbefore := (hchecks.requests request hrequest).before receipt hreceipt (hworkspace ▸ List.mem_map_of_mem hrow)
  omega

theorem land_erasures (htiming : timing.insertWindow + timing.purgeLatency < erasureGraceSeconds * 1000)
    (hchecks : ChecksSound timing.purgeLatency world) {request : Nat} {rows : List AnalyticsProjectionRow} (h : ErasuresSound world)
    (hstep : world.land timing request rows = some next) : ErasuresSound next := by
  rw [land] at hstep
  split at hstep
  · rename_i sent hsent
    split_ifs at hstep with hland
    cases hstep
    have hrequest := List.mem_of_getElem? hsent
    have haway : ∀ receipt ∈ world.receipts, receipt.purgedAt + erasureGraceSeconds * 1000 ≤ world.time →
        (∀ row ∈ world.warehouse, row.workspaceId ≠ receipt.workspaceId) →
        ∀ row ∈ rows.foldl mergeRow world.warehouse, row.workspaceId ≠ receipt.workspaceId := by
      intro receipt hreceipt hripe hold row hrow
      rcases mem_mergeRows hrow with hkept | hnew
      · exact hold row hkept
      · exact land_ripe htiming hchecks hrequest hland.1 hreceipt hripe
          (of_decide_eq_true (List.all_eq_true.mp hland.2 row hnew))
    refine ⟨fun claimId phase hphase => ?_, fun receipt hreceipt => ?_⟩
    · refine (h.erasers claimId phase hphase).imp (fun _ hripe => hripe) fun item hitem hold => ?_
      obtain ⟨receipt, hreceipt, -, hworkspace, hripe⟩ := hitem
      rw [← hworkspace] at hold ⊢
      exact haway receipt hreceipt hripe hold
    · exact (h.erased receipt hreceipt).imp (le_refl _) (haway receipt hreceipt)
  · cases hstep

variable [JsRuntime ν] [CountReader ν]

theorem step_erasures (htiming : timing.insertWindow + timing.purgeLatency < erasureGraceSeconds * 1000)
    (hchecks : ChecksSound timing.purgeLatency world) {action : AnalyticsAction ν} (h : ErasuresSound world)
    (hstep : world.step timing action = some next) : ErasuresSound next := by
  by_cases hprojector : action.byProjector = true
  · obtain ⟨outbox, requests, projectors, rfl⟩ := projector_step hprojector hstep
    exact ⟨h.erasers, h.erased⟩
  · cases action with
    | tick time => exact tick_erasures h hstep
    | recordEvent event =>
      rw [step, recordEvent] at hstep
      split_ifs at hstep
      obtain ⟨outbox, -, rfl⟩ := Option.map_eq_some_iff.mp hstep
      exact ⟨h.erasers, h.erased⟩
    | purge workspaceId receiptId purgedAt => exact purge_erasures h hstep
    | land request rows => exact land_erasures htiming hchecks h hstep
    | claimErasures input => exact claimErasures_erasures h hstep
    | attempt claimId attemptedAt => exact attempt_erasures h hstep
    | delete claimId => exact delete_erasures h hstep
    | strayDelete workspaceId => exact strayDelete_erasures h hstep
    | deleteEnds claimId failure => exact deleteEnds_erasures h hstep
    | completeErasure claimId => exact completeErasure_erasures h hstep
    | retryErasure claimId => exact retryErasure_erasures h hstep
    | stopEraser claimId => exact stopEraser_erasures h hstep
    | _ => exact absurd rfl hprojector

structure Sound (timing : AnalyticsTiming) (world : AnalyticsWorld ν) : Prop where
  projects : world.Projects
  checks : ChecksSound timing.purgeLatency world
  erasures : ErasuresSound world

theorem sound_initial (time : Int) : Sound timing (initial (ν := ν) time) := by
  refine ⟨⟨?_, ?_, ?_⟩, ⟨?_, List.forall_mem_nil _⟩, ⟨?_, ?_⟩⟩
  · exact fun event hevent => absurd hevent Table.not_mem_empty
  · exact nofun
  · exact fun event hevent => absurd hevent Table.not_mem_empty
  · exact nofun
  · exact nofun
  · exact fun receipt hreceipt => absurd hreceipt Table.not_mem_empty

theorem Sound.step (htiming : timing.insertWindow + timing.purgeLatency < erasureGraceSeconds * 1000) (h : Sound timing world)
    {action : AnalyticsAction ν} (hstep : world.step timing action = some next) : Sound timing next :=
  ⟨step_projects h.projects hstep, step_checks h.checks h.projects hstep, step_erasures htiming h.checks h.erasures hstep⟩

theorem run_induction {P : AnalyticsWorld ν → Prop}
    (hkeeps : ∀ world action next, P world → world.step timing action = some next → P next) {actions : List (AnalyticsAction ν)}
    (h : P world) (hrun : run timing actions world = some next) : P next := by
  induction actions generalizing world with
  | nil =>
    rw [run, Option.some.injEq] at hrun
    exact hrun ▸ h
  | cons action actions ih =>
    rw [run, Option.bind_eq_some_iff] at hrun
    obtain ⟨middle, hstep, hrest⟩ := hrun
    exact ih (hkeeps world action middle h hstep) hrest

def Erased (workspaceId : String) (world : AnalyticsWorld ν) : Prop :=
  ∃ receipt ∈ world.receipts, receipt.workspaceId = workspaceId ∧ receipt.analyticsErasedAt.isSome = true

theorem step_erased {workspaceId : String} {action : AnalyticsAction ν} (h : world.Erased workspaceId)
    (hstep : world.step timing action = some next) : next.Erased workspaceId := by
  obtain ⟨receipt, hreceipt, hworkspace, herased⟩ := h
  by_cases heraser : action.byEraser = true
  · obtain ⟨receipts, warehouse, deletions, erasers, hsame, rfl⟩ := eraser_step heraser hstep
    obtain ⟨later, hlater, -, hsameWorkspace, -, hkeeps⟩ := hsame.kept receipt hreceipt
    exact ⟨later, hlater, hsameWorkspace.trans hworkspace, hkeeps herased⟩
  by_cases hprojector : action.byProjector = true
  · obtain ⟨outbox, requests, projectors, rfl⟩ := projector_step hprojector hstep
    exact ⟨receipt, hreceipt, hworkspace, herased⟩
  cases action with
  | tick time =>
    rw [step, tick] at hstep
    split_ifs at hstep
    cases hstep
    exact ⟨receipt, hreceipt, hworkspace, herased⟩
  | recordEvent event =>
    rw [step, recordEvent] at hstep
    split_ifs at hstep
    obtain ⟨outbox, -, rfl⟩ := Option.map_eq_some_iff.mp hstep
    exact ⟨receipt, hreceipt, hworkspace, herased⟩
  | purge workspaceId receiptId purgedAt =>
    rw [step, purge] at hstep
    split_ifs at hstep
    obtain ⟨receipts, hinsert, rfl⟩ := Option.map_eq_some_iff.mp hstep
    exact ⟨receipt, (Table.mem_insert hinsert).mpr (.inl hreceipt), hworkspace, herased⟩
  | land request rows =>
    rw [step, land] at hstep
    split at hstep
    · split_ifs at hstep
      cases hstep
      exact ⟨receipt, hreceipt, hworkspace, herased⟩
    · cases hstep
  | _ => first | exact absurd rfl heraser | exact absurd rfl hprojector

end AnalyticsWorld

def AnalyticsAction.reporter? {ν : Type} : AnalyticsAction ν → Option String
  | .convert claimId | .complete claimId | .retry claimId => some claimId
  | _ => none

section Convergence

variable {ν : Type} [JsRuntime ν] [CountReader ν]

theorem reports_own_claim {world next : AnalyticsWorld ν} {timing : AnalyticsTiming} {action : AnalyticsAction ν} {claimId : String}
    (hreporter : action.reporter? = some claimId) (hstep : world.step timing action = some next)
    {event : AnalyticsOutboxEvent ν} (hevent : event ∈ world.outbox) (hclaim : event.analyticsClaimId ≠ some claimId) :
    event ∈ next.outbox := by
  cases action with
  | convert reporter =>
    obtain rfl : reporter = claimId := Option.some.inj hreporter
    rw [AnalyticsWorld.step, AnalyticsWorld.convert] at hstep
    split at hstep
    · split at hstep
      · cases hstep
        exact hevent
      · cases hstep
        exact reportEvents_keeps hevent hclaim
    · cases hstep
  | complete reporter =>
    obtain rfl : reporter = claimId := Option.some.inj hreporter
    rw [AnalyticsWorld.step, AnalyticsWorld.complete] at hstep
    split at hstep
    · cases hstep
      exact reportEvents_keeps hevent hclaim
    · cases hstep
  | retry reporter =>
    obtain rfl : reporter = claimId := Option.some.inj hreporter
    rw [AnalyticsWorld.step, AnalyticsWorld.retry] at hstep
    split at hstep
    · cases hstep
      exact reportEvents_keeps hevent hclaim
    · cases hstep
  | _ => cases hreporter

variable (ν)

/-- What holds in every state which a run reaches: a projected event has had its row inserted, a report
leaves the events of other claims alone, and a workspace whose erasure is recorded has no row in
the warehouse, now or after any further run. -/
structure AnalyticsConverges (timing : AnalyticsTiming) : Prop where
  projected : ∀ time actions (world : AnalyticsWorld ν), AnalyticsWorld.run timing actions (.initial time) = some world →
    ∀ event ∈ world.outbox, ∀ projectedAt ∈ event.analyticsProjectedAt,
      ∃ row ∈ world.inserted, toAnalyticsProjectionRow event.toAnalyticsSourceEvent projectedAt = .ok row
  leases : ∀ time actions (world : AnalyticsWorld ν), AnalyticsWorld.run timing actions (.initial time) = some world →
    ∀ action next claimId, action.reporter? = some claimId → world.step timing action = some next →
      ∀ event ∈ world.outbox, ∀ other ≠ claimId, event.analyticsClaimId = some other → event ∈ next.outbox
  erased : ∀ time actions (world : AnalyticsWorld ν), AnalyticsWorld.run timing actions (.initial time) = some world →
    ∀ receipt ∈ world.receipts, receipt.analyticsErasedAt.isSome = true →
      ∀ further later, AnalyticsWorld.run timing further world = some later →
        ∀ row ∈ later.warehouse, row.workspaceId ≠ receipt.workspaceId

theorem analytics_converges (timing : AnalyticsTiming) (h : timing.insertWindow + timing.purgeLatency < erasureGraceSeconds * 1000) :
    AnalyticsConverges ν timing := by
  have hsound : ∀ time actions (world : AnalyticsWorld ν), AnalyticsWorld.run timing actions (.initial time) = some world →
      AnalyticsWorld.Sound timing world := by
    intro time actions world hrun
    exact AnalyticsWorld.run_induction (fun _ _ _ hworld hstep => hworld.step h hstep) (AnalyticsWorld.sound_initial time) hrun
  refine ⟨?_, ?_, ?_⟩
  · intro time actions world hrun event hevent
    exact (hsound time actions world hrun).projects.projected event hevent
  · intro time actions world _ action next claimId hreporter hstep event hevent other hother hclaim
    refine reports_own_claim hreporter hstep hevent ?_
    rw [hclaim]
    exact fun heq => hother (Option.some.inj heq)
  · intro time actions world hrun receipt hreceipt herased further later hlater
    have hsafe := AnalyticsWorld.run_induction (fun _ _ _ hworld hstep => hworld.step h hstep) (hsound time actions world hrun) hlater
    have hstill := AnalyticsWorld.run_induction (fun _ _ _ hworld hstep => AnalyticsWorld.step_erased hworld hstep)
      ⟨receipt, hreceipt, rfl, herased⟩ hlater
    obtain ⟨found, hfound, hworkspace, hfoundErased⟩ := hstill
    rw [← hworkspace]
    exact (hsafe.erasures.erased found hfound hfoundErased).2

end Convergence

section Latency

local instance : CountReader SafeInteger where
  count? n := n.bind fun n => if 0 ≤ n ∧ n ≤ 9007199254740991 then some n.toNat else none

theorem analytics_converges_below_grace : AnalyticsConverges SafeInteger ⟨3590000, 1000⟩ :=
  analytics_converges SafeInteger ⟨3590000, 1000⟩ (by decide)

def nilUuid : String := "00000000-0000-0000-0000-000000000000"

def succeededRun : AnalyticsSourceEvent SafeInteger where
  aggregateId := nilUuid
  aggregateType := "cell"
  createdAt := .epoch
  eventType := "cell.run_succeeded"
  id := nilUuid
  payload := [("cellId", .string nilUuid), ("runId", .string nilUuid)]
  workspaceId := nilUuid

def openPurge : List (AnalyticsAction SafeInteger) :=
  [.recordEvent succeededRun, .claim { claimId := "projector", now := 0 }, .tick 500, .check "projector", .tick 1000,
    .purge nilUuid "receipt" 0, .stamp "projector" .epoch, .convert "projector", .send "projector"]

def promptErasure : List (AnalyticsAction SafeInteger) :=
  [.tick 3600000, .claimErasures { claimId := "eraser", now := 3600000 }, .attempt "eraser" 3600000, .delete "eraser",
    .deleteEnds "eraser" none, .completeErasure "eraser"]

def lateInsert : AnalyticsAction SafeInteger :=
  .land 0 (toAnalyticsProjectionRow succeededRun .epoch).toOption.toList

def returnsErasedRow (world : AnalyticsWorld SafeInteger) : Bool :=
  world.receipts.records.any fun receipt =>
    receipt.analyticsErasedAt.isSome && world.warehouse.any fun row => row.workspaceId = receipt.workspaceId

theorem erased_row_returns : ¬ AnalyticsConverges SafeInteger ⟨3600000, 1000⟩ := by
  intro h
  have hreturns : (AnalyticsWorld.run ⟨3600000, 1000⟩ (openPurge ++ promptErasure ++ [lateInsert]) (.initial 0)).any
      returnsErasedRow = true := by decide +kernel
  rw [Option.any_eq_true] at hreturns
  obtain ⟨world, hrun, hrow⟩ := hreturns
  simp only [returnsErasedRow, List.any_eq_true, Bool.and_eq_true, decide_eq_true_eq] at hrow
  obtain ⟨receipt, hreceipt, herased, row, hmem, hworkspace⟩ := hrow
  exact h.erased 0 _ world hrun receipt hreceipt herased [] world rfl row hmem hworkspace

end Latency

end ByokGrid
