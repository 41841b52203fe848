import ByokGrid.AnalyticsPolicy
import ByokGrid.Outbox

/-! The two queues of the analytics projector: the events of the outbox, and the receipts of purged
workspaces. A claim leases their records, and a report changes a record only under its lease. -/

namespace ByokGrid

structure AnalyticsOutboxEvent (ν : Type) extends AnalyticsSourceEvent ν where
  analyticsAttempts : Nat := 0
  analyticsClaimedAt : Option Int := none
  analyticsClaimId : Option String := none
  analyticsLastError : Option String := none
  analyticsNextAttemptAt : Option Int := none
  analyticsProjectedAt : Option TimeValue := none

structure AnalyticsPurgeReceipt where
  id : String
  workspaceId : String
  purgedAt : Int
  analyticsEraseAttempts : Nat := 0
  analyticsEraseClaimedAt : Option Int := none
  analyticsEraseClaimId : Option String := none
  analyticsEraseLastError : Option String := none
  analyticsEraseNextAttemptAt : Option Int := none
  analyticsErasedAt : Option Int := none
  deriving Repr, DecidableEq

instance {ν : Type} : Keyed (AnalyticsOutboxEvent ν) String := ⟨fun event => event.id⟩

instance : Keyed AnalyticsPurgeReceipt String := ⟨AnalyticsPurgeReceipt.id⟩

structure SqliteClaimedAnalyticsEvent (ν : Type) extends AnalyticsSourceEvent ν where
  attempt : Nat

structure SqliteClaimedWorkspaceAnalyticsErasure where
  attempt : Nat
  receiptId : String
  workspaceId : String
  deriving Repr, DecidableEq

structure ClaimAnalyticsInput where
  claimId : String
  leaseSeconds : Option Int := none
  limit : Option Int := none
  now : Int

/-- `Math.max(30, Math.min(leaseSeconds ?? 300, 3_600))` before now. -/
def ClaimAnalyticsInput.staleBefore (input : ClaimAnalyticsInput) : Int :=
  input.now - leaseMilliseconds input.leaseSeconds

/-- `Math.max(1, Math.min(limit ?? usual, maximum))`. -/
def ClaimAnalyticsInput.limitOf (input : ClaimAnalyticsInput) (usual maximum : Int) : Nat :=
  (max 1 (min (input.limit.getD usual) maximum)).toNat

def leaseEligible (now staleBefore : Int) (nextAttemptAt : Option Int) (claimId : Option String) (claimedAt : Option Int) : Bool :=
  (nextAttemptAt.all fun at_ => at_ ≤ now) && (claimId.isNone || claimedAt.any fun at_ => at_ < staleBefore)

section Events

variable {ν : Type}

def analyticsEventEligibility (now staleBefore : Int) (event : AnalyticsOutboxEvent ν) : Bool :=
  (AnalyticsEventType.ofName? event.eventType).isSome && event.analyticsProjectedAt.isNone &&
    leaseEligible now staleBefore event.analyticsNextAttemptAt event.analyticsClaimId event.analyticsClaimedAt

def analyticsOrder (left right : AnalyticsOutboxEvent ν) : Bool :=
  left.createdAt.milliseconds < right.createdAt.milliseconds ||
    (left.createdAt.milliseconds = right.createdAt.milliseconds && left.id ≤ right.id)

def leaseAnalyticsEvent (claimId : String) (now : Int) (event : AnalyticsOutboxEvent ν) : AnalyticsOutboxEvent ν :=
  { event with
    analyticsAttempts := event.analyticsAttempts + 1
    analyticsClaimedAt := some now
    analyticsClaimId := some claimId
    analyticsLastError := none
    analyticsNextAttemptAt := none }

def claimSqliteAnalyticsEvents (outbox : Table (AnalyticsOutboxEvent ν)) (input : ClaimAnalyticsInput) :
    List (SqliteClaimedAnalyticsEvent ν) × Table (AnalyticsOutboxEvent ν) :=
  let eligible := analyticsEventEligibility (ν := ν) input.now input.staleBefore
  let events := ((outbox.records.filter eligible).insertionSort fun l r => analyticsOrder l r).take (input.limitOf 100 1000)
  let ids := events.map fun event => event.id
  -- the update finds every event again, so the check of the two counts cannot fail
  (events.map fun event => { toAnalyticsSourceEvent := event.toAnalyticsSourceEvent, attempt := event.analyticsAttempts + 1 },
    outbox.modify (fun event => event.id ∈ ids && eligible event) (leaseAnalyticsEvent input.claimId input.now) ⟨fun _ => rfl⟩)

def heldAnalyticsEvent (claimId : String) (eventIds : List String) (event : AnalyticsOutboxEvent ν) : Bool :=
  event.analyticsClaimId = some claimId && event.analyticsProjectedAt.isNone && event.id ∈ eventIds

def projectEvent (projectedAt : TimeValue) (event : AnalyticsOutboxEvent ν) : AnalyticsOutboxEvent ν :=
  { event with
    analyticsClaimedAt := none
    analyticsClaimId := none
    analyticsLastError := none
    analyticsNextAttemptAt := none
    analyticsProjectedAt := some projectedAt }

def rescheduleEvent (errorMessage : String) (retryAt : Int) (event : AnalyticsOutboxEvent ν) : AnalyticsOutboxEvent ν :=
  { event with
    analyticsClaimedAt := none
    analyticsClaimId := none
    analyticsLastError := some (sliceUnits 500 (spaceBreaks errorMessage))
    analyticsNextAttemptAt := some retryAt }

/-- One statement outside of a transaction: where it finds fewer events than it was given, the
change of those it found stays, and the call throws. -/
def reportEvents (outbox : Table (AnalyticsOutboxEvent ν)) (claimId : String) (eventIds : List String)
    (report : AnalyticsOutboxEvent ν → AnalyticsOutboxEvent ν) (hreport : KeepsKey report) : Bool × Table (AnalyticsOutboxEvent ν) :=
  if eventIds = [] then (true, outbox)
  else (outbox.records.countP (heldAnalyticsEvent claimId eventIds) = eventIds.length,
    outbox.modify (heldAnalyticsEvent claimId eventIds) report hreport)

def completeSqliteAnalyticsEvents (outbox : Table (AnalyticsOutboxEvent ν)) (claimId : String) (eventIds : List String)
    (projectedAt : TimeValue) : Bool × Table (AnalyticsOutboxEvent ν) :=
  reportEvents outbox claimId eventIds (projectEvent projectedAt) ⟨fun _ => rfl⟩

def retrySqliteAnalyticsEvents (outbox : Table (AnalyticsOutboxEvent ν)) (claimId errorMessage : String) (eventIds : List String)
    (retryAt : Int) : Bool × Table (AnalyticsOutboxEvent ν) :=
  reportEvents outbox claimId eventIds (rescheduleEvent errorMessage retryAt) ⟨fun _ => rfl⟩

end Events

def erasureGraceSeconds : Int := 3600

def listSqlitePurgedAnalyticsWorkspaceIds (receipts : Table AnalyticsPurgeReceipt) (workspaceIds : List String) : List String :=
  (receipts.records.filter fun receipt => receipt.workspaceId ∈ workspaceIds).map AnalyticsPurgeReceipt.workspaceId

structure ClaimErasuresInput extends ClaimAnalyticsInput where
  graceSeconds : Option Int := none

/-- `Math.max(3_600, graceSeconds ?? 3_600)` before now. -/
def ClaimErasuresInput.readyBefore (input : ClaimErasuresInput) : Int :=
  input.now - max erasureGraceSeconds (input.graceSeconds.getD erasureGraceSeconds) * 1000

def analyticsErasureEligibility (now staleBefore readyBefore : Int) (receipt : AnalyticsPurgeReceipt) : Bool :=
  receipt.analyticsErasedAt.isNone && receipt.purgedAt ≤ readyBefore &&
    leaseEligible now staleBefore receipt.analyticsEraseNextAttemptAt receipt.analyticsEraseClaimId receipt.analyticsEraseClaimedAt

def erasureOrder (left right : AnalyticsPurgeReceipt) : Bool :=
  left.purgedAt < right.purgedAt || (left.purgedAt = right.purgedAt && left.id ≤ right.id)

def leaseErasure (claimId : String) (now : Int) (receipt : AnalyticsPurgeReceipt) : AnalyticsPurgeReceipt :=
  { receipt with
    analyticsEraseAttempts := receipt.analyticsEraseAttempts + 1
    analyticsEraseClaimedAt := some now
    analyticsEraseClaimId := some claimId
    analyticsEraseLastError := none
    analyticsEraseNextAttemptAt := none }

def claimSqliteWorkspaceAnalyticsErasures (receipts : Table AnalyticsPurgeReceipt) (input : ClaimErasuresInput) :
    List SqliteClaimedWorkspaceAnalyticsErasure × Table AnalyticsPurgeReceipt :=
  let eligible := analyticsErasureEligibility input.now input.staleBefore input.readyBefore
  let ready := ((receipts.records.filter eligible).insertionSort fun l r => erasureOrder l r).take (input.limitOf 25 250)
  let ids := ready.map AnalyticsPurgeReceipt.id
  (ready.map fun receipt =>
      { attempt := receipt.analyticsEraseAttempts + 1, receiptId := receipt.id, workspaceId := receipt.workspaceId },
    receipts.modify (fun receipt => receipt.id ∈ ids && eligible receipt) (leaseErasure input.claimId input.now) ⟨fun _ => rfl⟩)

def heldReceipt (claimId receiptId : String) (receipt : AnalyticsPurgeReceipt) : Bool :=
  receipt.id = receiptId && receipt.analyticsEraseClaimId = some claimId && receipt.analyticsErasedAt.isNone

def completeSqliteWorkspaceAnalyticsErasure (receipts : Table AnalyticsPurgeReceipt) (claimId receiptId : String) (erasedAt : Int) :
    Bool × Table AnalyticsPurgeReceipt :=
  (receipts.records.any (heldReceipt claimId receiptId),
    receipts.modify (heldReceipt claimId receiptId) (fun receipt =>
      { receipt with
        analyticsEraseClaimedAt := none
        analyticsEraseClaimId := none
        analyticsEraseLastError := none
        analyticsEraseNextAttemptAt := none
        analyticsErasedAt := some erasedAt }) ⟨fun _ => rfl⟩)

def retrySqliteWorkspaceAnalyticsErasure (receipts : Table AnalyticsPurgeReceipt) (claimId receiptId errorMessage : String)
    (retryAt : Int) : Bool × Table AnalyticsPurgeReceipt :=
  (receipts.records.any (heldReceipt claimId receiptId),
    receipts.modify (heldReceipt claimId receiptId) (fun receipt =>
      { receipt with
        analyticsEraseClaimedAt := none
        analyticsEraseClaimId := none
        analyticsEraseLastError := some (sliceUnits 500 (spaceBreaks errorMessage))
        analyticsEraseNextAttemptAt := some retryAt }) ⟨fun _ => rfl⟩)

end ByokGrid
