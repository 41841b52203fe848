import ByokGrid.IngestionOrder
import ByokGrid.OutboxLeases

/-! The dispatcher of a local worker: it claims up to ten events and executes them
one after another in one loop, the batches of the endpoints among them. -/

namespace ByokGrid

def OutboxPayload.ingestionInput : OutboxPayload → Option IngestionBatchInput
  | .ingestionBatchRequested input => some input
  | _ => none

theorem OutboxPayload.ingestionInput_eq_some {payload : OutboxPayload} {input : IngestionBatchInput} :
    payload.ingestionInput = some input ↔ payload = .ingestionBatchRequested input := by
  cases payload <;> simp [ingestionInput]

def MAXIMUM_INGESTION_BATCH_RETRIES : Nat := 2

/-- How often the dispatcher executes an event of the type again. The last events
are those it never claims. -/
def maximumWorkerTaskRetries : OutboxPayload → Nat
  | .cellRunRequested _ => MAXIMUM_SQLITE_CELL_RUN_RETRIES
  | .bulkRunRequested _ => 4
  | .csvImportRequested _ => 2
  | .ingestionBatchRequested _ => MAXIMUM_INGESTION_BATCH_RETRIES
  | .rowSettled _ => 2
  | .sourceRunRequested _ => 2
  | .webhookDeliveryRequested _ => 4
  | .writebackDeliveryRequested _ => 3
  | .workflowRunRequested _ => 2
  | .analytics _ _ => 0

def OutboxEvent.retryCount (event : OutboxEvent) : Nat :=
  event.dispatchAttempts - 1

def StoreError.message : StoreError → String
  | .access message | .conflict message | .validation message | .revoked message | .failure message => message
  | .request => "The request is invalid."
  | .constraint name => name

def StoreError.endsBatch : StoreError → Bool
  | .access _ | .conflict _ | .validation _ => true
  | _ => false

/-- The loop of `applySqliteIngestionBatch` before its first chunk, polling at the
given times; it is `none` while the batch still waits. -/
def awaitTurn (store : IngestionStore) (input : IngestionBatchInput) :
    List Int → Except StoreError (Option (IngestionStart × IngestionStore))
  | [] => .ok none
  | now :: later => do
    let (state, polled) ← markSqliteIngestionBatchRunning store input now
    if state = .waiting then awaitTurn polled input later else return some (state, polled)

def WaitEnds (store : IngestionStore) (input : IngestionBatchInput) : Prop :=
  ∃ polls, ∀ times : List Int, polls ≤ times.length → awaitTurn store input times ≠ .ok none

theorem markRunning_waiting {store polled : IngestionStore} {input : IngestionBatchInput} {now : Int}
    (h : markSqliteIngestionBatchRunning store input now = .ok (.waiting, polled)) (later : Int) :
    markSqliteIngestionBatchRunning store input later = .ok (.waiting, store) := by
  simp only [markSqliteIngestionBatchRunning, except_bind_eq_ok, requireSome_eq_ok] at h ⊢
  obtain ⟨batch, hbatch, hrest⟩ := h
  refine ⟨batch, hbatch, ?_⟩
  have hstart : ∀ at_, startActiveBatch store input.endpointId batch now = (.waiting, polled) →
      startActiveBatch store input.endpointId batch at_ = (.waiting, store) := by
    intro at_ hwaiting
    unfold startActiveBatch at hwaiting ⊢
    split at hwaiting
    · rename_i hearlier
      exact if_pos hearlier
    · cases hwaiting
  cases hstatus : batch.status with
  | queued =>
    simp only [hstatus, pure, Except.pure, Except.ok.injEq] at hrest ⊢
    exact hstart later hrest
  | running =>
    simp only [hstatus, pure, Except.pure, Except.ok.injEq] at hrest ⊢
    exact hstart later hrest
  | _ =>
    rw [hstatus] at hrest
    cases hrest

theorem awaitTurn_waiting {store polled : IngestionStore} {input : IngestionBatchInput} {now : Int}
    (h : markSqliteIngestionBatchRunning store input now = .ok (.waiting, polled)) (times : List Int) :
    awaitTurn store input times = .ok none := by
  induction times with
  | nil => rfl
  | cons first later ih =>
    have hpoll := markRunning_waiting h first
    rw [awaitTurn, hpoll]
    exact ih

theorem waitEnds_iff {store : IngestionStore} {input : IngestionBatchInput} : WaitEnds store input ↔
    ∀ now polled, markSqliteIngestionBatchRunning store input now ≠ .ok (.waiting, polled) := by
  constructor
  · intro h now polled hwaiting
    obtain ⟨polls, hends⟩ := h
    exact hends (List.replicate polls now) (by simp) (awaitTurn_waiting hwaiting _)
  · intro h
    refine ⟨1, fun times htimes hnone => ?_⟩
    cases times with
    | nil => cases htimes
    | cons now later =>
      simp only [awaitTurn, except_bind_eq_ok] at hnone
      obtain ⟨⟨state, polled⟩, hpoll, hrest⟩ := hnone
      split at hrest
      · rename_i hwaiting
        exact h now polled (hwaiting ▸ hpoll)
      · cases hrest

/-- How far the execution of an event is: in the wait for its turn, between two
chunks, or at its end. -/
inductive TaskPhase where
  | starting
  | applying
  | returned
  | failed (nonRetryable : Bool) (errorMessage : String)
  deriving Repr, DecidableEq

def TaskPhase.ended : TaskPhase → Bool
  | .returned | .failed _ _ => true
  | .starting | .applying => false

/-- A pass of the dispatcher: the claimed events which it has not delivered, the
first of them in execution. -/
structure LocalDispatcher (ν : Type) where
  workspace : IngestionWorkspace ν
  claimId : String := ""
  claimed : List OutboxEvent := []
  phase : TaskPhase := .starting

inductive DispatcherAction (ν : Type) where
  | createEndpoint (input : CreateIngestionEndpoint)
  | revokeEndpoint (input : RevokeIngestionEndpoint)
  | stage (input : StageIngestionBatch)
  | other (db : Database ν) (events : List OutboxEvent)
  | claim (claimId : String) (now : Int)
  | poll (now : Int)
  | apply (chunk : IngestionChunk)
  | interrupt (errorMessage : String) (now : Int)
  | finish (failure : Option (Bool × String))
  | deliver (now : Int)
  | abandon

namespace LocalDispatcher

variable {ν : Type}

def outbox (dispatcher : LocalDispatcher ν) : Outbox :=
  dispatcher.workspace.db.outbox

def batches (dispatcher : LocalDispatcher ν) : Table IngestionBatch :=
  dispatcher.workspace.ingestion.batches

def withOutbox (dispatcher : LocalDispatcher ν) (outbox : Outbox) : IngestionWorkspace ν :=
  { dispatcher.workspace with db := { dispatcher.workspace.db with outbox := outbox } }

def executing (dispatcher : LocalDispatcher ν) : Option (OutboxEvent × IngestionBatchInput) :=
  dispatcher.claimed.head?.bind fun event => event.payload.ingestionInput.map fun input => (event, input)

def commit (dispatcher : LocalDispatcher ν) (result : Except StoreError (IngestionWorkspace ν)) : LocalDispatcher ν :=
  { dispatcher with workspace := dispatcher.workspace.commit result }

def failTask (dispatcher : LocalDispatcher ν) (event : OutboxEvent) (input : IngestionBatchInput) (nonRetryable : Bool)
    (errorMessage : String) (now : Int) : LocalDispatcher ν :=
  let retrying := !nonRetryable && event.retryCount < MAXIMUM_INGESTION_BATCH_RETRIES
  { dispatcher with
    workspace := dispatcher.workspace.withStore (setSqliteIngestionBatchWorkerFailure dispatcher.workspace.ingestion
      { batch := input, errorMessage := errorMessage, retrying := retrying, now := now })
    phase := .failed (!retrying)
      (if retrying then "Error: The ingestion batch failed unexpectedly." else "Error: " ++ errorMessage) }

def pollTask (dispatcher : LocalDispatcher ν) (event : OutboxEvent) (input : IngestionBatchInput) (now : Int) :
    LocalDispatcher ν :=
  match markSqliteIngestionBatchRunning dispatcher.workspace.ingestion input now with
  | .error error => dispatcher.failTask event input error.endsBatch error.message now
  | .ok (.waiting, _) => dispatcher
  | .ok (.ready, store) => { dispatcher with workspace := dispatcher.workspace.withStore store, phase := .applying }
  | .ok (_, _) => { dispatcher with phase := .returned }

def applyTask [JsRuntime ν] (dispatcher : LocalDispatcher ν) (event : OutboxEvent) (input : IngestionBatchInput)
    (chunk : IngestionChunk) : LocalDispatcher ν :=
  match applySqliteIngestionBatchChunk dispatcher.workspace { chunk with batch := input } with
  | .error error => dispatcher.failTask event input error.endsBatch error.message chunk.now
  | .ok workspace =>
    { dispatcher with
      workspace := workspace
      phase := if (workspace.batches.get? input.batchId).any (fun batch => batch.status.active) then .applying
        else .returned }

def deliverEvent (dispatcher : LocalDispatcher ν) (event : OutboxEvent) (now : Int) : Except StoreError Outbox :=
  match dispatcher.phase with
  | .failed nonRetryable errorMessage =>
    if nonRetryable || maximumWorkerTaskRetries event.payload ≤ event.retryCount then
      completeSqliteOutboxEvent dispatcher.outbox dispatcher.claimId event.id now
    else
      retrySqliteOutboxEvent dispatcher.outbox dispatcher.claimId event.id errorMessage
        (now + min 60000 (event.dispatchAttempts * 5000))
  | _ => completeSqliteOutboxEvent dispatcher.outbox dispatcher.claimId event.id now

/-- A step of the pass, or of a request to the endpoints. The code of the other
events is in the action `other`, which leaves the events of the batches alone; an
event which cannot be delivered ends the pass. -/
def step [JsRuntime ν] [ConnectorRuntime ν] (dispatcher : LocalDispatcher ν) : DispatcherAction ν → LocalDispatcher ν
  | .createEndpoint input => dispatcher.commit (createSqliteIngestionEndpoint dispatcher.workspace input)
  | .revokeEndpoint input => dispatcher.commit (revokeSqliteIngestionEndpoint dispatcher.workspace input)
  | .stage input => dispatcher.commit (stageSqliteIngestionBatch dispatcher.workspace input)
  | .other db events =>
    match dispatcher.outbox.insertAll (events.filter fun event => event.payload.ingestionInput.isNone) with
    | some outbox => { dispatcher with workspace := { dispatcher.workspace with db := { db with outbox := outbox } } }
    | none => dispatcher
  | .claim claimId now =>
    if dispatcher.claimed = [] then
      match claimSqliteOutboxEvents dispatcher.outbox
        { claimId := claimId, eventTypes := DISPATCHABLE_OUTBOX_EVENT_TYPES, limit := some 10, now := now } with
      | .ok (claimed, outbox) =>
        { workspace := dispatcher.withOutbox outbox, claimId := claimId, claimed := claimed, phase := .starting }
      | .error _ => dispatcher
    else dispatcher
  | .poll now =>
    match dispatcher.phase, dispatcher.executing with
    | .starting, some (event, input) => dispatcher.pollTask event input now
    | _, _ => dispatcher
  | .apply chunk =>
    match dispatcher.phase, dispatcher.executing with
    | .applying, some (event, input) => dispatcher.applyTask event input chunk
    | _, _ => dispatcher
  | .interrupt errorMessage now =>
    match dispatcher.phase.ended, dispatcher.executing with
    | false, some (event, input) => dispatcher.failTask event input false errorMessage now
    | _, _ => dispatcher
  | .finish failure =>
    match dispatcher.phase, dispatcher.executing with
    | .starting, none =>
      { dispatcher with phase := (failure.map fun error => .failed error.1 error.2).getD .returned }
    | _, _ => dispatcher
  | .deliver now =>
    match dispatcher.phase.ended, dispatcher.claimed with
    | true, event :: later =>
      match dispatcher.deliverEvent event now with
      | .ok outbox =>
        { dispatcher with workspace := dispatcher.withOutbox outbox, claimed := later, phase := .starting }
      | .error _ => { dispatcher with claimed := [], phase := .starting }
    | _, _ => dispatcher
  | .abandon => { dispatcher with claimed := [], phase := .starting }

def run [JsRuntime ν] [ConnectorRuntime ν] (dispatcher : LocalDispatcher ν) (actions : List (DispatcherAction ν)) :
    LocalDispatcher ν :=
  runActions step dispatcher actions

def Proceeds (dispatcher : LocalDispatcher ν) : Prop :=
  ∀ event input, dispatcher.executing = some (event, input) → dispatcher.phase = .starting →
    WaitEnds dispatcher.workspace.ingestion input

def acceptedBefore (createdAt : Int) (id : String) (later : Int) (laterId : String) : Bool :=
  createdAt < later || (createdAt = later && id < laterId)

structure Announces (dispatcher : LocalDispatcher ν) (event : OutboxEvent) (batch : IngestionBatch) : Prop where
  stored : event ∈ dispatcher.outbox
  unpublished : event.publishedAt = none
  accepted : batch ∈ dispatcher.batches
  active : batch.status.active = true
  payload : event.payload = .ingestionBatchRequested ⟨batch.id, batch.endpointId, batch.tableId⟩

def Delayed (dispatcher : LocalDispatcher ν) (event : OutboxEvent) : Prop :=
  event ∉ dispatcher.claimed ∧ (event.dispatchNextAttemptAt.isSome ∨ event.dispatchClaimId.isSome) ∨
    dispatcher.claimed.head? = some event ∧ ∃ errorMessage, dispatcher.phase = .failed false errorMessage

def LastOfEndpoint (dispatcher : LocalDispatcher ν) (event : OutboxEvent) : Prop :=
  ∀ batch other otherBatch, dispatcher.Announces event batch → dispatcher.Announces other otherBatch →
    otherBatch.endpointId = batch.endpointId → dispatchOrder other event = true

/-- The events and the batches of the endpoint get one order, in which the new ones
come after those of the pass and before those left for later. -/
def StagedInOrder (dispatcher : LocalDispatcher ν) (input : StageIngestionBatch) : Prop :=
  ∀ event batch, dispatcher.Announces event batch → batch.endpointId = input.endpointId →
    acceptedBefore event.createdAt event.id input.now input.eventId =
        acceptedBefore batch.createdAt batch.id input.now input.batchId ∧
      (event ∈ dispatcher.claimed → acceptedBefore batch.createdAt batch.id input.now input.batchId = true) ∧
      (dispatcher.Delayed event → acceptedBefore batch.createdAt batch.id input.now input.batchId = false)

/-- The step puts no event of a batch behind one which waits for that batch: it
accepts the batches in the order of their events, and an attempt which is to be
repeated, or a pass which ends early, leaves no later batch of the endpoint. -/
def SafeStep [JsRuntime ν] (dispatcher : LocalDispatcher ν) : DispatcherAction ν → Prop
  | .stage input =>
    (∀ batch ∈ dispatcher.batches, batch.endpointId = input.endpointId →
      batch.idempotencyKey ≠ input.idempotencyKey) → dispatcher.StagedInOrder input
  | .apply chunk => dispatcher.phase = .applying → ∀ event input, dispatcher.executing = some (event, input) →
    ∀ error, applySqliteIngestionBatchChunk dispatcher.workspace { chunk with batch := input } = .error error →
      error.endsBatch = false → event.retryCount < MAXIMUM_INGESTION_BATCH_RETRIES → dispatcher.LastOfEndpoint event
  | .interrupt _ _ => dispatcher.phase.ended = false → ∀ event input, dispatcher.executing = some (event, input) →
    event.retryCount < MAXIMUM_INGESTION_BATCH_RETRIES → dispatcher.LastOfEndpoint event
  | .abandon => ∀ event ∈ dispatcher.claimed, dispatcher.LastOfEndpoint event
  | _ => True

end LocalDispatcher

end ByokGrid
