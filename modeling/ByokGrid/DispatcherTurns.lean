import ByokGrid.LocalDispatcher

/-! The local dispatcher does not wait on itself, as long as no step puts a batch
before one whose event the pass has claimed. -/

namespace ByokGrid

section Quiet

structure SameAcceptance (batch next : IngestionBatch) : Prop where
  id : next.id = batch.id
  endpointId : next.endpointId = batch.endpointId
  tableId : next.tableId = batch.tableId
  createdAt : next.createdAt = batch.createdAt

theorem SameAcceptance.refl (batch : IngestionBatch) : SameAcceptance batch batch :=
  ⟨rfl, rfl, rfl, rfl⟩

theorem SameAcceptance.createdBefore_eq {batch next other otherNext : IngestionBatch} (h : SameAcceptance batch next)
    (hother : SameAcceptance other otherNext) : createdBefore otherNext next = createdBefore other batch := by
  simp only [createdBefore, h.createdAt, h.id, hother.createdAt, hother.id]

structure BatchesKept (before after : Table IngestionBatch) : Prop where
  kept : ∀ batch ∈ before, ∃ next ∈ after, SameAcceptance batch next
  back : ∀ next ∈ after, ∃ batch ∈ before, SameAcceptance batch next ∧
    (next.status.active = true → batch.status.active = true)

theorem BatchesKept.refl (batches : Table IngestionBatch) : BatchesKept batches batches :=
  ⟨fun batch h => ⟨batch, h, .refl batch⟩, fun next h => ⟨next, h, .refl next, id⟩⟩

theorem BatchesKept.modify {batches : Table IngestionBatch} {p : IngestionBatch → Bool}
    {f : IngestionBatch → IngestionBatch} (hf : KeepsKey f) (hsame : ∀ batch, SameAcceptance batch (f batch))
    (hactive : ∀ batch, p batch = true → batch.status.active = true) : BatchesKept batches (batches.modify p f hf) := by
  have hstep : ∀ batch, SameAcceptance batch (if p batch then f batch else batch) := by
    intro batch
    split
    · exact hsame batch
    · exact .refl batch
  constructor
  · intro batch hbatch
    exact ⟨_, (Table.mem_modify hf).mpr ⟨batch, hbatch, rfl⟩, hstep batch⟩
  · intro next hnext
    obtain ⟨batch, hbatch, rfl⟩ := (Table.mem_modify hf).mp hnext
    refine ⟨batch, hbatch, hstep batch, fun hnow => ?_⟩
    by_cases hp : p batch = true
    · exact hactive batch hp
    · rw [if_neg hp] at hnow
      exact hnow

structure OutboxGrows (before after : Outbox) : Prop where
  kept : ∀ event ∈ before, event ∈ after
  added : ∀ event ∈ after, event ∈ before ∨ event.payload.ingestionInput = none

theorem OutboxGrows.refl (outbox : Outbox) : OutboxGrows outbox outbox :=
  ⟨fun _ h => h, fun _ h => Or.inl h⟩

theorem OutboxGrows.trans {a b c : Outbox} (hab : OutboxGrows a b) (hbc : OutboxGrows b c) : OutboxGrows a c := by
  refine ⟨fun event h => hbc.kept event (hab.kept event h), fun event h => ?_⟩
  rcases hbc.added event h with hb | hother
  · exact hab.added event hb
  · exact Or.inr hother

theorem OutboxGrows.insert {outbox outbox' : Outbox} {event : OutboxEvent} (h : outbox.insert event = some outbox')
    (hother : event.payload.ingestionInput = none) : OutboxGrows outbox outbox' := by
  refine ⟨fun _ hold => (Table.mem_insert h).mpr (Or.inl hold), fun next hnext => ?_⟩
  rcases (Table.mem_insert h).mp hnext with hold | rfl
  · exact Or.inl hold
  · exact Or.inr hother

variable {ν : Type}

theorem record_outbox {db db' : Database ν} {input : RowMutation} {stamp : MutationStamp}
    (h : recordSqliteRowMutationAndMaybeQueueSettlement db input stamp = .ok db') :
    OutboxGrows db.outbox db'.outbox := by
  simp only [recordSqliteRowMutationAndMaybeQueueSettlement, except_bind_eq_ok] at h
  obtain ⟨row, _, h⟩ := h
  split at h
  · cases h
    exact .refl _
  · split at h
    · cases h
      exact .refl _
    · split at h
      · cases h
        exact .refl _
      · simp only [except_bind_eq_ok, requireSome_eq_ok, pure, Except.pure, Except.ok.injEq] at h
        obtain ⟨events, hinsert, rfl⟩ := h
        exact .insert hinsert rfl

variable [JsRuntime ν]

theorem settleIngestionRows_outbox {tableId : String} {fields : List String} {mapping : List SourceField}
    {mutation : Nat → MutationStamp} {index : Nat} {items : List ChunkItem} {db db' : Database ν}
    (h : settleIngestionRows tableId fields mapping mutation index items db = .ok db') :
    OutboxGrows db.outbox db'.outbox := by
  induction items generalizing index db with
  | nil =>
    cases h
    exact .refl _
  | cons item items ih =>
    simp only [settleIngestionRows] at h
    split at h
    · exact ih h
    · simp only [except_bind_eq_ok] at h
      obtain ⟨recomputed, _, recorded, hrecorded, hrest⟩ := h
      have hfirst := record_outbox hrecorded
      exact OutboxGrows.trans hfirst (ih hrest)

theorem writeIngestionCells_outbox {db db' : Database ν} {input : IngestionChunk} {fields : List String}
    {mapping : List SourceField} {items : List ChunkItem}
    (h : writeIngestionCells db input fields mapping items = .ok db') : OutboxGrows db.outbox db'.outbox := by
  unfold writeIngestionCells at h
  split at h
  · cases h
    exact .refl _
  · simp only [except_bind_eq_ok] at h
    obtain ⟨written, _, hsettled⟩ := h
    have hgrows := settleIngestionRows_outbox hsettled
    exact hgrows

theorem applyChunk_quiet {workspace workspace' : IngestionWorkspace ν} {input : IngestionChunk}
    (h : applySqliteIngestionBatchChunk workspace input = .ok workspace') :
    BatchesKept workspace.batches workspace'.batches ∧ OutboxGrows workspace.db.outbox workspace'.db.outbox := by
  simp only [applySqliteIngestionBatchChunk, except_bind_eq_ok] at h
  obtain ⟨batch, _, endpoint, _, h⟩ := h
  split at h
  · simp only [completeIngestionBatch, except_bind_eq_ok, requireSome_eq_ok, pure, Except.pure, Except.ok.injEq] at h
    obtain ⟨_, _, events, hinsert, rfl⟩ := h
    refine ⟨?_, .insert hinsert rfl⟩
    exact BatchesKept.modify (succeedBatch_startsNone batch.id input.now).keepsKey (fun _ => ⟨rfl, rfl, rfl, rfl⟩)
      fun _ hp => (runningBatch_active hp).1
  · simp only [applyIngestionRecords, except_bind_eq_ok, pure, Except.pure, Except.ok.injEq] at h
    obtain ⟨_, _, created, _, db, hwritten, rfl⟩ := h
    have hgrows := writeIngestionCells_outbox hwritten
    refine ⟨?_, hgrows⟩
    exact BatchesKept.modify (advanceBatch_startsNone batch.id _ _ _).keepsKey (fun _ => ⟨rfl, rfl, rfl, rfl⟩)
      fun _ hp => (runningBatch_active hp).1

omit [JsRuntime ν] in
theorem failBatch_kept (store : IngestionStore) (failure : IngestionFailure) :
    BatchesKept store.batches (setSqliteIngestionBatchWorkerFailure store failure).batches := by
  exact BatchesKept.modify (failBatch_startsNone failure).keepsKey (fun _ => ⟨rfl, rfl, rfl, rfl⟩)
    (failBatch_startsNone failure).active

theorem failBatch_finished {store : IngestionStore} {failure : IngestionFailure} (hlast : failure.retrying = false)
    {batch : IngestionBatch} (h : batch ∈ (setSqliteIngestionBatchWorkerFailure store failure).batches)
    (hscope : batchScope failure.batch batch = true) : batch.status.active = false := by
  obtain ⟨before, _, rfl⟩ := (Table.mem_modify (failBatch_startsNone failure).keepsKey).mp h
  split at hscope
  · rename_i hp
    rw [if_pos hp]
    simp only [failBatch, hlast]
    rfl
  · rename_i hp
    rw [if_neg hp]
    simpa [hscope] using hp

theorem markRunning_cases {store polled : IngestionStore} {input : IngestionBatchInput} {now : Int}
    {state : IngestionStart} (h : markSqliteIngestionBatchRunning store input now = .ok (state, polled)) :
    ∃ batch, store.batches.get? input.batchId = some batch ∧ batchScope input batch = true ∧
      (state = .ready ∧ BatchesKept store.batches polled.batches ∨
        state = .waiting ∧ polled = store ∧ batch.status.active = true ∧ (∃ earlier ∈ store.batches,
          earlier.endpointId = batch.endpointId ∧ earlier.status.active = true ∧ createdBefore earlier batch = true) ∨
        polled = store ∧ batch.status.active = false ∧ state ≠ .ready ∧ state ≠ .waiting) := by
  simp only [markSqliteIngestionBatchRunning, except_bind_eq_ok, requireSome_eq_ok] at h
  obtain ⟨batch, hbatch, hrest⟩ := h
  obtain ⟨hget, hscope⟩ := Option.filter_eq_some_iff.mp hbatch
  have hendpoint : batch.endpointId = input.endpointId := by
    simp only [batchScope, Bool.and_eq_true, decide_eq_true_eq] at hscope
    exact hscope.1.2
  refine ⟨batch, hget, hscope, ?_⟩
  have hstart : batch.status.active = true → startActiveBatch store input.endpointId batch now = (state, polled) →
      state = .ready ∧ BatchesKept store.batches polled.batches ∨
        state = .waiting ∧ polled = store ∧ batch.status.active = true ∧ (∃ earlier ∈ store.batches,
          earlier.endpointId = batch.endpointId ∧ earlier.status.active = true ∧ createdBefore earlier batch = true) := by
    intro hactive hstarted
    unfold startActiveBatch at hstarted
    split at hstarted
    · rename_i hany
      obtain ⟨earlier, hearlier, hfirst⟩ := List.any_eq_true.mp hany
      simp only [Bool.and_eq_true, decide_eq_true_eq] at hfirst
      cases hstarted
      exact Or.inr ⟨rfl, rfl, hactive, earlier, hearlier, hfirst.1.1.trans hendpoint.symm, hfirst.1.2, hfirst.2⟩
    · cases hstarted
      refine Or.inl ⟨rfl, ?_⟩
      refine BatchesKept.modify (startBatchAttempt_keepsKey now) (fun _ => ⟨rfl, rfl, rfl, rfl⟩) fun candidate hp => ?_
      rw [Bool.and_eq_true] at hp
      exact hp.2
  cases hstatus : batch.status with
  | queued =>
    simp only [hstatus, pure, Except.pure, Except.ok.injEq] at hrest
    rcases hstart (by rw [hstatus]; rfl) hrest with hready | hwaiting
    · exact Or.inl hready
    · rw [hstatus] at hwaiting
      exact Or.inr (Or.inl hwaiting)
  | running =>
    simp only [hstatus, pure, Except.pure, Except.ok.injEq] at hrest
    rcases hstart (by rw [hstatus]; rfl) hrest with hready | hwaiting
    · exact Or.inl hready
    · rw [hstatus] at hwaiting
      exact Or.inr (Or.inl hwaiting)
  | failed =>
    rw [hstatus] at hrest
    cases hrest
  | _ =>
    rw [hstatus] at hrest
    cases hrest
    exact Or.inr (Or.inr ⟨rfl, rfl, by decide, by decide⟩)

theorem markRunning_error {store : IngestionStore} {input : IngestionBatchInput} {now : Int} {error : StoreError}
    (h : markSqliteIngestionBatchRunning store input now = .error error) : error.endsBatch = true := by
  unfold markSqliteIngestionBatchRunning requireSome at h
  cases hbatch : (store.batches.get? input.batchId).filter (batchScope input) with
  | none =>
    rw [hbatch] at h
    cases h
    rfl
  | some batch =>
    rw [hbatch] at h
    simp only [bind, Except.bind] at h
    split at h
    · cases h
    · cases h
    · cases h
      rfl
    · cases h
    · cases h

end Quiet

theorem createdBefore_self (batch : IngestionBatch) : createdBefore batch batch = false := by
  simp [createdBefore]

theorem dispatchOrder_self (event : OutboxEvent) : dispatchOrder event event = true := by
  simp [dispatchOrder]

namespace LocalDispatcher

variable {ν : Type} {dispatcher dispatcher' : LocalDispatcher ν}

theorem executing_eq_some {event : OutboxEvent} {input : IngestionBatchInput} :
    dispatcher.executing = some (event, input) ↔
      dispatcher.claimed.head? = some event ∧ event.payload = .ingestionBatchRequested input := by
  simp only [executing, Option.bind_eq_some_iff, Option.map_eq_some_iff, OutboxPayload.ingestionInput_eq_some,
    Prod.mk.injEq]
  constructor
  · rintro ⟨_, hhead, _, hpayload, rfl, rfl⟩
    exact ⟨hhead, hpayload⟩
  · rintro ⟨hhead, hpayload⟩
    exact ⟨event, hhead, input, hpayload, rfl, rfl⟩

/-- The events of an endpoint stand in the order of their batches; the pass has
claimed the first ones of them, and only the last one may be left for later. -/
structure Orderly (dispatcher : LocalDispatcher ν) : Prop where
  announced : ∀ batch ∈ dispatcher.batches, batch.status.active = true → ∃ event, dispatcher.Announces event batch
  accepted : ∀ event ∈ dispatcher.outbox, event.publishedAt = none → ∀ input,
    event.payload = .ingestionBatchRequested input →
      ∃ batch ∈ dispatcher.batches, input = ⟨batch.id, batch.endpointId, batch.tableId⟩
  agree : ∀ event batch earlier earlierBatch, dispatcher.Announces event batch →
    dispatcher.Announces earlier earlierBatch → earlierBatch.endpointId = batch.endpointId →
      createdBefore earlierBatch batch = true → dispatchOrder event earlier = false
  claimId : dispatcher.claimed ≠ [] → isClaimId dispatcher.claimId = true
  held : ∀ event ∈ dispatcher.claimed, event ∈ dispatcher.outbox ∧ event.publishedAt = none ∧
    event.dispatchClaimId = some dispatcher.claimId
  nodup : dispatcher.claimed.Nodup
  sorted : dispatcher.claimed.Pairwise fun left right => dispatchOrder left right = true
  first : ∀ event batch other otherBatch, event ∈ dispatcher.claimed → dispatcher.Announces event batch →
    dispatcher.Announces other otherBatch → otherBatch.endpointId = batch.endpointId → other ∉ dispatcher.claimed →
      dispatchOrder event other = true
  last : ∀ event, dispatcher.Delayed event → dispatcher.LastOfEndpoint event
  retried : ∀ event input errorMessage, dispatcher.executing = some (event, input) →
    dispatcher.phase = .failed false errorMessage → event.retryCount < MAXIMUM_INGESTION_BATCH_RETRIES
  settled : ∀ event, dispatcher.claimed.head? = some event →
    (dispatcher.phase = .returned ∨ ∃ errorMessage, dispatcher.phase = .failed true errorMessage) →
      ∀ batch, ¬ dispatcher.Announces event batch

theorem Orderly.proceeds (h : dispatcher.Orderly) : dispatcher.Proceeds := by
  intro event input hexecuting _
  rw [waitEnds_iff]
  intro now polled hpoll
  obtain ⟨hhead, hpayload⟩ := executing_eq_some.mp hexecuting
  obtain ⟨later, hclaimed⟩ := List.head?_eq_some_iff.mp hhead
  have hevent : event ∈ dispatcher.claimed := by simp [hclaimed]
  obtain ⟨hstored, hopen, _⟩ := h.held event hevent
  obtain ⟨batch, hget, hscope, hcases⟩ := markRunning_cases hpoll
  have hbatch := (Table.get?_eq_some.mp hget).1
  rcases hcases with ⟨hready, _⟩ | ⟨_, _, hactive, earlier, hearlier, hendpoint, hearlierActive, hbefore⟩ |
    ⟨_, _, _, hnot⟩
  · cases hready
  · have hinput : input = ⟨batch.id, batch.endpointId, batch.tableId⟩ := by
      simp only [batchScope, Bool.and_eq_true, decide_eq_true_eq] at hscope
      rw [hscope.1.1, hscope.1.2, hscope.2]
    have hannounces : dispatcher.Announces event batch := ⟨hstored, hopen, hbatch, hactive, hinput ▸ hpayload⟩
    obtain ⟨other, hother⟩ := h.announced earlier hearlier hearlierActive
    have hlater := h.agree event batch other earlier hannounces hother hendpoint hbefore
    have hfirst : dispatchOrder event other = true := by
      by_cases hin : other ∈ dispatcher.claimed
      · have hsorted := h.sorted
        rw [hclaimed] at hin hsorted
        rcases List.mem_cons.mp hin with rfl | hin
        · exact dispatchOrder_self other
        · exact (List.pairwise_cons.mp hsorted).1 other hin
      · exact h.first event batch other earlier hevent hannounces hother hendpoint hin
    rw [hfirst] at hlater
    cases hlater
  · exact hnot rfl

structure Quiet (dispatcher dispatcher' : LocalDispatcher ν) : Prop where
  claimId : dispatcher'.claimId = dispatcher.claimId
  claimed : dispatcher'.claimed = dispatcher.claimed
  batches : BatchesKept dispatcher.batches dispatcher'.batches
  outbox : OutboxGrows dispatcher.outbox dispatcher'.outbox

theorem Quiet.announces (h : Quiet dispatcher dispatcher') {event : OutboxEvent} {batch : IngestionBatch}
    (hnow : dispatcher'.Announces event batch) :
    ∃ before, SameAcceptance before batch ∧ dispatcher.Announces event before := by
  obtain ⟨before, hbefore, hsame, hactive⟩ := h.batches.back batch hnow.accepted
  refine ⟨before, hsame, ?_, hnow.unpublished, hbefore, hactive hnow.active, ?_⟩
  · rcases h.outbox.added event hnow.stored with hold | hother
    · exact hold
    · rw [hnow.payload] at hother
      cases hother
  · rw [hnow.payload, hsame.id, hsame.endpointId, hsame.tableId]

theorem Quiet.lastOfEndpoint (h : Quiet dispatcher dispatcher') {event : OutboxEvent}
    (hlast : dispatcher.LastOfEndpoint event) : dispatcher'.LastOfEndpoint event := by
  intro batch other otherBatch hevent hother hendpoint
  obtain ⟨before, hsame, hbefore⟩ := h.announces hevent
  obtain ⟨otherBefore, hotherSame, hotherBefore⟩ := h.announces hother
  refine hlast before other otherBefore hbefore hotherBefore ?_
  rw [← hsame.endpointId, ← hotherSame.endpointId, hendpoint]

theorem Orderly.quiet (h : dispatcher.Orderly) (hquiet : Quiet dispatcher dispatcher')
    (hretrying : ∀ event errorMessage, dispatcher.claimed.head? = some event →
      dispatcher'.phase = .failed false errorMessage → dispatcher.LastOfEndpoint event ∧
        ∀ input, event.payload = .ingestionBatchRequested input → event.retryCount < MAXIMUM_INGESTION_BATCH_RETRIES)
    (hsettled : ∀ event, dispatcher.claimed.head? = some event →
      (dispatcher'.phase = .returned ∨ ∃ errorMessage, dispatcher'.phase = .failed true errorMessage) →
        ∀ batch, ¬ dispatcher'.Announces event batch) : dispatcher'.Orderly := by
  refine ⟨?_, ?_, ?_, ?_, ?_, ?_, ?_, ?_, ?_, ?_, ?_⟩
  · intro batch hbatch hactive
    obtain ⟨before, hbefore, hsame, hwas⟩ := hquiet.batches.back batch hbatch
    obtain ⟨event, hevent⟩ := h.announced before hbefore (hwas hactive)
    refine ⟨event, hquiet.outbox.kept event hevent.stored, hevent.unpublished, hbatch, hactive, ?_⟩
    rw [hevent.payload, hsame.id, hsame.endpointId, hsame.tableId]
  · intro event hevent hopen input hpayload
    rcases hquiet.outbox.added event hevent with hold | hother
    · obtain ⟨before, hbefore, rfl⟩ := h.accepted event hold hopen input hpayload
      obtain ⟨batch, hbatch, hsame⟩ := hquiet.batches.kept before hbefore
      refine ⟨batch, hbatch, ?_⟩
      rw [hsame.id, hsame.endpointId, hsame.tableId]
    · rw [hpayload] at hother
      cases hother
  · intro event batch earlier earlierBatch hevent hearlier hendpoint hbefore
    obtain ⟨before, hsame, hold⟩ := hquiet.announces hevent
    obtain ⟨earlierBefore, hearlierSame, hearlierOld⟩ := hquiet.announces hearlier
    refine h.agree event before earlier earlierBefore hold hearlierOld ?_ ?_
    · rw [← hsame.endpointId, ← hearlierSame.endpointId, hendpoint]
    · rw [← hsame.createdBefore_eq hearlierSame]
      exact hbefore
  · rw [hquiet.claimId, hquiet.claimed]
    exact h.claimId
  · rw [hquiet.claimId, hquiet.claimed]
    intro event hevent
    obtain ⟨hstored, hrest⟩ := h.held event hevent
    exact ⟨hquiet.outbox.kept event hstored, hrest⟩
  · rw [hquiet.claimed]
    exact h.nodup
  · rw [hquiet.claimed]
    exact h.sorted
  · rw [hquiet.claimed]
    intro event batch other otherBatch hin hevent hother hendpoint hout
    obtain ⟨before, hsame, hold⟩ := hquiet.announces hevent
    obtain ⟨otherBefore, hotherSame, hotherOld⟩ := hquiet.announces hother
    refine h.first event before other otherBefore hin hold hotherOld ?_ hout
    rw [← hsame.endpointId, ← hotherSame.endpointId, hendpoint]
  · intro event hdelayed
    apply hquiet.lastOfEndpoint
    rw [Delayed, hquiet.claimed] at hdelayed
    rcases hdelayed with hleft | ⟨hhead, errorMessage, hphase⟩
    · exact h.last event (Or.inl hleft)
    · exact (hretrying event errorMessage hhead hphase).1
  · intro event input errorMessage hexecuting hphase
    obtain ⟨hhead, hpayload⟩ := executing_eq_some.mp hexecuting
    rw [hquiet.claimed] at hhead
    exact (hretrying event errorMessage hhead hphase).2 input hpayload
  · rw [hquiet.claimed]
    exact hsettled

theorem Orderly.quiet_phase (h : dispatcher.Orderly) (hquiet : Quiet dispatcher dispatcher')
    (hphase : dispatcher'.phase = dispatcher.phase) : dispatcher'.Orderly := by
  refine h.quiet hquiet ?_ ?_
  · intro event errorMessage hhead hfailed
    rw [hphase] at hfailed
    refine ⟨h.last event (Or.inr ⟨hhead, errorMessage, hfailed⟩), fun input hpayload => ?_⟩
    exact h.retried event input errorMessage (executing_eq_some.mpr ⟨hhead, hpayload⟩) hfailed
  · intro event hhead hended batch hnow
    rw [hphase] at hended
    obtain ⟨before, _, hbefore⟩ := hquiet.announces hnow
    exact h.settled event hhead hended before hbefore

theorem failTask_quiet (dispatcher : LocalDispatcher ν) (event : OutboxEvent) (input : IngestionBatchInput)
    (nonRetryable : Bool) (errorMessage : String) (now : Int) :
    Quiet dispatcher (dispatcher.failTask event input nonRetryable errorMessage now) :=
  ⟨rfl, rfl, failBatch_kept _ _, .refl _⟩

theorem batchScope_of_announces {event : OutboxEvent} {batch : IngestionBatch} {input : IngestionBatchInput}
    (h : dispatcher.Announces event batch) (hpayload : event.payload = .ingestionBatchRequested input) :
    batchScope input batch = true ∧ batch.id = input.batchId := by
  have heq := h.payload
  rw [hpayload, OutboxPayload.ingestionBatchRequested.injEq] at heq
  subst heq
  exact ⟨by simp [batchScope], rfl⟩

theorem Orderly.failTask (h : dispatcher.Orderly) {event : OutboxEvent} {input : IngestionBatchInput}
    (hexecuting : dispatcher.executing = some (event, input)) (nonRetryable : Bool) (errorMessage : String) (now : Int)
    (hlast : nonRetryable = false → event.retryCount < MAXIMUM_INGESTION_BATCH_RETRIES →
      dispatcher.LastOfEndpoint event) :
    (dispatcher.failTask event input nonRetryable errorMessage now).Orderly := by
  obtain ⟨hhead, hpayload⟩ := executing_eq_some.mp hexecuting
  refine h.quiet (failTask_quiet _ _ _ _ _ _) ?_ ?_
  · intro other text hother hphase
    rw [hhead, Option.some.injEq] at hother
    subst hother
    simp only [LocalDispatcher.failTask, TaskPhase.failed.injEq, Bool.not_eq_false', Bool.and_eq_true,
      Bool.not_eq_true', decide_eq_true_eq] at hphase
    exact ⟨hlast hphase.1.1 hphase.1.2, fun _ _ => hphase.1.2⟩
  · intro other hother hended batch hnow
    rw [hhead, Option.some.injEq] at hother
    subst hother
    have hretrying : (!nonRetryable && decide (event.retryCount < MAXIMUM_INGESTION_BATCH_RETRIES)) = false := by
      rcases hended with hreturned | ⟨text, hfailed⟩
      · simp [LocalDispatcher.failTask] at hreturned
      · simp only [LocalDispatcher.failTask, TaskPhase.failed.injEq, Bool.not_eq_true'] at hfailed
        exact hfailed.1
    have hfinished := failBatch_finished hretrying hnow.accepted (batchScope_of_announces hnow hpayload).1
    rw [hnow.active] at hfinished
    cases hfinished

theorem Orderly.pollTask (h : dispatcher.Orderly) {event : OutboxEvent} {input : IngestionBatchInput}
    (hexecuting : dispatcher.executing = some (event, input)) (now : Int) :
    (dispatcher.pollTask event input now).Orderly := by
  obtain ⟨hhead, hpayload⟩ := executing_eq_some.mp hexecuting
  unfold LocalDispatcher.pollTask
  split
  · rename_i error herror
    refine h.failTask hexecuting _ _ _ fun hretryable => ?_
    rw [markRunning_error herror] at hretryable
    cases hretryable
  · exact h
  · rename_i store hready
    obtain ⟨batch, _, _, hcases⟩ := markRunning_cases hready
    rcases hcases with ⟨_, hkept⟩ | ⟨hwaiting, _⟩ | ⟨_, _, hnot, _⟩
    · exact h.quiet ⟨rfl, rfl, hkept, .refl _⟩ (fun _ _ _ hphase => nomatch hphase) fun _ _ hended => by
        rcases hended with hended | ⟨_, hended⟩ <;> cases hended
    · cases hwaiting
    · exact absurd rfl hnot
  · rename_i state store hnotWaiting hnotReady hpoll
    obtain ⟨batch, hget, _, hcases⟩ := markRunning_cases hpoll
    rcases hcases with ⟨hready, _⟩ | ⟨hwaiting, _⟩ | ⟨_, hinactive, _⟩
    · exact absurd hready hnotReady
    · exact absurd hwaiting hnotWaiting
    · refine h.quiet ⟨rfl, rfl, .refl _, .refl _⟩ (fun _ _ _ hphase => nomatch hphase) ?_
      intro other hother _ found hnow
      rw [hhead, Option.some.injEq] at hother
      subst hother
      have hid := (batchScope_of_announces hnow hpayload).2
      have hfound : found = batch :=
        Table.eq_of_key hnow.accepted (Table.get?_eq_some.mp hget).1 (hid.trans (Table.get?_eq_some.mp hget).2.symm)
      have hactive := hnow.active
      rw [hfound, hinactive] at hactive
      cases hactive

theorem Orderly.applyTask [JsRuntime ν] (h : dispatcher.Orderly) {event : OutboxEvent} {input : IngestionBatchInput}
    (hexecuting : dispatcher.executing = some (event, input)) (chunk : IngestionChunk)
    (hlast : ∀ error, applySqliteIngestionBatchChunk dispatcher.workspace { chunk with batch := input } = .error error →
      error.endsBatch = false → event.retryCount < MAXIMUM_INGESTION_BATCH_RETRIES → dispatcher.LastOfEndpoint event) :
    (dispatcher.applyTask event input chunk).Orderly := by
  obtain ⟨hhead, hpayload⟩ := executing_eq_some.mp hexecuting
  unfold LocalDispatcher.applyTask
  split
  · rename_i error herror
    exact h.failTask hexecuting _ _ _ (hlast error herror)
  · rename_i workspace hworkspace
    obtain ⟨hbatches, houtbox⟩ := applyChunk_quiet hworkspace
    refine h.quiet ⟨rfl, rfl, hbatches, houtbox⟩ ?_ ?_
    · intro _ _ _ hphase
      dsimp only at hphase
      split at hphase <;> cases hphase
    · intro other hother hended batch hnow
      rw [hhead, Option.some.injEq] at hother
      subst hother
      have hget : workspace.batches.get? input.batchId = some batch :=
        Table.get?_eq_some.mpr ⟨hnow.accepted, (batchScope_of_announces hnow hpayload).2⟩
      dsimp only at hended
      rw [hget, Option.any_some, hnow.active, if_pos rfl] at hended
      rcases hended with hended | ⟨_, hended⟩ <;> cases hended

def passInput (claimId : String) (now : Int) : ClaimOutboxInput where
  claimId := claimId
  eventTypes := DISPATCHABLE_OUTBOX_EVENT_TYPES
  limit := some 10
  now := now

theorem delayed_of_not_eligible {event : OutboxEvent} {batch : IngestionBatch} {claimId : String} {now : Int}
    (hclaimed : dispatcher.claimed = []) (h : dispatcher.Announces event batch)
    (hnot : (passInput claimId now).eligible event ≠ true) : dispatcher.Delayed event := by
  refine Or.inl ⟨by simp [hclaimed], ?_⟩
  by_contra hfree
  rw [not_or, Option.not_isSome_iff_eq_none, Option.not_isSome_iff_eq_none] at hfree
  apply hnot
  have htype : event.payload.eventType ∈ (passInput claimId now).claimedTypes := by
    rw [h.payload]
    show "table.ingestion_batch_requested" ∈ distinct DISPATCHABLE_OUTBOX_EVENT_TYPES
    decide
  simp [ClaimOutboxInput.eligible, dispatchEligible, htype, h.unpublished, hfree.1, hfree.2]

def ifClaimed (claimed : List OutboxEvent) (claimId : String) (now : Int) (event : OutboxEvent) : OutboxEvent :=
  if event.id ∈ claimed.map OutboxEvent.id then leaseEvent claimId now event else event

section Claim

variable {claimed : List OutboxEvent} {claimId : String} {now : Int} {outbox : Outbox}

@[simp] theorem ifClaimed_id (event : OutboxEvent) : (ifClaimed claimed claimId now event).id = event.id := by
  unfold ifClaimed
  split <;> rfl

@[simp] theorem ifClaimed_createdAt (event : OutboxEvent) :
    (ifClaimed claimed claimId now event).createdAt = event.createdAt := by
  unfold ifClaimed
  split <;> rfl

@[simp] theorem ifClaimed_payload (event : OutboxEvent) :
    (ifClaimed claimed claimId now event).payload = event.payload := by
  unfold ifClaimed
  split <;> rfl

@[simp] theorem ifClaimed_publishedAt (event : OutboxEvent) :
    (ifClaimed claimed claimId now event).publishedAt = event.publishedAt := by
  unfold ifClaimed
  split <;> rfl

theorem dispatchOrder_ifClaimed (left right : OutboxEvent) : dispatchOrder (ifClaimed claimed claimId now left)
    (ifClaimed claimed claimId now right) = dispatchOrder left right := by
  simp [dispatchOrder]

def afterClaim (dispatcher : LocalDispatcher ν) (claimId : String) (claimed : List OutboxEvent) (outbox : Outbox) :
    LocalDispatcher ν :=
  { workspace := dispatcher.withOutbox outbox, claimId := claimId, claimed := claimed, phase := .starting }

theorem mem_claimedOutbox (h : claimSqliteOutboxEvents dispatcher.outbox (passInput claimId now) = .ok (claimed, outbox))
    {event : OutboxEvent} : event ∈ outbox ↔ ∃ before ∈ dispatcher.outbox, event = ifClaimed claimed claimId now before := by
  rw [(claimOutbox_eq_ok h).2.2, Table.mem_modify (leaseEvent_keepsKey _ _)]
  simp only [decide_eq_true_eq]
  constructor
  · rintro ⟨before, hbefore, rfl⟩
    exact ⟨before, hbefore, rfl⟩
  · rintro ⟨before, hbefore, rfl⟩
    exact ⟨before, hbefore, rfl⟩

theorem announces_claim (h : claimSqliteOutboxEvents dispatcher.outbox (passInput claimId now) = .ok (claimed, outbox))
    {event : OutboxEvent} {batch : IngestionBatch} :
    (dispatcher.afterClaim claimId claimed outbox).Announces event batch ↔
      ∃ before, event = ifClaimed claimed claimId now before ∧ dispatcher.Announces before batch := by
  constructor
  · rintro ⟨hstored, hopen, haccepted, hactive, hpayload⟩
    obtain ⟨before, hbefore, rfl⟩ := (mem_claimedOutbox h).mp hstored
    rw [ifClaimed_publishedAt] at hopen
    rw [ifClaimed_payload] at hpayload
    exact ⟨before, rfl, hbefore, hopen, haccepted, hactive, hpayload⟩
  · rintro ⟨before, rfl, hstored, hopen, haccepted, hactive, hpayload⟩
    refine ⟨(mem_claimedOutbox h).mpr ⟨before, hstored, rfl⟩, ?_, haccepted, hactive, ?_⟩
    · rw [ifClaimed_publishedAt]
      exact hopen
    · rw [ifClaimed_payload]
      exact hpayload

theorem claimed_cases (h : claimSqliteOutboxEvents dispatcher.outbox (passInput claimId now) = .ok (claimed, outbox)) :
    ∃ selected : List OutboxEvent, claimed = selected.map (leaseEvent claimId now) ∧
      (selected.Pairwise fun left right => dispatchOrder left right = true) ∧
      (∀ event ∈ selected, event ∈ dispatcher.outbox ∧ event.publishedAt = none ∧
        ifClaimed claimed claimId now event = leaseEvent claimId now event) ∧
      (∀ event ∈ dispatcher.outbox, ifClaimed claimed claimId now event ∉ claimed →
        event ∉ selected ∧ ifClaimed claimed claimId now event = event) ∧
      ∀ event ∈ dispatcher.outbox, (passInput claimId now).eligible event = true → event ∉ selected →
        ∀ earlier ∈ selected, dispatchOrder earlier event = true := by
  obtain ⟨selected, hclaimed, _, hsorted, hselected, hrest⟩ := claimOutbox_selection h
  have hlease : ∀ event ∈ selected, ifClaimed claimed claimId now event = leaseEvent claimId now event := by
    intro event hevent
    have hid : event.id ∈ claimed.map OutboxEvent.id := by
      rw [hclaimed, List.map_map]
      exact List.mem_map.mpr ⟨event, hevent, rfl⟩
    exact if_pos hid
  have hin : ∀ event ∈ selected, ifClaimed claimed claimId now event ∈ claimed := by
    intro event hevent
    rw [hlease event hevent, hclaimed]
    exact List.mem_map_of_mem hevent
  refine ⟨selected, hclaimed, hsorted, ?_, ?_, hrest⟩
  · intro event hevent
    obtain ⟨hstored, heligible⟩ := hselected event hevent
    exact ⟨hstored, (ClaimOutboxInput.eligible_open heligible).1, hlease event hevent⟩
  · intro event hevent hout
    have hnot : event ∉ selected := fun hselect => hout (hin event hselect)
    refine ⟨hnot, if_neg fun hid => hnot ?_⟩
    rw [hclaimed, List.map_map, List.mem_map] at hid
    obtain ⟨other, hother, hsame⟩ := hid
    have heq : other = event := Table.eq_of_key (hselected other hother).1 hevent hsame
    rw [← heq]
    exact hother

theorem Orderly.claim (h : dispatcher.Orderly) (hnone : dispatcher.claimed = [])
    (hok : claimSqliteOutboxEvents dispatcher.outbox (passInput claimId now) = .ok (claimed, outbox)) :
    (dispatcher.afterClaim claimId claimed outbox).Orderly := by
  obtain ⟨selected, hclaimed, hsorted, hselected, hleft, hrest⟩ := claimed_cases hok
  refine ⟨?_, ?_, ?_, ?_, ?_, ?_, ?_, ?_, ?_, ?_, ?_⟩
  · intro batch hbatch hactive
    obtain ⟨event, hevent⟩ := h.announced batch hbatch hactive
    exact ⟨_, (announces_claim hok).mpr ⟨event, rfl, hevent⟩⟩
  · intro event hevent hopen input hpayload
    obtain ⟨before, hbefore, rfl⟩ := (mem_claimedOutbox hok).mp hevent
    rw [ifClaimed_publishedAt] at hopen
    rw [ifClaimed_payload] at hpayload
    exact h.accepted before hbefore hopen input hpayload
  · intro event batch earlier earlierBatch hevent hearlier hendpoint hbefore
    obtain ⟨before, rfl, hold⟩ := (announces_claim hok).mp hevent
    obtain ⟨earlierEvent, rfl, hearlierOld⟩ := (announces_claim hok).mp hearlier
    rw [dispatchOrder_ifClaimed]
    exact h.agree before batch earlierEvent earlierBatch hold hearlierOld hendpoint hbefore
  · intro _
    obtain ⟨_, _, hclaimId, _⟩ := claimOutbox_selection hok
    exact hclaimId
  · intro event hevent
    rw [show (dispatcher.afterClaim claimId claimed outbox).claimed = claimed from rfl, hclaimed] at hevent
    obtain ⟨before, hbefore, rfl⟩ := List.mem_map.mp hevent
    obtain ⟨hstored, hopen, hlease⟩ := hselected before hbefore
    exact ⟨(mem_claimedOutbox hok).mpr ⟨before, hstored, hlease.symm⟩, hopen, rfl⟩
  · exact List.Nodup.of_map OutboxEvent.id (claimOutbox_eq_ok hok).1
  · show claimed.Pairwise _
    rw [hclaimed, List.pairwise_map]
    exact hsorted
  · intro event batch other otherBatch hin hevent hother hendpoint hout
    obtain ⟨later, rfl, hlater⟩ := (announces_claim hok).mp hother
    obtain ⟨hnot, _⟩ := hleft later hlater.stored hout
    rw [show (dispatcher.afterClaim claimId claimed outbox).claimed = claimed from rfl, hclaimed] at hin
    obtain ⟨first, hfirst, rfl⟩ := List.mem_map.mp hin
    obtain ⟨before, hbefore, hannounces⟩ := (announces_claim hok).mp hevent
    have hid : first.id = before.id := by
      have heq := congrArg OutboxEvent.id hbefore
      rwa [ifClaimed_id] at heq
    obtain rfl : first = before := Table.eq_of_key (hselected first hfirst).1 hannounces.stored hid
    rw [hbefore, dispatchOrder_ifClaimed]
    by_cases heligible : (passInput claimId now).eligible later = true
    · exact hrest later hlater.stored heligible hnot first hfirst
    · exact h.last later (delayed_of_not_eligible hnone hlater heligible) otherBatch first batch hlater hannounces
        hendpoint.symm
  · intro event hdelayed batch other otherBatch hevent hother hendpoint
    obtain ⟨before, rfl, hbefore⟩ := (announces_claim hok).mp hevent
    obtain ⟨otherBefore, rfl, hotherBefore⟩ := (announces_claim hok).mp hother
    rw [dispatchOrder_ifClaimed]
    rcases hdelayed with ⟨hout, hlater⟩ | ⟨_, _, hphase⟩
    · obtain ⟨_, hsame⟩ := hleft before hbefore.stored hout
      rw [hsame] at hlater
      exact h.last before (Or.inl ⟨by simp [hnone], hlater⟩) batch otherBefore otherBatch hbefore hotherBefore hendpoint
    · cases hphase
  · intro event input errorMessage _ hphase
    cases hphase
  · intro event _ hended
    rcases hended with hended | ⟨_, hended⟩ <;> cases hended

end Claim

def publishEvent (publishedAt : Int) (event : OutboxEvent) : OutboxEvent :=
  { event with
    dispatchClaimedAt := none
    dispatchClaimId := none
    dispatchLastError := none
    dispatchNextAttemptAt := none
    publishedAt := some publishedAt }

def rescheduleEvent (errorMessage : String) (retryAt : Int) (event : OutboxEvent) : OutboxEvent :=
  { event with
    dispatchClaimedAt := none
    dispatchClaimId := none
    dispatchLastError := some (safeDispatchError errorMessage)
    dispatchNextAttemptAt := some retryAt }

structure KeepsPlace (f : OutboxEvent → OutboxEvent) : Prop where
  id : ∀ event, (f event).id = event.id
  createdAt : ∀ event, (f event).createdAt = event.createdAt
  payload : ∀ event, (f event).payload = event.payload

theorem KeepsPlace.keepsKey {f : OutboxEvent → OutboxEvent} (h : KeepsPlace f) : KeepsKey f :=
  ⟨h.id⟩

theorem publishEvent_keepsPlace (publishedAt : Int) : KeepsPlace (publishEvent publishedAt) :=
  ⟨fun _ => rfl, fun _ => rfl, fun _ => rfl⟩

theorem rescheduleEvent_keepsPlace (errorMessage : String) (retryAt : Int) :
    KeepsPlace (rescheduleEvent errorMessage retryAt) :=
  ⟨fun _ => rfl, fun _ => rfl, fun _ => rfl⟩

section Deliver

variable {event : OutboxEvent} {later : List OutboxEvent} {f : OutboxEvent → OutboxEvent}

def afterDelivery (dispatcher : LocalDispatcher ν) (later : List OutboxEvent) (outbox : Outbox) : LocalDispatcher ν :=
  { dispatcher with workspace := dispatcher.withOutbox outbox, claimed := later, phase := .starting }

def released (dispatcher : LocalDispatcher ν) (event : OutboxEvent) (f : OutboxEvent → OutboxEvent)
    (hf : KeepsPlace f) : Outbox :=
  dispatcher.outbox.modify (heldEvent dispatcher.claimId event.id) f hf.keepsKey

theorem mem_released (hf : KeepsPlace f) (hstored : event ∈ dispatcher.outbox) (hopen : event.publishedAt = none)
    (hclaim : event.dispatchClaimId = some dispatcher.claimId) {other : OutboxEvent} :
    other ∈ dispatcher.released event f hf ↔ other ∈ dispatcher.outbox ∧ other ≠ event ∨ other = f event := by
  have hheld : ∀ candidate ∈ dispatcher.outbox,
      heldEvent dispatcher.claimId event.id candidate = true ↔ candidate = event := by
    intro candidate hcandidate
    rw [heldEvent_iff]
    constructor
    · rintro ⟨hid, _⟩
      exact Table.eq_of_key hcandidate hstored hid
    · rintro rfl
      exact ⟨rfl, hclaim, hopen⟩
  rw [released, Table.mem_modify hf.keepsKey]
  constructor
  · rintro ⟨candidate, hcandidate, rfl⟩
    by_cases heq : candidate = event
    · subst heq
      exact Or.inr (if_pos ((hheld candidate hcandidate).mpr rfl))
    · have hnot := mt (hheld candidate hcandidate).mp heq
      rw [if_neg hnot]
      exact Or.inl ⟨hcandidate, heq⟩
  · rintro (⟨hother, hne⟩ | rfl)
    · exact ⟨other, hother, (if_neg (mt (hheld other hother).mp hne)).symm⟩
    · exact ⟨event, hstored, (if_pos ((hheld event hstored).mpr rfl)).symm⟩

theorem dispatchOrder_congr {a a' b b' : OutboxEvent} (ha : a'.id = a.id ∧ a'.createdAt = a.createdAt)
    (hb : b'.id = b.id ∧ b'.createdAt = b.createdAt) : dispatchOrder a' b' = dispatchOrder a b := by
  simp only [dispatchOrder, ha.1, ha.2, hb.1, hb.2]

theorem Orderly.release (h : dispatcher.Orderly) (hclaimed : dispatcher.claimed = event :: later) (hf : KeepsPlace f)
    (hcases : (∀ batch, ¬ dispatcher.Announces event batch) ∨
      dispatcher.LastOfEndpoint event ∧ (f event).publishedAt = none) :
    (dispatcher.afterDelivery later (dispatcher.released event f hf)).Orderly := by
  obtain ⟨hstored, hopen, hclaim⟩ := h.held event (by simp [hclaimed])
  have hmem : ∀ other, other ∈ dispatcher.released event f hf ↔
      other ∈ dispatcher.outbox ∧ other ≠ event ∨ other = f event :=
    fun other => mem_released hf hstored hopen hclaim
  have hnodup := h.nodup
  have hsorted := h.sorted
  rw [hclaimed] at hnodup hsorted
  obtain ⟨hnotLater, hnodup⟩ := List.nodup_cons.mp hnodup
  have hnow : ∀ other batch, (dispatcher.afterDelivery later (dispatcher.released event f hf)).Announces other batch →
      ∃ before, dispatcher.Announces before batch ∧ (other.id = before.id ∧ other.createdAt = before.createdAt) ∧
        (other = before ∧ before ≠ event ∨ before = event ∧ other = f event ∧ dispatcher.LastOfEndpoint event) := by
    rintro other batch ⟨hother, hotherOpen, haccepted, hactive, hpayload⟩
    rcases (hmem other).mp hother with ⟨hold, hne⟩ | rfl
    · exact ⟨other, ⟨hold, hotherOpen, haccepted, hactive, hpayload⟩, ⟨rfl, rfl⟩, Or.inl ⟨rfl, hne⟩⟩
    · rw [hf.payload] at hpayload
      have hevent : dispatcher.Announces event batch := ⟨hstored, hopen, haccepted, hactive, hpayload⟩
      rcases hcases with hnone | ⟨hlast, _⟩
      · exact absurd hevent (hnone batch)
      · exact ⟨event, hevent, ⟨hf.id event, hf.createdAt event⟩, Or.inr ⟨rfl, rfl, hlast⟩⟩
  have hstill : ∀ other, other ∈ dispatcher.claimed ↔ other = event ∨ other ∈ later := by
    intro other
    rw [hclaimed, List.mem_cons]
  refine ⟨?_, ?_, ?_, ?_, ?_, ?_, ?_, ?_, ?_, ?_, ?_⟩
  · intro batch hbatch hactive
    obtain ⟨other, hother⟩ := h.announced batch hbatch hactive
    by_cases heq : other = event
    · subst heq
      rcases hcases with hnone | ⟨_, hfree⟩
      · exact absurd hother (hnone batch)
      · exact ⟨f other, (hmem _).mpr (Or.inr rfl), hfree, hbatch, hactive, (hf.payload other).trans hother.payload⟩
    · exact ⟨other, (hmem other).mpr (Or.inl ⟨hother.stored, heq⟩), hother.unpublished, hbatch, hactive, hother.payload⟩
  · intro other hother hotherOpen input hpayload
    rcases (hmem other).mp hother with ⟨hold, _⟩ | rfl
    · exact h.accepted other hold hotherOpen input hpayload
    · rw [hf.payload] at hpayload
      exact h.accepted event hstored hopen input hpayload
  · intro other batch earlier earlierBatch hother hearlier hendpoint hbefore
    obtain ⟨old, hold, hplace, _⟩ := hnow other batch hother
    obtain ⟨earlierOld, hearlierOld, hearlierPlace, _⟩ := hnow earlier earlierBatch hearlier
    rw [dispatchOrder_congr hplace hearlierPlace]
    exact h.agree old batch earlierOld earlierBatch hold hearlierOld hendpoint hbefore
  · intro _
    exact h.claimId (by simp [hclaimed])
  · intro other hother
    obtain ⟨hold, hrest⟩ := h.held other ((hstill other).mpr (Or.inr hother))
    exact ⟨(hmem other).mpr (Or.inl ⟨hold, fun heq => hnotLater (heq ▸ hother)⟩), hrest⟩
  · exact hnodup
  · exact (List.pairwise_cons.mp hsorted).2
  · intro first batch other otherBatch hfirst hannounces hother hendpoint hout
    obtain ⟨old, hold, hplace, hwhich⟩ := hnow first batch hannounces
    obtain ⟨otherOld, hotherOld, hotherPlace, hotherWhich⟩ := hnow other otherBatch hother
    have hclaimedFirst : first ∈ dispatcher.claimed := (hstill first).mpr (Or.inr hfirst)
    have hstoredFirst := (h.held first hclaimedFirst).1
    have hsame : first = old := by
      rcases hwhich with ⟨rfl, _⟩ | ⟨rfl, _, _⟩
      · rfl
      · exact Table.eq_of_key hstoredFirst hstored hplace.1
    rw [dispatchOrder_congr hplace hotherPlace, ← hsame]
    rcases hotherWhich with ⟨rfl, hne⟩ | ⟨rfl, _, hlast⟩
    · refine h.first first batch other otherBatch hclaimedFirst (hsame ▸ hold) hotherOld hendpoint ?_
      rw [hstill]
      exact fun hin => hin.elim hne hout
    · exact hlast otherBatch first batch hotherOld (hsame ▸ hold) hendpoint.symm
  · intro other hdelayed batch next nextBatch hother hnext hendpoint
    obtain ⟨old, hold, hplace, hwhich⟩ := hnow other batch hother
    obtain ⟨nextOld, hnextOld, hnextPlace, _⟩ := hnow next nextBatch hnext
    rw [dispatchOrder_congr hnextPlace hplace]
    rcases hwhich with ⟨rfl, hne⟩ | ⟨rfl, _, hlast⟩
    · rcases hdelayed with ⟨hout, hlater⟩ | ⟨_, _, hphase⟩
      · have hnot : other ∉ dispatcher.claimed := by
          rw [hstill]
          exact fun hin => hin.elim hne hout
        exact h.last other (Or.inl ⟨hnot, hlater⟩) batch nextOld nextBatch hold hnextOld hendpoint
      · cases hphase
    · exact hlast batch nextOld nextBatch hold hnextOld hendpoint
  · intro other input errorMessage _ hphase
    cases hphase
  · intro other _ hended
    rcases hended with hended | ⟨_, hended⟩ <;> cases hended

theorem complete_of_held {outbox : Outbox} {claimId : String} (hclaimId : isClaimId claimId = true)
    (hstored : event ∈ outbox) (hopen : event.publishedAt = none) (hclaim : event.dispatchClaimId = some claimId)
    (publishedAt : Int) : completeSqliteOutboxEvent outbox claimId event.id publishedAt =
      .ok (outbox.modify (heldEvent claimId event.id) (publishEvent publishedAt) (publishEvent_keepsPlace _).keepsKey) := by
  have hany : outbox.records.any (heldEvent claimId event.id) = true :=
    List.any_eq_true.mpr ⟨event, hstored, heldEvent_iff.mpr ⟨rfl, hclaim, hopen⟩⟩
  rw [completeSqliteOutboxEvent, hclaimId, hany]
  rfl

theorem retry_of_held {outbox : Outbox} {claimId : String} (hclaimId : isClaimId claimId = true)
    (hstored : event ∈ outbox) (hopen : event.publishedAt = none) (hclaim : event.dispatchClaimId = some claimId)
    (errorMessage : String) (retryAt : Int) : retrySqliteOutboxEvent outbox claimId event.id errorMessage retryAt =
      .ok (outbox.modify (heldEvent claimId event.id) (rescheduleEvent errorMessage retryAt)
        (rescheduleEvent_keepsPlace _ _).keepsKey) := by
  have hany : outbox.records.any (heldEvent claimId event.id) = true :=
    List.any_eq_true.mpr ⟨event, hstored, heldEvent_iff.mpr ⟨rfl, hclaim, hopen⟩⟩
  rw [retrySqliteOutboxEvent, hclaimId, hany]
  rfl

theorem Orderly.deliverEvent (h : dispatcher.Orderly) (hclaimed : dispatcher.claimed = event :: later)
    (hended : dispatcher.phase.ended = true) (now : Int) :
    ∃ f, ∃ hf : KeepsPlace f, dispatcher.deliverEvent event now = .ok (dispatcher.released event f hf) ∧
      ((∀ batch, ¬ dispatcher.Announces event batch) ∨
        dispatcher.LastOfEndpoint event ∧ (f event).publishedAt = none) := by
  obtain ⟨hstored, hopen, hclaim⟩ := h.held event (by simp [hclaimed])
  have hclaimId := h.claimId (by simp [hclaimed])
  have hhead : dispatcher.claimed.head? = some event := by simp [hclaimed]
  have hcomplete := complete_of_held hclaimId hstored hopen hclaim now
  unfold LocalDispatcher.deliverEvent
  cases hphase : dispatcher.phase with
  | starting =>
    rw [hphase] at hended
    cases hended
  | applying =>
    rw [hphase] at hended
    cases hended
  | returned => exact ⟨_, publishEvent_keepsPlace now, hcomplete, Or.inl (h.settled event hhead (Or.inl hphase))⟩
  | failed nonRetryable errorMessage =>
    cases nonRetryable with
    | true =>
      exact ⟨_, publishEvent_keepsPlace now, hcomplete,
        Or.inl (h.settled event hhead (Or.inr ⟨errorMessage, hphase⟩))⟩
    | false =>
      dsimp only
      by_cases hretries : maximumWorkerTaskRetries event.payload ≤ event.retryCount
      · rw [if_pos (by simp [hretries])]
        refine ⟨_, publishEvent_keepsPlace now, hcomplete, Or.inl fun batch hannounces => ?_⟩
        have hexecuting : dispatcher.executing = some (event, ⟨batch.id, batch.endpointId, batch.tableId⟩) :=
          executing_eq_some.mpr ⟨hhead, hannounces.payload⟩
        have hretry := h.retried event _ errorMessage hexecuting hphase
        rw [hannounces.payload] at hretries
        exact absurd hretry (Nat.not_lt.mpr hretries)
      · rw [if_neg (by simpa using hretries)]
        exact ⟨_, rescheduleEvent_keepsPlace _ _, retry_of_held hclaimId hstored hopen hclaim _ _,
          Or.inr ⟨h.last event (Or.inr ⟨hhead, errorMessage, hphase⟩), hopen⟩⟩

end Deliver

theorem Orderly.abandon (h : dispatcher.Orderly)
    (hlast : ∀ event ∈ dispatcher.claimed, dispatcher.LastOfEndpoint event) :
    ({ dispatcher with claimed := [], phase := .starting } : LocalDispatcher ν).Orderly := by
  have hnow : ∀ {event batch}, ({ dispatcher with claimed := [], phase := .starting } : LocalDispatcher ν).Announces
      event batch → dispatcher.Announces event batch := fun hevent => ⟨hevent.1, hevent.2, hevent.3, hevent.4, hevent.5⟩
  refine ⟨?_, h.accepted, ?_, fun hne => absurd rfl hne, fun _ hnone => absurd hnone List.not_mem_nil, List.nodup_nil,
    List.Pairwise.nil, fun _ _ _ _ hnone => absurd hnone List.not_mem_nil, ?_, ?_, ?_⟩
  · intro batch hbatch hactive
    obtain ⟨event, hevent⟩ := h.announced batch hbatch hactive
    exact ⟨event, hevent.1, hevent.2, hevent.3, hevent.4, hevent.5⟩
  · intro event batch earlier earlierBatch hevent hearlier
    exact h.agree event batch earlier earlierBatch (hnow hevent) (hnow hearlier)
  · intro event hdelayed batch other otherBatch hevent hother hendpoint
    have hevery : dispatcher.LastOfEndpoint event := by
      by_cases hin : event ∈ dispatcher.claimed
      · exact hlast event hin
      · rcases hdelayed with ⟨_, hlater⟩ | ⟨hhead, _⟩
        · exact h.last event (Or.inl ⟨hin, hlater⟩)
        · cases hhead
    exact hevery batch other otherBatch (hnow hevent) (hnow hother) hendpoint
  · intro event input errorMessage _ hphase
    cases hphase
  · intro event hhead
    cases hhead

section Stage

variable {input : StageIngestionBatch} {workspace' : IngestionWorkspace ν}

structure Accepts (workspace : IngestionWorkspace ν) (input : StageIngestionBatch) (workspace' : IngestionWorkspace ν)
    (batch : IngestionBatch) (event : OutboxEvent) : Prop where
  batches : workspace.batches.insert batch = some workspace'.batches
  outbox : workspace.db.outbox.insert event = some workspace'.db.outbox
  id : batch.id = input.batchId
  endpointId : batch.endpointId = input.endpointId
  createdAt : batch.createdAt = input.now
  eventId : event.id = input.eventId
  eventCreatedAt : event.createdAt = input.now
  unpublished : event.publishedAt = none
  free : event.dispatchClaimId = none ∧ event.dispatchNextAttemptAt = none
  payload : event.payload = .ingestionBatchRequested ⟨batch.id, batch.endpointId, batch.tableId⟩

theorem stage_cases {workspace : IngestionWorkspace ν} (h : stageSqliteIngestionBatch workspace input = .ok workspace') :
    workspace' = workspace ∨
      (∀ batch ∈ workspace.batches, batch.endpointId = input.endpointId →
        batch.idempotencyKey ≠ input.idempotencyKey) ∧
      ∃ batch event, Accepts workspace input workspace' batch event := by
  simp only [stageSqliteIngestionBatch, except_bind_eq_ok, requireSome_eq_ok, requireThat_eq_ok] at h
  obtain ⟨endpoint, hendpoint, _, _, hrest⟩ := h
  have hid : endpoint.id = input.endpointId := (Table.get?_eq_some.mp (Option.filter_eq_some_iff.mp hendpoint).1).2
  split at hrest
  · simp only [except_bind_eq_ok, pure, Except.pure, Except.ok.injEq] at hrest
    obtain ⟨_, _, rfl⟩ := hrest
    exact Or.inl rfl
  · rename_i hfresh
    simp only [except_bind_eq_ok, requireSome_eq_ok, requireThat_eq_ok, pure, Except.pure, Except.ok.injEq] at hrest
    obtain ⟨batches, hbatches, _, _, _, _, _, _, outbox, houtbox, rfl⟩ := hrest
    refine Or.inr ⟨?_, _, _, hbatches, houtbox, rfl, hid, rfl, rfl, rfl, rfl, ⟨rfl, rfl⟩, rfl⟩
    intro batch hbatch hsame hkey
    have hnone := List.find?_eq_none.mp hfresh batch hbatch
    simp [hsame, hkey, hid] at hnone

theorem acceptedBefore_eq (batch : IngestionBatch) {other : IngestionBatch} :
    createdBefore batch other = acceptedBefore batch.createdAt batch.id other.createdAt other.id := rfl

theorem id_le_iff {left right : String} (hne : left ≠ right) : left ≤ right ↔ left < right := by
  constructor
  · intro hle
    by_contra hnot
    exact hne (String.le_antisymm hle (String.not_lt.mp hnot))
  · intro hlt
    exact String.not_lt.mp (String.lt_asymm hlt)

theorem dispatchOrder_eq {left right : OutboxEvent} (hne : left.id ≠ right.id) :
    dispatchOrder left right = acceptedBefore left.createdAt left.id right.createdAt right.id ∧
      dispatchOrder right left = !acceptedBefore left.createdAt left.id right.createdAt right.id := by
  have hge : right.id ≤ left.id ↔ ¬ left.id < right.id := String.not_lt.symm
  simp only [dispatchOrder, acceptedBefore, id_le_iff hne, hge, true_and]
  rcases lt_trichotomy left.createdAt right.createdAt with hlt | heq | hgt
  · simp [hlt, not_lt.mpr hlt.le, hlt.ne']
  · simp [heq]
  · simp [hgt, not_lt.mpr hgt.le, hgt.ne']

theorem createdBefore_flip {left right : IngestionBatch} (hne : left.id ≠ right.id) :
    createdBefore right left = !createdBefore left right := by
  have hlt : right.id < left.id ↔ ¬ left.id < right.id := by
    constructor
    · exact String.lt_asymm
    · intro hnot
      exact (id_le_iff hne.symm).mp (String.not_lt.mp hnot)
  simp only [createdBefore, hlt]
  rcases lt_trichotomy left.createdAt right.createdAt with hlt' | heq | hgt
  · simp [hlt', not_lt.mpr hlt'.le, hlt'.ne']
  · simp [heq]
  · simp [hgt, not_lt.mpr hgt.le, hgt.ne']

theorem Orderly.accept (h : dispatcher.Orderly) {batch : IngestionBatch} {event : OutboxEvent}
    (haccepts : Accepts dispatcher.workspace input workspace' batch event) (hsafe : dispatcher.StagedInOrder input) :
    ({ dispatcher with workspace := workspace' } : LocalDispatcher ν).Orderly := by
  have hbatchMem : ∀ other, other ∈ workspace'.batches ↔ other ∈ dispatcher.batches ∨ other = batch :=
    fun _ => Table.mem_insert haccepts.batches
  have heventMem : ∀ other, other ∈ workspace'.db.outbox ↔ other ∈ dispatcher.outbox ∨ other = event :=
    fun _ => Table.mem_insert haccepts.outbox
  have hbatchFresh : ∀ other ∈ dispatcher.batches, other.id ≠ batch.id :=
    Table.get?_eq_none.mp (Table.insert_eq_some haccepts.batches).2
  have heventFresh : ∀ other ∈ dispatcher.outbox, other.id ≠ event.id :=
    Table.get?_eq_none.mp (Table.insert_eq_some haccepts.outbox).2
  have hnow : ∀ other otherBatch, ({ dispatcher with workspace := workspace' } : LocalDispatcher ν).Announces other
      otherBatch → dispatcher.Announces other otherBatch ∨ other = event ∧ otherBatch = batch := by
    rintro other otherBatch ⟨hother, hopen, hotherBatch, hactive, hpayload⟩
    rcases (heventMem other).mp hother with hold | rfl <;> rcases (hbatchMem otherBatch).mp hotherBatch with hin | rfl
    · exact Or.inl ⟨hold, hopen, hin, hactive, hpayload⟩
    · obtain ⟨known, hknown, hinput⟩ := h.accepted other hold hopen _ hpayload
      exact absurd (congrArg IngestionBatchInput.batchId hinput).symm (hbatchFresh known hknown)
    · have heq := haccepts.payload.symm.trans hpayload
      simp only [OutboxPayload.ingestionBatchRequested.injEq, IngestionBatchInput.mk.injEq] at heq
      exact absurd heq.1.symm (hbatchFresh otherBatch hin)
    · exact Or.inr ⟨rfl, rfl⟩
  -- how an older event of the endpoint stands to the new one
  have hplace : ∀ other otherBatch, dispatcher.Announces other otherBatch → otherBatch.endpointId = batch.endpointId →
      dispatchOrder other event = createdBefore otherBatch batch ∧
        dispatchOrder event other = createdBefore batch otherBatch ∧
        (other ∈ dispatcher.claimed → createdBefore otherBatch batch = true) ∧
        (dispatcher.Delayed other → createdBefore otherBatch batch = false) := by
    intro other otherBatch hother hsame
    obtain ⟨horder, hclaimed, hdelayed⟩ := hsafe other otherBatch hother (hsame.trans haccepts.endpointId)
    have hids := dispatchOrder_eq (heventFresh other hother.stored)
    rw [haccepts.eventId, haccepts.eventCreatedAt, horder] at hids
    rw [createdBefore_flip (hbatchFresh otherBatch hother.accepted), acceptedBefore_eq, haccepts.createdAt, haccepts.id]
    exact ⟨hids.1, hids.2, hclaimed, hdelayed⟩
  have hnotClaimed : event ∉ dispatcher.claimed := fun hin => heventFresh event (h.held event hin).1 rfl
  refine ⟨?_, ?_, ?_, h.claimId, ?_, h.nodup, h.sorted, ?_, ?_, h.retried, ?_⟩
  · intro other hother hactive
    rcases (hbatchMem other).mp hother with hold | rfl
    · obtain ⟨known, hknown⟩ := h.announced other hold hactive
      exact ⟨known, (heventMem known).mpr (Or.inl hknown.stored), hknown.unpublished, hother, hactive, hknown.payload⟩
    · exact ⟨event, (heventMem event).mpr (Or.inr rfl), haccepts.unpublished, hother, hactive, haccepts.payload⟩
  · intro other hother hopen given hpayload
    rcases (heventMem other).mp hother with hold | rfl
    · obtain ⟨known, hknown, hinput⟩ := h.accepted other hold hopen given hpayload
      exact ⟨known, (hbatchMem known).mpr (Or.inl hknown), hinput⟩
    · refine ⟨batch, (hbatchMem batch).mpr (Or.inr rfl), ?_⟩
      rw [haccepts.payload, OutboxPayload.ingestionBatchRequested.injEq] at hpayload
      exact hpayload.symm
  · intro other otherBatch earlier earlierBatch hother hearlier hendpoint hbefore
    rcases hnow other otherBatch hother with hold | ⟨rfl, rfl⟩ <;>
      rcases hnow earlier earlierBatch hearlier with hearlierOld | ⟨rfl, rfl⟩
    · exact h.agree other otherBatch earlier earlierBatch hold hearlierOld hendpoint hbefore
    · rw [(hplace other otherBatch hold hendpoint.symm).1,
        ← Bool.not_eq_true, ← Bool.not_eq_false, Bool.not_eq_false]
      rw [createdBefore_flip (hbatchFresh otherBatch hold.accepted), Bool.not_eq_true'] at hbefore
      simp [hbefore]
    · have hold := hplace earlier earlierBatch hearlierOld hendpoint
      rw [hold.2.1, createdBefore_flip (hbatchFresh earlierBatch hearlierOld.accepted), hbefore]
      rfl
    · rw [createdBefore_self] at hbefore
      cases hbefore
  · intro other hother
    obtain ⟨hstored, hrest⟩ := h.held other hother
    exact ⟨(heventMem other).mpr (Or.inl hstored), hrest⟩
  · intro first firstBatch other otherBatch hfirst hannounces hother hendpoint hout
    have hfirstOld : dispatcher.Announces first firstBatch := by
      rcases hnow first firstBatch hannounces with hold | ⟨rfl, _⟩
      · exact hold
      · exact absurd hfirst hnotClaimed
    rcases hnow other otherBatch hother with hold | ⟨rfl, rfl⟩
    · exact h.first first firstBatch other otherBatch hfirst hfirstOld hold hendpoint hout
    · obtain ⟨horder, _, hclaimed, _⟩ := hplace first firstBatch hfirstOld hendpoint.symm
      rw [horder]
      exact hclaimed hfirst
  · intro other hdelayed otherBatch next nextBatch hother hnext hendpoint
    have holdDelayed : other ≠ event := by
      rintro rfl
      rcases hdelayed with ⟨_, hlater⟩ | ⟨hhead, _⟩
      · simp [haccepts.free.1, haccepts.free.2] at hlater
      · exact hnotClaimed (List.mem_of_mem_head? hhead)
    have hold : dispatcher.Announces other otherBatch := by
      rcases hnow other otherBatch hother with hold | ⟨heq, _⟩
      · exact hold
      · exact absurd heq holdDelayed
    rcases hnow next nextBatch hnext with hnextOld | ⟨rfl, rfl⟩
    · exact h.last other hdelayed otherBatch next nextBatch hold hnextOld hendpoint
    · obtain ⟨_, horder, _, hlater⟩ := hplace other otherBatch hold hendpoint.symm
      rw [horder, createdBefore_flip (hbatchFresh otherBatch hold.accepted), hlater hdelayed]
      rfl
  · intro other hhead hended otherBatch hother
    rcases hnow other otherBatch hother with hold | ⟨rfl, _⟩
    · exact h.settled other hhead hended otherBatch hold
    · exact hnotClaimed (List.mem_of_mem_head? hhead)

end Stage

section Runs

variable [JsRuntime ν] [ConnectorRuntime ν]

omit [JsRuntime ν] [ConnectorRuntime ν] in
theorem commit_phase (dispatcher : LocalDispatcher ν) (result : Except StoreError (IngestionWorkspace ν)) :
    (dispatcher.commit result).phase = dispatcher.phase := rfl

omit [JsRuntime ν] [ConnectorRuntime ν] in
theorem quiet_commit (dispatcher : LocalDispatcher ν) {result : Except StoreError (IngestionWorkspace ν)}
    (h : ∀ next, result = .ok next → next.batches = dispatcher.batches ∧ next.db.outbox = dispatcher.outbox) :
    Quiet dispatcher (dispatcher.commit result) := by
  cases result with
  | error _ => exact ⟨rfl, rfl, .refl _, .refl _⟩
  | ok next =>
    obtain ⟨hbatches, houtbox⟩ := h next rfl
    refine ⟨rfl, rfl, ?_, ?_⟩
    · show BatchesKept dispatcher.batches next.batches
      rw [hbatches]
      exact .refl _
    · show OutboxGrows dispatcher.outbox next.db.outbox
      rw [houtbox]
      exact .refl _

omit [JsRuntime ν] in
theorem createEndpoint_quiet (dispatcher : LocalDispatcher ν) (input : CreateIngestionEndpoint) :
    Quiet dispatcher (dispatcher.commit (createSqliteIngestionEndpoint dispatcher.workspace input)) := by
  refine quiet_commit dispatcher fun next hok => ?_
  simp only [createSqliteIngestionEndpoint, except_bind_eq_ok, pure, Except.pure, Except.ok.injEq] at hok
  obtain ⟨_, _, _, _, _, _, _, _, _, _, rfl⟩ := hok
  exact ⟨rfl, rfl⟩

omit [JsRuntime ν] [ConnectorRuntime ν] in
theorem revokeEndpoint_quiet (dispatcher : LocalDispatcher ν) (input : RevokeIngestionEndpoint) :
    Quiet dispatcher (dispatcher.commit (revokeSqliteIngestionEndpoint dispatcher.workspace input)) := by
  refine quiet_commit dispatcher fun next hok => ?_
  simp only [revokeSqliteIngestionEndpoint, except_bind_eq_ok, pure, Except.pure, Except.ok.injEq] at hok
  obtain ⟨_, _, _, _, rfl⟩ := hok
  exact ⟨rfl, rfl⟩

omit [JsRuntime ν] [ConnectorRuntime ν] in
theorem Orderly.finish (h : dispatcher.Orderly) (hother : dispatcher.executing = none) (phase : TaskPhase) :
    ({ dispatcher with phase := phase } : LocalDispatcher ν).Orderly := by
  have hnone : ∀ event batch, dispatcher.claimed.head? = some event → ¬ dispatcher.Announces event batch := by
    intro event batch hhead hannounces
    rw [executing_eq_some.mpr ⟨hhead, hannounces.payload⟩] at hother
    cases hother
  refine h.quiet ⟨rfl, rfl, .refl _, .refl _⟩ ?_ ?_
  · intro event errorMessage hhead _
    refine ⟨fun batch _ _ hannounces => absurd hannounces (hnone event batch hhead), fun input hpayload => ?_⟩
    rw [executing_eq_some.mpr ⟨hhead, hpayload⟩] at hother
    cases hother
  · intro event hhead _ batch hannounces
    exact hnone event batch hhead ⟨hannounces.1, hannounces.2, hannounces.3, hannounces.4, hannounces.5⟩

theorem Orderly.step (h : dispatcher.Orderly) {action : DispatcherAction ν} (hsafe : dispatcher.SafeStep action) :
    (dispatcher.step action).Orderly := by
  cases action with
  | createEndpoint input =>
    rw [LocalDispatcher.step]
    exact h.quiet_phase (createEndpoint_quiet dispatcher input) (commit_phase _ _)
  | revokeEndpoint input =>
    rw [LocalDispatcher.step]
    exact h.quiet_phase (revokeEndpoint_quiet dispatcher input) (commit_phase _ _)
  | stage input =>
    cases hok : stageSqliteIngestionBatch dispatcher.workspace input with
    | error _ =>
      rw [LocalDispatcher.step, hok]
      exact h
    | ok workspace' =>
      rw [LocalDispatcher.step, hok]
      rcases stage_cases hok with rfl | ⟨hfresh, batch, event, haccepts⟩
      · exact h
      · exact h.accept haccepts (hsafe hfresh)
  | other db events =>
    rw [LocalDispatcher.step]
    split
    · rename_i outbox hinsert
      refine h.quiet_phase ⟨rfl, rfl, .refl _, ?_, ?_⟩ rfl
      · intro event hevent
        exact (Table.mem_insertAll hinsert).mpr (Or.inl hevent)
      · intro event hevent
        rcases (Table.mem_insertAll hinsert).mp hevent with hold | hadded
        · exact Or.inl hold
        · exact Or.inr (Option.isNone_iff_eq_none.mp (List.mem_filter.mp hadded).2)
    · exact h
  | claim claimId now =>
    rw [LocalDispatcher.step]
    split
    · rename_i hnone
      split
      · rename_i claimed outbox hok
        exact h.claim hnone hok
      · exact h
    · exact h
  | poll now =>
    rw [LocalDispatcher.step]
    split
    · rename_i hexecuting
      exact h.pollTask hexecuting now
    · exact h
  | apply chunk =>
    rw [LocalDispatcher.step]
    split
    · rename_i hphase hexecuting
      exact h.applyTask hexecuting chunk (hsafe hphase _ _ hexecuting)
    · exact h
  | interrupt errorMessage now =>
    rw [LocalDispatcher.step]
    split
    · rename_i hended hexecuting
      exact h.failTask hexecuting _ _ _ fun _ => hsafe hended _ _ hexecuting
    · exact h
  | finish failure =>
    rw [LocalDispatcher.step]
    split
    · rename_i hexecuting
      exact h.finish hexecuting _
    · exact h
  | deliver now =>
    rw [LocalDispatcher.step]
    split
    · rename_i event later hended hclaimed
      obtain ⟨f, hf, hok, hcases⟩ := h.deliverEvent hclaimed hended now
      rw [hok]
      exact h.release hclaimed hf hcases
    · exact h
  | abandon => exact h.abandon hsafe

structure Fresh (dispatcher : LocalDispatcher ν) : Prop where
  batches : dispatcher.batches = Table.empty
  outbox : ∀ event ∈ dispatcher.outbox, event.payload.ingestionInput = none
  claimed : dispatcher.claimed = []

omit [JsRuntime ν] [ConnectorRuntime ν] in
theorem Fresh.orderly (h : dispatcher.Fresh) : dispatcher.Orderly := by
  have hnone : ∀ event batch, ¬ dispatcher.Announces event batch := by
    intro event batch hannounces
    have hin := hannounces.accepted
    rw [h.batches] at hin
    exact Table.not_mem_empty hin
  have hhead : dispatcher.claimed.head? = none := by rw [h.claimed, List.head?_nil]
  refine ⟨?_, ?_, fun event batch _ _ hevent => absurd hevent (hnone event batch), fun hne => absurd h.claimed hne, ?_,
    ?_, ?_, fun event batch _ _ _ hevent => absurd hevent (hnone event batch),
    fun event _ batch _ _ hevent => absurd hevent (hnone event batch), ?_, ?_⟩
  · intro batch hbatch
    rw [h.batches] at hbatch
    exact absurd hbatch Table.not_mem_empty
  · intro event hevent _ input hpayload
    have hother := h.outbox event hevent
    rw [hpayload] at hother
    cases hother
  · rw [h.claimed]
    exact fun _ hevent => absurd hevent List.not_mem_nil
  · rw [h.claimed]
    exact List.nodup_nil
  · rw [h.claimed]
    exact List.Pairwise.nil
  · intro event input _ hexecuting
    rw [(executing_eq_some.mp hexecuting).1] at hhead
    cases hhead
  · intro event hevent
    rw [hevent] at hhead
    cases hhead

/-- At every point of the run the batch in execution leaves its wait. -/
theorem localDispatcher_proceeds {actions : List (DispatcherAction ν)} (hfresh : dispatcher.Fresh)
    (hsafe : EachStep LocalDispatcher.step SafeStep dispatcher actions) :
    ∀ earlier later, actions = earlier ++ later → (dispatcher.run earlier).Proceeds := by
  intro earlier later hactions
  rw [hactions] at hsafe
  have hreached : (dispatcher.run earlier).Orderly :=
    EachStep.invariant (fun _ _ h hstep => h.step hstep) hsafe.append.1 hfresh.orderly
  exact hreached.proceeds

end Runs

section Sample

def contactDispatcher : LocalDispatcher SafeInteger :=
  { workspace := contactWorkspace }

def contactStage (batchId idempotencyKey : String) (now : Int) : DispatcherAction SafeInteger :=
  .stage
    { batch := ⟨["email"], [⟨"ada", [("email", some "ada@example.com")]⟩]⟩
      endpointId := "crm"
      idempotencyKey := idempotencyKey
      requestDigest := "d5579c46dfcc7f18207013e65b44e4cb4e2c2298f4ac457ba8f82743f31e930b"
      tokenHash := contactEndpoint.tokenHash
      batchId := batchId
      eventId := batchId
      now := now }

def contactPass : List (DispatcherAction SafeInteger) :=
  [contactStage "a" "delivery-1" 1, contactStage "b" "delivery-2" 2, .claim "pass" 3, .poll 4, .apply (contactChunk "a"),
    .apply (contactChunk "a"), .deliver 5, .poll 6]

theorem contactDispatcher_fresh : contactDispatcher.Fresh :=
  ⟨rfl, fun _ hevent => absurd hevent Table.not_mem_empty, rfl⟩

theorem apply_safe {dispatcher : LocalDispatcher SafeInteger} {chunk : IngestionChunk} {event : OutboxEvent}
    (input : IngestionBatchInput) (hexecuting : dispatcher.executing = some (event, input))
    (hok : (applySqliteIngestionBatchChunk dispatcher.workspace { chunk with batch := input }).isOk = true) :
    dispatcher.SafeStep (.apply chunk) := by
  intro _ other given hother error herror
  rw [hexecuting, Option.some.injEq, Prod.mk.injEq] at hother
  rw [← hother.2] at herror
  rw [herror] at hok
  cases hok

theorem contactPass_safe : EachStep LocalDispatcher.step SafeStep contactDispatcher contactPass := by
  refine ⟨?_, ?_, trivial, trivial, ?_, ?_, trivial, trivial, trivial⟩
  · intro _ event batch hannounces
    exact absurd hannounces.accepted Table.not_mem_empty
  · intro _ event batch hannounces _
    have hevents : (contactDispatcher.step (contactStage "a" "delivery-1" 1)).outbox.records =
        [⟨"a", .ingestionBatchRequested (contactInput "a"), 1, none, none, none, 0, none, none⟩] := rfl
    have hbatches : (contactDispatcher.step (contactStage "a" "delivery-1" 1)).batches.records =
        [{ acceptedBatch "a" "delivery-1" with createdAt := 1 }] := rfl
    have hevent := hannounces.stored
    have hbatch := hannounces.accepted
    rw [Table.mem_def, hevents] at hevent
    rw [Table.mem_def, hbatches] at hbatch
    rw [List.mem_singleton.mp hevent, List.mem_singleton.mp hbatch]
    refine ⟨by decide, fun _ => by decide, ?_⟩
    rintro (⟨_, hlater⟩ | ⟨hhead, _⟩)
    · simp at hlater
    · cases hhead
  · exact apply_safe (contactInput "a") rfl rfl
  · exact apply_safe (contactInput "a") rfl rfl

theorem localDispatcher_proceeds_contacts : (contactDispatcher.run (contactPass.take 3)).Proceeds :=
  localDispatcher_proceeds contactDispatcher_fresh contactPass_safe (contactPass.take 3) (contactPass.drop 3) rfl

/-- The first delivery is to be attempted again when the second one, claimed with
it, waits for its end. -/
def contactRetry : List (DispatcherAction SafeInteger) :=
  [contactStage "a" "delivery-1" 1, contactStage "b" "delivery-2" 2, .claim "pass" 3, .poll 4,
    .interrupt "The database is locked." 5, .deliver 6]

theorem localDispatcher_waits : contactDispatcher.Fresh ∧ ¬ (contactDispatcher.run contactRetry).Proceeds := by
  refine ⟨contactDispatcher_fresh, fun h => ?_⟩
  have hends := h _ (contactInput "b") rfl rfl
  rw [waitEnds_iff] at hends
  exact hends 7 _ rfl

end Sample

end LocalDispatcher

end ByokGrid
