import ByokGrid.CellRunContract
import ByokGrid.Ingestion
import ByokGrid.Transition
import Mathlib.Data.List.Pairwise

/-! The batches of an endpoint under any interleaving of their workers: they run
one at a time in the order of acceptance, as long as that order is the one of
their creation times and ids. -/

namespace ByokGrid

section System

variable {ν : Type} [JsRuntime ν] [ConnectorRuntime ν]

/-- A transaction of an endpoint or of a worker, or a change of the database by
any other code. -/
inductive IngestionAction (ν : Type) where
  | createEndpoint (input : CreateIngestionEndpoint)
  | revokeEndpoint (input : RevokeIngestionEndpoint)
  | stage (input : StageIngestionBatch)
  | start (input : IngestionBatchInput) (now : Int)
  | apply (input : IngestionChunk)
  | fail (failure : IngestionFailure)
  | other (db : Database ν)

def IngestionWorkspace.commit (workspace : IngestionWorkspace ν) :
    Except StoreError (IngestionWorkspace ν) → IngestionWorkspace ν
  | .ok next => next
  | .error _ => workspace

def IngestionWorkspace.withStore (workspace : IngestionWorkspace ν) (store : IngestionStore) : IngestionWorkspace ν :=
  { workspace with ingestion := store }

def IngestionWorkspace.step (workspace : IngestionWorkspace ν) : IngestionAction ν → IngestionWorkspace ν
  | .createEndpoint input => workspace.commit (createSqliteIngestionEndpoint workspace input)
  | .revokeEndpoint input => workspace.commit (revokeSqliteIngestionEndpoint workspace input)
  | .stage input => workspace.commit (stageSqliteIngestionBatch workspace input)
  | .start input now => workspace.commit ((markSqliteIngestionBatchRunning workspace.ingestion input now).map
      fun result => workspace.withStore result.2)
  | .apply input => workspace.commit (applySqliteIngestionBatchChunk workspace input)
  | .fail failure => workspace.withStore (setSqliteIngestionBatchWorkerFailure workspace.ingestion failure)
  | .other db => { workspace with db := db }

def IngestionWorkspace.batches (workspace : IngestionWorkspace ν) : Table IngestionBatch :=
  workspace.ingestion.batches

end System

section Steps

variable {ν : Type}

def FirstCreated (batches : Table IngestionBatch) (batch : IngestionBatch) : Prop :=
  ∀ other ∈ batches, other.endpointId = batch.endpointId → other.status.active = true →
    createdBefore other batch = false

def Startable (workspace : IngestionWorkspace ν) (input : IngestionBatchInput) (batch : IngestionBatch) : Prop :=
  workspace.batches.get? input.batchId = some batch ∧ batchScope input batch = true ∧
    batch.status.active = true ∧ FirstCreated workspace.batches batch

structure StartsNone (p : IngestionBatch → Bool) (f : IngestionBatch → IngestionBatch) : Prop where
  keepsKey : KeepsKey f
  active : ∀ batch, p batch = true → batch.status.active = true
  endpoint : ∀ batch, (f batch).endpointId = batch.endpointId
  running : ∀ batch, p batch = true → (f batch).status = .running → batch.status = .running

inductive BatchChange (batches : Table IngestionBatch) : Table IngestionBatch → Prop where
  | none : BatchChange batches batches
  | accepted (batch : IngestionBatch) (batches' : Table IngestionBatch) (hqueued : batch.status = .queued)
      (hinsert : batches.insert batch = some batches') : BatchChange batches batches'
  | updated (p : IngestionBatch → Bool) (f : IngestionBatch → IngestionBatch) (h : StartsNone p f) :
      BatchChange batches (batches.modify p f h.keepsKey)

theorem startBatchAttempt_keepsKey (now : Int) : KeepsKey (startBatchAttempt now) :=
  ⟨fun _ => rfl⟩

theorem runningBatch_active {batchId : String} {batch : IngestionBatch} (h : runningBatch batchId batch = true) :
    batch.status.active = true ∧ batch.status = .running := by
  simp only [runningBatch, Bool.and_eq_true, decide_eq_true_eq] at h
  rw [h.2]
  exact ⟨rfl, rfl⟩

theorem startsNone_of_running {batchId : String} {f : IngestionBatch → IngestionBatch} (hf : KeepsKey f)
    (hendpoint : ∀ batch, (f batch).endpointId = batch.endpointId) : StartsNone (runningBatch batchId) f where
  keepsKey := hf
  active _ h := (runningBatch_active h).1
  endpoint := hendpoint
  running _ h _ := (runningBatch_active h).2

theorem advanceBatch_startsNone (batchId : String) (processed created updated : Nat) :
    StartsNone (runningBatch batchId) (advanceBatch processed created updated) :=
  startsNone_of_running ⟨fun _ => rfl⟩ fun _ => rfl

theorem succeedBatch_startsNone (batchId : String) (now : Int) : StartsNone (runningBatch batchId) (succeedBatch now) :=
  startsNone_of_running ⟨fun _ => rfl⟩ fun _ => rfl

theorem failBatch_startsNone (failure : IngestionFailure) :
    StartsNone (fun batch => batchScope failure.batch batch && batch.status.active) (failBatch failure) where
  keepsKey := ⟨fun _ => rfl⟩
  active _ h := by
    rw [Bool.and_eq_true] at h
    exact h.2
  endpoint _ := rfl
  running _ _ h := by
    simp only [failBatch] at h
    split at h <;> cases h

theorem BatchChange.commit (workspace : IngestionWorkspace ν) (result : Except StoreError (IngestionWorkspace ν))
    (h : ∀ next, result = .ok next → BatchChange workspace.batches next.batches) :
    BatchChange workspace.batches (workspace.commit result).batches := by
  cases result with
  | error _ => exact .none
  | ok next => exact h next rfl

theorem createEndpoint_batches [ConnectorRuntime ν] {workspace workspace' : IngestionWorkspace ν}
    {input : CreateIngestionEndpoint} (h : createSqliteIngestionEndpoint workspace input = .ok workspace') :
    BatchChange workspace.batches workspace'.batches := by
  simp only [createSqliteIngestionEndpoint, except_bind_eq_ok, pure, Except.pure, Except.ok.injEq] at h
  obtain ⟨_, _, _, _, _, _, _, _, _, _, rfl⟩ := h
  exact .none

theorem revokeEndpoint_batches {workspace workspace' : IngestionWorkspace ν} {input : RevokeIngestionEndpoint}
    (h : revokeSqliteIngestionEndpoint workspace input = .ok workspace') :
    BatchChange workspace.batches workspace'.batches := by
  simp only [revokeSqliteIngestionEndpoint, except_bind_eq_ok, pure, Except.pure, Except.ok.injEq] at h
  obtain ⟨_, _, _, _, rfl⟩ := h
  exact .none

theorem stage_batches {workspace workspace' : IngestionWorkspace ν} {input : StageIngestionBatch}
    (h : stageSqliteIngestionBatch workspace input = .ok workspace') :
    BatchChange workspace.batches workspace'.batches := by
  simp only [stageSqliteIngestionBatch, except_bind_eq_ok, requireSome_eq_ok, requireThat_eq_ok] at h
  obtain ⟨endpoint, _, _, _, hrest⟩ := h
  split at hrest
  · simp only [except_bind_eq_ok, pure, Except.pure, Except.ok.injEq] at hrest
    obtain ⟨_, _, rfl⟩ := hrest
    exact .none
  · simp only [except_bind_eq_ok, requireSome_eq_ok, requireThat_eq_ok, pure, Except.pure, Except.ok.injEq] at hrest
    obtain ⟨batches, hinsert, _, _, _, _, _, _, _, _, rfl⟩ := hrest
    exact .accepted _ _ rfl hinsert

theorem startActiveBatch_cases {store : IngestionStore} {input : IngestionBatchInput} {batch : IngestionBatch}
    (hscope : batchScope input batch = true) (now : Int) :
    (startActiveBatch store input.endpointId batch now).2.batches = store.batches ∨
      FirstCreated store.batches batch ∧
        (startActiveBatch store input.endpointId batch now).2.batches = store.batches.modify
          (fun candidate => candidate.id = batch.id && candidate.status.active) (startBatchAttempt now)
          (startBatchAttempt_keepsKey now) := by
  have hendpoint : batch.endpointId = input.endpointId := by
    simp only [batchScope, Bool.and_eq_true, decide_eq_true_eq] at hscope
    exact hscope.1.2
  unfold startActiveBatch
  split
  · exact Or.inl rfl
  · rename_i hearlier
    refine Or.inr ⟨?_, rfl⟩
    intro other hother hsame hactive
    by_contra hbefore
    apply hearlier
    rw [List.any_eq_true]
    refine ⟨other, hother, ?_⟩
    rw [hsame, hendpoint, hactive]
    simpa using hbefore

variable [JsRuntime ν]

theorem applyRecords_batches {workspace workspace' : IngestionWorkspace ν} {input : IngestionChunk}
    {batch : IngestionBatch} {endpoint : IngestionEndpoint} {staged : List IngestionStagedRecord}
    (h : applyIngestionRecords workspace input batch endpoint staged = .ok workspace') :
    BatchChange workspace.batches workspace'.batches := by
  simp only [applyIngestionRecords, except_bind_eq_ok, pure, Except.pure, Except.ok.injEq] at h
  obtain ⟨_, _, _, _, _, _, rfl⟩ := h
  exact .updated _ _ (advanceBatch_startsNone _ _ _ _)

theorem apply_batches {workspace workspace' : IngestionWorkspace ν} {input : IngestionChunk}
    (h : applySqliteIngestionBatchChunk workspace input = .ok workspace') :
    BatchChange workspace.batches workspace'.batches := by
  simp only [applySqliteIngestionBatchChunk, except_bind_eq_ok, requireSome_eq_ok] at h
  obtain ⟨batch, _, endpoint, _, hrest⟩ := h
  split at hrest
  · simp only [completeIngestionBatch, except_bind_eq_ok, requireSome_eq_ok, requireThat_eq_ok, pure, Except.pure,
      Except.ok.injEq] at hrest
    obtain ⟨_, _, _, _, rfl⟩ := hrest
    exact .updated _ _ (succeedBatch_startsNone _ _)
  · exact applyRecords_batches hrest

variable [ConnectorRuntime ν]

theorem start_batches (workspace : IngestionWorkspace ν) (input : IngestionBatchInput) (now : Int) :
    (workspace.step (.start input now)).batches = workspace.batches ∨
      ∃ batch, Startable workspace input batch ∧ (workspace.step (.start input now)).batches =
        workspace.batches.modify (fun candidate => candidate.id = batch.id && candidate.status.active)
          (startBatchAttempt now) (startBatchAttempt_keepsKey now) := by
  cases hok : markSqliteIngestionBatchRunning workspace.ingestion input now with
  | error _ =>
    left
    rw [IngestionWorkspace.step, hok]
    rfl
  | ok result =>
    have hstep : (workspace.step (.start input now)).batches = result.2.batches := by
      rw [IngestionWorkspace.step, hok]
      rfl
    rw [hstep]
    simp only [markSqliteIngestionBatchRunning, except_bind_eq_ok, requireSome_eq_ok] at hok
    obtain ⟨batch, hbatch, hrest⟩ := hok
    obtain ⟨hget, hscope⟩ := Option.filter_eq_some_iff.mp hbatch
    have hstarted : batch.status.active = true →
        result = startActiveBatch workspace.ingestion input.endpointId batch now →
        result.2.batches = workspace.batches ∨ ∃ batch, Startable workspace input batch ∧ result.2.batches =
          workspace.batches.modify (fun candidate => candidate.id = batch.id && candidate.status.active)
            (startBatchAttempt now) (startBatchAttempt_keepsKey now) := by
      intro hactive hresult
      rw [hresult]
      rcases @startActiveBatch_cases workspace.ingestion _ _ hscope now with hsame | ⟨hfirst, hbatches⟩
      · exact Or.inl hsame
      · exact Or.inr ⟨batch, ⟨hget, hscope, hactive, hfirst⟩, hbatches⟩
    cases hstatus : batch.status with
    | queued =>
      simp only [hstatus, pure, Except.pure, Except.ok.injEq] at hrest
      exact hstarted (by rw [hstatus]; rfl) hrest.symm
    | running =>
      simp only [hstatus, pure, Except.pure, Except.ok.injEq] at hrest
      exact hstarted (by rw [hstatus]; rfl) hrest.symm
    | failed =>
      rw [hstatus] at hrest
      cases hrest
    | _ =>
      rw [hstatus] at hrest
      cases hrest
      exact Or.inl rfl

theorem step_batches (workspace : IngestionWorkspace ν) (action : IngestionAction ν) :
    BatchChange workspace.batches (workspace.step action).batches ∨
      ∃ input now batch, action = .start input now ∧ Startable workspace input batch ∧
        (workspace.step action).batches = workspace.batches.modify
          (fun candidate => candidate.id = batch.id && candidate.status.active) (startBatchAttempt now)
          (startBatchAttempt_keepsKey now) := by
  cases action with
  | createEndpoint input =>
    exact Or.inl (BatchChange.commit workspace (createSqliteIngestionEndpoint workspace input) fun _ hok =>
      createEndpoint_batches hok)
  | revokeEndpoint input =>
    exact Or.inl (BatchChange.commit workspace (revokeSqliteIngestionEndpoint workspace input) fun _ hok =>
      revokeEndpoint_batches hok)
  | stage input =>
    exact Or.inl (BatchChange.commit workspace (stageSqliteIngestionBatch workspace input) fun _ hok =>
      stage_batches hok)
  | start input now =>
    rcases start_batches workspace input now with hsame | ⟨batch, hstartable, hbatches⟩
    · left
      rw [hsame]
      exact .none
    · exact Or.inr ⟨input, now, batch, rfl, hstartable, hbatches⟩
  | apply input =>
    exact Or.inl (BatchChange.commit workspace (applySqliteIngestionBatchChunk workspace input) fun _ hok =>
      apply_batches hok)
  | fail failure => exact Or.inl (.updated _ _ (failBatch_startsNone failure))
  | other db => exact Or.inl .none

end Steps

section Order

def BatchesInOrder (batches : Table IngestionBatch) : Prop :=
  batches.records.Pairwise fun left right =>
    left.endpointId = right.endpointId → right.status = .running → left.status.active = false

theorem BatchesInOrder.change {batches batches' : Table IngestionBatch} (h : BatchesInOrder batches)
    (hchange : BatchChange batches batches') : BatchesInOrder batches' := by
  cases hchange with
  | none => exact h
  | accepted batch _ hqueued hinsert =>
    rw [BatchesInOrder, (Table.insert_eq_some hinsert).1, List.pairwise_append]
    refine ⟨h, List.pairwise_singleton _ _, ?_⟩
    intro left _ right hright _ hrunning
    rw [List.mem_singleton.mp hright, hqueued] at hrunning
    cases hrunning
  | updated p f hnone =>
    apply Table.pairwise_modify
    intro left right hpair
    have hold := List.pairwise_iff_forall_sublist.mp h hpair
    have hendpoint : ∀ batch, (if p batch then f batch else batch).endpointId = batch.endpointId := by
      intro batch
      split
      · exact hnone.endpoint batch
      · rfl
    rw [hendpoint, hendpoint]
    intro hsame hrunning
    have hright : right.status = .running := by
      by_cases hp : p right = true
      · rw [if_pos hp] at hrunning
        exact hnone.running right hp hrunning
      · rw [if_neg hp] at hrunning
        exact hrunning
    have hfinished := hold hsame hright
    by_cases hp : p left = true
    · rw [hnone.active left hp] at hfinished
      cases hfinished
    · rw [if_neg hp]
      exact hfinished

theorem BatchesInOrder.start {batches : Table IngestionBatch} (h : BatchesInOrder batches) {batch : IngestionBatch}
    (hbatch : batches.get? batch.id = some batch) (now : Int)
    (hearlier : ∀ left, [left, batch].Sublist batches.records → left.endpointId = batch.endpointId →
      left.status.active = false) :
    BatchesInOrder (batches.modify (fun candidate => candidate.id = batch.id && candidate.status.active)
      (startBatchAttempt now) (startBatchAttempt_keepsKey now)) := by
  obtain ⟨hmem, _⟩ := Table.get?_eq_some.mp hbatch
  apply Table.pairwise_modify
  intro left right hpair
  have hendpoint : ∀ candidate : IngestionBatch, (if candidate.id = batch.id && candidate.status.active then
      startBatchAttempt now candidate else candidate).endpointId = candidate.endpointId := by
    intro candidate
    split <;> rfl
  rw [hendpoint, hendpoint]
  intro hsame hrunning
  have hright : right ∈ batches := hpair.subset (by simp)
  have hfinished : left.status.active = false := by
    by_cases hid : right.id = batch.id
    · have heq : right = batch := Table.eq_of_key hright hmem hid
      subst heq
      exact hearlier left hpair hsame
    · rw [if_neg (by simp [hid])] at hrunning
      exact List.pairwise_iff_forall_sublist.mp h hpair hsame hrunning
  rw [if_neg (by simp [hfinished])]
  exact hfinished

def RunTogether (left right : IngestionBatch) : Prop :=
  left.endpointId = right.endpointId ∧ left.status = .running ∧ right.status = .running

instance : Std.Symm fun left right : IngestionBatch => ¬ RunTogether left right :=
  ⟨fun _ _ h hflip => h ⟨hflip.1.symm, hflip.2.2, hflip.2.1⟩⟩

theorem BatchesInOrder.one_running {batches : Table IngestionBatch} (h : BatchesInOrder batches)
    {a b : IngestionBatch} (ha : a ∈ batches) (hb : b ∈ batches) (htogether : RunTogether a b) : a = b := by
  by_contra hne
  have hapart : batches.records.Pairwise fun left right => ¬ RunTogether left right := by
    refine h.imp ?_
    intro left right horder htogether
    have hfinished := horder htogether.1 htogether.2.2
    rw [htogether.2.1] at hfinished
    cases hfinished
  exact hapart.forall ha hb hne htogether

end Order

section Runs

variable {ν : Type} [JsRuntime ν] [ConnectorRuntime ν]

def StartsInOrder (workspace : IngestionWorkspace ν) : IngestionAction ν → Prop
  | .start input _ => ∀ batch, Startable workspace input batch → ∀ earlier,
      [earlier, batch].Sublist workspace.batches.records → earlier.endpointId = batch.endpointId →
        earlier.status.active = false
  | _ => True

def IngestionWorkspace.InOrder (workspace : IngestionWorkspace ν) : Prop :=
  BatchesInOrder workspace.batches

theorem step_inOrder {workspace : IngestionWorkspace ν} {action : IngestionAction ν}
    (h : workspace.InOrder) (hstart : StartsInOrder workspace action) : (workspace.step action).InOrder := by
  rcases step_batches workspace action with hchange | ⟨input, now, batch, rfl, hstartable, hbatches⟩
  · exact BatchesInOrder.change h hchange
  · rw [IngestionWorkspace.InOrder, hbatches]
    have hid : batch.id = input.batchId := (Table.get?_eq_some.mp hstartable.1).2
    apply BatchesInOrder.start h (hid ▸ hstartable.1)
    intro earlier hearlier hsame
    exact hstart batch hstartable earlier hearlier hsame

def IngestionWorkspace.run (workspace : IngestionWorkspace ν) (actions : List (IngestionAction ν)) :
    IngestionWorkspace ν :=
  runActions IngestionWorkspace.step workspace actions

/-- What the endpoint promises of a run: its batches run one at a time, and one
which starts comes after the end of every batch accepted before it. -/
structure BatchContract (workspace : IngestionWorkspace ν) (actions : List (IngestionAction ν)) : Prop where
  oneAtATime : ∀ earlier later, actions = earlier ++ later → ∀ a ∈ (workspace.run earlier).batches,
    ∀ b ∈ (workspace.run earlier).batches, RunTogether a b → a = b
  inOrder : ∀ earlier action later, actions = earlier ++ action :: later →
    ∀ a b, [a, b].Sublist ((workspace.run earlier).step action).batches.records → a.endpointId = b.endpointId →
      b.status = .running → (∀ before, (workspace.run earlier).batches.get? b.id = some before →
        before.status ≠ .running) → a.status.active = false

end Runs

section Sample

def contactEndpoint : IngestionEndpoint where
  id := "crm"
  tableId := "people"
  name := "CRM export"
  recordKeyField := "email"
  tokenHash := "2bb80d537b1da3e38bd30361aa855686bde0eacd7162fef6a25fe97bf527a25b"

def contactWorkspace : IngestionWorkspace SafeInteger where
  db := greetingDatabase
  ingestion := ⟨⟨[contactEndpoint], by decide⟩, Table.empty, Table.empty, Table.empty⟩

def contactDelivery (batchId idempotencyKey : String) : IngestionAction SafeInteger :=
  .stage
    { batch := ⟨["email"], [⟨"ada", [("email", some "ada@example.com")]⟩]⟩
      endpointId := "crm"
      idempotencyKey := idempotencyKey
      requestDigest := "d5579c46dfcc7f18207013e65b44e4cb4e2c2298f4ac457ba8f82743f31e930b"
      tokenHash := contactEndpoint.tokenHash
      batchId := batchId
      eventId := batchId
      now := 0 }

def contactInput (batchId : String) : IngestionBatchInput := ⟨batchId, "crm", "people"⟩

def contactChunk (batchId : String) : IngestionChunk where
  batch := contactInput batchId
  position := id
  columnId _ := "email"
  rowId _ := "contact"
  mutation _ := ⟨"settlement", "settled", 2⟩
  eventId := "applied"
  now := 2

def contactActions : List (IngestionAction SafeInteger) :=
  [contactDelivery "a" "delivery-1", .start (contactInput "a") 1, .apply (contactChunk "a"), .apply (contactChunk "a"),
    contactDelivery "b" "delivery-2", .start (contactInput "b") 3]

def acceptedBatch (batchId idempotencyKey : String) : IngestionBatch where
  id := batchId
  endpointId := "crm"
  tableId := "people"
  idempotencyKey := idempotencyKey
  requestDigest := "d5579c46dfcc7f18207013e65b44e4cb4e2c2298f4ac457ba8f82743f31e930b"
  fields := ["email"]
  recordCount := 1
  createdAt := 0

def appliedBatch : IngestionBatch :=
  { acceptedBatch "a" "delivery-1" with
    status := .succeeded
    processedRecordCount := 1
    createdRowCount := 1
    attempt := 1
    startedAt := some 1
    finishedAt := some 2 }

theorem contactActions_inOrder : EachStep IngestionWorkspace.step StartsInOrder contactWorkspace contactActions := by
  refine ⟨trivial, ?_, trivial, trivial, trivial, ?_, trivial⟩
  · intro batch _ earlier hpair _
    have hlength := hpair.length_le
    have hone : (contactWorkspace.step (contactDelivery "a" "delivery-1")).batches.records.length = 1 := rfl
    rw [hone] at hlength
    simp at hlength
  · intro batch _ earlier hpair _
    have htwo : (contactWorkspace.run (contactActions.take 5)).batches.records =
        [appliedBatch, acceptedBatch "b" "delivery-2"] := rfl
    have heq : [earlier, batch] = [appliedBatch, acceptedBatch "b" "delivery-2"] :=
      List.Sublist.eq_of_length (htwo ▸ hpair) rfl
    rw [List.cons_eq_cons] at heq
    rw [heq.1]
    rfl

/-- The second delivery is accepted in the millisecond of the first one, under a
smaller id, and starts while the first one runs. -/
def overtakenActions : List (IngestionAction SafeInteger) :=
  [contactDelivery "b" "delivery-1", .start (contactInput "b") 0, contactDelivery "a" "delivery-2",
    .start (contactInput "a") 1]

def runningDelivery (batchId idempotencyKey : String) (startedAt : Int) : IngestionBatch :=
  { acceptedBatch batchId idempotencyKey with status := .running, attempt := 1, startedAt := some startedAt }

end Sample

end ByokGrid
