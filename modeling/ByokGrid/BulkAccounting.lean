import ByokGrid.CellRunEffects

/-! The counters of a bulk run: under any sequence of the transactions on cell runs
they count its items, and a run which has ended changes no more. -/

namespace ByokGrid

def itemsWith (status : BulkRunItemStatus) (items : List BulkRunItem) : Nat :=
  items.countP fun item => item.status = status

theorem itemsWith_append (status : BulkRunItemStatus) (xs ys : List BulkRunItem) :
    itemsWith status (xs ++ ys) = itemsWith status xs + itemsWith status ys :=
  List.countP_append

theorem itemsWith_cons (status : BulkRunItemStatus) (item : BulkRunItem) (items : List BulkRunItem) :
    itemsWith status (item :: items) = itemsWith status items + if item.status = status then 1 else 0 := by
  simp [itemsWith, List.countP_cons]

theorem itemsWith_total (items : List BulkRunItem) :
    items.length = itemsWith .pending items + itemsWith .queued items + itemsWith .skipped items := by
  induction items with
  | nil => rfl
  | cons item items ih =>
    rw [List.length_cons, itemsWith_cons, itemsWith_cons, itemsWith_cons, ih]
    cases item.status <;> simp <;> omega

theorem itemsWith_pos {status : BulkRunItemStatus} {items : List BulkRunItem} :
    0 < itemsWith status items ↔ ∃ item ∈ items, item.status = status := by
  simp [itemsWith, List.countP_pos_iff]

theorem itemsWith_skipAll {items : List BulkRunItem} {f : BulkRunItem → BulkRunItem} {p : BulkRunItem → Bool}
    (hp : ∀ item ∈ items, p item = true ↔ item.status = .pending) (hf : ∀ item, (f item).status = .skipped) :
    itemsWith .pending (items.map fun item => if p item then f item else item) = 0 ∧
      itemsWith .queued (items.map fun item => if p item then f item else item) = itemsWith .queued items ∧
      itemsWith .skipped (items.map fun item => if p item then f item else item) =
        itemsWith .skipped items + itemsWith .pending items := by
  induction items with
  | nil => exact ⟨rfl, rfl, rfl⟩
  | cons item items ih =>
    obtain ⟨hpending, hqueued, hskipped⟩ := ih fun other hother => hp other (List.mem_cons_of_mem _ hother)
    have hitem := hp item List.mem_cons_self
    simp only [List.map_cons, itemsWith_cons, hpending, hqueued, hskipped]
    by_cases hstatus : item.status = .pending
    · simp [hitem.mpr hstatus, hf, hstatus]
      omega
    · have hnot : ¬ p item = true := mt hitem.mp hstatus
      simp [hnot, hstatus]
      omega

section Items

variable {ν : Type}

def Database.batchItems (db : Database ν) (batchId : String) : List BulkRunItem :=
  db.bulkRunItems.records.filter fun item => item.batchId = batchId

theorem mem_batchItems {db : Database ν} {batchId : String} {item : BulkRunItem} :
    item ∈ db.batchItems batchId ↔ item ∈ db.bulkRunItems ∧ item.batchId = batchId := by
  simp [Database.batchItems, Table.mem_def]

structure SameBulk (db db' : Database ν) : Prop where
  batches : db'.bulkRunBatches = db.bulkRunBatches
  items : db'.bulkRunItems = db.bulkRunItems

theorem SameBulk.refl (db : Database ν) : SameBulk db db := ⟨rfl, rfl⟩

theorem SameBulk.trans {a b c : Database ν} (hab : SameBulk a b) (hbc : SameBulk b c) : SameBulk a c :=
  ⟨hbc.batches.trans hab.batches, hbc.items.trans hab.items⟩

theorem SameBulk.batchItems {db db' : Database ν} (h : SameBulk db db') (batchId : String) :
    db'.batchItems batchId = db.batchItems batchId := by
  rw [Database.batchItems, Database.batchItems, h.items]

structure BatchAccount (db : Database ν) (batch : BulkRunBatch) : Prop where
  selected : batch.selectedRowCount = (db.batchItems batch.id).length
  queued : batch.queuedRowCount = itemsWith .queued (db.batchItems batch.id)
  skipped : batch.skippedRowCount = itemsWith .skipped (db.batchItems batch.id)
  requested : batch.createdByUserId ≠ none
  notFailed : batch.status ≠ .failed
  ended : batch.status.ended = true ↔ itemsWith .pending (db.batchItems batch.id) = 0

structure BulkInvariant (db : Database ν) : Prop where
  account : ∀ batch ∈ db.bulkRunBatches, BatchAccount db batch
  owned : ∀ item ∈ db.bulkRunItems, ∃ batch ∈ db.bulkRunBatches, batch.id = item.batchId

theorem BatchAccount.congr {db db' : Database ν} {batch : BulkRunBatch} (h : BatchAccount db batch)
    (hitems : db'.batchItems batch.id = db.batchItems batch.id) : BatchAccount db' batch := by
  refine ⟨?_, ?_, ?_, h.requested, h.notFailed, ?_⟩
  · rw [hitems, h.selected]
  · rw [hitems, h.queued]
  · rw [hitems, h.skipped]
  · rw [hitems, h.ended]

theorem BulkInvariant.same {db db' : Database ν} (h : BulkInvariant db) (hsame : SameBulk db db') :
    BulkInvariant db' := by
  refine ⟨fun batch hbatch => ?_, fun item hitem => ?_⟩
  · rw [hsame.batches] at hbatch
    exact (h.account batch hbatch).congr (hsame.batchItems batch.id)
  · rw [hsame.items] at hitem
    rw [hsame.batches]
    exact h.owned item hitem

def EndedKept (db db' : Database ν) : Prop :=
  ∀ batch ∈ db.bulkRunBatches, batch.status.ended = true →
    batch ∈ db'.bulkRunBatches ∧ db'.batchItems batch.id = db.batchItems batch.id

theorem SameBulk.endedKept {db db' : Database ν} (h : SameBulk db db') : EndedKept db db' := by
  intro batch hbatch _
  rw [h.batches]
  exact ⟨hbatch, h.batchItems batch.id⟩

end Items

section Runs

variable {ν : Type}

theorem QueuedRun.sameBulk {db db' : Database ν} {columnId rowId runId : String}
    (h : QueuedRun db columnId rowId runId db') : SameBulk db db' := by
  rw [h.frame]
  exact ⟨rfl, rfl⟩

theorem record_sameBulk {db db' : Database ν} {input : RowMutation} {stamp : MutationStamp}
    (h : recordSqliteRowMutationAndMaybeQueueSettlement db input stamp = .ok db') : SameBulk db db' := by
  rw [record_eq_ok h]
  exact ⟨rfl, rfl⟩

theorem mark_sameBulk {db db' : Database ν} {input : CellRunInput} {now : Int} {start : CellRunStart}
    (h : markSqliteCellRunRunning db input now = .ok (start, db')) : SameBulk db db' := by
  rcases mark_eq_ok h with rfl | ⟨_, _, _, rfl⟩
  · exact .refl _
  · exact ⟨rfl, rfl⟩

variable [JsRuntime ν]

theorem succeed_sameBulk {db db' : Database ν} {input : CellRunInput} {success : CellRunSuccess ν}
    {stamp : MutationStamp} (h : markSqliteCellRunSucceeded db input success stamp = .ok db') : SameBulk db db' := by
  obtain ⟨_, _, _, _, _, _, _, _, hrecord⟩ := succeed_eq_ok h
  exact ⟨(record_sameBulk hrecord).batches, (record_sameBulk hrecord).items⟩

omit [JsRuntime ν] in
theorem setFailure_sameBulk {db db' : Database ν} {input : CellRunInput} {failure : CellRunFailure}
    {stamp : MutationStamp} (h : setSqliteCellRunFailure db input failure stamp = .ok db') : SameBulk db db' := by
  have hwrite : SameBulk db (writeCellRunFailure db input failure stamp.now) := ⟨rfl, rfl⟩
  rcases setFailure_eq_ok h with rfl | ⟨_, _, _, _, hrecord⟩
  · exact hwrite
  · exact hwrite.trans (record_sameBulk hrecord)

variable [ConnectorRuntime ν]

theorem queueByUser_sameBulk {db db' : Database ν} {input : QueueByUser} {output : CellRunInput}
    (h : queueSqliteEnrichmentCellRunInTransaction db input = .ok (output, db')) : SameBulk db db' := by
  simp only [queueSqliteEnrichmentCellRunInTransaction, except_bind_eq_ok] at h
  obtain ⟨_, _, hqueue⟩ := h
  exact (queueConnectorActionRun_eq_ok hqueue).sameBulk

theorem queueAutomatic_sameBulk {db db' : Database ν} {input : QueueAutomatically} {output : CellRunInput}
    (h : queueAutomaticSqliteEnrichmentCellRunInTransaction db input = .ok (output, db')) : SameBulk db db' := by
  exact (queueConnectorActionRun_eq_ok h).sameBulk

theorem queueWorkflowRows_sameBulk {input : QueueByWorkflow} {tableId : String} {rows : List WorkflowRowReference}
    {db db' : Database ν} {outputs : List CellRunInput}
    (h : queueWorkflowRows input tableId rows db = .ok (outputs, db')) : SameBulk db db' := by
  induction rows generalizing db outputs with
  | nil =>
    cases h
    exact .refl _
  | cons row rows ih =>
    simp only [queueWorkflowRows, except_bind_eq_ok, pure, Except.pure, Except.ok.injEq, Prod.mk.injEq] at h
    obtain ⟨first, hfirst, rest, hrest, _, hdb⟩ := h
    have hstep : SameBulk db first.2 := by
      unfold queueWorkflowRow at hfirst
      dsimp only at hfirst
      split at hfirst
      · cases hfirst
        exact .refl _
      · split at hfirst
        · cases hfirst
          exact .refl _
        · simp only [except_bind_eq_ok, pure, Except.pure, Except.ok.injEq] at hfirst
          obtain ⟨queued, hqueued, rfl⟩ := hfirst
          exact (queueConnectorActionRun_eq_ok hqueued).sameBulk
    subst hdb
    exact hstep.trans (ih hrest)

end Runs

section Batches

variable {ν : Type}

theorem create_eq_ok {db db' : Database ν} {input : CreateBulkRunBatch} (h : createSqliteBulkRunBatch db input = .ok db') :
    ∃ batch : BulkRunBatch, input.selectedRowIds ≠ [] ∧ batch.id = input.batchId ∧
      batch.createdByUserId = some input.userId ∧ batch.selectedRowCount = input.selectedRowIds.length ∧
      batch.queuedRowCount = 0 ∧ batch.skippedRowCount = 0 ∧ batch.status = .queued ∧
      db.bulkRunBatches.insert batch = some db'.bulkRunBatches ∧
      db'.bulkRunItems.records = db.bulkRunItems.records ++ input.selectedRowIds.zipIdx.map fun row =>
        { batchId := input.batchId, rowId := row.1, sequence := row.2 } := by
  simp only [createSqliteBulkRunBatch, except_bind_eq_ok, requireThat_eq_ok, requireSome_eq_ok, pure, Except.pure,
    Except.ok.injEq] at h
  obtain ⟨_, _, _, _, _, hsome, batches, hbatches, items, hitems, _, _, rfl⟩ := h
  refine ⟨_, ?_, rfl, rfl, rfl, rfl, rfl, rfl, hbatches, Table.insertAll_records hitems⟩
  intro hnone
  rw [hnone] at hsome
  cases hsome

theorem BulkInvariant.create_items {db db' : Database ν} (h : BulkInvariant db) {input : CreateBulkRunBatch}
    (hok : createSqliteBulkRunBatch db input = .ok db') :
    db'.batchItems input.batchId = (input.selectedRowIds.zipIdx.map fun row =>
        { batchId := input.batchId, rowId := row.1, sequence := row.2 }) ∧
      ∀ other, other ≠ input.batchId → db'.batchItems other = db.batchItems other := by
  obtain ⟨batch, _, hid, _, _, _, _, _, hinsert, hitems⟩ := create_eq_ok hok
  have hadded : ∀ batchId, db'.batchItems batchId = db.batchItems batchId ++
      (input.selectedRowIds.zipIdx.map fun row =>
        ({ batchId := input.batchId, rowId := row.1, sequence := row.2 } : BulkRunItem)).filter
          fun item => item.batchId = batchId := by
    intro batchId
    rw [Database.batchItems, hitems, List.filter_append]
    rfl
  have hnone : db.batchItems input.batchId = [] := by
    refine List.filter_eq_nil_iff.mpr fun item hitem hsame => ?_
    obtain ⟨owner, howner, hownerId⟩ := h.owned item hitem
    refine Table.get?_eq_none.mp (Table.insert_eq_some hinsert).2 owner howner ?_
    exact hownerId.trans ((of_decide_eq_true hsame).trans hid.symm)
  constructor
  · rw [hadded, hnone, List.nil_append, List.filter_eq_self.mpr]
    intro item hitem
    obtain ⟨row, _, rfl⟩ := List.mem_map.mp hitem
    simp
  · intro other hne
    rw [hadded, List.filter_eq_nil_iff.mpr, List.append_nil]
    intro item hitem
    obtain ⟨row, _, rfl⟩ := List.mem_map.mp hitem
    simpa using Ne.symm hne

theorem BulkInvariant.create {db db' : Database ν} (h : BulkInvariant db) {input : CreateBulkRunBatch}
    (hok : createSqliteBulkRunBatch db input = .ok db') : BulkInvariant db' ∧ EndedKept db db' := by
  obtain ⟨hown, hothers⟩ := h.create_items hok
  obtain ⟨batch, hrows, hid, huser, hselected, hqueued, hskipped, hstatus, hinsert, hitems⟩ := create_eq_ok hok
  rw [← hid] at hown hothers
  have hfresh : ∀ other ∈ db.bulkRunBatches, other.id ≠ batch.id :=
    Table.get?_eq_none.mp (Table.insert_eq_some hinsert).2
  have hcount : ∀ status, itemsWith status (db'.batchItems batch.id) =
      if status = .pending then input.selectedRowIds.length else 0 := by
    intro status
    rw [hown, itemsWith, List.countP_map]
    cases status <;> simp [Function.comp_def, List.countP_eq_length_filter]
  refine ⟨⟨fun other hother => ?_, fun item hitem => ?_⟩, fun other hother hended => ?_⟩
  · rcases (Table.mem_insert hinsert).mp hother with hold | rfl
    · exact (h.account other hold).congr (hothers other.id (hfresh other hold))
    · refine ⟨?_, ?_, ?_, ?_, ?_, ?_⟩
      · rw [hselected, hown, List.length_map, List.length_zipIdx]
      · rw [hqueued, hcount]
        rfl
      · rw [hskipped, hcount]
        rfl
      · rw [huser]
        exact Option.some_ne_none _
      · rw [hstatus]
        exact nofun
      · rw [hcount, hstatus, if_pos rfl, List.length_eq_zero_iff]
        exact ⟨nofun, fun hnil => absurd hnil hrows⟩
  · rw [Table.mem_def, hitems, List.mem_append] at hitem
    rcases hitem with hold | hnew
    · obtain ⟨owner, howner, hownerId⟩ := h.owned item hold
      exact ⟨owner, (Table.mem_insert hinsert).mpr (Or.inl howner), hownerId⟩
    · obtain ⟨row, _, rfl⟩ := List.mem_map.mp hnew
      exact ⟨batch, (Table.mem_insert hinsert).mpr (Or.inr rfl), hid⟩
  · exact ⟨(Table.mem_insert hinsert).mpr (Or.inl hother), hothers other.id (hfresh other hother)⟩

structure BatchStep (db : Database ν) (batch next : BulkRunBatch) (db' : Database ν) : Prop where
  stored : batch ∈ db.bulkRunBatches
  id : next.id = batch.id
  batches : ∀ other, other ∈ db'.bulkRunBatches ↔ other ∈ db.bulkRunBatches ∧ other.id ≠ batch.id ∨ other = next
  items : ∀ item ∈ db'.bulkRunItems, ∃ before ∈ db.bulkRunItems, before.batchId = item.batchId
  others : ∀ batchId, batchId ≠ batch.id → db'.batchItems batchId = db.batchItems batchId

theorem BatchStep.invariant {db db' : Database ν} {batch next : BulkRunBatch} (hstep : BatchStep db batch next db')
    (h : BulkInvariant db) (hnext : BatchAccount db' next) : BulkInvariant db' := by
  refine ⟨fun other hother => ?_, fun item hitem => ?_⟩
  · rcases (hstep.batches other).mp hother with ⟨hold, hne⟩ | rfl
    · exact (h.account other hold).congr (hstep.others other.id hne)
    · exact hnext
  · obtain ⟨before, hbefore, hsame⟩ := hstep.items item hitem
    obtain ⟨owner, howner, hid⟩ := h.owned before hbefore
    by_cases hown : owner.id = batch.id
    · exact ⟨next, (hstep.batches next).mpr (Or.inr rfl), hstep.id.trans (hown.symm.trans (hid.trans hsame))⟩
    · exact ⟨owner, (hstep.batches owner).mpr (Or.inl ⟨howner, hown⟩), hid.trans hsame⟩

theorem BatchStep.endedKept {db db' : Database ν} {batch next : BulkRunBatch} (hstep : BatchStep db batch next db')
    (hopen : batch.status.ended = false) : EndedKept db db' := by
  intro other hother hended
  have hne : other.id ≠ batch.id := by
    intro heq
    rw [Table.eq_of_key hother hstep.stored heq, hopen] at hended
    cases hended
  exact ⟨(hstep.batches other).mpr (Or.inl ⟨hother, hne⟩), hstep.others other.id hne⟩

theorem mem_modify_batch {batches : Table BulkRunBatch} {batch : BulkRunBatch} (hbatch : batch ∈ batches)
    {batchId : String} (hid : batch.id = batchId) {f : BulkRunBatch → BulkRunBatch} (hf : KeepsKey f)
    {other : BulkRunBatch} : other ∈ batches.modify (fun candidate => candidate.id = batchId) f hf ↔
      other ∈ batches ∧ other.id ≠ batchId ∨ other = f batch := by
  subst hid
  rw [Table.mem_modify hf]
  constructor
  · rintro ⟨candidate, hcandidate, rfl⟩
    by_cases hid : candidate.id = batch.id
    · rw [if_pos (decide_eq_true hid), Table.eq_of_key hcandidate hbatch hid]
      exact Or.inr rfl
    · rw [if_neg (by simpa using hid)]
      exact Or.inl ⟨hcandidate, hid⟩
  · rintro (⟨hother, hne⟩ | rfl)
    · exact ⟨other, hother, (if_neg (by simpa using hne)).symm⟩
    · exact ⟨batch, hbatch, (if_pos (decide_eq_true rfl)).symm⟩

def pendingItem (batchId : String) (item : BulkRunItem) : Bool :=
  item.batchId = batchId && item.status = .pending

def skipItem (item : BulkRunItem) : BulkRunItem :=
  { item with
    errorMessage := some "The batch was cancelled before this row was expanded."
    status := .skipped }

theorem skipItem_keepsKey : KeepsKey skipItem := ⟨fun _ => rfl⟩

def cancelBatch (input : CancelBulkRunBatch) (skippedItems : Nat) (batch : BulkRunBatch) : BulkRunBatch :=
  { batch with
    cancelledAt := some input.now
    cancelledByUserId := some input.userId
    errorMessage := some ("Cancelled by a workspace member. Provider requests already in flight " ++
      "may still complete.")
    finishedAt := some input.now
    skippedRowCount := batch.skippedRowCount + skippedItems
    status := .cancelled }

theorem cancelBatch_keepsKey (input : CancelBulkRunBatch) (skippedItems : Nat) :
    KeepsKey (cancelBatch input skippedItems) := ⟨fun _ => rfl⟩

theorem batchItems_modify {db db' : Database ν} {p : BulkRunItem → Bool} {f : BulkRunItem → BulkRunItem} (hf : KeepsKey f)
    (hitems : db'.bulkRunItems = db.bulkRunItems.modify p f hf) (hsame : ∀ item, (f item).batchId = item.batchId)
    {batchId : String} (hp : ∀ item, p item = true → item.batchId = batchId) :
    db'.batchItems batchId = (db.batchItems batchId).map (fun item => if p item then f item else item) ∧
      (∀ other, other ≠ batchId → db'.batchItems other = db.batchItems other) ∧
      ∀ item ∈ db'.bulkRunItems, ∃ before ∈ db.bulkRunItems, before.batchId = item.batchId := by
  refine ⟨?_, fun other hne => ?_, fun item hitem => ?_⟩
  · rw [Database.batchItems, hitems]
    exact Table.filter_modify hf fun item => by rw [hsame]
  · rw [Database.batchItems, hitems]
    refine Table.filter_modify_other hf (fun item => by rw [hsame]) fun item hpitem => ?_
    rw [hp item hpitem]
    simpa using hne.symm
  · rw [hitems] at hitem
    obtain ⟨before, hbefore, rfl⟩ := (Table.mem_modify hf).mp hitem
    refine ⟨before, hbefore, ?_⟩
    split
    · exact (hsame before).symm
    · rfl

theorem BulkInvariant.cancelOpen {db db' : Database ν} (h : BulkInvariant db) {input : CancelBulkRunBatch}
    {batch : BulkRunBatch} (hstored : batch ∈ db.bulkRunBatches) (hopen : batch.status.ended = false)
    (hitems : db'.bulkRunItems = db.bulkRunItems.modify (pendingItem batch.id) skipItem skipItem_keepsKey)
    (hbatches : db'.bulkRunBatches = db.bulkRunBatches.modify (fun candidate => candidate.id = batch.id)
      (cancelBatch input (db.bulkRunItems.records.filter (pendingItem batch.id)).length) (cancelBatch_keepsKey _ _)) :
    BulkInvariant db' ∧ EndedKept db db' := by
  have haccount := h.account batch hstored
  obtain ⟨hown, hothers, hback⟩ := batchItems_modify skipItem_keepsKey hitems (fun _ => rfl)
    fun item (hp : pendingItem batch.id item = true) => by
      rw [pendingItem, Bool.and_eq_true, decide_eq_true_eq] at hp
      exact hp.1
  have hstep : BatchStep db batch (cancelBatch input (db.bulkRunItems.records.filter (pendingItem batch.id)).length batch)
      db' := by
    refine ⟨hstored, rfl, fun other => ?_, hback, hothers⟩
    rw [hbatches]
    exact mem_modify_batch hstored rfl _
  have hpending : ∀ item ∈ db.batchItems batch.id, pendingItem batch.id item = true ↔ item.status = .pending := by
    intro item hitem
    simp [pendingItem, (mem_batchItems.mp hitem).2]
  obtain ⟨hnone, hqueued, hskipped⟩ := itemsWith_skipAll hpending fun item => (rfl : (skipItem item).status = .skipped)
  rw [← hown] at hnone hqueued hskipped
  have hnumber : (db.bulkRunItems.records.filter (pendingItem batch.id)).length =
      itemsWith .pending (db.batchItems batch.id) := by
    rw [itemsWith, Database.batchItems, List.countP_filter, List.countP_eq_length_filter]
    congr 2
    funext item
    exact Bool.and_comm _ _
  refine ⟨hstep.invariant h ⟨?_, ?_, ?_, haccount.requested, nofun, ?_⟩, hstep.endedKept hopen⟩
  · show batch.selectedRowCount = (db'.batchItems batch.id).length
    rw [haccount.selected, hown, List.length_map]
  · show batch.queuedRowCount = itemsWith .queued (db'.batchItems batch.id)
    rw [haccount.queued, hqueued]
  · show batch.skippedRowCount + _ = itemsWith .skipped (db'.batchItems batch.id)
    rw [haccount.skipped, hskipped, hnumber]
  · exact ⟨fun _ => hnone, fun _ => rfl⟩

theorem BulkInvariant.cancel {db db' : Database ν} (h : BulkInvariant db) {input : CancelBulkRunBatch}
    (hok : cancelSqliteBulkRunBatch db input = .ok db') : BulkInvariant db' ∧ EndedKept db db' := by
  simp only [cancelSqliteBulkRunBatch, except_bind_eq_ok, requireSome_eq_ok] at hok
  obtain ⟨batch, hbatch, _, _, hok⟩ := hok
  obtain ⟨hstored, _⟩ := Table.get?_eq_some.mp (Option.filter_eq_some_iff.mp hbatch).1
  cases hstatus : batch.status with
  | cancelled =>
    rw [hstatus] at hok
    cases hok
    exact ⟨h, (SameBulk.refl db).endedKept⟩
  | completed =>
    rw [hstatus] at hok
    cases hok
  | failed =>
    rw [hstatus] at hok
    cases hok
  | queued =>
    rw [hstatus] at hok
    cases hok
    exact h.cancelOpen hstored (by rw [hstatus]; rfl) rfl rfl
  | running =>
    rw [hstatus] at hok
    cases hok
    exact h.cancelOpen hstored (by rw [hstatus]; rfl) rfl rfl

end Batches

section Expand

variable {ν : Type} [JsRuntime ν] [ConnectorRuntime ν]

def ItemExpanded (batchId rowId : String) (state next : Expansion ν) : Prop :=
  next.db.bulkRunBatches = state.db.bulkRunBatches ∧
    ∃ f, ∃ hf : KeepsKey f, next.db.bulkRunItems = updateItem state.db.bulkRunItems batchId rowId f hf ∧
      ((∀ other, (f other).status = .queued) ∧ next.queued = state.queued + 1 ∧ next.skipped = state.skipped ∨
        (∀ other, (f other).status = .skipped) ∧ next.queued = state.queued ∧ next.skipped = state.skipped + 1)

theorem expandItem_eq_ok {input : ExpandBulkRunBatch} {batch : BulkRunBatch} {userId : String}
    {state next : Expansion ν} {item : BulkRunItem} (h : expandItem input batch userId state item = .ok next) :
    ItemExpanded batch.id item.rowId state next := by
  have hskip : ∀ message, ItemExpanded batch.id item.rowId state (state.skip batch.id item.rowId message) :=
    fun message => ⟨rfl, fun item => { item with errorMessage := some message, status := .skipped }, ⟨fun _ => rfl⟩, rfl,
      Or.inr ⟨fun _ => rfl, rfl, rfl⟩⟩
  unfold expandItem at h
  split at h
  · cases h
    exact hskip _
  · split at h
    · rename_i run db hqueue
      cases h
      have hsame := queueByUser_sameBulk hqueue
      refine ⟨hsame.batches, fun item => { item with runId := some run.runId, status := .queued }, ⟨fun _ => rfl⟩, ?_,
        Or.inl ⟨fun _ => rfl, rfl, rfl⟩⟩
      rw [← hsame.items]
    · cases h
      exact hskip _
    · cases h
      exact hskip _
    · cases h

structure Expanded (batchId : String) (number : Nat) (state next : Expansion ν) : Prop where
  batches : next.db.bulkRunBatches = state.db.bulkRunBatches
  others : ∀ other, other ≠ batchId → next.db.batchItems other = state.db.batchItems other
  back : ∀ item ∈ next.db.bulkRunItems, ∃ before ∈ state.db.bulkRunItems, before.batchId = item.batchId
  length : (next.db.batchItems batchId).length = (state.db.batchItems batchId).length
  pending : itemsWith .pending (next.db.batchItems batchId) + number = itemsWith .pending (state.db.batchItems batchId)
  queued : itemsWith .queued (next.db.batchItems batchId) + state.queued =
    itemsWith .queued (state.db.batchItems batchId) + next.queued
  skipped : itemsWith .skipped (next.db.batchItems batchId) + state.skipped =
    itemsWith .skipped (state.db.batchItems batchId) + next.skipped
  processed : next.queued + next.skipped = state.queued + state.skipped + number

omit [JsRuntime ν] [ConnectorRuntime ν] in
theorem Expanded.refl (batchId : String) (state : Expansion ν) : Expanded batchId 0 state state :=
  ⟨rfl, fun _ _ => rfl, fun item hitem => ⟨item, hitem, rfl⟩, rfl, rfl, rfl, rfl, rfl⟩

omit [JsRuntime ν] [ConnectorRuntime ν] in
theorem Expanded.trans {batchId : String} {m n : Nat} {a b c : Expansion ν} (hab : Expanded batchId m a b)
    (hbc : Expanded batchId n b c) : Expanded batchId (m + n) a c := by
  refine ⟨hbc.batches.trans hab.batches, fun other hne => (hbc.others other hne).trans (hab.others other hne),
    fun item hitem => ?_, hbc.length.trans hab.length, ?_, ?_, ?_, ?_⟩
  · obtain ⟨middle, hmiddle, hsame⟩ := hbc.back item hitem
    obtain ⟨before, hbefore, hsame'⟩ := hab.back middle hmiddle
    exact ⟨before, hbefore, hsame'.trans hsame⟩
  · have hfirst := hab.pending
    have hsecond := hbc.pending
    omega
  · have hfirst := hab.queued
    have hsecond := hbc.queued
    omega
  · have hfirst := hab.skipped
    have hsecond := hbc.skipped
    omega
  · have hfirst := hab.processed
    have hsecond := hbc.processed
    omega

omit [JsRuntime ν] [ConnectorRuntime ν] in
theorem ItemExpanded.expanded {batchId : String} {state next : Expansion ν} {item : BulkRunItem}
    (h : ItemExpanded batchId item.rowId state next) (hitem : item ∈ state.db.bulkRunItems)
    (hbatch : item.batchId = batchId) (hpending : item.status = .pending) :
    Expanded batchId 1 state next ∧
      ∀ other ∈ state.db.bulkRunItems, other ≠ item → other ∈ next.db.bulkRunItems := by
  obtain ⟨hbatches, f, hf, hitems, hcounts⟩ := h
  let p := fun other : BulkRunItem =>
    decide (other.batchId = batchId) && decide (other.rowId = item.rowId) && decide (other.status = .pending)
  have hp : ∀ other ∈ state.db.bulkRunItems, p other = true → other = item := by
    intro other hother hpother
    simp only [p, Bool.and_eq_true, decide_eq_true_eq] at hpother
    exact Table.eq_of_key hother hitem (Prod.ext (hpother.1.1.trans hbatch.symm) hpother.1.2)
  have hpitem : p item = true := by simp [p, hbatch, hpending]
  have hsame : ∀ other, (f other).batchId = other.batchId := fun other => congrArg Prod.fst (hf.key other)
  obtain ⟨hown, hothers, hback⟩ := batchItems_modify hf hitems hsame
    fun other (hpother : p other = true) => by
      simp only [p, Bool.and_eq_true, decide_eq_true_eq] at hpother
      exact hpother.1.1
  obtain ⟨before, after, hsplit⟩ := List.append_of_mem (Table.mem_def.mp hitem)
  have hafter : next.db.bulkRunItems.records = before ++ f item :: after := by
    rw [hitems]
    exact Table.modify_one hf hsplit hpitem hp
  have hold : state.db.batchItems batchId =
      before.filter (fun other => other.batchId = batchId) ++ item :: after.filter fun other => other.batchId = batchId := by
    rw [Database.batchItems, hsplit, List.filter_append, List.filter_cons_of_pos (by simpa using hbatch)]
  have hnew : next.db.batchItems batchId =
      before.filter (fun other => other.batchId = batchId) ++ f item :: after.filter fun other => other.batchId = batchId := by
    rw [Database.batchItems, hafter, List.filter_append, List.filter_cons_of_pos (by simpa [hsame] using hbatch)]
  have hwith : ∀ status, itemsWith status (next.db.batchItems batchId) + (if item.status = status then 1 else 0) =
      itemsWith status (state.db.batchItems batchId) + if (f item).status = status then 1 else 0 := by
    intro status
    rw [hold, hnew, itemsWith_append, itemsWith_append, itemsWith_cons, itemsWith_cons]
    omega
  have hpendingCount := hwith .pending
  have hqueuedCount := hwith .queued
  have hskippedCount := hwith .skipped
  rw [hpending] at hpendingCount hqueuedCount hskippedCount
  refine ⟨?_, fun other hother hne => ?_⟩
  · rcases hcounts with ⟨hstatus, hqueued, hskipped⟩ | ⟨hstatus, hqueued, hskipped⟩
    · rw [hstatus] at hpendingCount hqueuedCount hskippedCount
      simp only [reduceCtorEq, if_true, if_false] at hpendingCount hqueuedCount hskippedCount
      refine ⟨hbatches, hothers, hback, ?_, by omega, by omega, by omega, by omega⟩
      rw [hold, hnew, List.length_append, List.length_append, List.length_cons, List.length_cons]
    · rw [hstatus] at hpendingCount hqueuedCount hskippedCount
      simp only [reduceCtorEq, if_true, if_false] at hpendingCount hqueuedCount hskippedCount
      refine ⟨hbatches, hothers, hback, ?_, by omega, by omega, by omega, by omega⟩
      rw [hold, hnew, List.length_append, List.length_append, List.length_cons, List.length_cons]
  · rw [Table.mem_def, hsplit] at hother
    rw [Table.mem_def, hafter]
    rcases List.mem_append.mp hother with hin | hin
    · exact List.mem_append_left _ hin
    · exact List.mem_append_right _ (List.mem_cons_of_mem _ ((List.mem_cons.mp hin).resolve_left hne))

theorem expandItems_eq_ok {input : ExpandBulkRunBatch} {batch : BulkRunBatch} {userId : String}
    {items : List BulkRunItem} {state next : Expansion ν} (h : expandItems input batch userId items state = .ok next)
    (hitems : ∀ item ∈ items, item ∈ state.db.bulkRunItems ∧ item.batchId = batch.id ∧ item.status = .pending)
    (hnodup : items.Nodup) : Expanded batch.id items.length state next := by
  induction items generalizing state with
  | nil =>
    cases h
    exact Expanded.refl _ _
  | cons item items ih =>
    simp only [expandItems, except_bind_eq_ok] at h
    obtain ⟨middle, hmiddle, hrest⟩ := h
    obtain ⟨hstored, hbatch, hpending⟩ := hitems item List.mem_cons_self
    obtain ⟨hfirst, hkept⟩ := (expandItem_eq_ok hmiddle).expanded hstored hbatch hpending
    obtain ⟨hnot, hnodup⟩ := List.nodup_cons.mp hnodup
    have hlater : Expanded batch.id items.length middle next := by
      refine ih hrest (fun other hother => ?_) hnodup
      obtain ⟨hin, hrest⟩ := hitems other (List.mem_cons_of_mem _ hother)
      exact ⟨hkept other hin fun heq => hnot (heq ▸ hother), hrest⟩
    rw [List.length_cons, Nat.add_comm]
    exact hfirst.trans hlater

omit [JsRuntime ν] [ConnectorRuntime ν] in
theorem pendingItems_spec (items : Table BulkRunItem) (batchId : String) (limit : Nat) (hlimit : 0 < limit) :
    (∀ item ∈ pendingItems items batchId limit, item ∈ items ∧ item.batchId = batchId ∧ item.status = .pending) ∧
      (pendingItems items batchId limit).Nodup ∧
      (pendingItems items batchId limit = [] ↔ ∀ item ∈ items, item.batchId = batchId → item.status ≠ .pending) := by
  refine ⟨fun item hitem => ?_, List.Nodup.of_map Keyed.key Table.nodup_selection, ?_⟩
  · obtain ⟨hmem, hp⟩ := Table.mem_selection hitem
    rw [Bool.and_eq_true, decide_eq_true_eq, decide_eq_true_eq] at hp
    exact ⟨hmem, hp⟩
  · have hperm := List.perm_insertionSort (fun left right : BulkRunItem => left.sequence ≤ right.sequence)
      (items.records.filter fun item => item.batchId = batchId && item.status = .pending)
    rw [pendingItems, List.take_eq_nil_iff, or_iff_right hlimit.ne', ← List.length_eq_zero_iff, hperm.length_eq,
      List.length_eq_zero_iff, List.filter_eq_nil_iff]
    simp [Table.mem_def]

omit [JsRuntime ν] [ConnectorRuntime ν] in
theorem startBatch_same (now : Int) (batch : BulkRunBatch) : (startBatch now batch).id = batch.id ∧
    (startBatch now batch).selectedRowCount = batch.selectedRowCount ∧
    (startBatch now batch).queuedRowCount = batch.queuedRowCount ∧
    (startBatch now batch).skippedRowCount = batch.skippedRowCount ∧
    (startBatch now batch).createdByUserId = batch.createdByUserId := by
  unfold startBatch
  split <;> exact ⟨rfl, rfl, rfl, rfl, rfl⟩

omit [JsRuntime ν] [ConnectorRuntime ν] in
theorem BulkInvariant.advance {db db' : Database ν} (h : BulkInvariant db) {batch next : BulkRunBatch} {number : Nat}
    {started : Database ν} {expanded : Expansion ν} (hstep : BatchStep db batch next db')
    (hopen : batch.status.ended = false) (hstarted : started.batchItems batch.id = db.batchItems batch.id)
    (hexpanded : Expanded batch.id number ⟨0, 0, started⟩ expanded)
    (hitems : db'.batchItems batch.id = expanded.db.batchItems batch.id)
    (hselected : next.selectedRowCount = batch.selectedRowCount)
    (hqueued : next.queuedRowCount = batch.queuedRowCount + expanded.queued)
    (hskipped : next.skippedRowCount = batch.skippedRowCount + expanded.skipped)
    (huser : next.createdByUserId = batch.createdByUserId)
    (hstatus : next.status =
      if batch.queuedRowCount + batch.skippedRowCount + (expanded.queued + expanded.skipped) = batch.selectedRowCount
        then .completed else .running) : BulkInvariant db' ∧ EndedKept db db' := by
  have haccount := h.account batch hstep.stored
  have hpending := hexpanded.pending
  have hqueuedItems := hexpanded.queued
  have hskippedItems := hexpanded.skipped
  have hprocessed := hexpanded.processed
  have hlength := hexpanded.length
  have htotal := itemsWith_total (db.batchItems batch.id)
  dsimp only at hpending hqueuedItems hskippedItems hprocessed hlength
  rw [hstarted] at hpending hqueuedItems hskippedItems hlength
  rw [← haccount.selected] at htotal
  have hq := haccount.queued
  have hs := haccount.skipped
  have hdone : batch.queuedRowCount + batch.skippedRowCount + (expanded.queued + expanded.skipped) =
      batch.selectedRowCount ↔ itemsWith .pending (expanded.db.batchItems batch.id) = 0 := by omega
  refine ⟨hstep.invariant h ⟨?_, ?_, ?_, ?_, ?_, ?_⟩, hstep.endedKept hopen⟩
  · rw [hselected, haccount.selected, hstep.id, hitems, hlength]
  · rw [hqueued, hstep.id, hitems]
    omega
  · rw [hskipped, hstep.id, hitems]
    omega
  · rw [huser]
    exact haccount.requested
  · rw [hstatus]
    split <;> exact nofun
  · rw [hstep.id, hitems, ← hdone, hstatus]
    split
    · rename_i hcompleted
      exact ⟨fun _ => hcompleted, fun _ => rfl⟩
    · rename_i hrunning
      exact ⟨nofun, fun hcompleted => absurd hcompleted hrunning⟩

def finishChunk (now : Int) (expanded : Expansion ν) (missing completed : Prop) [Decidable missing]
    [Decidable completed] (batch : BulkRunBatch) : BulkRunBatch :=
  { batch with
    errorMessage := if missing then some "One or more selected rows no longer exists." else none
    finishedAt := if completed ∨ missing then some now else none
    queuedRowCount := batch.queuedRowCount + expanded.queued
    skippedRowCount := batch.skippedRowCount + expanded.skipped
    status := if missing then .failed else if completed then .completed else .running }

omit [JsRuntime ν] [ConnectorRuntime ν] in
theorem finishChunk_keepsKey (now : Int) (expanded : Expansion ν) (missing completed : Prop) [Decidable missing]
    [Decidable completed] : KeepsKey (finishChunk now expanded missing completed) := ⟨fun _ => rfl⟩

theorem BulkInvariant.expand {db db' : Database ν} (h : BulkInvariant db) {input : ExpandBulkRunBatch} {processed : Nat}
    {status : BulkRunBatchStatus} (hok : expandSqliteBulkRunBatchChunk db input = .ok (processed, status, db')) :
    BulkInvariant db' ∧ EndedKept db db' := by
  simp only [expandSqliteBulkRunBatchChunk, except_bind_eq_ok, requireSome_eq_ok] at hok
  obtain ⟨batch, hbatch, hok⟩ := hok
  obtain ⟨hstored, _⟩ := Table.get?_eq_some.mp hbatch
  have haccount := h.account batch hstored
  split at hok
  · cases hok
    exact ⟨h, (SameBulk.refl db).endedKept⟩
  · rename_i hended
    rw [Bool.not_eq_true] at hended
    split at hok
    · rename_i hnone
      exact absurd hnone haccount.requested
    · rename_i userId huser
      simp only [except_bind_eq_ok, pure, Except.pure, Except.ok.injEq, Prod.mk.injEq] at hok
      obtain ⟨expanded, hexpanded, _, _, hdb⟩ := hok
      obtain ⟨hid, hselected, hqueued, hskipped, hcreated⟩ := startBatch_same input.now batch
      obtain ⟨hitems, hnodup, hnil⟩ := pendingItems_spec db.bulkRunItems batch.id (max 1 (min input.chunkSize 100)).toNat
        (by omega)
      -- while the batch is open an item is pending, so the chunk has one
      have hpending : ∃ item ∈ db.batchItems batch.id, item.status = .pending := by
        rw [← itemsWith_pos]
        have hnot := mt haccount.ended.mpr (by simp [hended])
        omega
      have hsome : pendingItems db.bulkRunItems batch.id (max 1 (min input.chunkSize 100)).toNat ≠ [] := by
        intro hempty
        obtain ⟨item, hitem, hstatus⟩ := hpending
        obtain ⟨hmem, hown⟩ := mem_batchItems.mp hitem
        exact hnil.mp hempty item hmem hown hstatus
      have hchunk := expandItems_eq_ok hexpanded hitems hnodup
      have hstartedBatch : startBatch input.now batch ∈ expanded.db.bulkRunBatches := by
        rw [hchunk.batches]
        exact (mem_modify_batch hstored rfl (startBatch_keepsKey input.now)).mpr (Or.inr rfl)
      have hafter : db' = updateBatch expanded.db batch.id
          (finishChunk input.now expanded
            (pendingItems db.bulkRunItems batch.id (max 1 (min input.chunkSize 100)).toNat = [] ∧
              ¬ batch.queuedRowCount + batch.skippedRowCount + (expanded.queued + expanded.skipped) =
                batch.selectedRowCount)
            (batch.queuedRowCount + batch.skippedRowCount + (expanded.queued + expanded.skipped) =
              batch.selectedRowCount))
          (finishChunk_keepsKey _ _ _ _) := hdb.symm
      have hf := finishChunk_keepsKey input.now expanded
        (pendingItems db.bulkRunItems batch.id (max 1 (min input.chunkSize 100)).toNat = [] ∧
          ¬ batch.queuedRowCount + batch.skippedRowCount + (expanded.queued + expanded.skipped) =
            batch.selectedRowCount)
        (batch.queuedRowCount + batch.skippedRowCount + (expanded.queued + expanded.skipped) =
          batch.selectedRowCount)
      subst hafter
      refine h.advance ⟨hstored, (hf.key _).trans hid, fun other => ?_, hchunk.back, hchunk.others⟩ hended ?_ hchunk rfl
        hselected ?_ ?_ hcreated (if_neg fun hmissing => hsome hmissing.1)
      · show other ∈ expanded.db.bulkRunBatches.modify _ _ hf ↔ _
        rw [mem_modify_batch hstartedBatch hid hf, hchunk.batches]
        refine or_congr_left ?_
        show other ∈ db.bulkRunBatches.modify _ _ (startBatch_keepsKey input.now) ∧ _ ↔ _
        rw [mem_modify_batch hstored rfl (startBatch_keepsKey input.now)]
        constructor
        · rintro ⟨hold | rfl, hne⟩
          · exact hold
          · exact absurd hid hne
        · intro hold
          exact ⟨Or.inl hold, hold.2⟩
      · rfl
      · show (startBatch input.now batch).queuedRowCount + _ = _
        rw [hqueued]
      · show (startBatch input.now batch).skippedRowCount + _ = _
        rw [hskipped]

end Expand

section System

variable {ν : Type} [JsRuntime ν] [ConnectorRuntime ν]

omit [JsRuntime ν] [ConnectorRuntime ν] in
theorem BulkInvariant.commit {db : Database ν} (h : BulkInvariant db) {result : Except StoreError (Database ν)}
    (hok : ∀ db', result = .ok db' → BulkInvariant db' ∧ EndedKept db db') :
    BulkInvariant (db.commit result) ∧ EndedKept db (db.commit result) := by
  cases result with
  | ok db' => exact hok db' rfl
  | error _ => exact ⟨h, (SameBulk.refl db).endedKept⟩

omit [JsRuntime ν] [ConnectorRuntime ν] in
theorem BulkInvariant.commit_map {α : Type} {db : Database ν} (h : BulkInvariant db)
    {result : Except StoreError (α × Database ν)}
    (hok : ∀ output db', result = .ok (output, db') → SameBulk db db') :
    BulkInvariant (db.commit (result.map Prod.snd)) ∧ EndedKept db (db.commit (result.map Prod.snd)) := by
  cases result with
  | ok value => exact ⟨h.same (hok value.1 value.2 rfl), (hok value.1 value.2 rfl).endedKept⟩
  | error _ => exact ⟨h, (SameBulk.refl db).endedKept⟩

theorem BulkInvariant.step {db : Database ν} (h : BulkInvariant db) (action : CellRunAction ν) :
    BulkInvariant (db.stepCellRun action) ∧ EndedKept db (db.stepCellRun action) := by
  cases action with
  | queue input => exact h.commit_map fun _ _ hok => queueByUser_sameBulk hok
  | queueAutomatic input => exact h.commit_map fun _ _ hok => queueAutomatic_sameBulk hok
  | queueWorkflow input =>
    refine h.commit_map fun _ _ hok => ?_
    simp only [queueSqliteWorkflowEnrichmentCellRuns, except_bind_eq_ok] at hok
    obtain ⟨_, _, _, _, _, _, hrows⟩ := hok
    exact queueWorkflowRows_sameBulk hrows
  | createBatch input => exact h.commit fun _ hok => h.create hok
  | expandBatch input =>
    refine h.commit fun db' hok => ?_
    cases hexpand : expandSqliteBulkRunBatchChunk db input with
    | ok output =>
      rw [hexpand] at hok
      cases hok
      exact h.expand hexpand
    | error _ =>
      rw [hexpand] at hok
      cases hok
  | cancelBatch input => exact h.commit fun _ hok => h.cancel hok
  | mark input now => exact h.commit_map fun _ _ hok => mark_sameBulk hok
  | succeed input success stamp =>
    exact h.commit fun _ hok => ⟨h.same (succeed_sameBulk hok), (succeed_sameBulk hok).endedKept⟩
  | fail input failure stamp =>
    exact h.commit fun _ hok => ⟨h.same (setFailure_sameBulk hok), (setFailure_sameBulk hok).endedKept⟩

end System

end ByokGrid
