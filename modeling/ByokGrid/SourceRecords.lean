import ByokGrid.CellRunEffects
import ByokGrid.SourcePages

/-! What one applied page does to the identities of a source and to their rows. -/

namespace ByokGrid

section Rows

def RowsKept (rows rows' : Table Row) : Prop :=
  ∀ id row, rows.get? id = some row →
    ∃ row', rows'.get? id = some row' ∧ row'.tableId = row.tableId ∧ row'.archivedAt = row.archivedAt

theorem RowsKept.refl (rows : Table Row) : RowsKept rows rows :=
  fun _ row hrow => ⟨row, hrow, rfl, rfl⟩

theorem RowsKept.trans {a b c : Table Row} (hab : RowsKept a b) (hbc : RowsKept b c) : RowsKept a c := by
  intro id row hrow
  obtain ⟨row', hrow', htable, harchived⟩ := hab id row hrow
  obtain ⟨row'', hrow'', htable', harchived'⟩ := hbc id row' hrow'
  exact ⟨row'', hrow'', htable'.trans htable, harchived'.trans harchived⟩

theorem RowsKept.modify {rows : Table Row} {p : Row → Bool} {f : Row → Row} (hf : KeepsKey f)
    (htable : ∀ row, (f row).tableId = row.tableId) (harchived : ∀ row, (f row).archivedAt = row.archivedAt) :
    RowsKept rows (rows.modify p f hf) := by
  intro id row hrow
  refine ⟨if p row then f row else row, ?_, ?_, ?_⟩
  · rw [Table.get?_modify, hrow]
    rfl
  · split
    · exact htable row
    · rfl
  · split
    · exact harchived row
    · rfl

theorem RowsKept.insert {rows rows' : Table Row} {row : Row} (h : rows.insert row = some rows') :
    RowsKept rows rows' := by
  intro id other hother
  refine ⟨other, ?_, rfl, rfl⟩
  rw [Table.get?_insert h, if_neg]
  · exact hother
  · intro hid
    rw [hid, (Table.insert_eq_some h).2] at hother
    cases hother

variable {ν : Type}

theorem record_rows {db db' : Database ν} {input : RowMutation} {stamp : MutationStamp}
    (h : recordSqliteRowMutationAndMaybeQueueSettlement db input stamp = .ok db') :
    db'.grid.rows = db.grid.rows.modify (fun row => row.id = input.rowId && row.tableId = input.tableId)
      bumpRow ⟨fun _ => rfl⟩ := by
  simp only [recordSqliteRowMutationAndMaybeQueueSettlement, except_bind_eq_ok] at h
  obtain ⟨row, _, h⟩ := h
  split at h
  · cases h
    rfl
  · split at h
    · cases h
      rfl
    · split at h
      · cases h
        rfl
      · simp only [except_bind_eq_ok, pure, Except.pure, Except.ok.injEq] at h
        obtain ⟨events, _, rfl⟩ := h
        rfl

variable [JsRuntime ν]

omit [JsRuntime ν] in
theorem createPlannedColumns_frame {tableId : String} {columnId : Nat → String} {index : Nat}
    {plans : List CsvColumnPlan} {grid grid' : Grid ν} {mapping : List SourceField}
    (h : createPlannedColumns tableId columnId index plans grid = .ok (mapping, grid')) :
    grid' = { grid with columns := grid'.columns } := by
  induction plans generalizing index grid mapping with
  | nil =>
    cases h
    rfl
  | cons plan plans ih =>
    unfold createPlannedColumns at h
    split at h
    · simp only [except_bind_eq_ok, pure, Except.pure, Except.ok.injEq, Prod.mk.injEq] at h
      obtain ⟨rest, hrest, _, rfl⟩ := h
      exact ih hrest
    · simp only [except_bind_eq_ok, pure, Except.pure, Except.ok.injEq, Prod.mk.injEq] at h
      obtain ⟨created, hcreated, rest, hrest, _, rfl⟩ := h
      simp only [insertColumn, except_bind_eq_ok, pure, Except.pure, Except.ok.injEq] at hcreated
      obtain ⟨_, _, _, _, rfl⟩ := hcreated
      rw [ih hrest]

theorem mapFields_frame {grid grid' : Grid ν} {input : MapFields} {mapping : List SourceField}
    (h : mapFields grid input = .ok (mapping, grid')) : grid' = { grid with columns := grid'.columns } := by
  simp only [mapFields, except_bind_eq_ok, pure, Except.pure, Except.ok.injEq, Prod.mk.injEq] at h
  obtain ⟨_, _, plans, _, created, hcreated, _, rfl⟩ := h
  exact createPlannedColumns_frame hcreated

omit [JsRuntime ν] in
theorem insertTextCells_frame {cells : List TextCell} {grid grid' : Grid ν}
    (h : insertTextCells cells grid = .ok grid') : grid' = { grid with cells := grid'.cells } := by
  induction cells generalizing grid with
  | nil =>
    cases h
    rfl
  | cons cell cells ih =>
    simp only [insertTextCells, insertTextCell, except_bind_eq_ok, pure, Except.pure, Except.ok.injEq] at h
    obtain ⟨next, ⟨_, _, _, _, rfl⟩, hrest⟩ := h
    rw [ih hrest]
    rfl

theorem settleSourceRows_rows {input : SourcePage} {mappedColumnIds : List String} {index : Nat}
    {rowIds : List String} {db db' : Database ν}
    (h : settleSourceRows input mappedColumnIds index rowIds db = .ok db') : RowsKept db.grid.rows db'.grid.rows := by
  induction rowIds generalizing index db with
  | nil =>
    cases h
    exact RowsKept.refl _
  | cons rowId rowIds ih =>
    simp only [settleSourceRows, except_bind_eq_ok] at h
    obtain ⟨⟨changed, grid⟩, hrecomputed, recorded, hrecorded, hrest⟩ := h
    have hgrid : grid.rows = db.grid.rows := by
      rw [(recomputeFormulas_frame hrecomputed).cellsOnly]
    have hrow : RowsKept db.grid.rows recorded.grid.rows := by
      rw [record_rows hrecorded, ← hgrid]
      exact RowsKept.modify _ (fun _ => rfl) fun _ => rfl
    exact hrow.trans (ih hrest)

theorem writeSourceCells_rows {db db' : Database ν} {input : SourcePage} {mapping : List SourceField}
    {items : List PageItem} (h : writeSourceCells db input mapping items = .ok db') :
    RowsKept db.grid.rows db'.grid.rows := by
  unfold writeSourceCells at h
  dsimp only at h
  split at h
  · cases h
    exact RowsKept.refl _
  · simp only [except_bind_eq_ok] at h
    obtain ⟨written, hwritten, hsettled⟩ := h
    have hrows : written.rows = db.grid.rows := by
      rw [insertTextCells_frame hwritten]
      rfl
    have hkept := settleSourceRows_rows hsettled
    rw [← hrows]
    exact hkept

end Rows

section Identities

variable {records : Table SourceRecord}

def RowsUnique (records : Table SourceRecord) : Prop :=
  ∀ a ∈ records, ∀ b ∈ records, a.sourceId = b.sourceId → a.rowId = b.rowId → a = b

structure KeepsIdentity (f : SourceRecord → SourceRecord) : Prop where
  sourceId : ∀ record, (f record).sourceId = record.sourceId
  recordKey : ∀ record, (f record).recordKey = record.recordKey
  rowId : ∀ record, (f record).rowId = record.rowId

theorem KeepsIdentity.keepsKey {f : SourceRecord → SourceRecord} (h : KeepsIdentity f) : KeepsKey f := by
  constructor
  intro record
  show ((f record).sourceId, (f record).recordKey) = (record.sourceId, record.recordKey)
  rw [h.sourceId, h.recordKey]

theorem KeepsIdentity.ite {f : SourceRecord → SourceRecord} (h : KeepsIdentity f) (p : SourceRecord → Bool) :
    KeepsIdentity fun record => if p record then f record else record := by
  constructor
  · intro record
    split
    · exact h.sourceId record
    · rfl
  · intro record
    split
    · exact h.recordKey record
    · rfl
  · intro record
    split
    · exact h.rowId record
    · rfl

theorem RowsUnique.modify (h : RowsUnique records) {f : SourceRecord → SourceRecord} (hf : KeepsIdentity f)
    (p : SourceRecord → Bool) : RowsUnique (records.modify p f hf.keepsKey) := by
  intro a ha b hb hsource hrow
  obtain ⟨left, hleft, rfl⟩ := (Table.mem_modify hf.keepsKey).mp ha
  obtain ⟨right, hright, rfl⟩ := (Table.mem_modify hf.keepsKey).mp hb
  have hkept := hf.ite p
  have heq : left = right := by
    apply h left hleft right hright
    · rw [← hkept.sourceId left, ← hkept.sourceId right]
      exact hsource
    · rw [← hkept.rowId left, ← hkept.rowId right]
      exact hrow
  rw [heq]

theorem RowsUnique.mem_rowIds (h : RowsUnique records) {sourceId : String} {p : SourceRecord → Bool}
    (hp : ∀ record, p record = true → record.sourceId = sourceId) {record : SourceRecord} (hrecord : record ∈ records)
    (hsource : record.sourceId = sourceId) :
    record.rowId ∈ (records.records.filter p).map SourceRecord.rowId ↔ p record = true := by
  rw [List.mem_map]
  constructor
  · intro hmem
    obtain ⟨other, hother, hrow⟩ := hmem
    obtain ⟨hother, hpother⟩ := List.mem_filter.mp hother
    rw [← h other hother record hrecord ((hp other hpother).trans hsource.symm) hrow]
    exact hpother
  · intro hprecord
    exact ⟨record, List.mem_filter.mpr ⟨hrecord, hprecord⟩, rfl⟩

theorem restoredRecord_keeps : KeepsIdentity restoredRecord := ⟨fun _ => rfl, fun _ => rfl, fun _ => rfl⟩

theorem seenRecord_keeps (sourceRunId : String) : KeepsIdentity (seenRecord sourceRunId) :=
  ⟨fun _ => rfl, fun _ => rfl, fun _ => rfl⟩

theorem archivedRecord_keeps (input : SourcePage) : KeepsIdentity (archivedRecord input) :=
  ⟨fun _ => rfl, fun _ => rfl, fun _ => rfl⟩

def restorable (input : SourcePage) (record : SourceRecord) : Bool :=
  pageIdentity input record && record.archivedAt.isSome

def markSeen (input : SourcePage) (record : SourceRecord) : SourceRecord :=
  if pageIdentity input record then seenRecord input.sourceRunId record else record

def sweptRecord (input : SourcePage) (mode : SourceMissingRecordMode) (record : SourceRecord) : SourceRecord :=
  if shouldArchiveMissingSourceRecords input.completed mode && missingIdentity input record then
    archivedRecord input record
  else record

def sightedRecord (input : SourcePage) (record : SourceRecord) : SourceRecord :=
  markSeen input (if restorable input record then restoredRecord record else record)

def recordAfter (input : SourcePage) (mode : SourceMissingRecordMode) (record : SourceRecord) : SourceRecord :=
  sweptRecord input mode (sightedRecord input record)

theorem pageIdentity_restored (input : SourcePage) (record : SourceRecord) :
    pageIdentity input (if restorable input record then restoredRecord record else record) =
      pageIdentity input record := by
  split <;> rfl

theorem sightedRecord_keeps (input : SourcePage) : KeepsIdentity (sightedRecord input) where
  sourceId record := ((seenRecord_keeps _).ite _).sourceId _ |>.trans ((restoredRecord_keeps.ite _).sourceId record)
  recordKey record := ((seenRecord_keeps _).ite _).recordKey _ |>.trans ((restoredRecord_keeps.ite _).recordKey record)
  rowId record := ((seenRecord_keeps _).ite _).rowId _ |>.trans ((restoredRecord_keeps.ite _).rowId record)

theorem recordAfter_keeps (input : SourcePage) (mode : SourceMissingRecordMode) :
    KeepsIdentity (recordAfter input mode) := by
  have hsighted := sightedRecord_keeps input
  have hswept := (archivedRecord_keeps input).ite fun record =>
    shouldArchiveMissingSourceRecords input.completed mode && missingIdentity input record
  constructor
  · intro record
    exact (hswept.sourceId _).trans (hsighted.sourceId record)
  · intro record
    exact (hswept.recordKey _).trans (hsighted.recordKey record)
  · intro record
    exact (hswept.rowId _).trans (hsighted.rowId record)

end Identities

section Stages

variable {ν : Type} [JsRuntime ν] {input : SourcePage}

theorem pageIdentity_iff {record : SourceRecord} :
    pageIdentity input record = true ↔ record.sourceId = input.sourceId ∧ record.recordKey ∈ input.keys := by
  simp [pageIdentity]

def newIdentity (input : SourcePage) (key rowId : String) : SourceRecord where
  sourceId := input.sourceId
  recordKey := key
  tableId := input.tableId
  rowId := rowId
  lastSeenRunId := some input.sourceRunId

structure IdentitiesCreated (input : SourcePage) (items : List NormalizedSourceRecord) (state state' : SourceRows ν) :
    Prop where
  old : ∀ record ∈ state.records, record ∈ state'.records
  new : ∀ record ∈ state'.records, record ∈ state.records ∨
    ∃ item ∈ items, ∃ rowId, record = newIdentity input item.key rowId
  all : ∀ item ∈ items, ∃ rowId, newIdentity input item.key rowId ∈ state'.records
  unique : RowsUnique state.records → RowsUnique state'.records
  rows : RowsKept state.grid.rows state'.grid.rows

theorem RowsUnique.insert {records records' : Table SourceRecord} (h : RowsUnique records) {record : SourceRecord}
    (hinsert : records.insert record = some records')
    (hrow : ∀ other ∈ records, other.sourceId = record.sourceId → other.rowId ≠ record.rowId) :
    RowsUnique records' := by
  intro a ha b hb hsource hrows
  rcases (Table.mem_insert hinsert).mp ha with hleft | rfl
  · rcases (Table.mem_insert hinsert).mp hb with hright | rfl
    · exact h a hleft b hright hsource hrows
    · exact absurd hrows (hrow a hleft hsource)
  · rcases (Table.mem_insert hinsert).mp hb with hright | rfl
    · exact absurd hrows.symm (hrow b hright hsource.symm)
    · rfl

omit [JsRuntime ν] in
theorem createSourceRows_created {index : Nat} {items : List NormalizedSourceRecord} {state state' : SourceRows ν}
    (h : createSourceRows input index items state = .ok state') : IdentitiesCreated input items state state' := by
  induction items generalizing index state with
  | nil =>
    cases h
    exact ⟨fun _ h => h, fun _ h => Or.inl h, nofun, id, RowsKept.refl _⟩
  | cons item items ih =>
    simp only [createSourceRows, except_bind_eq_ok, requireSome_eq_ok, requireThat_eq_ok] at h
    obtain ⟨grid, hgrid, _, hfree, records, hinsert, hrest⟩ := h
    have hcreated := ih hrest
    have hnew : newIdentity input item.key (input.rowId index) ∈ records :=
      (Table.mem_insert hinsert).mpr (Or.inr rfl)
    refine ⟨?_, ?_, ?_, ?_, ?_⟩
    · intro record hrecord
      exact hcreated.old record ((Table.mem_insert hinsert).mpr (Or.inl hrecord))
    · intro record hrecord
      rcases hcreated.new record hrecord with hbefore | ⟨other, hother, rowId, rfl⟩
      · rcases (Table.mem_insert hinsert).mp hbefore with hold | rfl
        · exact Or.inl hold
        · exact Or.inr ⟨item, List.mem_cons_self, input.rowId index, rfl⟩
      · exact Or.inr ⟨other, List.mem_cons_of_mem item hother, rowId, rfl⟩
    · intro other hother
      rcases List.mem_cons.mp hother with rfl | hlater
      · exact ⟨input.rowId index, hcreated.old _ hnew⟩
      · exact hcreated.all other hlater
    · intro hunique
      apply hcreated.unique
      apply hunique.insert hinsert
      intro other hother hsource hrow
      rw [Bool.not_eq_true', List.any_eq_false] at hfree
      apply hfree other hother
      simp only [Bool.and_eq_true, decide_eq_true_eq]
      exact ⟨hsource, hrow⟩
    · simp only [insertRow, except_bind_eq_ok, requireSome_eq_ok, pure, Except.pure, Except.ok.injEq] at hgrid
      obtain ⟨rows, hrows, rfl⟩ := hgrid
      exact (RowsKept.insert hrows).trans hcreated.rows

theorem sweptRecord_new (mode : SourceMissingRecordMode) {key : String} (rowId : String) :
    sweptRecord input mode (markSeen input (newIdentity input key rowId)) = newIdentity input key rowId := by
  have hseen : markSeen input (newIdentity input key rowId) = newIdentity input key rowId := by
    unfold markSeen
    split <;> rfl
  have hmissing : missingIdentity input (newIdentity input key rowId) = false := by
    simp [missingIdentity, newIdentity]
  rw [hseen, sweptRecord, hmissing, Bool.and_false, if_neg Bool.false_ne_true]

/-- The identities after a page: the old ones as `recordAfter` says, and new ones
for the keys of the page which the source had not had. -/
structure RecordsApplied (input : SourcePage) (mode : SourceMissingRecordMode) (records records' : Table SourceRecord) :
    Prop where
  unseen : ∀ record ∈ records, pageIdentity input record = true → record.lastSeenRunId ≠ some input.sourceRunId
  old : ∀ record ∈ records, recordAfter input mode record ∈ records'
  new : ∀ record' ∈ records', (∃ record ∈ records, record' = recordAfter input mode record) ∨
    ∃ key ∈ input.keys, ∃ rowId, record' = newIdentity input key rowId ∧
      ∀ record ∈ records, record.sourceId = input.sourceId → record.recordKey ≠ key
  all : ∀ key ∈ input.keys, ∃ record' ∈ records', record'.sourceId = input.sourceId ∧ record'.recordKey = key
  unique : RowsUnique records'

def RowsRestored (input : SourcePage) (records : Table SourceRecord) (rows rows' : Table Row) : Prop :=
  ∀ record ∈ records, restorable input record = true → ∀ row, rows.get? record.rowId = some row →
    row.tableId = input.tableId → ∃ row', rows'.get? record.rowId = some row' ∧ row'.archivedAt = none

theorem recordAfter_page (mode : SourceMissingRecordMode) {record : SourceRecord} (h : pageIdentity input record = true) :
    (recordAfter input mode record).lastSeenRunId = some input.sourceRunId ∧
      (recordAfter input mode record).archivedAt = none := by
  have hsighted : (sightedRecord input record).lastSeenRunId = some input.sourceRunId ∧
      (sightedRecord input record).archivedAt = none := by
    unfold sightedRecord markSeen
    rw [pageIdentity_restored, if_pos h]
    refine ⟨rfl, ?_⟩
    by_cases hrestorable : restorable input record = true
    · rw [if_pos hrestorable]
      rfl
    · rw [if_neg hrestorable]
      rw [restorable, h, Bool.true_and, Option.isSome_iff_ne_none, not_not] at hrestorable
      exact hrestorable
  have hmissing : missingIdentity input (sightedRecord input record) = false := by
    rw [missingIdentity, hsighted.1]
    simp
  rw [recordAfter, sweptRecord, hmissing, Bool.and_false, if_neg Bool.false_ne_true]
  exact hsighted

theorem recordAfter_other (mode : SourceMissingRecordMode) {record : SourceRecord}
    (h : pageIdentity input record = false) : recordAfter input mode record = sweptRecord input mode record := by
  have hrestorable : restorable input record = false := by
    rw [restorable, h, Bool.false_and]
  rw [recordAfter, sightedRecord, hrestorable, if_neg Bool.false_ne_true, markSeen, h, if_neg Bool.false_ne_true]

theorem sweptRecord_lastSeen (mode : SourceMissingRecordMode) (record : SourceRecord) :
    (sweptRecord input mode record).lastSeenRunId = record.lastSeenRunId := by
  unfold sweptRecord
  split <;> rfl

theorem sweptRecord_archived (mode : SourceMissingRecordMode) (record : SourceRecord) :
    (sweptRecord input mode record).archivedAt ≠ none ↔ record.archivedAt ≠ none ∨
      input.completed = true ∧ mode = .archive ∧ record.sourceId = input.sourceId ∧
        record.lastSeenRunId ≠ some input.sourceRunId := by
  unfold sweptRecord shouldArchiveMissingSourceRecords missingIdentity
  by_cases harchived : record.archivedAt = none
  · simp only [harchived, Option.isNone_none, Bool.and_true, ne_eq, not_true_eq_false, false_or]
    split
    · rename_i hswept
      simp only [Bool.and_eq_true, decide_eq_true_eq] at hswept
      simp only [archivedRecord, reduceCtorEq, not_false_eq_true, true_iff]
      exact ⟨hswept.1.1, hswept.1.2, hswept.2.1, hswept.2.2⟩
    · rename_i hswept
      simp only [Bool.and_eq_true, decide_eq_true_eq] at hswept
      simp only [harchived, not_true_eq_false, false_iff]
      intro hall
      exact hswept ⟨⟨hall.1, hall.2.1⟩, hall.2.2.1, hall.2.2.2⟩
  · have hnone : record.archivedAt.isNone = false := by
      rw [Option.isNone_eq_false_iff, Option.isSome_iff_ne_none]
      exact harchived
    rw [hnone, Bool.and_false, Bool.false_and, Bool.and_false, if_neg Bool.false_ne_true]
    simp [harchived]

structure PageTally (input : SourcePage) (counts : PageCounts) : Prop where
  received : counts.received = input.batch.records.length
  created : counts.created ≤ counts.received
  restored : counts.restored ≤ counts.received - counts.created

variable {records : Table SourceRecord}

def newPageRecords (input : SourcePage) (records : Table SourceRecord) : List NormalizedSourceRecord :=
  input.batch.records.filter fun item => (records.get? (input.sourceId, item.key)).isNone

theorem length_newPageRecords (input : SourcePage) (records : Table SourceRecord) :
    (newPageRecords input records).length ≤ input.batch.records.length :=
  List.length_filter_le _ _

theorem length_restorable (input : SourcePage) (records : Table SourceRecord) :
    (records.records.filter (restorable input)).length ≤
      input.batch.records.length - (newPageRecords input records).length := by
  let known := input.batch.records.filter fun item => !(records.get? (input.sourceId, item.key)).isNone
  have hsplit : (newPageRecords input records).length + known.length = input.batch.records.length := by
    rw [← List.length_append]
    exact (List.filter_append_perm _ _).length_eq
  have hnd : ((records.records.filter (restorable input)).map SourceRecord.recordKey).Nodup := by
    have hkeys := records.nodup.sublist ((List.filter_sublist (p := restorable input)).map Keyed.key)
    have hpairs : (records.records.filter (restorable input)).map Keyed.key =
        ((records.records.filter (restorable input)).map SourceRecord.recordKey).map (Prod.mk input.sourceId) := by
      rw [List.map_map]
      apply List.map_congr_left
      intro record hrecord
      have hrestorable := (List.mem_filter.mp hrecord).2
      simp only [restorable, Bool.and_eq_true, pageIdentity_iff] at hrestorable
      show (record.sourceId, record.recordKey) = (input.sourceId, record.recordKey)
      rw [hrestorable.1.1]
    rw [hpairs] at hkeys
    exact List.Nodup.of_map _ hkeys
  have hsubset : (records.records.filter (restorable input)).map SourceRecord.recordKey ⊆
      known.map NormalizedSourceRecord.key := by
    intro key hkey
    obtain ⟨record, hrecord, rfl⟩ := List.mem_map.mp hkey
    obtain ⟨hmem, hrestorable⟩ := List.mem_filter.mp hrecord
    simp only [restorable, Bool.and_eq_true, pageIdentity_iff] at hrestorable
    obtain ⟨item, hitem, hitem_key⟩ := List.mem_map.mp hrestorable.1.2
    refine List.mem_map.mpr ⟨item, List.mem_filter.mpr ⟨hitem, ?_⟩, hitem_key⟩
    have hget : records.get? (input.sourceId, item.key) = some record := by
      rw [hitem_key, ← hrestorable.1.1]
      exact Table.get?_of_mem hmem
    rw [hget]
    rfl
  have hlength := (List.subperm_of_subset hnd hsubset).length_le
  rw [List.length_map, List.length_map] at hlength
  omega

omit [JsRuntime ν] in
theorem restoreIdentities_records (hunique : RowsUnique records) (grid : Grid ν) :
    (restoreIdentities input ((records.records.filter (restorable input)).map SourceRecord.rowId)
      ⟨grid, records⟩).records = records.modify (restorable input) restoredRecord restoredRecord_keeps.keepsKey := by
  apply Table.modify_congr
  intro record hrecord
  by_cases hsource : record.sourceId = input.sourceId
  · have hrestorable : ∀ other, restorable input other = true → other.sourceId = input.sourceId := by
      intro other hother
      simp only [restorable, Bool.and_eq_true, pageIdentity_iff] at hother
      exact hother.1.1
    rw [decide_eq_true hsource, Bool.true_and, Bool.eq_iff_iff, decide_eq_true_eq]
    exact hunique.mem_rowIds hrestorable hrecord hsource
  · rw [decide_eq_false hsource, Bool.false_and]
    simp [restorable, pageIdentity, hsource]

omit [JsRuntime ν] in
theorem archiveMissing_records (hunique : RowsUnique records) (grid : Grid ν) :
    (archiveMissing input ((records.records.filter (missingIdentity input)).map SourceRecord.rowId)
      ⟨grid, records⟩).records =
      records.modify (missingIdentity input) (archivedRecord input) (archivedRecord_keeps input).keepsKey := by
  apply Table.modify_congr
  intro record hrecord
  have hmissing : ∀ other, missingIdentity input other = true → other.sourceId = input.sourceId := by
    intro other hother
    simp only [missingIdentity, Bool.and_eq_true, decide_eq_true_eq] at hother
    exact hother.1.1
  by_cases hsource : record.sourceId = input.sourceId
  · have hrows := hunique.mem_rowIds hmissing hrecord hsource
    rw [decide_eq_true hsource, Bool.true_and, Bool.eq_iff_iff, Bool.and_eq_true, decide_eq_true_eq, hrows]
    constructor
    · intro hboth
      exact hboth.1
    · intro hrecord_missing
      refine ⟨hrecord_missing, ?_⟩
      simp only [missingIdentity, Bool.and_eq_true] at hrecord_missing
      exact hrecord_missing.1.2
  · rw [decide_eq_false hsource, Bool.false_and, Bool.false_and]
    simp [missingIdentity, hsource]

omit [JsRuntime ν] in
theorem sweepMissing_records {mode : SourceMissingRecordMode} (hunique : RowsUnique records) (grid : Grid ν) :
    let seen := records.modify (pageIdentity input) (seenRecord input.sourceRunId) ⟨fun _ => rfl⟩
    let swept := (sweepMissing input mode ⟨grid, seen⟩).2.records
    RowsUnique swept ∧ ∀ after, after ∈ swept ↔ ∃ record ∈ records, after = sweptRecord input mode (markSeen input record) := by
  intro seen swept
  have hseen : RowsUnique seen := hunique.modify (seenRecord_keeps _) _
  have hmem : ∀ after, after ∈ seen ↔ ∃ record ∈ records,
      after = markSeen input record :=
    fun _ => Table.mem_modify _
  by_cases hsweep : shouldArchiveMissingSourceRecords input.completed mode = true
  · have hswept : swept = seen.modify (missingIdentity input) (archivedRecord input)
        (archivedRecord_keeps input).keepsKey := by
      show (sweepMissing input mode ⟨grid, seen⟩).2.records = _
      unfold sweepMissing
      rw [if_pos hsweep]
      exact archiveMissing_records hseen grid
    rw [hswept]
    refine ⟨hseen.modify (archivedRecord_keeps input) _, ?_⟩
    intro after
    rw [Table.mem_modify]
    simp only [hmem, sweptRecord, hsweep, Bool.true_and]
    constructor
    · intro hafter
      obtain ⟨_, ⟨record, hrecord, rfl⟩, rfl⟩ := hafter
      exact ⟨record, hrecord, rfl⟩
    · intro hafter
      obtain ⟨record, hrecord, rfl⟩ := hafter
      exact ⟨_, ⟨record, hrecord, rfl⟩, rfl⟩
  · have hswept : swept = seen := by
      show (sweepMissing input mode ⟨grid, seen⟩).2.records = _
      unfold sweepMissing
      rw [if_neg hsweep]
    rw [hswept]
    refine ⟨hseen, ?_⟩
    intro after
    rw [hmem]
    simp only [sweptRecord, hsweep, Bool.false_and, Bool.false_eq_true, if_false]

omit [JsRuntime ν] in
theorem sweepMissing_rows {mode : SourceMissingRecordMode} (hunique : RowsUnique records) {grid : Grid ν}
    {record : SourceRecord} (hrecord : record ∈ records) (hsource : record.sourceId = input.sourceId)
    (hmissing : missingIdentity input record = false) {row : Row} (hrow : grid.rows.get? record.rowId = some row) :
    (sweepMissing input mode ⟨grid, records⟩).2.grid.rows.get? record.rowId = some row := by
  by_cases hsweep : shouldArchiveMissingSourceRecords input.completed mode = true
  · have hother : ∀ other, missingIdentity input other = true → other.sourceId = input.sourceId := by
      intro other h
      simp only [missingIdentity, Bool.and_eq_true, decide_eq_true_eq] at h
      exact h.1.1
    have hnot : record.rowId ∉ (records.records.filter (missingIdentity input)).map SourceRecord.rowId := by
      rw [hunique.mem_rowIds hother hrecord hsource, hmissing]
      exact Bool.false_ne_true
    have hid : row.id = record.rowId := (Table.get?_eq_some.mp hrow).2
    unfold sweepMissing
    rw [if_pos hsweep]
    simp only [archiveMissing]
    rw [Table.get?_modify, hrow, Option.map_some, if_neg]
    rw [hid, decide_eq_false hnot, Bool.and_false, Bool.false_and]
    exact Bool.false_ne_true
  · unfold sweepMissing
    rw [if_neg hsweep]
    exact hrow

theorem archivedIdentities_eq (input : SourcePage) (records : Table SourceRecord) :
    (records.records.filter (pageIdentity input)).filter (fun identity => identity.archivedAt.isSome) =
      records.records.filter (restorable input) := by
  rw [List.filter_filter]
  apply List.filter_congr
  intro record _
  exact Bool.and_comm _ _

omit [JsRuntime ν] in
theorem recordsApplied_of_created {mode : SourceMissingRecordMode} (hunique : RowsUnique records)
    (hunseen : ∀ record ∈ records, pageIdentity input record = true → record.lastSeenRunId ≠ some input.sourceRunId)
    {grid written : Grid ν} {created : SourceRows ν}
    (h : IdentitiesCreated input (newPageRecords input records)
      ⟨grid, records.modify (restorable input) restoredRecord restoredRecord_keeps.keepsKey⟩ created) :
    RecordsApplied input mode records (sweepMissing input mode ⟨written, created.records.modify (pageIdentity input)
      (seenRecord input.sourceRunId) ⟨fun _ => rfl⟩⟩).2.records := by
  obtain ⟨hswept, hmem⟩ := @sweepMissing_records ν input _ mode (h.unique (hunique.modify restoredRecord_keeps _)) written
  have hold : ∀ record ∈ records, recordAfter input mode record ∈ (sweepMissing input mode ⟨written,
      created.records.modify (pageIdentity input) (seenRecord input.sourceRunId) ⟨fun _ => rfl⟩⟩).2.records := by
    intro record hrecord
    rw [hmem]
    have hrestored := (Table.mem_modify (p := restorable input) restoredRecord_keeps.keepsKey).mpr
      ⟨record, hrecord, rfl⟩
    exact ⟨_, h.old _ hrestored, rfl⟩
  refine ⟨hunseen, hold, ?_, ?_, hswept⟩
  · intro after hafter
    obtain ⟨record, hrecord, rfl⟩ := (hmem after).mp hafter
    rcases h.new record hrecord with hrestored | ⟨item, hitem, rowId, rfl⟩
    · obtain ⟨before, hbefore, rfl⟩ := (Table.mem_modify restoredRecord_keeps.keepsKey).mp hrestored
      exact Or.inl ⟨before, hbefore, rfl⟩
    · obtain ⟨hmem_item, hnew⟩ := List.mem_filter.mp hitem
      refine Or.inr ⟨item.key, List.mem_map_of_mem hmem_item, rowId, sweptRecord_new mode rowId, ?_⟩
      intro other hother hsource hkey
      rw [Option.isNone_iff_eq_none] at hnew
      apply Table.get?_eq_none.mp hnew other hother
      show (other.sourceId, other.recordKey) = (input.sourceId, item.key)
      rw [hsource, hkey]
  · intro key hkey
    obtain ⟨item, hitem, rfl⟩ := List.mem_map.mp hkey
    cases hget : records.get? (input.sourceId, item.key) with
    | none =>
      have hnew : item ∈ newPageRecords input records := by
        apply List.mem_filter.mpr
        rw [hget]
        exact ⟨hitem, rfl⟩
      obtain ⟨rowId, hrecord⟩ := h.all item hnew
      exact ⟨_, (hmem _).mpr ⟨_, hrecord, (sweptRecord_new mode rowId).symm⟩, rfl, rfl⟩
    | some record =>
      obtain ⟨hrecord, hpair⟩ := Table.get?_eq_some.mp hget
      have hkeeps := recordAfter_keeps input mode
      refine ⟨_, hold record hrecord, ?_, ?_⟩
      · rw [hkeeps.sourceId]
        exact congrArg Prod.fst hpair
      · rw [hkeeps.recordKey]
        exact congrArg Prod.snd hpair

theorem rowsRestored_of_created {mode : SourceMissingRecordMode} (hunique : RowsUnique records)
    {grid : Grid ν} {created : SourceRows ν} {rows : Table Row} {written : Database ν} {mapping : List SourceField}
    {items : List PageItem} (hrows : grid.rows = rows)
    (hcreated : createSourceRows input 0 (newPageRecords input records)
      (restoreIdentities input ((records.records.filter (restorable input)).map SourceRecord.rowId) ⟨grid, records⟩) =
        .ok created)
    {db : Database ν} (hwritten : writeSourceCells { db with grid := created.grid } input mapping items = .ok written) :
    RowsRestored input records rows (sweepMissing input mode ⟨written.grid, created.records.modify (pageIdentity input)
      (seenRecord input.sourceRunId) ⟨fun _ => rfl⟩⟩).2.grid.rows := by
  have hstage := createSourceRows_created hcreated
  have hrecords : (restoreIdentities input ((records.records.filter (restorable input)).map SourceRecord.rowId)
      ⟨grid, records⟩).records = records.modify (restorable input) restoredRecord restoredRecord_keeps.keepsKey :=
    restoreIdentities_records hunique grid
  intro record hrecord hrestorable row hrow htable
  have hkey := hrestorable
  rw [restorable, Bool.and_eq_true] at hkey
  -- the row comes back, and the new rows and cells leave it alone
  have hrestored : (restoreIdentities input ((records.records.filter (restorable input)).map SourceRecord.rowId)
      ⟨grid, records⟩).grid.rows.get? record.rowId = some (restoredRow row) := by
    have hid : row.id = record.rowId := (Table.get?_eq_some.mp hrow).2
    have hselected : record.rowId ∈ (records.records.filter (restorable input)).map SourceRecord.rowId :=
      List.mem_map_of_mem (List.mem_filter.mpr ⟨hrecord, hrestorable⟩)
    simp only [restoreIdentities]
    rw [Table.get?_modify, hrows, hrow, Option.map_some, if_pos]
    rw [htable, hid, decide_eq_true rfl, decide_eq_true hselected]
    rfl
  obtain ⟨row', hrow', _, harchived⟩ := hstage.rows _ _ hrestored
  obtain ⟨row'', hrow'', _, harchived'⟩ := writeSourceCells_rows hwritten _ _ hrow'
  refine ⟨row'', ?_, harchived'.trans harchived⟩
  -- the page has seen its identity, which is therefore not missing
  have hseen : sightedRecord input record ∈
      created.records.modify (pageIdentity input) (seenRecord input.sourceRunId) ⟨fun _ => rfl⟩ := by
    refine (Table.mem_modify _).mpr ⟨restoredRecord record, hstage.old _ ?_, ?_⟩
    · rw [hrecords, Table.mem_modify]
      exact ⟨record, hrecord, by rw [if_pos hrestorable]⟩
    · rw [sightedRecord, if_pos hrestorable]
      rfl
  have hunique' : RowsUnique (created.records.modify (pageIdentity input) (seenRecord input.sourceRunId)
      ⟨fun _ => rfl⟩) := by
    apply RowsUnique.modify _ (seenRecord_keeps input.sourceRunId)
    apply hstage.unique
    rw [hrecords]
    exact hunique.modify restoredRecord_keeps _
  have hsource : (sightedRecord input record).sourceId = input.sourceId := by
    rw [(sightedRecord_keeps input).sourceId]
    exact (pageIdentity_iff.mp hkey.1).1
  have hpage : pageIdentity input (restoredRecord record) = true := hkey.1
  have hmissing : missingIdentity input (sightedRecord input record) = false := by
    rw [sightedRecord, if_pos hrestorable, markSeen, if_pos hpage]
    simp [missingIdentity, seenRecord]
  have hrow_id := (sightedRecord_keeps input).rowId record
  rw [← hrow_id]
  apply sweepMissing_rows hunique' hseen hsource hmissing
  rw [hrow_id]
  exact hrow''

theorem applyPageRecords_eq_ok {db db' : Database ν} {records' : Table SourceRecord} {source : SourceDefinition}
    {counts : PageCounts} {mapping : List SourceField} (hunique : RowsUnique records)
    (h : applyPageRecords db records input source = .ok (counts, mapping, db', records')) :
    RecordsApplied input source.missingRecordMode records records' ∧
      RowsRestored input records db.grid.rows db'.grid.rows ∧ PageTally input counts := by
  simp only [applyPageRecords, except_bind_eq_ok, requireThat_eq_ok, pure, Except.pure, Except.ok.injEq,
    Prod.mk.injEq, archivedIdentities_eq] at h
  obtain ⟨⟨fields, mapped⟩, hmapped, _, hunseen, created, hcreated, written, hwritten, rfl, rfl, rfl, rfl⟩ := h
  have hrows : mapped.rows = db.grid.rows := by
    rw [mapFields_frame hmapped]
  have hstage := createSourceRows_created hcreated
  refine ⟨?_, rowsRestored_of_created hunique hrows hcreated hwritten, rfl, ?_, ?_⟩
  · apply recordsApplied_of_created hunique
    · intro record hrecord hpage hlast
      rw [Bool.not_eq_true', List.any_eq_false] at hunseen
      exact hunseen record (List.mem_filter.mpr ⟨hrecord, hpage⟩) (decide_eq_true hlast)
    · rw [← restoreIdentities_records hunique mapped]
      exact hstage
  · exact length_newPageRecords input records
  · show ((records.records.filter (restorable input)).map SourceRecord.rowId).length ≤ _
    rw [List.length_map]
    exact length_restorable input records

end Stages

end ByokGrid
