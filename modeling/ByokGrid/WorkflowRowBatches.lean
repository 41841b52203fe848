import ByokGrid.GridTraversal

/-! The steps of a workflow which take the rows of a view and which part a batch of
rows by a filter. -/

namespace ByokGrid

section Pieces

variable {α : Type}

/-- What a loop over the offsets `0, size, 2 * size, …` takes of a list. -/
def pieces (size : Nat) (xs : List α) : List (List α) :=
  (List.range ((xs.length + size - 1) / size)).map fun i => (xs.drop (i * size)).take size

variable {size : Nat} {xs piece : List α}

theorem sublist_of_mem_pieces (h : piece ∈ pieces size xs) : piece.Sublist xs := by
  obtain ⟨i, _, rfl⟩ := List.mem_map.mp h
  exact (List.take_sublist _ _).trans (List.drop_sublist _ _)

theorem length_of_mem_pieces (h : piece ∈ pieces size xs) : piece.length ≤ size := by
  obtain ⟨i, _, rfl⟩ := List.mem_map.mp h
  exact List.length_take_le _ _

theorem mem_pieces_of_lt (hsize : 0 < size) {i : Nat} (h : i * size < xs.length) :
    (xs.drop (i * size)).take size ∈ pieces size xs := by
  refine List.mem_map_of_mem (List.mem_range.mpr ?_)
  have hroom : (i + 1) * size ≤ xs.length + size - 1 := by
    rw [Nat.succ_mul]
    omega
  exact (Nat.le_div_iff_mul_le hsize).mpr hroom

theorem exists_mem_pieces (hsize : 0 < size) {x : α} (hx : x ∈ xs) : ∃ piece ∈ pieces size xs, x ∈ piece := by
  obtain ⟨i, hi, rfl⟩ := List.mem_iff_getElem.mp hx
  have hstart : i / size * size ≤ i := Nat.div_mul_le_self i size
  have hwithin : i % size < size := Nat.mod_lt i hsize
  have hsplit : i / size * size + i % size = i := Nat.div_add_mod' i size
  refine ⟨_, mem_pieces_of_lt hsize (lt_of_le_of_lt hstart hi), ?_⟩
  refine List.mem_of_getElem? (i := i % size) ?_
  rw [List.getElem?_take, if_pos hwithin, List.getElem?_drop, hsplit, List.getElem?_eq_getElem hi]

theorem mem_pieces_of_length (hne : xs ≠ []) (h : xs.length ≤ size) : xs ∈ pieces size xs := by
  have hpos := List.length_pos_iff.mpr hne
  have hfirst : 0 * size < xs.length := by omega
  have hpiece := mem_pieces_of_lt (by omega : 0 < size) hfirst
  rwa [Nat.zero_mul, List.drop_zero, List.take_of_length_le h] at hpiece

end Pieces

structure Parts {α : Type} (p : α → Prop) (xs matched rejected : List α) : Prop where
  matchedOrder : matched.Sublist xs
  rejectedOrder : rejected.Sublist xs
  disjoint : matched.Disjoint rejected
  whole : (matched ++ rejected).Perm xs
  exact : ∀ x ∈ xs, x ∈ matched ↔ p x

theorem Parts.filter {α : Type} (p : α → Bool) (xs : List α) :
    Parts (fun x => p x = true) xs (xs.filter p) (xs.filter fun x => !p x) where
  matchedOrder := List.filter_sublist
  rejectedOrder := List.filter_sublist
  disjoint := by
    intro x hin hout
    have hmatch := (List.mem_filter.mp hin).2
    have hreject := (List.mem_filter.mp hout).2
    rw [hmatch] at hreject
    cases hreject
  whole := List.filter_append_perm p xs
  exact x hx := by rw [List.mem_filter, and_iff_right hx]

/-- `workflowRowBatchSchema`. -/
def acceptsWorkflowRowBatch (batch : List WorkflowRowReference) : Bool :=
  batch.length ≤ MAXIMUM_WORKFLOW_ROW_BATCH_SIZE && batch.all fun row => isEntityId row.rowId && isEntityId row.tableId

section Partition

variable {ν : Type} [JsRuntime ν] [NumberComparison ν]

/-- `grouped`: the tables in the order of their first reference, with their rows in order. -/
def groupWorkflowRows (batch : List WorkflowRowReference) : List (String × List WorkflowRowReference) :=
  (distinct (batch.map WorkflowRowReference.tableId)).map fun tableId =>
    (tableId, batch.filter fun row => row.tableId = tableId)

def existingRows (grid : Grid ν) (tableId : String) (chunk : List String) : List Row :=
  grid.rows.records.filter fun row => row.tableId = tableId && chunk.contains row.id && row.archivedAt.isNone &&
    (grid.dataTables.get? row.tableId).any fun table => table.archivedAt.isNone

def matchingChunk (grid : Grid ν) (filterTree : GridViewFilterGroup ν) (tableId : String) (chunk : List String) :
    List Row :=
  grid.rows.records.filter fun row => row.tableId = tableId && chunk.contains row.id && row.archivedAt.isNone &&
    filterTree.matches grid row.id

def partitionChunk (grid : Grid ν) (filterTree : GridViewFilterGroup ν) (tableId : String) (matchedIds : List String)
    (chunk : List String) : Except StoreError (List String) := do
  requireThat ((existingRows grid tableId chunk).length = chunk.length)
    (.validation "A workflow row batch references an unavailable row.")
  return matchedIds ++ (matchingChunk grid filterTree tableId chunk).map Row.id

def PARTITION_CHUNK_SIZE : Nat := 200

def partitionWorkflowRows (size : Nat) (grid : Grid ν) (batch : List WorkflowRowReference)
    (filterTree : GridViewFilterGroup ν) :
    Except StoreError (List WorkflowRowReference × List WorkflowRowReference) := do
  requireThat (acceptsWorkflowRowBatch batch) .request
  requireThat filterTree.accepted .request
  let matchedIds ← (groupWorkflowRows batch).foldlM
    (fun matchedIds group =>
      (pieces size (group.2.map WorkflowRowReference.rowId)).foldlM (partitionChunk grid filterTree group.1) matchedIds)
    []
  return (batch.filter fun row => matchedIds.contains row.rowId, batch.filter fun row => !matchedIds.contains row.rowId)

def partitionSqliteWorkflowRowBatch (grid : Grid ν) (batch : List WorkflowRowReference)
    (filterTree : GridViewFilterGroup ν) :
    Except StoreError (List WorkflowRowReference × List WorkflowRowReference) :=
  partitionWorkflowRows PARTITION_CHUNK_SIZE grid batch filterTree

theorem foldlM_require {α β : Type} (check : α → Bool) (error : StoreError) (f : α → List β) (xs : List α)
    (acc : List β) :
    xs.foldlM (fun acc x => do
      requireThat (check x) error
      return acc ++ f x) acc = if xs.all check then .ok (acc ++ xs.flatMap f) else .error error := by
  induction xs generalizing acc with
  | nil => simp [pure, Except.pure]
  | cons x xs ih =>
    rw [List.foldlM_cons, List.all_cons, List.flatMap_cons]
    cases hx : check x with
    | false => rfl
    | true =>
      have hstep := ih (acc ++ f x)
      rw [List.append_assoc] at hstep
      rw [Bool.true_and, ← hstep]
      rfl

def rowAvailable (grid : Grid ν) (tableId rowId : String) : Bool :=
  (grid.rows.get? rowId).any (fun row => row.tableId = tableId && row.archivedAt.isNone) &&
    (grid.dataTables.get? tableId).any fun table => table.archivedAt.isNone

def chunkAvailable (grid : Grid ν) (tableId : String) (chunk : List String) : Bool :=
  (existingRows grid tableId chunk).length = chunk.length

def batchChunks (size : Nat) (batch : List WorkflowRowReference) : List (String × List String) :=
  (groupWorkflowRows batch).flatMap fun group =>
    (pieces size (group.2.map WorkflowRowReference.rowId)).map fun chunk => (group.1, chunk)

def matchedRowIds (size : Nat) (grid : Grid ν) (filterTree : GridViewFilterGroup ν)
    (batch : List WorkflowRowReference) : List String :=
  (batchChunks size batch).flatMap fun chunk => (matchingChunk grid filterTree chunk.1 chunk.2).map Row.id

theorem foldlM_partition (size : Nat) (grid : Grid ν) (filterTree : GridViewFilterGroup ν)
    (batch : List WorkflowRowReference) :
    ((groupWorkflowRows batch).foldlM (fun matchedIds group =>
      (pieces size (group.2.map WorkflowRowReference.rowId)).foldlM (partitionChunk grid filterTree group.1) matchedIds)
      []) =
    if (batchChunks size batch).all fun chunk => chunkAvailable grid chunk.1 chunk.2 then
      .ok (matchedRowIds size grid filterTree batch)
    else .error (.validation "A workflow row batch references an unavailable row.") := by
  have hgroup : ∀ (matchedIds : List String) (group : String × List WorkflowRowReference),
      (pieces size (group.2.map WorkflowRowReference.rowId)).foldlM (partitionChunk grid filterTree group.1) matchedIds =
      (do
        requireThat ((pieces size (group.2.map WorkflowRowReference.rowId)).all (chunkAvailable grid group.1))
          (.validation "A workflow row batch references an unavailable row.")
        return matchedIds ++ (pieces size (group.2.map WorkflowRowReference.rowId)).flatMap fun chunk =>
          (matchingChunk grid filterTree group.1 chunk).map Row.id) := by
    intro matchedIds group
    have hchunks := foldlM_require (chunkAvailable grid group.1)
      (.validation "A workflow row batch references an unavailable row.")
      (fun chunk => (matchingChunk grid filterTree group.1 chunk).map Row.id)
      (pieces size (group.2.map WorkflowRowReference.rowId)) matchedIds
    refine Eq.trans hchunks ?_
    rw [requireThat]
    split <;> rfl
  simp only [hgroup]
  rw [foldlM_require]
  simp only [batchChunks, matchedRowIds, List.all_flatMap, List.all_map, List.flatMap_assoc, List.flatMap_map,
    List.nil_append]
  rfl

theorem partitionWorkflowRows_eq (size : Nat) (grid : Grid ν) (batch : List WorkflowRowReference)
    (filterTree : GridViewFilterGroup ν) (hbatch : acceptsWorkflowRowBatch batch = true)
    (hfilter : filterTree.accepted = true) :
    partitionWorkflowRows size grid batch filterTree =
      if (batchChunks size batch).all fun chunk => chunkAvailable grid chunk.1 chunk.2 then
        .ok (batch.filter fun row => (matchedRowIds size grid filterTree batch).contains row.rowId,
          batch.filter fun row => !(matchedRowIds size grid filterTree batch).contains row.rowId)
      else .error (.validation "A workflow row batch references an unavailable row.") := by
  rw [partitionWorkflowRows, foldlM_partition, requireThat, if_pos hbatch, requireThat, if_pos hfilter]
  split <;> rfl

omit [JsRuntime ν] [NumberComparison ν] in
theorem mem_existingRows {grid : Grid ν} {tableId : String} {chunk : List String} {id : String} :
    id ∈ (existingRows grid tableId chunk).map Row.id ↔ id ∈ chunk ∧ rowAvailable grid tableId id = true := by
  simp only [List.mem_map, existingRows, List.mem_filter, Bool.and_eq_true, decide_eq_true_eq, List.contains_iff_mem,
    rowAvailable, Option.any_eq_true]
  constructor
  · rintro ⟨row, ⟨hrow, ⟨⟨htable, hchunk⟩, hactive⟩, table, hget, harchived⟩, rfl⟩
    have hfind := Table.get?_eq_some.mpr ⟨hrow, rfl⟩
    exact ⟨hchunk, ⟨row, hfind, htable, hactive⟩, table, htable ▸ hget, harchived⟩
  · rintro ⟨hchunk, ⟨row, hfind, htable, hactive⟩, table, hget, harchived⟩
    obtain ⟨hrow, rfl⟩ := Table.get?_eq_some.mp hfind
    exact ⟨row, ⟨hrow, ⟨⟨htable, hchunk⟩, hactive⟩, table, htable.symm ▸ hget, harchived⟩, rfl⟩

omit [JsRuntime ν] [NumberComparison ν] in
theorem chunkAvailable_iff {grid : Grid ν} {tableId : String} {chunk : List String} :
    chunkAvailable grid tableId chunk = true ↔ chunk.Nodup ∧ ∀ id ∈ chunk, rowAvailable grid tableId id = true := by
  have hfound : ((existingRows grid tableId chunk).map Row.id).Nodup :=
    grid.rows.nodup.sublist (List.filter_sublist.map Row.id)
  have hsub : (existingRows grid tableId chunk).map Row.id ⊆ chunk := fun id hid => (mem_existingRows.mp hid).1
  rw [chunkAvailable, decide_eq_true_eq, ← List.length_map (f := Row.id)]
  constructor
  · intro hlength
    have hperm := (List.subperm_of_subset hfound hsub).perm_of_length_le hlength.ge
    refine ⟨hperm.nodup_iff.mp hfound, fun id hid => ?_⟩
    exact (mem_existingRows.mp (hperm.mem_iff.mpr hid)).2
  · rintro ⟨hnodup, havailable⟩
    refine ((List.perm_ext_iff_of_nodup hfound hnodup).mpr fun id => ?_).length_eq
    rw [mem_existingRows, and_iff_left_iff_imp]
    exact havailable id

theorem mem_batchChunks {size : Nat} {batch : List WorkflowRowReference} {chunk : String × List String}
    (h : chunk ∈ batchChunks size batch) :
    chunk.2.Sublist ((batch.filter fun row => row.tableId = chunk.1).map WorkflowRowReference.rowId) ∧
      chunk.2.length ≤ size := by
  obtain ⟨group, hgroup, hchunk⟩ := List.mem_flatMap.mp h
  obtain ⟨piece, hpiece, rfl⟩ := List.mem_map.mp hchunk
  obtain ⟨tableId, _, rfl⟩ := List.mem_map.mp hgroup
  exact ⟨sublist_of_mem_pieces hpiece, length_of_mem_pieces hpiece⟩

theorem chunk_mem_batchChunks {size : Nat} {batch : List WorkflowRowReference} {row : WorkflowRowReference}
    (hrow : row ∈ batch) {chunk : List String} (hchunk : chunk ∈ pieces size
      ((batch.filter fun other => other.tableId = row.tableId).map WorkflowRowReference.rowId)) :
    (row.tableId, chunk) ∈ batchChunks size batch := by
  have hgroup : (row.tableId, batch.filter fun other => other.tableId = row.tableId) ∈ groupWorkflowRows batch :=
    List.mem_map_of_mem (f := fun tableId => (tableId, batch.filter fun other => other.tableId = tableId))
      (mem_distinct.mpr (List.mem_map_of_mem hrow))
  exact List.mem_flatMap.mpr ⟨_, hgroup, List.mem_map_of_mem hchunk⟩

theorem reference_of_mem_chunk {size : Nat} {batch : List WorkflowRowReference} {chunk : String × List String}
    (h : chunk ∈ batchChunks size batch) {id : String} (hid : id ∈ chunk.2) : ⟨id, chunk.1⟩ ∈ batch := by
  obtain ⟨row, hrow, rfl⟩ := List.mem_map.mp ((mem_batchChunks h).1.subset hid)
  obtain ⟨hbatch, htable⟩ := List.mem_filter.mp hrow
  rwa [← of_decide_eq_true htable]

theorem exists_chunk {size : Nat} (hsize : 0 < size) {batch : List WorkflowRowReference} {row : WorkflowRowReference}
    (hrow : row ∈ batch) : ∃ chunk, (row.tableId, chunk) ∈ batchChunks size batch ∧ row.rowId ∈ chunk := by
  have hid : row.rowId ∈ (batch.filter fun other => other.tableId = row.tableId).map WorkflowRowReference.rowId :=
    List.mem_map_of_mem (List.mem_filter.mpr ⟨hrow, decide_eq_true rfl⟩)
  obtain ⟨chunk, hchunk, hin⟩ := exists_mem_pieces hsize hid
  exact ⟨chunk, chunk_mem_batchChunks hrow hchunk, hin⟩

omit [JsRuntime ν] [NumberComparison ν] in
theorem chunksAvailable_iff {size : Nat} (hsize : 0 < size) {grid : Grid ν} {batch : List WorkflowRowReference} :
    ((batchChunks size batch).all fun chunk => chunkAvailable grid chunk.1 chunk.2) = true ↔
      (∀ row ∈ batch, rowAvailable grid row.tableId row.rowId = true) ∧
        ∀ chunk ∈ batchChunks size batch, chunk.2.Nodup := by
  rw [List.all_eq_true]
  constructor
  · intro hall
    refine ⟨fun row hrow => ?_, fun chunk hchunk => (chunkAvailable_iff.mp (hall chunk hchunk)).1⟩
    obtain ⟨chunk, hchunk, hid⟩ := exists_chunk hsize hrow
    exact (chunkAvailable_iff.mp (hall _ hchunk)).2 _ hid
  · rintro ⟨havailable, hnodup⟩ chunk hchunk
    refine chunkAvailable_iff.mpr ⟨hnodup chunk hchunk, fun id hid => ?_⟩
    exact havailable _ (reference_of_mem_chunk hchunk hid)

theorem nodup_of_groups {batch : List WorkflowRowReference} (h : ∀ row ∈ batch,
    ((batch.filter fun other => other.tableId = row.tableId).map WorkflowRowReference.rowId).Nodup) : batch.Nodup := by
  refine List.nodup_iff_count_le_one.mpr fun row => ?_
  by_cases hrow : row ∈ batch
  · have hgroup := List.nodup_iff_count_le_one.mp (h row hrow).of_map row
    have hsame : decide (row.tableId = row.tableId) = true := decide_eq_true rfl
    rwa [List.count_filter (p := fun other : WorkflowRowReference => decide (other.tableId = row.tableId)) hsame]
      at hgroup
  · rw [List.count_eq_zero_of_not_mem hrow]
    exact Nat.zero_le 1

theorem chunks_nodup {size : Nat} {batch : List WorkflowRowReference} (h : batch.Nodup) :
    ∀ chunk ∈ batchChunks size batch, chunk.2.Nodup := by
  intro chunk hchunk
  have hgroup : ((batch.filter fun row => row.tableId = chunk.1).map WorkflowRowReference.rowId).Nodup := by
    refine (h.filter _).map_on fun left hleft right hright heq => ?_
    have htables := (of_decide_eq_true (List.mem_filter.mp hleft).2).trans
      (of_decide_eq_true (List.mem_filter.mp hright).2).symm
    cases left
    cases right
    simp_all
  exact hgroup.sublist (mem_batchChunks hchunk).1

theorem singleChunks_nodup {batch : List WorkflowRowReference} : ∀ chunk ∈ batchChunks 1 batch, chunk.2.Nodup := by
  intro chunk hchunk
  have hshort := (mem_batchChunks hchunk).2
  match chunk.2, hshort with
  | [], _ => exact List.nodup_nil
  | [id], _ => exact List.nodup_singleton id

theorem wholeChunks_nodup {batch : List WorkflowRowReference}
    (h : ∀ chunk ∈ batchChunks batch.length batch, chunk.2.Nodup) : batch.Nodup := by
  refine nodup_of_groups fun row hrow => ?_
  have hid : row.rowId ∈ (batch.filter fun other => other.tableId = row.tableId).map WorkflowRowReference.rowId :=
    List.mem_map_of_mem (List.mem_filter.mpr ⟨hrow, decide_eq_true rfl⟩)
  have hlength : ((batch.filter fun other => other.tableId = row.tableId).map WorkflowRowReference.rowId).length ≤
      batch.length := by
    rw [List.length_map]
    exact List.length_filter_le _ _
  exact h _ (chunk_mem_batchChunks hrow (mem_pieces_of_length (List.ne_nil_of_mem hid) hlength))

theorem mem_matchedRowIds {size : Nat} (hsize : 0 < size) {grid : Grid ν} {filterTree : GridViewFilterGroup ν}
    {batch : List WorkflowRowReference} {row : WorkflowRowReference} (hrow : row ∈ batch)
    (havailable : rowAvailable grid row.tableId row.rowId = true) :
    row.rowId ∈ matchedRowIds size grid filterTree batch ↔ filterTree.matches grid row.rowId = true := by
  simp only [matchedRowIds, List.mem_flatMap, List.mem_map, matchingChunk, List.mem_filter, Bool.and_eq_true,
    decide_eq_true_eq, List.contains_iff_mem]
  constructor
  · rintro ⟨_, _, found, ⟨_, _, hmatches⟩, hid⟩
    rwa [← hid]
  · intro hmatches
    obtain ⟨chunk, hchunk, hid⟩ := exists_chunk hsize hrow
    simp only [rowAvailable, Bool.and_eq_true, Option.any_eq_true, decide_eq_true_eq] at havailable
    obtain ⟨⟨found, hfind, htable, hactive⟩, _⟩ := havailable
    obtain ⟨hfound, hkey⟩ := Table.get?_eq_some.mp hfind
    change found.id = row.rowId at hkey
    exact ⟨_, hchunk, found, ⟨hfound, ⟨⟨htable, hkey ▸ hid⟩, hactive⟩, hkey ▸ hmatches⟩, hkey⟩

theorem partitionWorkflowRows_parts {size : Nat} (hsize : 0 < size) {grid : Grid ν}
    {batch : List WorkflowRowReference} {filterTree : GridViewFilterGroup ν}
    (hbatch : acceptsWorkflowRowBatch batch = true) (hfilter : filterTree.accepted = true)
    (havailable : ∀ row ∈ batch, rowAvailable grid row.tableId row.rowId = true)
    (hnodup : ∀ chunk ∈ batchChunks size batch, chunk.2.Nodup) :
    partitionWorkflowRows size grid batch filterTree =
      .ok (batch.filter fun row => filterTree.matches grid row.rowId,
        batch.filter fun row => !filterTree.matches grid row.rowId) := by
  have hmatched : ∀ row ∈ batch, (matchedRowIds size grid filterTree batch).contains row.rowId =
      filterTree.matches grid row.rowId := by
    intro row hrow
    rw [Bool.eq_iff_iff, List.contains_iff_mem]
    exact mem_matchedRowIds hsize hrow (havailable row hrow)
  have hrejected : ∀ row ∈ batch, (!(matchedRowIds size grid filterTree batch).contains row.rowId) =
      !filterTree.matches grid row.rowId := fun row hrow => congrArg not (hmatched row hrow)
  rw [partitionWorkflowRows_eq size grid batch filterTree hbatch hfilter,
    if_pos ((chunksAvailable_iff hsize).mpr ⟨havailable, hnodup⟩), List.filter_congr hmatched,
    List.filter_congr hrejected]

theorem partitionWorkflowRows_refused {size : Nat} (hsize : 0 < size) {grid : Grid ν}
    {batch : List WorkflowRowReference} {filterTree : GridViewFilterGroup ν}
    (hbatch : acceptsWorkflowRowBatch batch = true) (hfilter : filterTree.accepted = true)
    (h : ¬ ((∀ row ∈ batch, rowAvailable grid row.tableId row.rowId = true) ∧
      ∀ chunk ∈ batchChunks size batch, chunk.2.Nodup)) :
    partitionWorkflowRows size grid batch filterTree =
      .error (.validation "A workflow row batch references an unavailable row.") := by
  rw [partitionWorkflowRows_eq size grid batch filterTree hbatch hfilter, if_neg]
  exact fun hall => h ((chunksAvailable_iff hsize).mp hall)

structure PartitionLaw (grid : Grid ν) (batch : List WorkflowRowReference) (filterTree : GridViewFilterGroup ν) :
    Prop where
  parts : ∀ matched rejected, partitionSqliteWorkflowRowBatch grid batch filterTree = .ok (matched, rejected) →
    Parts (fun row => filterTree.matches grid row.rowId = true) batch matched rejected
  sizes : ∀ size, 0 < size →
    partitionWorkflowRows size grid batch filterTree = partitionSqliteWorkflowRowBatch grid batch filterTree

def Unrepeated (grid : Grid ν) (batch : List WorkflowRowReference) (filterTree : GridViewFilterGroup ν) : Prop :=
  batch.Nodup ∨ acceptsWorkflowRowBatch batch = false ∨ filterTree.accepted = false ∨
    ∃ row ∈ batch, rowAvailable grid row.tableId row.rowId = false

theorem partitionWorkflowRows_request {size : Nat} {grid : Grid ν} {batch : List WorkflowRowReference}
    {filterTree : GridViewFilterGroup ν} (h : acceptsWorkflowRowBatch batch = false ∨ filterTree.accepted = false) :
    partitionWorkflowRows size grid batch filterTree = .error .request := by
  rw [partitionWorkflowRows]
  cases hbatch : acceptsWorkflowRowBatch batch with
  | false => rfl
  | true =>
    rw [h.resolve_left (by simp [hbatch])]
    rfl

theorem partition_sizes {size : Nat} (hsize : 0 < size) {grid : Grid ν} {batch : List WorkflowRowReference}
    {filterTree : GridViewFilterGroup ν} (h : Unrepeated grid batch filterTree) :
    partitionWorkflowRows size grid batch filterTree = partitionSqliteWorkflowRowBatch grid batch filterTree := by
  rw [partitionSqliteWorkflowRowBatch]
  cases hbatch : acceptsWorkflowRowBatch batch with
  | false => rw [partitionWorkflowRows_request (.inl hbatch), partitionWorkflowRows_request (.inl hbatch)]
  | true =>
    cases hfilter : filterTree.accepted with
    | false => rw [partitionWorkflowRows_request (.inr hfilter), partitionWorkflowRows_request (.inr hfilter)]
    | true =>
      by_cases havailable : ∀ row ∈ batch, rowAvailable grid row.tableId row.rowId = true
      · have hnodup : batch.Nodup := by
          rcases h with hnodup | hrefused | hrefused | ⟨row, hrow, hmissing⟩
          · exact hnodup
          · exact absurd hbatch (by simp [hrefused])
          · exact absurd hfilter (by simp [hrefused])
          · exact absurd (havailable row hrow) (by simp [hmissing])
        rw [partitionWorkflowRows_parts hsize hbatch hfilter havailable (chunks_nodup hnodup),
          partitionWorkflowRows_parts (by decide) hbatch hfilter havailable (chunks_nodup hnodup)]
      · rw [partitionWorkflowRows_refused hsize hbatch hfilter fun hall => havailable hall.1,
          partitionWorkflowRows_refused (by decide) hbatch hfilter fun hall => havailable hall.1]

theorem partition_parts {grid : Grid ν} {batch : List WorkflowRowReference} {filterTree : GridViewFilterGroup ν}
    {matched rejected : List WorkflowRowReference}
    (h : partitionSqliteWorkflowRowBatch grid batch filterTree = .ok (matched, rejected)) :
    Parts (fun row => filterTree.matches grid row.rowId = true) batch matched rejected := by
  rw [partitionSqliteWorkflowRowBatch] at h
  by_cases haccepted : acceptsWorkflowRowBatch batch = true ∧ filterTree.accepted = true
  · obtain ⟨hbatch, hfilter⟩ := haccepted
    by_cases hall : (∀ row ∈ batch, rowAvailable grid row.tableId row.rowId = true) ∧
        ∀ chunk ∈ batchChunks PARTITION_CHUNK_SIZE batch, chunk.2.Nodup
    · rw [partitionWorkflowRows_parts (by decide) hbatch hfilter hall.1 hall.2] at h
      cases h
      exact Parts.filter (fun row => filterTree.matches grid row.rowId) batch
    · rw [partitionWorkflowRows_refused (by decide) hbatch hfilter hall] at h
      cases h
  · rw [not_and_or, Bool.not_eq_true, Bool.not_eq_true] at haccepted
    rw [partitionWorkflowRows_request haccepted] at h
    cases h

theorem partition_repeated {grid : Grid ν} {batch : List WorkflowRowReference} {filterTree : GridViewFilterGroup ν}
    (h : ¬ Unrepeated grid batch filterTree) :
    partitionWorkflowRows 1 grid batch filterTree ≠ partitionWorkflowRows batch.length grid batch filterTree := by
  simp only [Unrepeated, not_or, Bool.not_eq_false, not_exists, not_and] at h
  obtain ⟨hrepeated, hbatch, hfilter, havailable⟩ := h
  have hpos : 0 < batch.length := by
    rw [List.length_pos_iff]
    rintro rfl
    exact hrepeated List.nodup_nil
  rw [partitionWorkflowRows_parts Nat.one_pos hbatch hfilter havailable singleChunks_nodup,
    partitionWorkflowRows_refused hpos hbatch hfilter fun hall => hrepeated (wholeChunks_nodup hall.2)]
  nofun

theorem partitionLaw_iff {grid : Grid ν} {batch : List WorkflowRowReference} {filterTree : GridViewFilterGroup ν} :
    PartitionLaw grid batch filterTree ↔ Unrepeated grid batch filterTree := by
  constructor
  · intro hlaw
    by_contra hrepeated
    have hpos : 0 < batch.length := by
      rw [List.length_pos_iff]
      rintro rfl
      exact hrepeated (.inl List.nodup_nil)
    exact partition_repeated hrepeated ((hlaw.sizes 1 Nat.one_pos).trans (hlaw.sizes _ hpos).symm)
  · exact fun h => ⟨fun _ _ => partition_parts, fun _ hsize => partition_sizes hsize h⟩

end Partition

section Select

variable {ν : Type} [JsRuntime ν] [StoredNumbers ν] [ConversionRuntime ν]

structure SelectWorkflowRows where
  searchQuery : Option String
  tableId : String
  userId : String
  viewId : Option String
  deriving Repr, DecidableEq

def SelectWorkflowRows.scope (input : SelectWorkflowRows) : GridScope :=
  ⟨input.tableId, input.userId⟩

def SelectWorkflowRows.options (input : SelectWorkflowRows) (cursor : Option String) (selected : Nat) : GridOptions where
  cursor := cursor
  limit := some (min 200 (MAXIMUM_WORKFLOW_ROW_BATCH_SIZE + 1 - selected))
  searchQuery := input.searchQuery
  viewId := input.viewId

def SelectWorkflowRows.references (input : SelectWorkflowRows) (rows : List (SqliteGridRow ν)) :
    List WorkflowRowReference :=
  rows.map fun row => ⟨row.id, input.tableId⟩

theorem rows_ne_nil_of_nextCursor {store : GridStore ν} {scope : GridScope} {options : GridOptions}
    {snapshot : GridSnapshot ν} (h : getSqliteGridSnapshot store scope options = .ok snapshot) {cursor : String}
    (hnext : snapshot.pageInfo.nextCursor = some cursor) : snapshot.rows ≠ [] := by
  simp only [getSqliteGridSnapshot, except_bind_eq_ok, pure, Except.pure] at h
  obtain ⟨_, _, _, _, _, _, _, _, selectedRows, _, h⟩ := h
  split at h
  next row hlast =>
    have hne := List.ne_nil_of_mem (List.mem_of_getLast? hlast)
    split at h
    all_goals
      obtain ⟨_, _, hsnapshot⟩ := except_bind_eq_ok.mp h
      cases hsnapshot
      exact fun hnil => hne (List.map_eq_nil_iff.mp hnil)
  next =>
    cases h
    cases hnext

/-- The loop of `selectSqliteWorkflowRowBatch`, with the rows it has taken and the cursor of the next page. -/
def selectWorkflowRowPages (store : GridStore ν) (input : SelectWorkflowRows) (selected : List WorkflowRowReference)
    (cursor : Option String) : Except StoreError (List WorkflowRowReference) :=
  match hpage : getSqliteGridSnapshot store input.scope (input.options cursor selected.length) with
  | .error error => .error error
  | .ok snapshot =>
    if hmany : (selected ++ input.references snapshot.rows).length > MAXIMUM_WORKFLOW_ROW_BATCH_SIZE then
      .error (.validation "A workflow row batch cannot exceed 500 rows.")
    else
      match hnext : snapshot.pageInfo.nextCursor.filter fun cursor => cursor ≠ "" with
      | some cursor => selectWorkflowRowPages store input (selected ++ input.references snapshot.rows) (some cursor)
      | none => .ok (selected ++ input.references snapshot.rows)
termination_by MAXIMUM_WORKFLOW_ROW_BATCH_SIZE + 1 - selected.length
decreasing_by
  have hrows := rows_ne_nil_of_nextCursor hpage (Option.eq_some_of_filter_eq_some hnext)
  have hpos := List.length_pos_iff.mpr hrows
  rw [List.length_append, SelectWorkflowRows.references, List.length_map] at hmany ⊢
  omega

def selectSqliteWorkflowRowBatch (store : GridStore ν) (input : SelectWorkflowRows) :
    Except StoreError (List WorkflowRowReference) := do
  let selected ← selectWorkflowRowPages store input [] none
  requireThat (acceptsWorkflowRowBatch selected) .request
  return selected

theorem selectWorkflowRowPages_ok {store : GridStore ν} {input : SelectWorkflowRows}
    {selected : List WorkflowRowReference} {cursor next : Option String} {rows : List (SqliteGridRow ν)}
    (hpage : gridPage store input.scope (input.options none selected.length) cursor = .ok (rows, next)) :
    selectWorkflowRowPages store input selected cursor =
      if (selected ++ input.references rows).length > MAXIMUM_WORKFLOW_ROW_BATCH_SIZE then
        .error (.validation "A workflow row batch cannot exceed 500 rows.")
      else
        match next.filter fun cursor => cursor ≠ "" with
        | some cursor => selectWorkflowRowPages store input (selected ++ input.references rows) (some cursor)
        | none => .ok (selected ++ input.references rows) := by
  obtain ⟨snapshot, hsnapshot, hshown⟩ := except_map_eq_ok.mp hpage
  change getSqliteGridSnapshot store input.scope (input.options cursor selected.length) = .ok snapshot at hsnapshot
  cases hshown
  rw [selectWorkflowRowPages]
  split
  next error herror =>
    rw [hsnapshot] at herror
    cases herror
  next found hfound =>
    rw [hsnapshot] at hfound
    cases hfound
    split
    · rfl
    · split
      next hnext => simp only [hnext]
      next hnext => simp only [hnext]

theorem selectWorkflowRowPages_refused {store : GridStore ν} {input : SelectWorkflowRows}
    {selected : List WorkflowRowReference} {cursor : Option String}
    (hpage : ∀ page, gridPage store input.scope (input.options none selected.length) cursor ≠ .ok page)
    (batch : List WorkflowRowReference) : selectWorkflowRowPages store input selected cursor ≠ .ok batch := by
  rw [selectWorkflowRowPages]
  split
  next => nofun
  next snapshot hsnapshot =>
    have hfound : gridPage store input.scope (input.options none selected.length) cursor =
        .ok (snapshot.rows, snapshot.pageInfo.nextCursor) := except_map_eq_ok.mpr ⟨snapshot, hsnapshot, rfl⟩
    exact absurd hfound (hpage _)

variable [CursorTexts ν] {store : GridStore ν} {input : SelectWorkflowRows} {reading : GridReading ν}

omit [StoredNumbers ν] [ConversionRuntime ν] [CursorTexts ν] in
theorem readGridRequest_options (store : GridStore ν) (input : SelectWorkflowRows) (selected : Nat) :
    readGridRequest store input.scope (input.options none selected) =
      readGridRequest store input.scope (input.options none 0) :=
  rfl

/-- The rows after the first `start` whose cursors the loop still needs are taken back. -/
def EndsFit (store : GridStore ν) (reading : GridReading ν) (rows : List Row) (start : Nat) : Prop :=
  ∀ k row, 0 < k → start + k * 200 < rows.length → rows[start + k * 200 - 1]? = some row →
    (reading.cursor store row).Fits ν

omit [CursorTexts ν] [ConversionRuntime ν] [StoredNumbers ν] in
theorem endsFit_next {rows : List Row} {start : Nat} {last : Row} (hmore : start + 200 < rows.length)
    (hlast : rows[start + 200 - 1]? = some last) :
    EndsFit store reading rows start ↔ (reading.cursor store last).Fits ν ∧ EndsFit store reading rows (start + 200) := by
  have hnext : ∀ k, start + 200 + k * 200 = start + (k + 1) * 200 := fun k => by omega
  constructor
  · intro hends
    refine ⟨hends 1 last Nat.one_pos hmore hlast, fun k row hk hlt hrow => ?_⟩
    rw [hnext] at hlt hrow
    exact hends (k + 1) row k.succ_pos hlt hrow
  · rintro ⟨hfits, hends⟩ k row hk hlt hrow
    obtain ⟨k, rfl⟩ : ∃ j, k = j + 1 := ⟨k - 1, by omega⟩
    rcases Nat.eq_zero_or_pos k with rfl | hpos
    · rw [Nat.zero_add, Nat.one_mul, hlast] at hrow
      cases hrow
      exact hfits
    · rw [← hnext] at hlt hrow
      exact hends k row hpos hlt hrow

theorem SelectWorkflowRows.pageLimit_eq (input : SelectWorkflowRows) {start : Nat}
    (hstart : start ≤ MAXIMUM_WORKFLOW_ROW_BATCH_SIZE) :
    (input.options none start).pageLimit = min 200 (MAXIMUM_WORKFLOW_ROW_BATCH_SIZE + 1 - start) := by
  simp only [GridOptions.pageLimit, SelectWorkflowRows.options, Option.getD_some]
  omega

omit [CursorTexts ν] [ConversionRuntime ν] [StoredNumbers ν] in
theorem references_page (rows : List Row) (start limit : Nat) :
    (rows.take start).map (fun row => (⟨row.id, input.tableId⟩ : WorkflowRowReference)) ++
      input.references (((rows.drop start).take limit).map (toGridRow store)) =
      (rows.take (start + limit)).map fun row => ⟨row.id, input.tableId⟩ := by
  rw [List.take_add, List.map_append, SelectWorkflowRows.references, List.map_map]
  rfl

omit [CursorTexts ν] [ConversionRuntime ν] [StoredNumbers ν] in
theorem references_rest (rows : List Row) (start : Nat) :
    (rows.take start).map (fun row => (⟨row.id, input.tableId⟩ : WorkflowRowReference)) ++
      input.references ((rows.drop start).map (toGridRow store)) = rows.map fun row => ⟨row.id, input.tableId⟩ := by
  rw [SelectWorkflowRows.references, List.map_map]
  change _ ++ (rows.drop start).map (fun row => (⟨row.id, input.tableId⟩ : WorkflowRowReference)) = _
  rw [← List.map_append, List.take_append_drop]

theorem selectWorkflowRowPages_iff (hread : readGridRequest store input.scope (input.options none 0) = .ok reading)
    (htyped : reading.Typed store input.tableId) {cursor : Option String} {start : Nat}
    (hstart : start ≤ MAXIMUM_WORKFLOW_ROW_BATCH_SIZE) (hlength : start ≤ (reading.rows store input.tableId).length)
    (hpage : gridPage store input.scope (input.options none start) cursor =
      .ok (pageFrom (input.options none start).pageLimit (toGridRow store) (reading.token store)
        (reading.rows store input.tableId) start)) (batch : List WorkflowRowReference) :
    selectWorkflowRowPages store input
        (((reading.rows store input.tableId).take start).map fun row => ⟨row.id, input.tableId⟩) cursor = .ok batch ↔
      (reading.rows store input.tableId).length ≤ MAXIMUM_WORKFLOW_ROW_BATCH_SIZE ∧
        EndsFit store reading (reading.rows store input.tableId) start ∧
        (reading.rows store input.tableId).map (fun row => ⟨row.id, input.tableId⟩) = batch := by
  induction hremaining : (reading.rows store input.tableId).length - start using Nat.strong_induction_on
    generalizing cursor start with
  | _ remaining ih =>
    have hselected : (((reading.rows store input.tableId).take start).map
        fun row => (⟨row.id, input.tableId⟩ : WorkflowRowReference)).length = start := by
      rw [List.length_map, List.length_take_of_le hlength]
    have hlimit := input.pageLimit_eq hstart
    have hpos := (input.options none start).pageLimit_pos
    rw [MAXIMUM_WORKFLOW_ROW_BATCH_SIZE] at hstart hlimit ⊢
    by_cases hmore : start + (input.options none start).pageLimit < (reading.rows store input.tableId).length
    · obtain ⟨last, hlast, hnext⟩ := pageFrom_next (toGridRow store) (reading.token store) hpos hmore
      have hpresent : reading.token store last ≠ "" := GridCursor.encode_ne_empty ν (reading.cursor store last)
      rw [hnext, ← hselected] at hpage
      have htaken : (((reading.rows store input.tableId).take (start + (input.options none start).pageLimit)).map
          fun row => (⟨row.id, input.tableId⟩ : WorkflowRowReference)).length =
          start + (input.options none start).pageLimit := by
        rw [List.length_map, List.length_take]
        omega
      rw [selectWorkflowRowPages_ok hpage, hselected, references_page, htaken, Option.filter_some,
        if_pos (decide_eq_true hpresent), MAXIMUM_WORKFLOW_ROW_BATCH_SIZE]
      by_cases hmany : start + (input.options none start).pageLimit > 500
      · rw [if_pos hmany]
        constructor
        · nofun
        · rintro ⟨hfew, _⟩
          omega
      · have hfull : (input.options none start).pageLimit = 200 := by omega
        rw [if_neg hmany, hfull]
        rw [hfull] at hmore hlast
        rw [endsFit_next hmore hlast]
        by_cases hfits : (reading.cursor store last).Fits ν
        · have hstored := (readGridRequest_options store input (start + 200)).trans hread
          have hafter := gridPage_after hstored htyped hlast hfits
          rw [Nat.sub_add_cancel (by omega : 1 ≤ start + 200)] at hafter
          have hfew : start + 200 ≤ MAXIMUM_WORKFLOW_ROW_BATCH_SIZE := by
            rw [MAXIMUM_WORKFLOW_ROW_BATCH_SIZE]
            omega
          have hrest := ih _ (by omega) hfew hmore.le hafter rfl
          rw [MAXIMUM_WORKFLOW_ROW_BATCH_SIZE] at hrest
          rw [hrest, and_iff_right hfits]
        · constructor
          · intro hbatch
            refine absurd hbatch (selectWorkflowRowPages_refused ?_ batch)
            exact gridPage_refused hfits
          · rintro ⟨_, ⟨haccepted, _⟩, _⟩
            exact absurd haccepted hfits
    · rw [pageFrom_last (by omega), ← hselected] at hpage
      rw [selectWorkflowRowPages_ok hpage, hselected, references_rest, List.length_map, Option.filter_none,
        MAXIMUM_WORKFLOW_ROW_BATCH_SIZE]
      have hends : EndsFit store reading (reading.rows store input.tableId) start ∨
          (reading.rows store input.tableId).length > 500 := by
        rw [or_iff_not_imp_right]
        intro hfew k row hk hlt hrow
        omega
      by_cases hmany : (reading.rows store input.tableId).length > 500
      · rw [if_pos hmany]
        constructor
        · nofun
        · rintro ⟨hfew, _⟩
          omega
      · rw [if_neg hmany, Except.ok.injEq, and_iff_right (Nat.le_of_not_gt hmany),
          and_iff_right (hends.resolve_right hmany)]

theorem selectSqliteWorkflowRowBatch_iff
    (hread : readGridRequest store input.scope (input.options none 0) = .ok reading)
    (htyped : reading.Typed store input.tableId) (batch : List WorkflowRowReference) :
    selectSqliteWorkflowRowBatch store input = .ok batch ↔
      ((reading.rows store input.tableId).length ≤ MAXIMUM_WORKFLOW_ROW_BATCH_SIZE ∧
        (∀ row, PageEnd 200 (reading.rows store input.tableId) row → (reading.cursor store row).Fits ν) ∧
        (reading.rows store input.tableId).map (fun row => ⟨row.id, input.tableId⟩) = batch) ∧
      acceptsWorkflowRowBatch batch = true := by
  have hends : EndsFit store reading (reading.rows store input.tableId) 0 ↔
      ∀ row, PageEnd 200 (reading.rows store input.tableId) row → (reading.cursor store row).Fits ν := by
    simp only [EndsFit, PageEnd, Nat.zero_add]
    exact ⟨fun h row ⟨k, hk, hlt, hrow⟩ => h k row hk hlt hrow, fun h k row hk hlt hrow => h row ⟨k, hk, hlt, hrow⟩⟩
  have hpages := selectWorkflowRowPages_iff hread htyped (Nat.zero_le _) (Nat.zero_le _) (gridPage_first hread htyped)
  rw [List.take_zero, List.map_nil, hends] at hpages
  rw [selectSqliteWorkflowRowBatch, except_bind_eq_ok]
  constructor
  · rintro ⟨selected, hselected, hok⟩
    obtain ⟨⟨⟩, haccepted, hsame⟩ := except_bind_eq_ok.mp hok
    cases hsame
    exact ⟨(hpages batch).mp hselected, requireThat_eq_ok.mp haccepted⟩
  · rintro ⟨hselected, haccepted⟩
    exact ⟨batch, (hpages batch).mpr hselected, except_bind_eq_ok.mpr ⟨(), requireThat_eq_ok.mpr haccepted, rfl⟩⟩

structure SelectionLaw (store : GridStore ν) (input : SelectWorkflowRows) (reading : GridReading ν) : Prop where
  few : (reading.rows store input.tableId).length ≤ MAXIMUM_WORKFLOW_ROW_BATCH_SIZE →
    selectSqliteWorkflowRowBatch store input =
      .ok ((reading.rows store input.tableId).map fun row => ⟨row.id, input.tableId⟩)
  many : MAXIMUM_WORKFLOW_ROW_BATCH_SIZE < (reading.rows store input.tableId).length →
    ∀ batch, selectSqliteWorkflowRowBatch store input ≠ .ok batch

theorem selectionLaw_iff (hread : readGridRequest store input.scope (input.options none 0) = .ok reading)
    (htyped : reading.Typed store input.tableId) : SelectionLaw store input reading ↔
      ((reading.rows store input.tableId).length ≤ MAXIMUM_WORKFLOW_ROW_BATCH_SIZE →
        (∀ row, PageEnd 200 (reading.rows store input.tableId) row → (reading.cursor store row).Fits ν) ∧
        acceptsWorkflowRowBatch ((reading.rows store input.tableId).map fun row => ⟨row.id, input.tableId⟩) = true) := by
  have hselect := selectSqliteWorkflowRowBatch_iff hread htyped
  constructor
  · intro hlaw hfew
    obtain ⟨⟨_, hends, _⟩, haccepted⟩ := (hselect _).mp (hlaw.few hfew)
    exact ⟨hends, haccepted⟩
  · refine fun h => ⟨fun hfew => ?_, fun hmany batch hbatch => ?_⟩
    · obtain ⟨hends, haccepted⟩ := h hfew
      exact (hselect _).mpr ⟨⟨hfew, hends, rfl⟩, haccepted⟩
    · exact absurd ((hselect batch).mp hbatch).1.1 (Nat.not_le_of_gt hmany)

end Select

section Exact

variable (ν : Type) [JsRuntime ν] [StoredNumbers ν] [ConversionRuntime ν] [CursorTexts ν]

end Exact

def selectLetters : SelectWorkflowRows := ⟨none, lettersTable, "alan", some lettersView.id⟩

def letterReference : WorkflowRowReference := ⟨"1b7f0c52-94de-4a3b-b6c8-2d5e7f801a94", lettersTable⟩

end ByokGrid
