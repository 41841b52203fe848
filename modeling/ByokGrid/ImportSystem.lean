import ByokGrid.ImportRows
import ByokGrid.PaddedNumbers
import ByokGrid.Transition

/-! A CSV import under any sequence of its transactions, and the account of a job:
which rows of its file are staged, and which are rows of the table. -/

namespace ByokGrid

def importRowPosition (createdAt : Int) (importJobId : String) (rowNumber : Nat) : String :=
  padZeros 13 (toString createdAt) ++ "-" ++ importJobId ++ "-" ++ padZeros 10 (toString rowNumber)

theorem importRowPosition_lt (createdAt : Int) (importJobId : String) {m n : Nat} (hpos : 0 < m) (hmn : m < n)
    (hn : n < 10 ^ 10) : importRowPosition createdAt importJobId m < importRowPosition createdAt importJobId n := by
  have hm : (padZeros 10 (toString m)).toList = fieldDigits 10 m := padZeros_toList hpos (by omega)
  have hn' : (padZeros 10 (toString n)).toList = fieldDigits 10 n := padZeros_toList (by omega) hn
  rw [String.lt_iff, importRowPosition, importRowPosition, String.toList_append,
    String.toList_append (t := padZeros 10 (toString n)), hm, hn']
  exact List.Lex.append_left _ (fieldDigits_lt hmn hn) _

inductive ImportAction where
  | create (input : CreateCsvImportJob)
  | stage (input : StageCsvImportRows)
  | queue (input : QueueCsvImport)
  | failUpload (input : FailCsvImportUpload)
  | prepare (input : PrepareCsvImport)
  | apply (input : CsvImportBatch)
  | fail (failure : CsvImportFailure)

def ImportAction.importJobId : ImportAction → String
  | .create input => input.importJobId
  | .stage input => input.importJobId
  | .queue input => input.importJobId
  | .failUpload input => input.importJobId
  | .prepare input => input.job.importJobId
  | .apply input => input.job.importJobId
  | .fail failure => failure.importJobId

section System

variable {ν : Type} [JsRuntime ν]

def ImportWorkspace.step (workspace : ImportWorkspace ν) : ImportAction → ImportWorkspace ν
  | .create input => (createSqliteCsvImportJob workspace input).toOption.getD workspace
  | .stage input => (stageSqliteCsvImportRows workspace input).toOption.getD workspace
  | .queue input => (queueSqliteCsvImport workspace input).toOption.getD workspace
  | .failUpload input => { workspace with imports := failSqliteCsvImportUpload workspace.imports input }
  | .prepare input => ((prepareSqliteCsvImport workspace input).toOption.map Prod.snd).getD workspace
  | .apply input => ((applySqliteCsvImportBatch workspace input).toOption.map Prod.snd).getD workspace
  | .fail failure => { workspace with imports := setSqliteCsvImportWorkerFailure workspace.imports failure }

def ImportWorkspace.run (workspace : ImportWorkspace ν) (actions : List ImportAction) : ImportWorkspace ν :=
  runActions ImportWorkspace.step workspace actions

structure ImportedRow where
  rowNumber : Nat
  rowId : String
  position : String
  deriving Repr, DecidableEq

inductive ImportEntry where
  | staged (values : List String)
  | imported (row : ImportedRow)
  deriving Repr, DecidableEq

/-- `rowValues` and `createdRows` of one batch. -/
def batchRows (job : ImportJob) (staged : List ImportStagedRow) (rowId : Nat → String) : List ImportedRow :=
  (staged.zip ((List.range staged.length).map rowId)).map fun row =>
    ⟨row.1.rowNumber, row.2, importRowPosition job.createdAt job.id row.1.rowNumber⟩

def createdRows (workspace : ImportWorkspace ν) (input : CsvImportBatch) : List ImportedRow :=
  match workspace.imports.jobs.get? input.job.importJobId with
  | none => []
  | some job => batchRows job (stagedImportRows workspace.imports job input.batchSize) input.rowId

def importEntries (importJobId : String) (workspace : ImportWorkspace ν) (action : ImportAction) : List ImportEntry :=
  if action.importJobId = importJobId then
    match action with
    | .stage input =>
      match stageSqliteCsvImportRows workspace input with
      | .ok _ => input.rows.map fun row => .staged row.values
      | .error _ => []
    | .apply input =>
      match applySqliteCsvImportBatch workspace input with
      | .ok (false, _) => (createdRows workspace input).map .imported
      | _ => []
    | _ => []
  else []

def stagedFile (log : List ImportEntry) : List (List String) :=
  log.filterMap fun
    | .staged values => some values
    | .imported _ => none

def importedRows (log : List ImportEntry) : List ImportedRow :=
  log.filterMap fun
    | .staged _ => none
    | .imported row => some row

def importLog (importJobId : String) (workspace : ImportWorkspace ν) (actions : List ImportAction) : List ImportEntry :=
  runOutputs ImportWorkspace.step (importEntries importJobId) workspace actions

end System

section Account

variable {ν : Type}

/-- The rows of the file up to the counter have become rows of the table, each once and
in order; a job which succeeded has imported all of them. -/
structure ImportsExactly (grid : Grid ν) (job : ImportJob) (file : List (List String)) (rows : List ImportedRow) :
    Prop where
  counted : job.stagedRowCount = file.length
  bounded : job.importedRowCount ≤ job.stagedRowCount
  numbers : rows.map ImportedRow.rowNumber = List.range' 1 job.importedRowCount
  nodup : (rows.map ImportedRow.rowId).Nodup
  order : job.importedRowCount < 10 ^ 10 → (rows.map ImportedRow.position).Pairwise (· < ·)
  content : ∀ row ∈ rows, ∃ mapping values, job.columnMapping = some mapping ∧
    file[row.rowNumber - 1]? = some values ∧ values.length = mapping.length ∧
    (∀ column ∈ mapping, grid.isFormula column.columnId = false) ∧
    RowImported grid job.tableId mapping row.rowId values
  complete : job.status = .succeeded → job.importedRowCount = job.stagedRowCount

def MappedColumns (grid : Grid ν) (job : ImportJob) : Prop :=
  ∀ mapping, job.columnMapping = some mapping → mapping.length = job.headers.length ∧
    ∀ column ∈ mapping, ∃ stored, grid.columns.get? column.columnId = some stored ∧ stored.kind = .input

def ImportJobStatus.open : ImportJobStatus → Bool
  | .staging | .queued | .running => true
  | .succeeded | .failed | .cancelled => false

structure ImportProgress (grid : Grid ν) (stagedRows : Table ImportStagedRow) (job : ImportJob)
    (log : List ImportEntry) : Prop where
  counted : job.stagedRowCount = (stagedFile log).length
  widths : ∀ values ∈ stagedFile log, values.length = job.headers.length
  bounded : job.importedRowCount ≤ (stagedFile log).length
  numbers : (importedRows log).map ImportedRow.rowNumber = List.range' 1 job.importedRowCount
  nodup : ((importedRows log).map ImportedRow.rowId).Nodup
  positions : ∀ row ∈ importedRows log, row.position = importRowPosition job.createdAt job.id row.rowNumber
  mapped : MappedColumns grid job
  content : ∀ row ∈ importedRows log, ∃ mapping values, job.columnMapping = some mapping ∧
    (stagedFile log)[row.rowNumber - 1]? = some values ∧ RowImported grid job.tableId mapping row.rowId values
  staged : job.status.open = true → ∀ rowNumber values, (⟨job.id, rowNumber, values⟩ : ImportStagedRow) ∈ stagedRows ↔
    (values, rowNumber) ∈ (stagedFile log).zipIdx 1
  complete : job.status = .succeeded → job.importedRowCount = (stagedFile log).length

theorem MappedColumns.grows {before after : Grid ν} {job : ImportJob} (h : MappedColumns before job)
    (hgrows : GridGrows before after) : MappedColumns after job := by
  intro mapping hmapping
  obtain ⟨hlength, hcolumns⟩ := h mapping hmapping
  refine ⟨hlength, fun column hcolumn => ?_⟩
  obtain ⟨stored, hstored, hkind⟩ := hcolumns column hcolumn
  exact ⟨stored, hgrows.columns _ _ hstored, hkind⟩

theorem ImportProgress.grows {before after : Grid ν} {stagedRows stagedRows' : Table ImportStagedRow}
    {job : ImportJob} {log : List ImportEntry} (h : ImportProgress before stagedRows job log)
    (hgrows : GridGrows before after)
    (hstaged : ∀ row, row.importJobId = job.id → (row ∈ stagedRows' ↔ row ∈ stagedRows)) :
    ImportProgress after stagedRows' job log where
  counted := h.counted
  widths := h.widths
  bounded := h.bounded
  numbers := h.numbers
  nodup := h.nodup
  positions := h.positions
  mapped := h.mapped.grows hgrows
  content row hrow := by
    obtain ⟨mapping, values, hmapping, hvalues, himported⟩ := h.content row hrow
    exact ⟨mapping, values, hmapping, hvalues, himported.grows hgrows⟩
  staged hopen rowNumber values := (hstaged _ rfl).trans (h.staged hopen rowNumber values)
  complete := h.complete

theorem ImportProgress.moves {grid : Grid ν} {stagedRows stagedRows' : Table ImportStagedRow} {job job' : ImportJob}
    {log : List ImportEntry} (h : ImportProgress grid stagedRows job log)
    (hjob : job' = { job with
      columnMapping := job'.columnMapping
      status := job'.status
      errorMessage := job'.errorMessage
      startedAt := job'.startedAt
      finishedAt := job'.finishedAt })
    (hmapping : job.columnMapping = none ∨ job'.columnMapping = job.columnMapping) (hmapped : MappedColumns grid job')
    (hstaged : job'.status.open = true → job.status.open = true ∧ stagedRows' = stagedRows)
    (hcomplete : job'.status = .succeeded → job.importedRowCount = job.stagedRowCount) :
    ImportProgress grid stagedRows' job' log := by
  have hid : job'.id = job.id := by rw [hjob]
  have hcount : job'.importedRowCount = job.importedRowCount := by rw [hjob]
  refine ⟨?_, ?_, ?_, ?_, h.nodup, ?_, hmapped, ?_, ?_, ?_⟩
  · rw [hjob]
    exact h.counted
  · rw [hjob]
    exact h.widths
  · rw [hcount]
    exact h.bounded
  · rw [hcount]
    exact h.numbers
  · intro row hrow
    rw [hjob]
    exact h.positions row hrow
  · intro row hrow
    obtain ⟨mapping, values, hcolumns, hvalues, himported⟩ := h.content row hrow
    refine ⟨mapping, values, ?_, hvalues, ?_⟩
    · rcases hmapping with hnone | hsame
      · rw [hnone] at hcolumns
        cases hcolumns
      · rw [hsame, hcolumns]
    · rw [hjob]
      exact himported
  · intro hopen rowNumber values
    obtain ⟨hopen', rfl⟩ := hstaged hopen
    rw [hid]
    exact h.staged hopen' rowNumber values
  · intro hstatus
    rw [hcount, hcomplete hstatus, h.counted]

structure JobKept (store store' : ImportStore) (importJobId : String) : Prop where
  job : store'.jobs.get? importJobId = store.jobs.get? importJobId
  staged : ∀ row, row.importJobId = importJobId → (row ∈ store'.stagedRows ↔ row ∈ store.stagedRows)

theorem JobKept.refl (store : ImportStore) (importJobId : String) : JobKept store store importJobId :=
  ⟨rfl, fun _ _ => Iff.rfl⟩

theorem JobKept.trans {a b c : ImportStore} {importJobId : String} (hab : JobKept a b importJobId)
    (hbc : JobKept b c importJobId) : JobKept a c importJobId :=
  ⟨hbc.job.trans hab.job, fun row hrow => (hbc.staged row hrow).trans (hab.staged row hrow)⟩

theorem updateJob_get? (store : ImportStore) {p : ImportJob → Bool} {f : ImportJob → ImportJob} (hf : KeepsKey f)
    (importJobId : String) : (store.updateJob p f hf).jobs.get? importJobId =
      (store.jobs.get? importJobId).map fun job => if p job then f job else job :=
  Table.get?_modify _ _ _ hf importJobId

theorem updateJob_kept (store : ImportStore) {p : ImportJob → Bool} {f : ImportJob → ImportJob} (hf : KeepsKey f)
    {importJobId : String} (hp : ∀ job, p job = true → job.id ≠ importJobId) :
    JobKept store (store.updateJob p f hf) importJobId := by
  refine ⟨?_, fun _ _ => Iff.rfl⟩
  rw [updateJob_get?]
  cases hjob : store.jobs.get? importJobId with
  | none => rfl
  | some job =>
    have hid : job.id = importJobId := (Table.get?_eq_some.mp hjob).2
    have hnot : ¬ p job = true := fun hpjob => hp job hpjob hid
    rw [Option.map_some, if_neg hnot]

theorem dropStagedRows_kept (store : ImportStore) {importJobId other : String} (hne : other ≠ importJobId) :
    JobKept store (store.dropStagedRows other) importJobId := by
  refine ⟨rfl, fun row hrow => ?_⟩
  rw [ImportStore.dropStagedRows, Table.mem_filter, hrow]
  simp [hne.symm]

theorem failSqliteCsvImportUpload_kept {store : ImportStore} {input : FailCsvImportUpload} {importJobId : String}
    (hne : input.importJobId ≠ importJobId) : JobKept store (failSqliteCsvImportUpload store input) importJobId := by
  unfold failSqliteCsvImportUpload
  dsimp only
  split
  · refine JobKept.trans (updateJob_kept store _ fun job hjob hid => ?_) (dropStagedRows_kept _ hne)
    simp only [Bool.and_eq_true, decide_eq_true_eq] at hjob
    exact hne (hjob.1.1.symm.trans hid)
  · exact JobKept.refl _ _

theorem setSqliteCsvImportWorkerFailure_kept {store : ImportStore} {failure : CsvImportFailure} {importJobId : String}
    (hne : failure.importJobId ≠ importJobId) :
    JobKept store (setSqliteCsvImportWorkerFailure store failure) importJobId := by
  refine updateJob_kept store _ fun job hjob hid => ?_
  simp only [Bool.and_eq_true, decide_eq_true_eq] at hjob
  exact hne (hjob.1.symm.trans hid)

theorem stagingJob_eq_ok {workspace : ImportWorkspace ν} {importJobId userId : String} {job : ImportJob}
    (h : stagingJob workspace importJobId userId = .ok job) :
    workspace.imports.jobs.get? importJobId = some job ∧ job.status = .staging := by
  rw [stagingJob, requireSome_eq_ok, Option.filter_eq_some_iff] at h
  simp only [Bool.and_eq_true, decide_eq_true_eq] at h
  exact ⟨h.1, h.2.1⟩

theorem stageSqliteCsvImportRows_eq_ok {workspace workspace' : ImportWorkspace ν} {input : StageCsvImportRows}
    (h : stageSqliteCsvImportRows workspace input = .ok workspace') :
    (input.rows = [] ∧ workspace' = workspace) ∨
      ∃ (job : ImportJob) (staged : Table ImportStagedRow),
        workspace.imports.jobs.get? input.importJobId = some job ∧ job.status = .staging ∧
        checkStagedRows job.headers.length (job.stagedRowCount + 1) input.rows = .ok () ∧
        workspace.imports.stagedRows.insertAll (input.rows.map fun row =>
          { importJobId := input.importJobId, rowNumber := row.rowNumber, values := row.values }) = some staged ∧
        workspace' = { workspace with imports :=
          { workspace.imports.updateJob (fun candidate =>
              candidate.id = input.importJobId && candidate.status = .staging) (fun candidate =>
              { candidate with
                stagedRowCount := job.stagedRowCount + input.rows.length
                uploadedBytes := input.uploadedBytes }) ⟨fun _ => rfl⟩ with stagedRows := staged } } := by
  unfold stageSqliteCsvImportRows at h
  split at h
  · rename_i hempty
    cases h
    exact Or.inl ⟨hempty, rfl⟩
  · simp only [except_bind_eq_ok, requireSome_eq_ok, pure, Except.pure, Except.ok.injEq] at h
    obtain ⟨job, hjob, _, _, _, hcheck, staged, hstaged, rfl⟩ := h
    obtain ⟨hget, hstatus⟩ := stagingJob_eq_ok hjob
    exact Or.inr ⟨job, staged, hget, hstatus, hcheck, hstaged, rfl⟩

theorem queueSqliteCsvImport_eq_ok {workspace workspace' : ImportWorkspace ν} {input : QueueCsvImport}
    (h : queueSqliteCsvImport workspace input = .ok workspace') :
    workspace'.db.grid = workspace.db.grid ∧
      workspace'.imports = workspace.imports.updateJob (fun candidate =>
        candidate.id = input.importJobId && candidate.status = .staging)
        (fun candidate => { candidate with errorMessage := none, status := .queued }) ⟨fun _ => rfl⟩ := by
  simp only [queueSqliteCsvImport, except_bind_eq_ok, pure, Except.pure, Except.ok.injEq] at h
  obtain ⟨job, hjob, _, _, events, _, rfl⟩ := h
  have hid : job.id = input.importJobId := (Table.get?_eq_some.mp (stagingJob_eq_ok hjob).1).2
  refine ⟨rfl, ?_⟩
  simp only [hid]

theorem checkStagedRows_numbers {width expected : Nat} {rows : List CsvRow}
    (h : checkStagedRows width expected rows = .ok ()) :
    rows.map (fun row => (row.values, row.rowNumber)) = (rows.map CsvRow.values).zipIdx expected ∧
      ∀ row ∈ rows, row.values.length = width := by
  induction rows generalizing expected with
  | nil => exact ⟨rfl, fun _ hrow => absurd hrow List.not_mem_nil⟩
  | cons row rows ih =>
    simp only [checkStagedRows, except_bind_eq_ok, requireThat_eq_ok, Bool.and_eq_true, decide_eq_true_eq] at h
    obtain ⟨_, ⟨hnumber, hwidth⟩, hrest⟩ := h
    obtain ⟨hnumbers, hwidths⟩ := ih hrest
    refine ⟨?_, fun other hother => ?_⟩
    · rw [List.map_cons, List.map_cons, List.zipIdx_cons, hnumbers, hnumber]
    · rcases List.mem_cons.mp hother with rfl | hother
      · exact hwidth
      · exact hwidths other hother

@[simp] theorem stagedFile_append (log entries : List ImportEntry) :
    stagedFile (log ++ entries) = stagedFile log ++ stagedFile entries := List.filterMap_append

@[simp] theorem importedRows_append (log entries : List ImportEntry) :
    importedRows (log ++ entries) = importedRows log ++ importedRows entries := List.filterMap_append

@[simp] theorem stagedFile_staged (rows : List CsvRow) :
    stagedFile (rows.map fun row => .staged row.values) = rows.map CsvRow.values := by
  simp [stagedFile, List.filterMap_map, List.filterMap_eq_map']

@[simp] theorem importedRows_staged (rows : List CsvRow) :
    importedRows (rows.map fun row => .staged row.values) = [] := by
  simp [importedRows, List.filterMap_map]

@[simp] theorem stagedFile_imported (rows : List ImportedRow) : stagedFile (rows.map .imported) = [] := by
  simp [stagedFile, List.filterMap_map]

@[simp] theorem importedRows_imported (rows : List ImportedRow) : importedRows (rows.map .imported) = rows := by
  simp [importedRows, List.filterMap_map]

theorem ImportProgress.stage {grid : Grid ν} {stagedRows staged : Table ImportStagedRow} {job : ImportJob}
    {log : List ImportEntry} {rows : List CsvRow} (uploadedBytes : Nat)
    (h : ImportProgress grid stagedRows job log) (hstatus : job.status = .staging)
    (hcheck : checkStagedRows job.headers.length (job.stagedRowCount + 1) rows = .ok ())
    (hstaged : stagedRows.insertAll (rows.map fun row =>
      { importJobId := job.id, rowNumber := row.rowNumber, values := row.values }) = some staged) :
    ImportProgress grid staged { job with
      stagedRowCount := job.stagedRowCount + rows.length
      uploadedBytes := uploadedBytes } (log ++ rows.map fun row => .staged row.values) := by
  obtain ⟨hnumbers, hwidths⟩ := checkStagedRows_numbers hcheck
  constructor
  · simp [h.counted]
  · intro values hvalues
    rw [stagedFile_append, stagedFile_staged, List.mem_append] at hvalues
    rcases hvalues with hold | hnew
    · exact h.widths values hold
    · obtain ⟨row, hrow, rfl⟩ := List.mem_map.mp hnew
      exact hwidths row hrow
  · rw [stagedFile_append, List.length_append]
    exact h.bounded.trans (Nat.le_add_right _ _)
  · rw [importedRows_append, importedRows_staged, List.append_nil]
    exact h.numbers
  · rw [importedRows_append, importedRows_staged, List.append_nil]
    exact h.nodup
  · rw [importedRows_append, importedRows_staged, List.append_nil]
    exact h.positions
  · exact h.mapped
  · rw [importedRows_append, importedRows_staged, List.append_nil]
    intro row hrow
    obtain ⟨mapping, values, hmapping, hvalues, himported⟩ := h.content row hrow
    refine ⟨mapping, values, hmapping, ?_, himported⟩
    obtain ⟨hlt, _⟩ := List.getElem?_eq_some_iff.mp hvalues
    rw [stagedFile_append, List.getElem?_append_left hlt]
    exact hvalues
  · intro _ rowNumber values
    rw [Table.mem_insertAll hstaged, h.staged (by rw [hstatus]; rfl), stagedFile_append, stagedFile_staged,
      List.zipIdx_append, List.mem_append, Nat.add_comm 1, ← h.counted, ← hnumbers]
    refine or_congr_right ?_
    simp [eq_comm, and_comm]
  · intro hsucceeded
    rw [hstatus] at hsucceeded
    cases hsucceeded

theorem zipIdx_pairwise {α : Type} (xs : List α) (start : Nat) :
    (xs.zipIdx start).Pairwise fun left right => left.2 < right.2 := by
  have hnumbers : ((xs.zipIdx start).map Prod.snd).Pairwise (· < ·) := by
    rw [List.zipIdx_map_snd]
    exact List.pairwise_lt_range'
  exact List.pairwise_map.mp hnumbers

def waitingRows (stagedRows : Table ImportStagedRow) (job : ImportJob) : List ImportStagedRow :=
  stagedRows.records.filter fun row => row.importJobId = job.id && job.importedRowCount < row.rowNumber

def remainingFile (job : ImportJob) (log : List ImportEntry) : List (List String × Nat) :=
  ((stagedFile log).drop job.importedRowCount).zipIdx (job.importedRowCount + 1)

section Batch

variable {grid : Grid ν} {stagedRows : Table ImportStagedRow} {job : ImportJob} {log : List ImportEntry}

theorem mem_remainingFile {values : List String} {rowNumber : Nat} : (values, rowNumber) ∈ remainingFile job log ↔
    (values, rowNumber) ∈ (stagedFile log).zipIdx 1 ∧ job.importedRowCount < rowNumber := by
  simp only [remainingFile, List.mk_mem_zipIdx_iff_le_and_getElem?_sub, List.getElem?_drop]
  by_cases hlt : job.importedRowCount < rowNumber
  · rw [show job.importedRowCount + (rowNumber - (job.importedRowCount + 1)) = rowNumber - 1 by omega]
    have hle : job.importedRowCount + 1 ≤ rowNumber := hlt
    have hpos : 1 ≤ rowNumber := by omega
    simp [hlt, hle, hpos]
  · have hle : ¬ job.importedRowCount + 1 ≤ rowNumber := by omega
    simp [hlt, hle]

theorem ImportProgress.mem_waiting (h : ImportProgress grid stagedRows job log) (hopen : job.status.open = true)
    {row : ImportStagedRow} : row ∈ waitingRows stagedRows job ↔
      row.importJobId = job.id ∧ (row.values, row.rowNumber) ∈ remainingFile job log := by
  rw [mem_remainingFile, ← h.staged hopen, waitingRows, List.mem_filter]
  simp only [Bool.and_eq_true, decide_eq_true_eq]
  constructor
  · rintro ⟨hrow, hid, hlt⟩
    exact ⟨hid, by rw [← hid]; exact hrow, hlt⟩
  · rintro ⟨hid, hrow, hlt⟩
    rw [← hid] at hrow
    exact ⟨hrow, hid, hlt⟩

theorem ImportProgress.waiting_sorted (h : ImportProgress grid stagedRows job log) (hopen : job.status.open = true) :
    ((waitingRows stagedRows job).insertionSort fun left right => left.rowNumber ≤ right.rowNumber).map
      (fun row => (row.values, row.rowNumber)) = remainingFile job log := by
  have hperm := List.perm_insertionSort (fun left right : ImportStagedRow => left.rowNumber ≤ right.rowNumber)
    (waitingRows stagedRows job)
  have hmem : ∀ entry, entry ∈ ((waitingRows stagedRows job).insertionSort fun left right =>
      left.rowNumber ≤ right.rowNumber).map (fun row => (row.values, row.rowNumber)) ↔
        entry ∈ remainingFile job log := by
    intro entry
    rw [(hperm.map _).mem_iff, List.mem_map]
    constructor
    · rintro ⟨row, hrow, rfl⟩
      exact ((h.mem_waiting hopen).mp hrow).2
    · intro hentry
      exact ⟨⟨job.id, entry.2, entry.1⟩, (h.mem_waiting hopen).mpr ⟨rfl, hentry⟩, rfl⟩
  have hremaining := zipIdx_pairwise ((stagedFile log).drop job.importedRowCount) (job.importedRowCount + 1)
  have hsorted : (remainingFile job log).Pairwise fun left right => left.2 ≤ right.2 := hremaining.imp Nat.le_of_lt
  refine List.Perm.eq_of_pairwise ?_ ?_ hsorted ?_
  · rintro ⟨values, rowNumber⟩ ⟨values', rowNumber'⟩ hleft hright hle hge
    obtain rfl : rowNumber = rowNumber' := Nat.le_antisymm hle hge
    have hvalues := (List.mk_mem_zipIdx_iff_le_and_getElem?_sub.mp ((hmem _).mp hleft)).2
    have hvalues' := (List.mk_mem_zipIdx_iff_le_and_getElem?_sub.mp hright).2
    rw [hvalues, Option.some.injEq] at hvalues'
    rw [hvalues']
  · have htotal : Std.Total fun left right : ImportStagedRow => left.rowNumber ≤ right.rowNumber :=
      ⟨fun left right => Nat.le_total left.rowNumber right.rowNumber⟩
    have htrans : IsTrans ImportStagedRow fun left right => left.rowNumber ≤ right.rowNumber :=
      ⟨fun _ _ _ => Nat.le_trans⟩
    exact List.pairwise_map.mpr (List.pairwise_insertionSort _ _)
  · refine (List.perm_ext_iff_of_nodup ?_ (hremaining.imp fun hlt heq => absurd (heq ▸ hlt) (lt_irrefl _))).mpr hmem
    have hnd : (waitingRows stagedRows job).Nodup := (List.Nodup.of_map _ stagedRows.nodup).filter _
    refine List.Nodup.map_on ?_ (hperm.nodup_iff.mpr hnd)
    intro left hleft right hright heq
    have hid := ((h.mem_waiting hopen).mp (hperm.mem_iff.mp hleft)).1
    have hid' := ((h.mem_waiting hopen).mp (hperm.mem_iff.mp hright)).1
    rw [Prod.mk.injEq] at heq
    obtain ⟨leftId, leftNumber, leftValues⟩ := left
    obtain ⟨rightId, rightNumber, rightValues⟩ := right
    simp only [ImportStagedRow.mk.injEq]
    exact ⟨hid.trans hid'.symm, heq.2, heq.1⟩

theorem ImportProgress.batch_numbers (h : ImportProgress grid stagedRows job log) (hopen : job.status.open = true)
    {limit : Nat} {staged : List ImportStagedRow}
    (hstaged : staged = ((waitingRows stagedRows job).insertionSort fun left right =>
      left.rowNumber ≤ right.rowNumber).take limit) :
    staged.map ImportStagedRow.rowNumber = List.range' (job.importedRowCount + 1) staged.length ∧
      job.importedRowCount + staged.length ≤ (stagedFile log).length := by
  have hsorted := congrArg (List.take limit) (h.waiting_sorted hopen)
  rw [← List.map_take, ← hstaged] at hsorted
  have hlength : staged.length = min limit ((stagedFile log).length - job.importedRowCount) := by
    have hlengths := congrArg List.length hsorted
    simpa [remainingFile] using hlengths
  have hnumbers : staged.map ImportStagedRow.rowNumber = (staged.map fun row => (row.values, row.rowNumber)).map Prod.snd := by
    rw [List.map_map]
    rfl
  have hbounded := h.bounded
  refine ⟨?_, by omega⟩
  rw [hnumbers, hsorted, List.map_take, remainingFile, List.zipIdx_map_snd, List.length_drop, hlength]
  rcases Nat.le_total limit ((stagedFile log).length - job.importedRowCount) with hle | hle
  · rw [Nat.min_eq_left hle, List.take_range'_of_length_ge hle]
  · rw [Nat.min_eq_right hle, List.take_range'_of_length_le hle]

theorem ImportProgress.batch_values (h : ImportProgress grid stagedRows job log) (hopen : job.status.open = true)
    {limit : Nat} {row : ImportStagedRow} (hrow : row ∈ ((waitingRows stagedRows job).insertionSort fun left right =>
      left.rowNumber ≤ right.rowNumber).take limit) : (stagedFile log)[row.rowNumber - 1]? = some row.values := by
  have hwaiting := List.mem_of_mem_take hrow
  rw [List.mem_insertionSort, h.mem_waiting hopen, mem_remainingFile] at hwaiting
  exact (List.mk_mem_zipIdx_iff_le_and_getElem?_sub.mp hwaiting.2.1).2

end Batch

theorem batchRows_rowNumber (job : ImportJob) (staged : List ImportStagedRow) (rowId : Nat → String) :
    (batchRows job staged rowId).map ImportedRow.rowNumber = staged.map ImportStagedRow.rowNumber := by
  have hfirst : (staged.zip ((List.range staged.length).map rowId)).map Prod.fst = staged :=
    List.map_fst_zip (by simp)
  conv_rhs => rw [← hfirst]
  rw [batchRows, List.map_map, List.map_map]
  rfl

theorem batchRows_rowId (job : ImportJob) (staged : List ImportStagedRow) (rowId : Nat → String) :
    (batchRows job staged rowId).map ImportedRow.rowId =
      (staged.zip ((List.range staged.length).map rowId)).map Prod.snd := by
  rw [batchRows, List.map_map]
  rfl

theorem ImportProgress.imports {grid grid' : Grid ν} {store : ImportStore} {job : ImportJob}
    {log : List ImportEntry} {mapping : List CsvImportColumn} {batchSize : Int} {rowId : Nat → String}
    (h : ImportProgress grid store.stagedRows job log) (hrunning : job.status = .running)
    (hmapping : job.columnMapping = some mapping) (hsome : stagedImportRows store job batchSize ≠ [])
    (hbatch : BatchImported grid grid' job.tableId mapping ((stagedImportRows store job batchSize).zip
      ((List.range (stagedImportRows store job batchSize).length).map rowId))) :
    ImportProgress grid' store.stagedRows { job with
      importedRowCount := ((stagedImportRows store job batchSize).getLast?.map ImportStagedRow.rowNumber).getD
        job.importedRowCount }
      (log ++ (batchRows job (stagedImportRows store job batchSize) rowId).map .imported) := by
  have hopen : job.status.open = true := by rw [hrunning]; rfl
  obtain ⟨hnumbers, hbounded⟩ := h.batch_numbers hopen (rfl : stagedImportRows store job batchSize = _)
  have hgrown := h.grows hbatch.grows (fun _ _ => Iff.rfl : ∀ row : ImportStagedRow, row.importJobId = job.id →
    (row ∈ store.stagedRows ↔ row ∈ store.stagedRows))
  have hvalues : ∀ row ∈ stagedImportRows store job batchSize,
      (stagedFile log)[row.rowNumber - 1]? = some row.values := fun row hrow => h.batch_values hopen hrow
  generalize stagedImportRows store job batchSize = staged at *
  have hcount : (staged.getLast?.map ImportStagedRow.rowNumber).getD job.importedRowCount =
      job.importedRowCount + staged.length := by
    have hpos : 0 < staged.length := List.length_pos_iff.mpr hsome
    rw [← List.getLast?_map, hnumbers, List.getLast?_range', if_neg (by omega), Option.getD_some]
    omega
  have hnew : ∀ row ∈ batchRows job staged rowId, ∃ entry ∈ staged.zip ((List.range staged.length).map rowId),
      row = ⟨entry.1.rowNumber, entry.2, importRowPosition job.createdAt job.id entry.1.rowNumber⟩ := by
    intro row hrow
    obtain ⟨entry, hentry, rfl⟩ := List.mem_map.mp hrow
    exact ⟨entry, hentry, rfl⟩
  constructor
  · simp [h.counted]
  · simpa using h.widths
  · rw [hcount]
    simpa using hbounded
  · rw [hcount, importedRows_append, importedRows_imported, List.map_append, batchRows_rowNumber, hnumbers,
      h.numbers, Nat.add_comm job.importedRowCount 1, List.range'_append_1]
  · rw [importedRows_append, importedRows_imported, List.map_append, batchRows_rowId, List.nodup_append]
    refine ⟨h.nodup, hbatch.nodup, ?_⟩
    rintro id hold _ hfresh rfl
    obtain ⟨row, hrow, rfl⟩ := List.mem_map.mp hold
    obtain ⟨entry, hentry, hid⟩ := List.mem_map.mp hfresh
    obtain ⟨_, _, _, _, himported⟩ := h.content row hrow
    obtain ⟨stored, hstored, _⟩ := himported.row
    rw [← hid, hbatch.fresh entry hentry] at hstored
    cases hstored
  · intro row hrow
    rw [importedRows_append, importedRows_imported, List.mem_append] at hrow
    rcases hrow with hold | hrow
    · exact h.positions row hold
    · obtain ⟨entry, _, rfl⟩ := hnew row hrow
      rfl
  · exact hgrown.mapped
  · intro row hrow
    rw [importedRows_append, importedRows_imported, List.mem_append] at hrow
    rw [stagedFile_append, stagedFile_imported, List.append_nil]
    rcases hrow with hold | hrow
    · exact hgrown.content row hold
    · obtain ⟨entry, hentry, rfl⟩ := hnew row hrow
      exact ⟨mapping, entry.1.values, hmapping, hvalues entry.1 (List.of_mem_zip hentry).1,
        hbatch.imported entry hentry⟩
  · rw [stagedFile_append, stagedFile_imported, List.append_nil]
    exact hgrown.staged
  · intro hsucceeded
    rw [hrunning] at hsucceeded
    cases hsucceeded

end Account

end ByokGrid
