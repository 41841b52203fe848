import ByokGrid.FieldMappings
import ByokGrid.GridHistory

/-! What one batch of an import adds to the grid: a new row for each staged row, with
its values in the mapped columns, and nothing in the rows which were there. -/

namespace ByokGrid

section Grows

variable {ν : Type}

def CellsHaveRows (grid : Grid ν) : Prop :=
  ∀ rowId columnId, grid.rows.get? rowId = none → grid.cells rowId columnId = none

def Grid.isFormula (grid : Grid ν) (columnId : String) : Bool :=
  (grid.columns.get? columnId).any fun column => column.kind = .formula

structure GridGrows (before after : Grid ν) : Prop where
  rows : RowsStay before.rows after.rows
  columns : ∀ id column, before.columns.get? id = some column → after.columns.get? id = some column
  cells : ∀ rowId columnId, (before.rows.get? rowId).isSome → after.cells rowId columnId = before.cells rowId columnId
  owned : CellsHaveRows before → CellsHaveRows after

theorem GridGrows.refl (grid : Grid ν) : GridGrows grid grid :=
  ⟨RowsStay.refl _, fun _ _ h => h, fun _ _ _ => rfl, fun h => h⟩

theorem RowsStay.isSome {rows rows' : Table Row} (h : RowsStay rows rows') {rowId : String}
    (hrow : (rows.get? rowId).isSome) : (rows'.get? rowId).isSome := by
  obtain ⟨row, hrow⟩ := Option.isSome_iff_exists.mp hrow
  obtain ⟨row', hrow', _⟩ := h rowId row hrow
  rw [hrow']
  rfl

theorem GridGrows.trans {a b c : Grid ν} (hab : GridGrows a b) (hbc : GridGrows b c) : GridGrows a c where
  rows := hab.rows.trans hbc.rows
  columns id column hcolumn := hbc.columns id column (hab.columns id column hcolumn)
  cells rowId columnId hrow := by
    rw [hbc.cells rowId columnId (hab.rows.isSome hrow), hab.cells rowId columnId hrow]
  owned h := hbc.owned (hab.owned h)

theorem GridGrows.isFormula {before after : Grid ν} (h : GridGrows before after) {columnId : String}
    (hformula : after.isFormula columnId = false) : before.isFormula columnId = false := by
  cases hcolumn : before.columns.get? columnId with
  | none => rw [Grid.isFormula, hcolumn, Option.any_none]
  | some column =>
    rw [Grid.isFormula, h.columns columnId column hcolumn] at hformula
    rw [Grid.isFormula, hcolumn, hformula]

theorem insertColumn_grows {grid grid' : Grid ν} {column : Column ν} (h : insertColumn grid column = .ok grid') :
    GridGrows grid grid' ∧ grid'.columns.get? column.id = some column := by
  obtain ⟨_, columns, hinsert, rfl⟩ := insertColumn_eq_ok h
  have hget := Table.get?_insert hinsert
  have hfresh : grid.columns.get? column.id = none := (Table.insert_eq_some hinsert).2
  refine ⟨⟨RowsStay.refl _, fun id other hother => ?_, fun _ _ _ => rfl, fun hcells => hcells⟩, ?_⟩
  · have hne : id ≠ column.id := by
      rintro rfl
      rw [hfresh] at hother
      cases hother
    exact (hget id).trans ((if_neg hne).trans hother)
  · exact (hget column.id).trans (if_pos rfl)

theorem createPlannedColumns_grows {tableId : String} {columnId : Nat → String} {index : Nat}
    {plans : List CsvColumnPlan} {grid grid' : Grid ν} {fields : List SourceField}
    (h : createPlannedColumns tableId columnId index plans grid = .ok (fields, grid')) :
    GridGrows grid grid' ∧ ∀ field ∈ fields, some field.columnId ∈ plans.map CsvColumnPlan.existingColumnId ∨
      ∃ name, grid'.columns.get? field.columnId = some (textInputColumn field.columnId tableId name) := by
  induction plans generalizing index grid fields with
  | nil =>
    cases h
    exact ⟨GridGrows.refl _, fun _ hfield => absurd hfield List.not_mem_nil⟩
  | cons plan plans ih =>
    unfold createPlannedColumns at h
    split at h
    · rename_i existing hexisting
      simp only [except_bind_eq_ok, pure, Except.pure, Except.ok.injEq, Prod.mk.injEq] at h
      obtain ⟨rest, hrest, rfl, rfl⟩ := h
      obtain ⟨hgrows, hfields⟩ := ih hrest
      refine ⟨hgrows, fun field hfield => ?_⟩
      rcases List.mem_cons.mp hfield with rfl | hfield
      · exact Or.inl (by simp [hexisting])
      · exact (hfields field hfield).imp (List.mem_cons_of_mem _) id
    · simp only [except_bind_eq_ok, pure, Except.pure, Except.ok.injEq, Prod.mk.injEq] at h
      obtain ⟨created, hcreated, rest, hrest, rfl, rfl⟩ := h
      obtain ⟨hgrows, hfields⟩ := ih hrest
      obtain ⟨hinserted, hnew⟩ := insertColumn_grows hcreated
      refine ⟨hinserted.trans hgrows, fun field hfield => ?_⟩
      rcases List.mem_cons.mp hfield with rfl | hfield
      · exact Or.inr ⟨plan.columnName, hgrows.columns _ _ hnew⟩
      · exact (hfields field hfield).imp (List.mem_cons_of_mem _) id

theorem insertRow_grows {grid grid' : Grid ν} {tableId rowId : String} (h : insertRow grid tableId rowId = .ok grid') :
    GridGrows grid grid' ∧ grid.rows.get? rowId = none ∧ grid'.cells = grid.cells ∧ grid'.columns = grid.columns ∧
      ∃ row, grid'.rows.get? rowId = some row ∧ row.tableId = tableId := by
  simp only [insertRow, except_bind_eq_ok, requireSome_eq_ok, pure, Except.pure, Except.ok.injEq] at h
  obtain ⟨rows, hinsert, rfl⟩ := h
  have hstay := (RowsKept.insert hinsert).stay
  refine ⟨⟨hstay, fun _ _ hcolumn => hcolumn, fun _ _ _ => rfl, fun hcells r c hnone => ?_⟩,
    (Table.insert_eq_some hinsert).2, rfl, rfl, ⟨rowId, tableId, 1, none⟩, ?_, rfl⟩
  · cases hrow : grid.rows.get? r with
    | none => exact hcells r c hrow
    | some row =>
      have hsome := hstay.isSome (Option.isSome_iff_exists.mpr ⟨row, hrow⟩)
      rw [hnone] at hsome
      cases hsome
  · exact (Table.get?_insert hinsert rowId).trans (if_pos rfl)

structure RowsInserted (before after : Grid ν) (tableId : String) (rowIds : List String) : Prop where
  grows : GridGrows before after
  fresh : ∀ rowId ∈ rowIds, before.rows.get? rowId = none
  nodup : rowIds.Nodup
  cells : after.cells = before.cells
  columns : after.columns = before.columns
  rows : ∀ rowId ∈ rowIds, ∃ row, after.rows.get? rowId = some row ∧ row.tableId = tableId

theorem insertRows_inserted {tableId : String} {rowIds : List String} {grid grid' : Grid ν}
    (h : insertRows tableId rowIds grid = .ok grid') : RowsInserted grid grid' tableId rowIds := by
  induction rowIds generalizing grid with
  | nil =>
    cases h
    exact ⟨GridGrows.refl _, fun _ hin => absurd hin List.not_mem_nil, List.nodup_nil, rfl, rfl,
      fun _ hin => absurd hin List.not_mem_nil⟩
  | cons rowId rowIds ih =>
    simp only [insertRows, except_bind_eq_ok] at h
    obtain ⟨inserted, hinserted, hrest⟩ := h
    obtain ⟨hgrows, hfresh, hcells, hcolumns, row, hrow, htable⟩ := insertRow_grows hinserted
    have hlater := ih hrest
    refine ⟨hgrows.trans hlater.grows, fun other hother => ?_, List.nodup_cons.mpr ⟨fun hin => ?_, hlater.nodup⟩,
      hlater.cells.trans hcells, hlater.columns.trans hcolumns, fun other hother => ?_⟩
    · rcases List.mem_cons.mp hother with rfl | hother
      · exact hfresh
      · cases hbefore : grid.rows.get? other with
        | none => rfl
        | some old =>
          have hsome := hgrows.rows.isSome (Option.isSome_iff_exists.mpr ⟨old, hbefore⟩)
          rw [hlater.fresh other hother] at hsome
          cases hsome
    · have hnone := hlater.fresh rowId hin
      rw [hrow] at hnone
      cases hnone
    · rcases List.mem_cons.mp hother with rfl | hother
      · obtain ⟨row', hrow', htable'⟩ := hlater.grows.rows other row hrow
        exact ⟨row', hrow', htable'.trans htable⟩
      · exact hlater.rows other hother

def importedCell (value : String) : Cell ν :=
  { value := .text value, status := .idle, version := 1 }

structure CellsInserted (before after : Grid ν) (cells : List TextCell) : Prop where
  cellsOnly : after = { before with cells := after.cells }
  cells : ∀ rowId columnId cell, after.cells rowId columnId = some cell ↔
    before.cells rowId columnId = some cell ∨
      ∃ text ∈ cells, text.rowId = rowId ∧ text.columnId = columnId ∧ cell = importedCell text.value

theorem insertImportedCells_inserted {cells : List TextCell} {grid grid' : Grid ν}
    (h : insertImportedCells cells grid = .ok grid') : CellsInserted grid grid' cells := by
  induction cells generalizing grid with
  | nil =>
    cases h
    exact ⟨rfl, fun _ _ _ => by simp⟩
  | cons text cells ih =>
    simp only [insertImportedCells, insertCell, except_bind_eq_ok, requireThat_eq_ok, pure, Except.pure,
      Except.ok.injEq] at h
    obtain ⟨next, ⟨_, hfree, rfl⟩, hrest⟩ := h
    have hlater := ih hrest
    constructor
    · rw [hlater.cellsOnly]
      rfl
    · intro rowId columnId cell
      rw [hlater.cells rowId columnId cell]
      by_cases hhere : rowId = text.rowId ∧ columnId = text.columnId
      · obtain ⟨rfl, rfl⟩ := hhere
        rw [Grid.setCell_self, Option.isNone_iff_eq_none.mp hfree]
        simp [importedCell, eq_comm]
      · rw [Grid.setCell_of_ne _ _ _ _ hhere]
        have hother : ¬ (text.rowId = rowId ∧ text.columnId = columnId ∧ cell = importedCell text.value) :=
          fun heq => hhere ⟨heq.1.symm, heq.2.1.symm⟩
        simp [hother]

theorem CellsInserted.grows {before inserted after : Grid ν} {tableId : String} {rowIds : List String}
    {cells : List TextCell} (hrows : RowsInserted before inserted tableId rowIds)
    (h : CellsInserted inserted after cells) (hcells : ∀ text ∈ cells, text.rowId ∈ rowIds) :
    GridGrows before after := by
  have hsame : after.rows = inserted.rows := by rw [h.cellsOnly]
  have hcolumns : after.columns = inserted.columns := by rw [h.cellsOnly]
  refine ⟨?_, ?_, fun rowId columnId hrow => ?_, fun howned rowId columnId hnone => ?_⟩
  · rw [hsame]
    exact hrows.grows.rows
  · rw [hcolumns]
    exact hrows.grows.columns
  · rw [← hrows.cells]
    refine Option.ext fun cell => ?_
    rw [h.cells rowId columnId cell]
    refine or_iff_left ?_
    rintro ⟨text, htext, rfl, _, _⟩
    rw [hrows.fresh text.rowId (hcells text htext)] at hrow
    cases hrow
  · rw [hsame] at hnone
    refine Option.eq_none_iff_forall_ne_some.mpr fun cell hcell => ?_
    rcases (h.cells rowId columnId cell).mp hcell with hold | ⟨text, htext, rfl, _, _⟩
    · rw [hrows.grows.owned howned rowId columnId hnone] at hold
      cases hold
    · obtain ⟨row, hrow, _⟩ := hrows.rows text.rowId (hcells text htext)
      rw [hrow] at hnone
      cases hnone

structure FormulasSettled (before after : Grid ν) (rowIds : List String) : Prop where
  rows : RowsStay before.rows after.rows
  missing : ∀ rowId, before.rows.get? rowId = none ↔ after.rows.get? rowId = none
  columns : after.columns = before.columns
  cells : ∀ rowId columnId, after.cells rowId columnId = before.cells rowId columnId ∨
    rowId ∈ rowIds ∧ before.isFormula columnId = true

theorem FormulasSettled.refl (grid : Grid ν) (rowIds : List String) : FormulasSettled grid grid rowIds :=
  ⟨RowsStay.refl _, fun _ => Iff.rfl, rfl, fun _ _ => Or.inl rfl⟩

theorem FormulasSettled.trans {a b c : Grid ν} {rowIds : List String} (hab : FormulasSettled a b rowIds)
    (hbc : FormulasSettled b c rowIds) : FormulasSettled a c rowIds where
  rows := hab.rows.trans hbc.rows
  missing rowId := (hab.missing rowId).trans (hbc.missing rowId)
  columns := hbc.columns.trans hab.columns
  cells rowId columnId := by
    rcases hbc.cells rowId columnId with hsame | ⟨hrow, hformula⟩
    · rw [hsame]
      exact hab.cells rowId columnId
    · rw [Grid.isFormula, hab.columns] at hformula
      exact Or.inr ⟨hrow, hformula⟩

theorem record_settled {db db' : Database ν} {input : RowMutation} {stamp : MutationStamp} (rowIds : List String)
    (h : recordSqliteRowMutationAndMaybeQueueSettlement db input stamp = .ok db') :
    FormulasSettled db.grid db'.grid rowIds := by
  have hrows := record_rows h
  have hdb := record_eq_ok h
  refine ⟨?_, fun rowId => ?_, by rw [hdb], fun _ _ => Or.inl (by rw [hdb])⟩
  · rw [hrows]
    exact RowsStay.modify _ fun _ => rfl
  · rw [hrows, Table.get?_modify, Option.map_eq_none_iff]

variable [JsRuntime ν]

theorem recomputeFormulas_settled {grid grid' : Grid ν} {tableId rowId : String} {changed returned rowIds : List String}
    (hrow : rowId ∈ rowIds) (h : recomputeFormulas grid tableId rowId changed = .ok (returned, grid')) :
    FormulasSettled grid grid' rowIds := by
  have hframe := recomputeFormulas_frame h
  refine ⟨?_, fun _ => by rw [hframe.cellsOnly], by rw [hframe.cellsOnly], fun r c => ?_⟩
  · rw [hframe.cellsOnly]
    exact RowsStay.refl _
  · rcases hframe.cell r c with hsame | ⟨rfl, hformula, _⟩
    · exact Or.inl hsame
    · refine Or.inr ⟨hrow, ?_⟩
      obtain ⟨column, hcolumn⟩ := Option.isSome_iff_exists.mp hformula
      obtain ⟨hmem, rfl⟩ := Grid.formulaColumn_eq_some hcolumn
      obtain ⟨hin, hkind⟩ := List.mem_filter.mp hmem
      have hget : grid.columns.get? column.id = some column := Table.get?_of_mem hin
      simp only [decide_eq_true_eq] at hkind
      simp [Grid.isFormula, hget, hkind.1]

theorem settleNewRows_settled {tableId : String} {changedColumnIds : List String} {mutation : Nat → MutationStamp}
    {index : Nat} {rowIds all : List String} {db db' : Database ν} (hsub : ∀ rowId ∈ rowIds, rowId ∈ all)
    (h : settleNewRows tableId changedColumnIds mutation index rowIds db = .ok db') :
    FormulasSettled db.grid db'.grid all := by
  induction rowIds generalizing index db with
  | nil =>
    cases h
    exact FormulasSettled.refl _ _
  | cons rowId rowIds ih =>
    simp only [settleNewRows, except_bind_eq_ok] at h
    obtain ⟨recomputed, hrecomputed, recorded, hrecorded, hrest⟩ := h
    have hfirst := recomputeFormulas_settled (hsub rowId List.mem_cons_self) hrecomputed
    have hlater := ih (fun other hother => hsub other (List.mem_cons_of_mem rowId hother)) hrest
    exact hfirst.trans ((record_settled all hrecorded).trans hlater)

end Grows

section Staged

variable {ν : Type}

def importedFields (mapping : List CsvImportColumn) (values : List String) : List (String × String) :=
  ((mapping.map CsvImportColumn.columnId).zip values).filter fun field => field.2 ≠ ""

/-- A row of the table which outside the formulas has the values of a staged row, each
in its column, and no other cell. -/
structure RowImported (grid : Grid ν) (tableId : String) (mapping : List CsvImportColumn) (rowId : String)
    (values : List String) : Prop where
  row : ∃ row, grid.rows.get? rowId = some row ∧ row.tableId = tableId
  cells : ∀ columnId cell, grid.isFormula columnId = false → (grid.cells rowId columnId = some cell ↔
    ∃ value, (columnId, value) ∈ importedFields mapping values ∧ cell = importedCell value)

theorem RowImported.grows {before after : Grid ν} {tableId rowId : String} {mapping : List CsvImportColumn}
    {values : List String} (h : RowImported before tableId mapping rowId values) (hgrows : GridGrows before after) :
    RowImported after tableId mapping rowId values := by
  obtain ⟨row, hrow, htable⟩ := h.row
  obtain ⟨row', hrow', htable'⟩ := hgrows.rows rowId row hrow
  refine ⟨⟨row', hrow', htable'.trans htable⟩, fun columnId cell hformula => ?_⟩
  rw [hgrows.cells rowId columnId (by rw [hrow]; rfl)]
  exact h.cells columnId cell (hgrows.isFormula hformula)

theorem importedCells_eq {rowNumber : Nat} {rowId : String} {values : List String} {mapping : List CsvImportColumn}
    {cells : List TextCell} (h : importedCells rowNumber rowId values mapping = .ok cells) :
    cells = (importedFields mapping values).map fun field => ⟨rowId, field.1, field.2⟩ := by
  induction values generalizing mapping cells with
  | nil =>
    cases h
    simp [importedFields]
  | cons value values ih =>
    unfold importedCells at h
    split at h
    · rename_i hempty
      rw [ih h]
      cases mapping with
      | nil => simp [importedFields]
      | cons column mapping => simp [importedFields, hempty]
    · rename_i hvalue
      cases mapping with
      | nil => cases h
      | cons column mapping =>
        simp only [except_bind_eq_ok, pure, Except.pure, Except.ok.injEq] at h
        obtain ⟨rest, hrest, rfl⟩ := h
        rw [ih hrest]
        simp [importedFields, hvalue]

theorem mem_importedRowCells {mapping : List CsvImportColumn} {rows : List (ImportStagedRow × String)}
    {cells : List TextCell} (h : importedRowCells mapping rows = .ok cells) (text : TextCell) :
    text ∈ cells ↔ ∃ row ∈ rows, text.rowId = row.2 ∧
      (text.columnId, text.value) ∈ importedFields mapping row.1.values := by
  induction rows generalizing cells with
  | nil =>
    cases h
    simp
  | cons row rows ih =>
    obtain ⟨staged, rowId⟩ := row
    simp only [importedRowCells, except_bind_eq_ok, pure, Except.pure, Except.ok.injEq] at h
    obtain ⟨first, hfirst, rest, hrest, rfl⟩ := h
    rw [List.mem_append, ih hrest, importedCells_eq hfirst]
    simp only [List.mem_map, List.mem_cons, exists_eq_or_imp]
    refine or_congr_left ?_
    constructor
    · rintro ⟨field, hfield, rfl⟩
      exact ⟨rfl, hfield⟩
    · rintro ⟨hrow, hfield⟩
      exact ⟨_, hfield, by rw [← hrow]⟩

structure BatchImported (before after : Grid ν) (tableId : String) (mapping : List CsvImportColumn)
    (rows : List (ImportStagedRow × String)) : Prop where
  grows : GridGrows before after
  fresh : ∀ row ∈ rows, before.rows.get? row.2 = none
  nodup : (rows.map Prod.snd).Nodup
  imported : ∀ row ∈ rows, RowImported after tableId mapping row.2 row.1.values

variable [JsRuntime ν]

theorem batchImported {grid inserted written : Grid ν} {tableId : String} {mapping : List CsvImportColumn}
    {rows : List (ImportStagedRow × String)} {cells : List TextCell} {mutation : Nat → MutationStamp}
    {db settled : Database ν} (howned : CellsHaveRows grid)
    (hinserted : insertRows tableId (rows.map Prod.snd) grid = .ok inserted)
    (hcells : importedRowCells mapping rows = .ok cells) (hwritten : insertImportedCells cells inserted = .ok written)
    (hdb : db.grid = written) (hsettled : settleNewRows tableId (mapping.map CsvImportColumn.columnId) mutation 0
      (rows.map Prod.snd) db = .ok settled) :
    BatchImported grid settled.grid tableId mapping rows := by
  have hrows := insertRows_inserted hinserted
  have hnew := insertImportedCells_inserted hwritten
  have htexts : ∀ text ∈ cells, text.rowId ∈ rows.map Prod.snd := by
    intro text htext
    obtain ⟨row, hrow, hid, _⟩ := (mem_importedRowCells hcells text).mp htext
    exact hid ▸ List.mem_map_of_mem hrow
  have hgrows := hnew.grows hrows htexts
  have hformulas := settleNewRows_settled (fun _ hid => hid) hsettled
  rw [hdb] at hformulas
  have hfresh : ∀ row ∈ rows, grid.rows.get? row.2 = none := fun row hrow => hrows.fresh row.2 (List.mem_map_of_mem hrow)
  refine ⟨⟨hgrows.rows.trans hformulas.rows, fun id column hcolumn => ?_, fun rowId columnId hrow => ?_,
    fun howned' rowId columnId hnone => ?_⟩, hfresh, hrows.nodup, fun row hrow => ⟨?_, fun columnId cell hformula => ?_⟩⟩
  · rw [hformulas.columns]
    exact hgrows.columns id column hcolumn
  · rcases hformulas.cells rowId columnId with hsame | ⟨hin, _⟩
    · rw [hsame, hgrows.cells rowId columnId hrow]
    · rw [hrows.fresh rowId hin] at hrow
      cases hrow
  · have hmissing := (hformulas.missing rowId).mpr hnone
    rcases hformulas.cells rowId columnId with hsame | ⟨hin, _⟩
    · rw [hsame, hgrows.owned howned' rowId columnId hmissing]
    · obtain ⟨stored, hstored, _⟩ := hrows.rows rowId hin
      rw [hnew.cellsOnly, hstored] at hmissing
      cases hmissing
  · obtain ⟨stored, hstored, htable⟩ := hrows.rows row.2 (List.mem_map_of_mem hrow)
    have hstored' : written.rows.get? row.2 = some stored := by
      rw [hnew.cellsOnly]
      exact hstored
    obtain ⟨last, hlast, htable'⟩ := hformulas.rows row.2 stored hstored'
    exact ⟨last, hlast, htable'.trans htable⟩
  · have hsame : settled.grid.cells row.2 columnId = written.cells row.2 columnId := by
      refine (hformulas.cells row.2 columnId).resolve_right fun hother => ?_
      rw [Grid.isFormula, hformulas.columns] at hformula
      rw [Grid.isFormula, hformula] at hother
      cases hother.2
    have hempty : inserted.cells row.2 columnId = none := by
      rw [hrows.cells]
      exact howned row.2 columnId (hfresh row hrow)
    rw [hsame, hnew.cells row.2 columnId cell, hempty]
    constructor
    · rintro (hold | ⟨text, htext, hid, rfl, rfl⟩)
      · cases hold
      · obtain ⟨other, hother, hid', hfield⟩ := (mem_importedRowCells hcells text).mp htext
        have hsame : other = row := List.inj_on_of_nodup_map hrows.nodup hother hrow (hid'.symm.trans hid)
        exact ⟨text.value, hsame ▸ hfield, rfl⟩
    · rintro ⟨value, hfield, rfl⟩
      refine Or.inr ⟨⟨row.2, columnId, value⟩, ?_, rfl, rfl, rfl⟩
      exact (mem_importedRowCells hcells _).mpr ⟨row, hrow, rfl, hfield⟩

end Staged

end ByokGrid
