import ByokGrid.ConversionAtomicity
import ByokGrid.Dependents
import ByokGrid.SchemaLifecycle

/-! What each operation on the schema of a workspace can do to its grid, with the guards it passed. -/

namespace ByokGrid

section Effects

variable {ν : Type}

structure SchemaSame (before after : Grid ν) : Prop where
  columns : after.columns = before.columns
  columnDependencies : after.columnDependencies = before.columnDependencies
  dataTables : after.dataTables = before.dataTables

theorem SchemaSame.refl (grid : Grid ν) : SchemaSame grid grid :=
  ⟨rfl, rfl, rfl⟩

theorem SchemaSame.trans {a b c : Grid ν} (hab : SchemaSame a b) (hbc : SchemaSame b c) : SchemaSame a c where
  columns := hbc.columns.trans hab.columns
  columnDependencies := hbc.columnDependencies.trans hab.columnDependencies
  dataTables := hbc.dataTables.trans hab.dataTables

def Grid.columnType (grid : Grid ν) (columnId : String) : Option CellValueType :=
  (grid.columns.get? columnId).map Column.valueType

/-- The formula of a column: it is recorded what it reads, and it passes the check under the types of those columns. -/
structure FormulaChecked (grid : Grid ν) (column : Column ν) (expression : FormulaExpression ν) : Prop where
  configuration : column.configuration.formula? = some expression
  validates : validateFormulaDefinition expression grid.columnType = .ok column.valueType

structure Creates (before after : Grid ν) (column : Column ν) (dependencyIds : List String) : Prop where
  columns : before.columns.insert column = some after.columns
  dependencies : before.columnDependencies.insertAll (dependencyIds.map (columnDependency column.tableId column.id)) =
    some after.columnDependencies
  inUse : column.archivedAt = none
  typed : column.valueType ≠ .empty
  available : ∀ columnId ∈ dependencyIds, ∃ parent, activeColumn? before column.tableId columnId = some parent
  formula : column.kind = .formula → ∃ expression, FormulaChecked before column expression ∧
    ∀ columnId, columnId ∈ collectFormulaColumnIds expression ↔ columnId ∈ dependencyIds

theorem activeColumn?_eq_some {grid : Grid ν} {tableId columnId : String} {column : Column ν} :
    activeColumn? grid tableId columnId = some column ↔
      column ∈ grid.columns ∧ column.id = columnId ∧ column.tableId = tableId ∧ column.archivedAt = none := by
  rw [activeColumn?, Option.filter_eq_some_iff, Table.get?_eq_some, Bool.and_eq_true, decide_eq_true_eq, Option.isNone_iff_eq_none,
    and_assoc]
  rfl

theorem activeColumn?_get {grid : Grid ν} {tableId columnId : String} {column : Column ν} :
    activeColumn? grid tableId columnId = some column ↔
      grid.columns.get? columnId = some column ∧ column.tableId = tableId ∧ column.archivedAt = none := by
  rw [activeColumn?_eq_some, Table.get?_eq_some, and_assoc]
  rfl

variable [JsRuntime ν]

structure Unneeded (views : Table (SavedGridView ν)) (grid : Grid ν) (column : Column ν) : Prop where
  active : activeColumn? grid column.tableId column.id = some column
  dependents : ∀ d ∈ grid.columnDependencies, d.tableId = column.tableId → d.dependsOnColumnId = column.id →
    ∀ child ∈ grid.columns, child.id = d.columnId → child.archivedAt ≠ none
  views : ∀ view ∈ views, view.tableId = column.tableId → ¬ view.Reads column.id

/-- A column loses its type or its place only when it is not needed, and comes back only when what it reads is in use. -/
structure ColumnStays (views : Table (SavedGridView ν)) (retyped : String → Prop) (before after : Grid ν) (column column' : Column ν) :
    Prop where
  tableId : column'.tableId = column.tableId
  kind : column'.kind = column.kind
  configuration : column'.configuration = column.configuration
  valueType : column'.valueType = column.valueType ∨
    column'.valueType ≠ .empty ∧ column.kind = .input ∧ retyped column.id ∧ Unneeded views before column
  archived : column.archivedAt = none → column'.archivedAt = none ∨
    Unneeded views before column ∧ ∃ other, activeColumn? after column.tableId other.id = some other
  restored : column'.archivedAt = none → column.archivedAt = none ∨ ∀ d ∈ before.columnDependencies, d.tableId = column.tableId →
    d.columnId = column.id → ∀ parent ∈ after.columns, parent.id = d.dependsOnColumnId → parent.archivedAt = none

structure SchemaStays (views : Table (SavedGridView ν)) (retyped : String → Prop) (before after : Grid ν) : Prop where
  columns : ∀ id, Option.Rel (ColumnStays views retyped before after) (before.columns.get? id) (after.columns.get? id)
  columnDependencies : after.columnDependencies = before.columnDependencies
  tables : ∀ table ∈ after.dataTables, ∃ old ∈ before.dataTables, old.id = table.id
  tableLeft : (∃ table ∈ before.dataTables, table.archivedAt = none) → ∃ table ∈ after.dataTables, table.archivedAt = none

inductive SchemaEffect (views : Table (SavedGridView ν)) (retyped : String → Prop) (before after : Grid ν) : Prop
  | stays (h : SchemaStays views retyped before after)
  | creates (column : Column ν) (dependencyIds : List String) (h : Creates before after column dependencyIds)
    (htables : after.dataTables = before.dataTables ∨
      ∃ table, table.archivedAt = none ∧ column.tableId = table.id ∧ before.dataTables.insert table = some after.dataTables)

structure GridSteps (retyped : String → Prop) (s s' : SchemaWorkspace ν) : Prop where
  effects : Relation.ReflTransGen (SchemaEffect s.savedGridViews retyped) s.grid s'.grid
  views : s'.savedGridViews = s.savedGridViews

theorem GridSteps.single {retyped : String → Prop} {s s' : SchemaWorkspace ν}
    (h : SchemaEffect s.savedGridViews retyped s.grid s'.grid) (hviews : s'.savedGridViews = s.savedGridViews) :
    GridSteps retyped s s' :=
  ⟨.single h, hviews⟩

end Effects

section Create

variable {ν : Type}

theorem insertColumn_columns {grid grid' : Grid ν} {column : Column ν} (h : insertColumn grid column = .ok grid') :
    grid.columns.insert column = some grid'.columns ∧ grid' = { grid with columns := grid'.columns } := by
  simp only [insertColumn, except_bind_eq_ok, requireSome_eq_ok, pure, Except.pure, Except.ok.injEq] at h
  obtain ⟨_, _, columns, hcolumns, rfl⟩ := h
  exact ⟨hcolumns, rfl⟩

theorem Creates.of_insert {grid grid' : Grid ν} {column : Column ν} (h : insertColumn grid column = .ok grid')
    (hactive : column.archivedAt = none) (htype : column.valueType ≠ .empty) (hkind : column.kind ≠ .formula) :
    Creates grid grid' column [] := by
  obtain ⟨hinsert, hgrid⟩ := insertColumn_columns h
  refine ⟨hinsert, ?_, hactive, htype, by simp, fun hformula => absurd hformula hkind⟩
  rw [hgrid]
  rfl

theorem Creates.same {before after after' : Grid ν} {column : Column ν} {dependencyIds : List String}
    (h : Creates before after column dependencyIds) (hsame : SchemaSame after after') : Creates before after' column dependencyIds where
  columns := hsame.columns ▸ h.columns
  dependencies := hsame.columnDependencies ▸ h.dependencies
  inUse := h.inUse
  typed := h.typed
  available := h.available
  formula := h.formula

theorem availableColumns_complete {grid : Grid ν} {tableId : String} {columnIds : List String}
    (hlength : (availableColumns grid tableId columnIds).length = columnIds.length) {columnId : String} (hmem : columnId ∈ columnIds) :
    ∃ column ∈ availableColumns grid tableId columnIds, column.id = columnId ∧ activeColumn? grid tableId columnId = some column := by
  have hids : ((availableColumns grid tableId columnIds).map Column.id).Nodup :=
    (List.filter_sublist.map Column.id).nodup grid.columns.nodup
  have hsub : (availableColumns grid tableId columnIds).map Column.id ⊆ columnIds := by
    intro id hid
    obtain ⟨column, hcolumn, rfl⟩ := List.mem_map.mp hid
    have hlisted := (List.mem_filter.mp hcolumn).2
    simp only [Bool.and_eq_true, decide_eq_true_eq] at hlisted
    exact hlisted.2
  have hperm : ((availableColumns grid tableId columnIds).map Column.id).Perm columnIds := by
    refine (List.subperm_of_subset hids hsub).perm_of_length_le ?_
    rw [List.length_map, hlength]
  obtain ⟨column, hcolumn, hid⟩ := List.mem_map.mp (hperm.mem_iff.mpr hmem)
  obtain ⟨hstored, hlisted⟩ := List.mem_filter.mp hcolumn
  simp only [Bool.and_eq_true, decide_eq_true_eq, Option.isNone_iff_eq_none] at hlisted
  exact ⟨column, hcolumn, hid, activeColumn?_eq_some.mpr ⟨hstored, hid, hlisted.1.1, hlisted.1.2⟩⟩

mutual

theorem inferType_congr {left right : String → Option CellValueType} (expression : FormulaExpression ν) (depth : Nat)
    (h : ∀ columnId d, (.column columnId, d) ∈ walkFormula expression depth → left columnId = right columnId) :
    inferType left expression = inferType right expression := by
  cases expression with
  | column columnId => rw [inferType, inferType, h columnId depth (by simp [walkFormula])]
  | literal value => rfl
  | call fn args =>
    have hargs : inferTypes left args = inferTypes right args :=
      inferTypes_congr args (depth + 1) fun columnId d hmem => h columnId d (by simp [walkFormula, hmem])
    rw [inferType, inferType, hargs]

theorem inferTypes_congr {left right : String → Option CellValueType} (args : List (FormulaExpression ν)) (depth : Nat)
    (h : ∀ columnId d, (.column columnId, d) ∈ walkArguments args depth → left columnId = right columnId) :
    inferTypes left args = inferTypes right args := by
  cases args with
  | nil => rfl
  | cons argument args =>
    have hfirst : inferType left argument = inferType right argument :=
      inferType_congr argument depth fun columnId d hmem => h columnId d (by simp [walkArguments, hmem])
    have hrest : inferTypes left args = inferTypes right args :=
      inferTypes_congr args depth fun columnId d hmem => h columnId d (by simp [walkArguments, hmem])
    rw [inferTypes, inferTypes, hfirst, hrest]

end

theorem validateFormulaDefinition_congr {left right : String → Option CellValueType} {expression : FormulaExpression ν}
    (h : ∀ columnId ∈ collectFormulaColumnIds expression, left columnId = right columnId) :
    validateFormulaDefinition expression left = validateFormulaDefinition expression right := by
  have htype : inferType left expression = inferType right expression :=
    inferType_congr expression 1 fun columnId d hmem => h columnId (mem_collectFormulaColumnIds hmem)
  simp only [validateFormulaDefinition, htype]

end Create

section Creators

variable {ν : Type} [JsRuntime ν] {views : Table (SavedGridView ν)} {retyped : String → Prop}

theorem insertColumn_effect {grid grid' : Grid ν} {column : Column ν} (h : insertColumn grid column = .ok grid')
    (hactive : column.archivedAt = none) (htype : column.valueType ≠ .empty) (hkind : column.kind ≠ .formula) :
    SchemaEffect views retyped grid grid' :=
  .creates column [] (.of_insert h hactive htype hkind) (Or.inl (by rw [(insertColumn_columns h).2]))

theorem insertDependentColumn_effect {grid grid' after : Grid ν} {column : Column ν} {dependencyIds : List String}
    (h : insertDependentColumn grid column dependencyIds = .ok grid') (hactive : column.archivedAt = none)
    (htype : column.valueType ≠ .empty)
    (havailable : ∀ columnId ∈ dependencyIds, ∃ parent, activeColumn? grid column.tableId columnId = some parent)
    (hformula : column.kind = .formula → ∃ expression, FormulaChecked grid column expression ∧
      ∀ columnId, columnId ∈ collectFormulaColumnIds expression ↔ columnId ∈ dependencyIds)
    (hsame : SchemaSame grid' after) : SchemaEffect views retyped grid after := by
  simp only [insertDependentColumn, except_bind_eq_ok, requireSome_eq_ok, pure, Except.pure, Except.ok.injEq] at h
  obtain ⟨created, hcreated, dependencies, hdependencies, rfl⟩ := h
  obtain ⟨hinsert, hgrid⟩ := insertColumn_columns hcreated
  rw [hgrid] at hdependencies hsame
  have hcreates : Creates grid { created with columnDependencies := dependencies } column dependencyIds :=
    ⟨hinsert, hdependencies, hactive, htype, havailable, hformula⟩
  exact .creates column dependencyIds (hcreates.same (hgrid ▸ hsame)) (Or.inl hsame.dataTables)

theorem createSqliteInputColumn_effect {db db' : Database ν} {input : CreateInputColumn}
    (h : createSqliteInputColumn db input = .ok db') : SchemaEffect views retyped db.grid db'.grid := by
  simp only [createSqliteInputColumn, except_bind_eq_ok, requireSome_eq_ok, requireThat_eq_ok, isEditableType, decide_eq_true_eq, pure,
    Except.pure, Except.ok.injEq] at h
  obtain ⟨name, _, _, htype, _, _, _, _, grid, hgrid, rfl⟩ := h
  exact insertColumn_effect hgrid rfl htype (by simp [inputColumn])

theorem createSqliteWorkspaceTable_effect {db db' : Database ν} {input : CreateWorkspaceTable}
    (h : createSqliteWorkspaceTable db input = .ok db') : SchemaEffect views retyped db.grid db'.grid := by
  simp only [createSqliteWorkspaceTable, except_bind_eq_ok, requireSome_eq_ok, requireThat_eq_ok, isEditableType, decide_eq_true_eq, pure,
    Except.pure, Except.ok.injEq] at h
  obtain ⟨_, _, name, _, _, htype, _, _, _, _, _, _, tables, htables, grid, hgrid, rfl⟩ := h
  obtain ⟨hcolumns, hdependencies, hactive, htyped, havailable, hformula⟩ := Creates.of_insert hgrid rfl htype (by simp [inputColumn])
  refine .creates _ [] ⟨hcolumns, hdependencies, hactive, htyped, by simp, fun hkind => by cases hkind⟩
    (Or.inr ⟨{ id := input.tableId, archivedAt := none }, rfl, rfl, ?_⟩)
  rw [(insertColumn_columns hgrid).2]
  exact htables

theorem evaluateRows_same {tableId : String} {dependencyIds : List String} {mutation : Nat → MutationStamp} {index : Nat}
    {rowIds : List String} {db db' : Database ν} (h : evaluateRows tableId dependencyIds mutation index rowIds db = .ok db') :
    SchemaSame db.grid db'.grid := by
  induction rowIds generalizing index db with
  | nil =>
    cases h
    exact SchemaSame.refl _
  | cons rowId rowIds ih =>
    simp only [evaluateRows, except_bind_eq_ok] at h
    obtain ⟨⟨recomputed, evaluated⟩, hrecomputed, h⟩ := h
    have hcells : SchemaSame db.grid evaluated := by
      rw [(recomputeFormulas_frame hrecomputed).cellsOnly]
      exact ⟨rfl, rfl, rfl⟩
    split at h
    · exact hcells.trans (ih h)
    · simp only [except_bind_eq_ok] at h
      obtain ⟨recorded, hrecorded, hrest⟩ := h
      have hrows : SchemaSame evaluated recorded.grid := by
        rw [record_eq_ok hrecorded]
        exact ⟨rfl, rfl, rfl⟩
      exact (hcells.trans hrows).trans (ih hrest)

theorem createSqliteFormulaColumn_effect [FormulaLanguage ν] {db : Database ν} {input : CreateFormulaColumn ν}
    {result : Column ν × Database ν} (h : createSqliteFormulaColumn db input = .ok result) :
    SchemaEffect views retyped db.grid result.2.grid := by
  simp only [createSqliteFormulaColumn, except_bind_eq_ok, requireThat_eq_ok, pure, Except.pure, Except.ok.injEq] at h
  obtain ⟨_, _, name, _, _, _, _, _, expression, _, _, _, _, _, _, hlength, valueType, hvalueType, grid, hgrid, evaluated, hevaluated,
    rfl⟩ := h
  have hlookup : ∀ columnId ∈ collectFormulaColumnIds expression, ((availableColumns db.grid input.tableId
      (collectFormulaColumnIds expression)).find? fun column => column.id = columnId).map Column.valueType =
        db.grid.columnType columnId := by
    intro columnId hmem
    obtain ⟨parent, hparent, hid, hactive⟩ := availableColumns_complete (of_decide_eq_true hlength) hmem
    obtain ⟨hstored, _⟩ := activeColumn?_eq_some.mp hactive
    have hfound : (availableColumns db.grid input.tableId (collectFormulaColumnIds expression)).find?
        (fun column => column.id = columnId) = some parent := by
      cases hfind : (availableColumns db.grid input.tableId (collectFormulaColumnIds expression)).find?
          (fun column => column.id = columnId) with
      | none => exact absurd hid (by simpa using List.find?_eq_none.mp hfind parent hparent)
      | some other =>
        have hother : other ∈ db.grid.columns := (List.mem_filter.mp (List.mem_of_find?_eq_some hfind)).1
        have hotherId : other.id = columnId := by simpa using List.find?_some hfind
        rw [Table.eq_of_key hother hstored (hotherId.trans hid.symm)]
    rw [hfound, Grid.columnType, Table.get?_eq_some.mpr ⟨hstored, hid⟩]
  have hvalidates : validateFormulaDefinition expression db.grid.columnType = .ok valueType := by
    rw [← validateFormulaDefinition_congr hlookup]
    unfold requireFormula at hvalueType
    split at hvalueType
    · cases hvalueType
      assumption
    · cases hvalueType
  refine insertDependentColumn_effect hgrid rfl (validateFormulaDefinition_ok hvalidates).2.2 (fun columnId hmem => ?_)
    (fun _ => ⟨expression, ⟨rfl, hvalidates⟩, fun _ => Iff.rfl⟩) (evaluateRows_same hevaluated)
  obtain ⟨parent, _, _, hactive⟩ := availableColumns_complete (of_decide_eq_true hlength) hmem
  exact ⟨parent, hactive⟩

theorem createSqliteConnectorActionColumn_effect {db : Database ν} {input : CreateConnectorColumn ν} {result : Column ν × Database ν}
    (h : createSqliteConnectorActionColumn db input = .ok result) : SchemaEffect views retyped db.grid result.2.grid := by
  simp only [createSqliteConnectorActionColumn, except_bind_eq_ok, requireThat_eq_ok, pure, Except.pure, Except.ok.injEq] at h
  obtain ⟨_, haccepted, name, _, _, _, _, _, _, _, _, hlength, _, _, grid, hgrid, rfl⟩ := h
  have htype : input.configuration.outputValueType ≠ .empty := by
    intro hempty
    simp [ConnectorActionConfiguration.accepted, hempty] at haccepted
  refine insertDependentColumn_effect hgrid rfl htype (fun columnId hmem => ?_) (fun hformula => by cases hformula) (.refl grid)
  obtain ⟨parent, _, _, hactive⟩ := availableColumns_complete (of_decide_eq_true hlength) hmem
  exact ⟨parent, hactive⟩

theorem createSqliteHttpColumn_effect {db : Database ν} {input : HttpColumn ν} {result : Column ν × Database ν}
    (h : createSqliteHttpColumn db input = .ok result) : SchemaEffect views retyped db.grid result.2.grid := by
  simp only [createSqliteHttpColumn, except_bind_eq_ok, requireThat_eq_ok, requireSome_eq_ok, pure, Except.pure, Except.ok.injEq] at h
  obtain ⟨name, _, _, _, _, _, source, hsource, _, _, grid, hgrid, rfl⟩ := h
  refine insertDependentColumn_effect hgrid rfl (by simp) (fun columnId hmem => ?_) (fun hformula => by cases hformula) (.refl grid)
  rw [List.mem_singleton] at hmem
  subst hmem
  obtain ⟨hget, hguards⟩ := Option.filter_eq_some_iff.mp hsource
  simp only [Bool.and_eq_true, decide_eq_true_eq, Option.isNone_iff_eq_none] at hguards
  exact ⟨source, activeColumn?_eq_some.mpr ⟨(Table.get?_eq_some.mp hget).1, rfl, hguards.1.2, hguards.2⟩⟩

theorem createPlannedColumns_effects {tableId : String} {columnId : Nat → String} {index : Nat} {plans : List CsvColumnPlan}
    {grid : Grid ν} {result : List SourceField × Grid ν} (h : createPlannedColumns tableId columnId index plans grid = .ok result) :
    Relation.ReflTransGen (SchemaEffect views retyped) grid result.2 := by
  induction plans generalizing index grid result with
  | nil =>
    cases h
    exact .refl
  | cons plan plans ih =>
    rw [createPlannedColumns] at h
    split at h
    · simp only [except_bind_eq_ok, pure, Except.pure, Except.ok.injEq] at h
      obtain ⟨rest, hrest, hresult⟩ := h
      subst hresult
      have hsteps := ih hrest
      exact hsteps
    · simp only [except_bind_eq_ok, pure, Except.pure, Except.ok.injEq] at h
      obtain ⟨created, hcreated, rest, hrest, hresult⟩ := h
      subst hresult
      have hsteps := ih hrest
      exact .head (insertColumn_effect hcreated rfl (by simp [textInputColumn]) (by simp [textInputColumn])) hsteps

end Creators

section Blockers

variable {ν : Type}

theorem pushBlocker_eq_nil {code message : String} {count : Nat} (h : pushBlocker code count message = []) : count = 0 := by
  by_contra hne
  rw [pushBlocker, if_pos (Nat.pos_of_ne_zero hne)] at h
  cases h

theorem lastOne_eq_zero {active : Nat} (h : lastOne active = 0) : 1 < active := by
  by_contra hle
  rw [lastOne, if_pos (Nat.le_of_not_lt hle)] at h
  cases h

theorem countChecked_eq_zero {α : Type} {check : α → Except StoreError Bool} {xs : List α} (h : countChecked check xs = .ok 0) :
    ∀ x ∈ xs, check x = .ok false := by
  induction xs with
  | nil => exact fun _ hmem => absurd hmem List.not_mem_nil
  | cons x xs ih =>
    simp only [countChecked, except_bind_eq_ok, pure, Except.pure, Except.ok.injEq] at h
    obtain ⟨accepted, haccepted, count, hcount, hsum⟩ := h
    have hzero : count = 0 := by omega
    subst hzero
    cases accepted with
    | true => cases hsum
    | false => exact List.forall_mem_cons.mpr ⟨haccepted, ih hcount⟩

theorem conversionDependents_eq_nil {s : SchemaWorkspace ν} {cells : List (LifecycleCell ν)} {scope : ColumnScope}
    (hscope : scope.workspaceId = s.id) (h : (conversionDependents (s.lifecycle cells) scope).length = 0) :
    ∀ d ∈ s.grid.columnDependencies, d.tableId = scope.tableId → d.dependsOnColumnId = scope.columnId →
      ∀ child ∈ s.grid.columns, child.id = d.columnId → child.archivedAt ≠ none := by
  intro d hd htable hparent child hchild hid hactive
  rw [List.length_eq_zero_iff, conversionDependents, List.flatMap_eq_nil_iff] at h
  have hnone := h ⟨s.id, d.tableId, d.columnId, d.dependsOnColumnId⟩ (by
    refine List.mem_filter.mpr ⟨List.mem_map_of_mem hd, ?_⟩
    simp [inTable, hscope, htable, hparent])
  have hlisted : child.lifecycle s.id ∈ (s.lifecycle cells).columns.filter fun column =>
      column.id = d.columnId && column.archivedAt.isNone := by
    refine List.mem_filter.mpr ⟨List.mem_map_of_mem hchild, ?_⟩
    simp [Column.lifecycle, hid, hactive]
  rw [hnone] at hlisted
  cases hlisted

variable [JsRuntime ν]

theorem viewReferencesColumn_eq_false {scope : ColumnScope} {workspaceId : String} {view : SavedGridView ν}
    (h : viewReferencesColumn scope (view.mapping workspaceId) = .ok false) : ¬ view.Reads scope.columnId := by
  have hsort : ¬ (view.mapping workspaceId).sort.map GridViewSort.columnId = some scope.columnId := by
    intro hsort
    rw [viewReferencesColumn, if_pos hsort] at h
    cases h
  rw [viewReferencesColumn, if_neg hsort] at h
  simp only [filtersReference, except_bind_eq_ok, requireSome_eq_ok, pure, Except.pure, Except.ok.injEq] at h
  obtain ⟨tree, htree, hleaves⟩ := h
  rintro (⟨sort, hmem, hid⟩ | ⟨filterTree, hfilterTree, filter, hfilter, hid⟩)
  · apply hsort
    rw [SavedGridView.mapping, Option.mem_def.mp hmem, Option.map_some, hid]
  · have hsame : tree = filterTree := Option.some.inj (htree.symm.trans hfilterTree)
    subst hsame
    have hrefused := List.any_eq_false.mp hleaves filter hfilter
    exact hrefused (decide_eq_true hid)

theorem countViews_eq_zero {s : SchemaWorkspace ν} {cells : List (LifecycleCell ν)} {scope : ColumnScope}
    (hscope : scope.workspaceId = s.id) (h : countChecked (viewReferencesColumn scope)
      ((s.lifecycle cells).savedGridViews.filter fun view => inTable scope view.workspaceId view.tableId) = .ok 0) :
    ∀ view ∈ s.savedGridViews, view.tableId = scope.tableId → ¬ view.Reads scope.columnId := by
  intro view hview htable
  have hrefused := countChecked_eq_zero h (view.mapping s.id) (by
    refine List.mem_filter.mpr ⟨List.mem_map_of_mem hview, ?_⟩
    simp [inTable, SavedGridView.mapping, hscope, htable])
  exact viewReferencesColumn_eq_false hrefused

omit [JsRuntime ν] in
theorem requireLifecycleTable_scope {s : SchemaWorkspace ν} {cells : List (LifecycleCell ν)} {scope : ColumnScope}
    {table : LifecycleTable} (h : requireLifecycleTable (s.lifecycle cells) scope = .ok table) : scope.workspaceId = s.id := by
  rw [requireLifecycleTable, requireSome_eq_ok] at h
  have hmem := List.mem_of_find?_eq_some h
  have hfound := List.find?_some h
  obtain ⟨stored, _, rfl⟩ := List.mem_map.mp hmem
  simp only [Bool.and_eq_true, decide_eq_true_eq] at hfound
  exact hfound.1.2.symm

end Blockers

section Stays

variable {ν : Type}

theorem exists_other_key {α κ : Type} [Keyed α κ] {t : Table α} {p : α → Bool} (h : 1 < (t.records.filter p).length) (k : κ) :
    ∃ x ∈ t, p x = true ∧ Keyed.key x ≠ k := by
  by_contra hnone
  have hkeys : ∀ key ∈ (t.records.filter p).map Keyed.key, key = k := by
    intro key hkey
    obtain ⟨x, hx, rfl⟩ := List.mem_map.mp hkey
    obtain ⟨hmem, hp⟩ := List.mem_filter.mp hx
    by_contra hne
    exact hnone ⟨x, hmem, hp, hne⟩
  have hnodup : ((t.records.filter p).map Keyed.key).Nodup := t.nodup.sublist (List.filter_sublist.map _)
  rw [List.eq_replicate_of_mem hkeys, List.nodup_replicate, List.length_map] at hnodup
  omega

theorem setColumnArchived_get? (grid : Grid ν) (columnId : String) (archivedAt : Option Nat) (id : String) :
    (grid.setColumnArchived columnId archivedAt).columns.get? id =
      (grid.columns.get? id).map fun column => if id = columnId then column.setArchived archivedAt else column := by
  refine (Table.get?_modify grid.columns _ (Column.setArchived archivedAt) ⟨fun _ => rfl⟩ id).trans ?_
  cases hfound : grid.columns.get? id with
  | none => rfl
  | some column =>
    have hid : column.id = id := (Table.get?_eq_some.mp hfound).2
    simp only [Option.map_some, hid, decide_eq_true_eq]

theorem mem_setTableArchived {grid : Grid ν} {tableId : String} {archivedAt : Option Nat} {table : DataTable} :
    table ∈ (grid.setTableArchived tableId archivedAt).dataTables ↔
      ∃ old ∈ grid.dataTables, table = if old.id = tableId then old.setArchived archivedAt else old := by
  refine (Table.mem_modify (f := DataTable.setArchived archivedAt) ⟨fun _ => rfl⟩).trans ?_
  simp only [decide_eq_true_eq]

variable [JsRuntime ν] {views : Table (SavedGridView ν)} {retyped : String → Prop} {before after : Grid ν}

theorem ColumnStays.refl (column : Column ν) : ColumnStays views retyped before after column column :=
  ⟨rfl, rfl, rfl, Or.inl rfl, Or.inl, Or.inl⟩

theorem SchemaStays.of_columns (hcolumns : after.columns = before.columns)
    (hdependencies : after.columnDependencies = before.columnDependencies)
    (htables : ∀ table ∈ after.dataTables, ∃ old ∈ before.dataTables, old.id = table.id)
    (hleft : (∃ table ∈ before.dataTables, table.archivedAt = none) → ∃ table ∈ after.dataTables, table.archivedAt = none) :
    SchemaStays views retyped before after := by
  refine ⟨fun id => ?_, hdependencies, htables, hleft⟩
  rw [hcolumns]
  cases before.columns.get? id with
  | none => exact .none
  | some column => exact .some (.refl column)

theorem SchemaSame.stays (h : SchemaSame before after) : SchemaStays views retyped before after :=
  .of_columns h.columns h.columnDependencies (fun table htable => ⟨table, h.dataTables ▸ htable, rfl⟩)
    fun ⟨table, htable, hactive⟩ => ⟨table, h.dataTables.symm ▸ htable, hactive⟩

theorem SchemaStays.of_update {columnId : String} {update : Column ν → Column ν}
    (hcolumns : ∀ id, after.columns.get? id = (before.columns.get? id).map fun column => if id = columnId then update column else column)
    (hdependencies : after.columnDependencies = before.columnDependencies) (htables : after.dataTables = before.dataTables)
    (hstays : ∀ column, before.columns.get? columnId = some column → ColumnStays views retyped before after column (update column)) :
    SchemaStays views retyped before after := by
  refine ⟨fun id => ?_, hdependencies, fun table htable => ⟨table, htables ▸ htable, rfl⟩, htables ▸ id⟩
  rw [hcolumns]
  cases hget : before.columns.get? id with
  | none => exact .none
  | some column =>
    refine .some ?_
    split_ifs with hid
    · exact hstays column (hid ▸ hget)
    · exact .refl column

theorem setTableArchived_stays (grid : Grid ν) (tableId : String) (archivedAt : Option Nat)
    (hrest : archivedAt = none ∨ 1 < (activeTables grid).length) :
    SchemaStays views retyped grid (grid.setTableArchived tableId archivedAt) := by
  refine .of_columns rfl rfl (fun table htable => ?_) ?_
  · obtain ⟨old, hold, rfl⟩ := mem_setTableArchived.mp htable
    exact ⟨old, hold, by split <;> rfl⟩
  · rintro ⟨table, htable, hactive⟩
    rcases hrest with rfl | hrest
    · refine ⟨_, mem_setTableArchived.mpr ⟨table, htable, rfl⟩, ?_⟩
      split
      · rfl
      · exact hactive
    · obtain ⟨other, hother, hused, hne⟩ := exists_other_key hrest tableId
      refine ⟨other, mem_setTableArchived.mpr ⟨other, hother, ?_⟩, Option.isNone_iff_eq_none.mp hused⟩
      rw [if_neg (show other.id ≠ tableId from hne)]

end Stays

section Archive

variable {ν : Type} [JsRuntime ν] {retyped : String → Prop} {s s' : SchemaWorkspace ν}

theorem restoreSqliteWorkspaceTable_steps {input : TableScope} {table : DataTable}
    (h : restoreSqliteWorkspaceTable s input = .ok (table, s')) : GridSteps retyped s s' := by
  simp only [restoreSqliteWorkspaceTable, except_bind_eq_ok, requireSome_eq_ok, pure, Except.pure, Except.ok.injEq, Prod.mk.injEq] at h
  obtain ⟨_, _, stored, _, _, _, _, rfl⟩ := h
  exact .single (.stays (setTableArchived_stays s.grid stored.id none (Or.inl rfl))) rfl

omit [JsRuntime ν] in
theorem missingDependency?_eq_none {grid : Grid ν} {tableId columnId : String} {u : Unit}
    (h : requireNoMissingDependency (missingDependency? grid tableId columnId) = .ok u) :
    ∀ d ∈ grid.columnDependencies, d.tableId = tableId → d.columnId = columnId →
      ∀ parent ∈ grid.columns, parent.id = d.dependsOnColumnId → parent.archivedAt = none := by
  intro d hd htable hcolumn parent hparent hid
  by_contra harchived
  have hmem : parent ∈ (grid.columnDependencies.records.filter fun dependency =>
      dependency.tableId = tableId && dependency.columnId = columnId).flatMap fun dependency =>
        grid.columns.records.filter fun column => column.id = dependency.dependsOnColumnId && column.archivedAt.isSome := by
    refine List.mem_flatMap.mpr ⟨d, List.mem_filter.mpr ⟨hd, ?_⟩, List.mem_filter.mpr ⟨hparent, ?_⟩⟩
    · simp [htable, hcolumn]
    · simp [hid, Option.isSome_iff_ne_none.mpr harchived]
  cases hmissing : missingDependency? grid tableId columnId with
  | some missing =>
    rw [hmissing] at h
    cases h
  | none =>
    rw [missingDependency?, List.head?_eq_none_iff] at hmissing
    rw [hmissing] at hmem
    cases hmem

theorem restoreSqliteWorkspaceColumn_steps {input : ColumnScope} {column : Column ν}
    (h : restoreSqliteWorkspaceColumn s input = .ok (column, s')) : GridSteps retyped s s' := by
  simp only [restoreSqliteWorkspaceColumn, except_bind_eq_ok, requireSome_eq_ok, pure, Except.pure, Except.ok.injEq, Prod.mk.injEq] at h
  obtain ⟨_, _, table, _, stored, hstored, _, _, _, hmissing, _, rfl⟩ := h
  obtain ⟨hget, htable⟩ := Option.filter_eq_some_iff.mp hstored
  have hid : stored.id = input.columnId := (Table.get?_eq_some.mp hget).2
  have htableId : stored.tableId = input.tableId := of_decide_eq_true htable
  have hcolumns := setColumnArchived_get? s.grid stored.id none
  refine .single (.stays (.of_update hcolumns rfl rfl fun other hother => ?_)) rfl
  rw [hid, hget] at hother
  cases hother
  refine ⟨rfl, rfl, rfl, Or.inl rfl, fun _ => Or.inl rfl, fun _ => Or.inr fun d hd hdTable hdColumn parent hparent hparentId => ?_⟩
  have hfound : (s.grid.setColumnArchived stored.id none).columns.get? parent.id = some parent := Table.get?_eq_some.mpr ⟨hparent, rfl⟩
  rw [hcolumns] at hfound
  obtain ⟨old, hold, hsame⟩ := Option.map_eq_some_iff.mp hfound
  split_ifs at hsame
  · rw [← hsame]
    rfl
  · subst hsame
    exact missingDependency?_eq_none hmissing d hd (hdTable.trans htableId) (hdColumn.trans hid) old (Table.get?_eq_some.mp hold).1
      hparentId

theorem archiveSqliteWorkspaceTable_steps {input : TableScope} {confirmationName : String} {now : Nat} {tableId : String}
    (h : archiveSqliteWorkspaceTable s input confirmationName now = .ok (tableId, s')) : GridSteps retyped s s' := by
  simp only [archiveSqliteWorkspaceTable, buildTableArchivePreview, requireNoBlockers, except_bind_eq_ok, requireSome_eq_ok,
    requireThat_eq_ok, List.isEmpty_iff, pure, Except.pure, Except.ok.injEq, Prod.mk.injEq] at h
  obtain ⟨_, _, _, _, preview, ⟨table, _, rfl⟩, _, _, _, hblockers, _, rfl⟩ := h
  simp only [tableArchiveBlockers, List.append_eq_nil_iff] at hblockers
  have hrest := lastOne_eq_zero (pushBlocker_eq_nil hblockers.1.1.1.1.1)
  exact .single (.stays (setTableArchived_stays s.grid input.tableId (some now) (Or.inr hrest))) rfl

theorem archiveSqliteWorkspaceColumn_steps {input : ColumnScope} {confirmationName : String} {now : Nat} {columnId : String}
    (h : archiveSqliteWorkspaceColumn s input confirmationName now = .ok (columnId, s')) : GridSteps retyped s s' := by
  simp only [archiveSqliteWorkspaceColumn, buildColumnArchivePreview, requireNoBlockers, except_bind_eq_ok, requireSome_eq_ok,
    requireThat_eq_ok, List.isEmpty_iff, pure, Except.pure, Except.ok.injEq, Prod.mk.injEq] at h
  obtain ⟨_, _, _, _, preview, ⟨table, htable, column, hcolumn, _, _, _, _, views, hviews, rfl⟩, _, _, _, hblockers, _, rfl⟩ := h
  simp only [columnArchiveBlockers, List.append_eq_nil_iff] at hblockers
  obtain ⟨⟨⟨⟨⟨⟨hlast, _⟩, hdependents⟩, _⟩, _⟩, _⟩, hsavedViews⟩ := hblockers
  have hscope := requireLifecycleTable_scope htable
  obtain ⟨hget, htableId, _⟩ := activeColumn?_get.mp hcolumn
  have hid : column.id = input.columnId := (Table.get?_eq_some.mp hget).2
  rw [pushBlocker_eq_nil hsavedViews] at hviews
  have hunneeded : Unneeded s.savedGridViews s.grid column := by
    refine ⟨by rw [hid, htableId]; exact hcolumn, ?_, ?_⟩
    · rw [hid, htableId]
      exact conversionDependents_eq_nil hscope (pushBlocker_eq_nil hdependents)
    · rw [hid, htableId]
      exact countViews_eq_zero hscope hviews
  have hcolumns := setColumnArchived_get? s.grid input.columnId (some now)
  obtain ⟨other, hother, hactive, hne⟩ := exists_other_key (lastOne_eq_zero (pushBlocker_eq_nil hlast)) input.columnId
  have hotherGet : s.grid.columns.get? other.id = some other := Table.get?_eq_some.mpr ⟨hother, rfl⟩
  have hleft : activeColumn? (s.grid.setColumnArchived input.columnId (some now)) column.tableId other.id = some other := by
    rw [htableId, activeColumn?, hcolumns, hotherGet, Option.map_some, if_neg (show other.id ≠ input.columnId from hne),
      Option.filter_some, if_pos hactive]
  refine .single (.stays (.of_update hcolumns rfl rfl fun found hfound => ?_)) rfl
  have hsame : found = column := Option.some.inj (hfound.symm.trans hget)
  subst hsame
  exact ⟨rfl, rfl, rfl, Or.inl rfl, fun _ => Or.inr ⟨hunneeded, other, hleft⟩, fun harchived => by cases harchived⟩

end Archive

section Conversion

variable {ν : Type} [ValueRuntime ν]

theorem convertCells_columns (targetType : EditableInputValueType) (now : Int) (cells : List (LifecycleCell ν)) (store : LifecycleStore ν) :
    (convertCells targetType now cells store).2.columns = store.columns := by
  induction cells generalizing store with
  | nil => rfl
  | cons cell cells ih =>
    rw [convertCells]
    split
    · rfl
    · split
      · rfl
      · rw [ih]
        rfl

omit [ValueRuntime ν] in
theorem retypedColumn_eq {columns : List (Column ν)} (workspaceId : String) {update : LifecycleColumn → LifecycleColumn}
    (hid : ∀ column, (update column).id = column.id) {column : Column ν}
    (hfound : columns.find? (fun other => other.id = column.id) = some column) :
    retypedColumn ((columns.map (Column.lifecycle workspaceId)).map update) column =
      { column with valueType := (update (column.lifecycle workspaceId)).valueType } := by
  have hupdated : ((columns.map (Column.lifecycle workspaceId)).map update).find? (fun other => other.id = column.id) =
      some (update (column.lifecycle workspaceId)) := by
    rw [List.find?_map, List.find?_map]
    have hsame : ((fun other : LifecycleColumn => decide (other.id = column.id)) ∘ update) ∘ Column.lifecycle workspaceId =
        fun other : Column ν => decide (other.id = column.id) := by
      funext other
      simp only [Function.comp_apply, hid, Column.lifecycle]
    rw [hsame, hfound]
    rfl
  rw [retypedColumn, hupdated]
  rfl

variable [JsRuntime ν] [DigestRuntime]

theorem buildColumnTypeConversionPreview_unneeded {s : SchemaWorkspace ν} {stored : List (LifecycleCell ν)} {scope : ColumnScope}
    {targetType : EditableInputValueType} {preview : ColumnTypeConversionPreview}
    (h : buildColumnTypeConversionPreview (s.lifecycle stored) scope targetType = .ok preview) (hblockers : preview.blockers = []) :
    ∃ column, Unneeded s.savedGridViews s.grid column ∧ column.kind = .input ∧ column.id = scope.columnId ∧
      (column.lifecycle s.id).converts scope preview.column.valueType = true := by
  simp only [buildColumnTypeConversionPreview, requireConvertibleColumn, except_bind_eq_ok, requireSome_eq_ok] at h
  obtain ⟨table, htable, column, ⟨found, hfound, valueType, htype, _, _, hcolumn⟩, writebacks, _, views, hviews, scan, _, hpreview⟩ := h
  cases hcolumn
  cases hpreview
  obtain ⟨hkind, heditable⟩ := Option.ite_none_right_eq_some.mp htype
  obtain ⟨stored, hstored, rfl⟩ := List.mem_map.mp (List.mem_of_find?_eq_some hfound)
  have hinScope := List.find?_some hfound
  have hscope := requireLifecycleTable_scope htable
  simp only [conversionBlockers, List.append_eq_nil_iff] at hblockers
  obtain ⟨⟨⟨⟨⟨⟨_, hdependents⟩, _⟩, _⟩, _⟩, hsavedViews⟩, _⟩ := hblockers
  rw [pushBlocker_eq_nil hsavedViews] at hviews
  have hguards := hinScope
  simp only [LifecycleColumn.inScope, Bool.and_eq_true, decide_eq_true_eq, Option.isNone_iff_eq_none] at hguards
  simp only [Column.lifecycle, Option.map_eq_none_iff] at hguards
  obtain ⟨⟨⟨hid, _⟩, htableId⟩, hactive⟩ := hguards
  refine ⟨stored, ⟨activeColumn?_eq_some.mpr ⟨hstored, rfl, rfl, hactive⟩, ?_, ?_⟩, hkind, hid, ?_⟩
  · rw [hid, htableId]
    exact conversionDependents_eq_nil hscope (pushBlocker_eq_nil hdependents)
  · rw [hid, htableId]
    exact countViews_eq_zero hscope hviews
  · have hvalueType : (stored.lifecycle s.id).valueType = valueType.type := editable?_eq_some heditable
    rw [LifecycleColumn.converts, hinScope, hvalueType, decide_eq_true hkind, decide_eq_true rfl]
    rfl

def LifecycleColumn.retyped (scope : ColumnScope) (fromType targetType : EditableInputValueType) (now : Int) (column : LifecycleColumn) :
    LifecycleColumn :=
  if column.converts scope fromType = true then { column with valueType := targetType.type, updatedAt := now } else column

theorem convertSqliteWorkspaceColumnType_ok {store after : LifecycleStore ν} {scope : ColumnScope} {input : ColumnTypeConversionRequest}
    {now : Int} {result : ColumnTypeConversionResult}
    (h : convertSqliteWorkspaceColumnType store scope input now = (.ok result, after)) :
    ∃ preview, buildColumnTypeConversionPreview store scope input.targetType = .ok preview ∧ preview.blockers = [] ∧
      after.columns = store.columns.map (LifecycleColumn.retyped scope preview.column.valueType input.targetType now) := by
  rw [convertSqliteWorkspaceColumnType] at h
  cases hread : readConversionRequest ν input with
  | none =>
    rw [hread] at h
    cases h
  | some request =>
    have htarget : request.targetType = input.targetType := by
      rw [readConversionRequest] at hread
      split at hread
      · obtain ⟨_, hrequest⟩ := Option.ite_none_right_eq_some.mp hread
        cases hrequest
        rfl
      · cases hread
    rw [hread] at h
    simp only [withWriteTransaction, convertInTransaction] at h
    cases hchecked : requireConfirmedPreview store scope request with
    | error error =>
      rw [hchecked] at h
      cases h
    | ok preview =>
      obtain ⟨hpreview, _, _, hblockers⟩ := requireConfirmedPreview_eq_ok.mp hchecked
      obtain ⟨_, _, hbuilt⟩ := except_bind_eq_ok.mp hpreview
      rw [htarget] at hbuilt
      refine ⟨preview, hbuilt, hblockers, ?_⟩
      have hcells := convertCells_columns request.targetType now (storedCells store scope) store
      rw [hchecked] at h
      simp only [applyConfirmedConversion] at h
      cases hconverted : convertCells request.targetType now (storedCells store scope) store with
      | mk outcome converted =>
        rw [hconverted] at h hcells
        cases outcome with
        | error error => cases h
        | ok _ =>
          simp only [updateColumnType] at h
          cases hfound : converted.columns.find? (LifecycleColumn.converts scope preview.column.valueType) with
          | none =>
            rw [hfound] at h
            cases h
          | some updated =>
            rw [hfound] at h
            cases h
            rw [← htarget, ← hcells]
            rfl

omit [JsRuntime ν] [ValueRuntime ν] [DigestRuntime] in
theorem retyped_id {scope : ColumnScope} {fromType targetType : EditableInputValueType} {now : Int} (column : LifecycleColumn) :
    (column.retyped scope fromType targetType now).id = column.id := by
  rw [LifecycleColumn.retyped]
  split <;> rfl

omit [JsRuntime ν] [ValueRuntime ν] [DigestRuntime] in
theorem retype_get? {grid : Grid ν} {workspaceId : String} {scope : ColumnScope} {fromType : EditableInputValueType}
    (targetType : EditableInputValueType) (now : Int) {column : Column ν} (hget : grid.columns.get? column.id = some column)
    (hid : column.id = scope.columnId) (hconverts : (column.lifecycle workspaceId).converts scope fromType = true) (id : String) :
    (grid.retype ((grid.columns.records.map (Column.lifecycle workspaceId)).map
      (LifecycleColumn.retyped scope fromType targetType now))).columns.get? id =
        (grid.columns.get? id).map fun other => if id = column.id then { other with valueType := targetType.type } else other := by
  refine (Table.get?_modify grid.columns (fun _ => true) (retypedColumn _) ⟨fun _ => rfl⟩ id).trans ?_
  cases hfound : grid.columns.get? id with
  | none => rfl
  | some other =>
    have hother : other.id = id := (Table.get?_eq_some.mp hfound).2
    have hids : ∀ column : LifecycleColumn, (column.retyped scope fromType targetType now).id = column.id := retyped_id
    have htype := retypedColumn_eq workspaceId hids (hother ▸ hfound)
    rw [Option.map_some, Option.map_some, if_pos rfl]
    refine (congrArg some htype).trans ?_
    by_cases hsame : id = column.id
    · rw [hsame, hget] at hfound
      cases hfound
      rw [if_pos hsame, LifecycleColumn.retyped, if_pos hconverts]
    · have hne : (other.lifecycle workspaceId).id ≠ scope.columnId := fun heq => hsame (hother.symm.trans (heq.trans hid.symm))
      have hkept : (other.lifecycle workspaceId).converts scope fromType = false := by
        simp [LifecycleColumn.converts, LifecycleColumn.inScope, hne]
      rw [if_neg hsame, LifecycleColumn.retyped, hkept]
      rfl

theorem convertColumn_effect {s s' : SchemaWorkspace ν} {scope : ColumnScope} {input : ColumnTypeConversionRequest} {now : Int}
    {stored : List (LifecycleCell ν)} {cells : String → String → Option (Cell ν)} {result : ColumnTypeConversionResult}
    (h : s.convertColumn scope input now stored cells = .ok (result, s')) :
    SchemaEffect s.savedGridViews (fun columnId => columnId = scope.columnId) s.grid s'.grid ∧
      s'.savedGridViews = s.savedGridViews := by
  rw [SchemaWorkspace.convertColumn] at h
  cases hrun : convertSqliteWorkspaceColumnType (s.lifecycle stored) scope input now with
  | mk outcome after =>
    rw [hrun] at h
    cases outcome with
    | error error => cases h
    | ok converted =>
      cases h
      obtain ⟨preview, hbuilt, hblockers, hcolumns⟩ := convertSqliteWorkspaceColumnType_ok hrun
      obtain ⟨column, hunneeded, hkind, hid, hconverts⟩ := buildColumnTypeConversionPreview_unneeded hbuilt hblockers
      obtain ⟨hget, _, _⟩ := activeColumn?_get.mp hunneeded.active
      have hretyped := retype_get? input.targetType now hget hid hconverts
      change after.columns = (s.grid.columns.records.map (Column.lifecycle s.id)).map _ at hcolumns
      rw [← hcolumns] at hretyped
      refine ⟨.stays (.of_update hretyped rfl rfl fun found hfound => ?_), rfl⟩
      rw [hget] at hfound
      cases hfound
      exact ⟨rfl, rfl, rfl, Or.inr ⟨input.targetType.type_ne_empty, hkind, hid, hunneeded⟩, Or.inl, Or.inl⟩

end Conversion

end ByokGrid
