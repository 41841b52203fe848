import ByokGrid.SchemaEffects

/-! What every effect on a schema keeps: columns in use depend on columns in use, without a cycle,
saved views fit the columns of their tables, and no table loses its last column. -/

namespace ByokGrid

section Columns

variable {ν : Type} {before after grid : Grid ν} {column : Column ν} {dependencyIds : List String}

theorem columnType_eq_some {columnId : String} (h : grid.columns.get? columnId = some column) :
    grid.columnType columnId = some column.valueType := by
  rw [Grid.columnType, h]
  rfl

theorem Creates.get? (h : Creates before after column dependencyIds) (id : String) :
    after.columns.get? id = if id = column.id then some column else before.columns.get? id :=
  Table.get?_insert h.columns id

theorem Creates.fresh (h : Creates before after column dependencyIds) : before.columns.get? column.id = none :=
  (Table.insert_eq_some h.columns).2

theorem Creates.keeps (h : Creates before after column dependencyIds) {id : String} {other : Column ν}
    (hother : before.columns.get? id = some other) : after.columns.get? id = some other := by
  rw [h.get?]
  split_ifs with hid
  · rw [hid, h.fresh] at hother
    cases hother
  · exact hother

theorem Creates.columnType (h : Creates before after column dependencyIds) {columnId : String} {other : Column ν}
    (hother : before.columns.get? columnId = some other) : before.columnType columnId = after.columnType columnId := by
  rw [columnType_eq_some hother, columnType_eq_some (h.keeps hother)]

theorem Creates.mem_dependencies (h : Creates before after column dependencyIds) {d : ColumnDependency} :
    d ∈ after.columnDependencies ↔
      d ∈ before.columnDependencies ∨ ∃ columnId ∈ dependencyIds, columnDependency column.tableId column.id columnId = d := by
  rw [Table.mem_insertAll h.dependencies, List.mem_map]

end Columns

section Sound

variable {ν : Type} {before after grid : Grid ν} {column : Column ν} {dependencyIds : List String}

def Grid.registry (grid : Grid ν) : Registry String where
  status id := (grid.columns.get? id).map fun column => column.archivedAt.isNone
  dependsOn child parent := ∃ d ∈ grid.columnDependencies, d.columnId = child ∧ d.dependsOnColumnId = parent

theorem registry_inUse {id : String} :
    grid.registry.InUse id ↔ ∃ column, grid.columns.get? id = some column ∧ column.archivedAt = none := by
  simp [Registry.InUse, Grid.registry]

theorem registry_listed {id : String} : grid.registry.status id ≠ none ↔ ∃ column, grid.columns.get? id = some column := by
  simp [Grid.registry, Option.ne_none_iff_exists']

structure SchemaSound (grid : Grid ν) : Prop where
  registry : grid.registry.Sound
  within : ∀ d ∈ grid.columnDependencies, ∀ id column, id = d.columnId ∨ id = d.dependsOnColumnId →
    grid.columns.get? id = some column → column.tableId = d.tableId
  typed : ∀ id column, grid.columns.get? id = some column → column.valueType ≠ .empty
  recorded : ∀ id column, grid.columns.get? id = some column → column.kind = .formula →
    ∃ expression, column.configuration.formula? = some expression ∧
      ∀ columnId ∈ collectFormulaColumnIds expression, grid.registry.dependsOn id columnId
  columnLeft : ∀ table ∈ grid.dataTables, ∃ id column, activeColumn? grid table.id id = some column
  tableLeft : ∃ table ∈ grid.dataTables, table.archivedAt = none

theorem SchemaSound.parent (hsound : SchemaSound grid) {childId parentId : String} (hedge : grid.registry.dependsOn childId parentId) :
    ∃ parent, grid.columns.get? parentId = some parent :=
  registry_listed.mp (hsound.registry.listed hedge).2

section Create

variable (h : Creates before after column dependencyIds)

include h

theorem Creates.registry : after.registry = before.registry.add column.id {columnId | columnId ∈ dependencyIds} := by
  simp only [Grid.registry, Registry.add, Registry.mk.injEq]
  constructor
  · funext id
    rw [h.get?, Function.update_apply]
    split_ifs
    · simp [h.inUse]
    · rfl
  · funext child parent
    apply propext
    constructor
    · rintro ⟨d, hd, rfl, rfl⟩
      rcases h.mem_dependencies.mp hd with hold | ⟨columnId, hmem, rfl⟩
      · exact Or.inl ⟨d, hold, rfl, rfl⟩
      · exact Or.inr ⟨rfl, hmem⟩
    · rintro (⟨d, hd, hchild, hparent⟩ | ⟨rfl, hmem⟩)
      · exact ⟨d, h.mem_dependencies.mpr (Or.inl hd), hchild, hparent⟩
      · exact ⟨_, h.mem_dependencies.mpr (Or.inr ⟨parent, hmem, rfl⟩), rfl, rfl⟩

theorem Creates.within (hsound : SchemaSound before) : ∀ d ∈ after.columnDependencies, ∀ id column,
    id = d.columnId ∨ id = d.dependsOnColumnId → after.columns.get? id = some column → column.tableId = d.tableId := by
  intro d hd id other hends hother
  rw [h.get?] at hother
  rcases h.mem_dependencies.mp hd with hold | ⟨columnId, hmem, rfl⟩
  · split_ifs at hother with hid
    · have hlisted : before.registry.status id ≠ none := by
        have hboth := hsound.registry.listed ⟨d, hold, rfl, rfl⟩
        rcases hends with rfl | rfl
        · exact hboth.1
        · exact hboth.2
      obtain ⟨stored, hstored⟩ := registry_listed.mp hlisted
      rw [hid, h.fresh] at hstored
      cases hstored
    · exact hsound.within d hold id other hends hother
  · split_ifs at hother with hid
    · cases hother
      rfl
    · have hparentId : id = columnId := hends.resolve_left hid
      obtain ⟨parent, hparent⟩ := h.available columnId hmem
      obtain ⟨hget, htable, _⟩ := activeColumn?_get.mp hparent
      rw [hparentId, hget] at hother
      cases hother
      exact htable

theorem Creates.sound (htables : after.dataTables = before.dataTables ∨
      ∃ table, table.archivedAt = none ∧ column.tableId = table.id ∧ before.dataTables.insert table = some after.dataTables)
    (hsound : SchemaSound before) : SchemaSound after := by
  have hold : ∀ table ∈ before.dataTables, ∃ id column, activeColumn? after table.id id = some column := by
    intro table htable
    obtain ⟨id, other, hother⟩ := hsound.columnLeft table htable
    obtain ⟨hget, htableId, hactive⟩ := activeColumn?_get.mp hother
    exact ⟨id, other, activeColumn?_get.mpr ⟨h.keeps hget, htableId, hactive⟩⟩
  refine ⟨?_, h.within hsound, fun id other hother => ?_, fun id other hother hkind => ?_, ?_, ?_⟩
  · rw [h.registry]
    refine hsound.registry.add (by simp [Grid.registry, h.fresh]) fun columnId hmem => ?_
    obtain ⟨parent, hparent⟩ := h.available columnId hmem
    obtain ⟨hget, _, hactive⟩ := activeColumn?_get.mp hparent
    exact registry_inUse.mpr ⟨parent, hget, hactive⟩
  · rw [h.get?] at hother
    split_ifs at hother
    · cases hother
      exact h.typed
    · exact hsound.typed id other hother
  · rw [h.registry]
    rw [h.get?] at hother
    split_ifs at hother with hid
    · cases hother
      obtain ⟨expression, hchecked, hids⟩ := h.formula hkind
      exact ⟨expression, hchecked.configuration, fun columnId hmem => Or.inr ⟨hid, (hids columnId).mp hmem⟩⟩
    · obtain ⟨expression, hexpression, hrecorded⟩ := hsound.recorded id other hother hkind
      exact ⟨expression, hexpression, fun columnId hmem => Or.inl (hrecorded columnId hmem)⟩
  · rcases htables with htables | ⟨created, _, hcolumn, hinsert⟩
    · rw [htables]
      exact hold
    · intro table htable
      rcases (Table.mem_insert hinsert).mp htable with hmem | rfl
      · exact hold table hmem
      · exact ⟨column.id, column, activeColumn?_get.mpr ⟨(h.get? column.id).trans (if_pos rfl), hcolumn, h.inUse⟩⟩
  · rcases htables with htables | ⟨created, hactive, _, hinsert⟩
    · rw [htables]
      exact hsound.tableLeft
    · exact ⟨created, (Table.mem_insert hinsert).mpr (Or.inr rfl), hactive⟩

end Create

variable [JsRuntime ν] {views : Table (SavedGridView ν)} {retyped : String → Prop}

theorem Unneeded.free (hunneeded : Unneeded views grid column) (hsound : SchemaSound grid) {childId : String} {child : Column ν}
    (hchild : grid.columns.get? childId = some child) (hedge : grid.registry.dependsOn childId column.id) : child.archivedAt ≠ none := by
  obtain ⟨d, hd, rfl, hparent⟩ := hedge
  obtain ⟨hget, _, _⟩ := activeColumn?_get.mp hunneeded.active
  obtain ⟨hmem, hid⟩ := Table.get?_eq_some.mp hchild
  exact hunneeded.dependents d hd (hsound.within d hd _ column (Or.inr hparent.symm) hget).symm hparent child hmem hid

section Stays

variable (h : SchemaStays views retyped before after)

include h

theorem SchemaStays.old {id : String} {column' : Column ν} (hcolumn' : after.columns.get? id = some column') :
    ∃ column, before.columns.get? id = some column ∧ ColumnStays views retyped before after column column' := by
  have hrel := h.columns id
  rw [hcolumn'] at hrel
  generalize before.columns.get? id = found at hrel ⊢
  cases hrel with
  | some hstays => exact ⟨_, rfl, hstays⟩

theorem SchemaStays.new {id : String} (hcolumn : before.columns.get? id = some column) :
    ∃ column', after.columns.get? id = some column' ∧ ColumnStays views retyped before after column column' := by
  have hrel := h.columns id
  rw [hcolumn] at hrel
  generalize after.columns.get? id = found at hrel ⊢
  cases hrel with
  | some hstays => exact ⟨_, rfl, hstays⟩

theorem SchemaStays.dependsOn : after.registry.dependsOn = before.registry.dependsOn := by
  simp only [Grid.registry, h.columnDependencies]

theorem SchemaStays.registry (hsound : SchemaSound before) : after.registry.Sound := by
  refine hsound.registry.change (fun id hlisted => ?_) h.dependsOn (fun id hused => ?_) fun id hused => ?_
  · obtain ⟨column, hcolumn⟩ := registry_listed.mp hlisted
    obtain ⟨column', hcolumn', _⟩ := h.new hcolumn
    exact registry_listed.mpr ⟨column', hcolumn'⟩
  · obtain ⟨column, hcolumn, hactive⟩ := registry_inUse.mp hused
    obtain ⟨column', hcolumn', hstays⟩ := h.new hcolumn
    rcases hstays.archived hactive with hkept | ⟨hunneeded, _⟩
    · exact Or.inl (registry_inUse.mpr ⟨column', hcolumn', hkept⟩)
    · refine Or.inr fun childId hchild hedge => ?_
      obtain ⟨child, hget, hchildActive⟩ := registry_inUse.mp hchild
      have hid : column.id = id := (Table.get?_eq_some.mp hcolumn).2
      exact hunneeded.free hsound hget (hid ▸ hedge) hchildActive
  · obtain ⟨column', hcolumn', hactive'⟩ := registry_inUse.mp hused
    obtain ⟨column, hcolumn, hstays⟩ := h.old hcolumn'
    rcases hstays.restored hactive' with hactive | havailable
    · exact Or.inl (registry_inUse.mpr ⟨column, hcolumn, hactive⟩)
    · refine Or.inr fun parentId hedge => ?_
      obtain ⟨parent, hparent⟩ := hsound.parent hedge
      obtain ⟨parent', hparent', _⟩ := h.new hparent
      obtain ⟨hmem, hid⟩ := Table.get?_eq_some.mp hparent'
      obtain ⟨d, hd, hchild, rfl⟩ := hedge
      have htable : column.tableId = d.tableId := hsound.within d hd id column (Or.inl hchild.symm) hcolumn
      have hcolumnId : column.id = id := (Table.get?_eq_some.mp hcolumn).2
      exact registry_inUse.mpr ⟨parent', hparent', havailable d hd htable.symm (hchild.trans hcolumnId.symm) parent' hmem hid⟩

theorem SchemaStays.sound (hsound : SchemaSound before) : SchemaSound after where
  registry := h.registry hsound
  within d hd id column' hends hcolumn' := by
    rw [h.columnDependencies] at hd
    obtain ⟨column, hcolumn, hstays⟩ := h.old hcolumn'
    exact hstays.tableId.trans (hsound.within d hd id column hends hcolumn)
  typed id column' hcolumn' := by
    obtain ⟨column, hcolumn, hstays⟩ := h.old hcolumn'
    rcases hstays.valueType with htype | ⟨htype, _⟩
    · rw [htype]
      exact hsound.typed id column hcolumn
    · exact htype
  recorded id column' hcolumn' hkind := by
    obtain ⟨column, hcolumn, hstays⟩ := h.old hcolumn'
    rw [hstays.configuration, h.dependsOn]
    exact hsound.recorded id column hcolumn (hstays.kind.symm.trans hkind)
  columnLeft table htable := by
    obtain ⟨old, hold, hid⟩ := h.tables table htable
    obtain ⟨id, column, hcolumn⟩ := hsound.columnLeft old hold
    obtain ⟨hget, htableId, hactive⟩ := activeColumn?_get.mp hcolumn
    obtain ⟨column', hcolumn', hstays⟩ := h.new hget
    rw [← hid]
    rcases hstays.archived hactive with hkept | ⟨_, other, hother⟩
    · exact ⟨id, column', activeColumn?_get.mpr ⟨hcolumn', hstays.tableId.trans htableId, hkept⟩⟩
    · exact ⟨other.id, other, htableId ▸ hother⟩
  tableLeft := h.tableLeft hsound.tableLeft

end Stays

theorem SchemaEffect.sound (heffect : SchemaEffect views retyped before after) (hsound : SchemaSound before) : SchemaSound after := by
  cases heffect with
  | stays h => exact h.sound hsound
  | creates column dependencyIds h htables => exact h.sound htables hsound

theorem SchemaEffect.valid (heffect : SchemaEffect views retyped before after) {view : SavedGridView ν} (hview : view ∈ views)
    (hvalid : view.Valid before) : view.Valid after := by
  refine hvalid.of_columns fun columnId column hreads hcolumn => ?_
  obtain ⟨hget, htable, hactive⟩ := activeColumn?_get.mp hcolumn
  have hid : column.id = columnId := (Table.get?_eq_some.mp hget).2
  have hneeded : ¬ Unneeded views before column := fun hunneeded => hunneeded.views view hview htable.symm (hid ▸ hreads)
  cases heffect with
  | stays h =>
    obtain ⟨column', hcolumn', hstays⟩ := h.new hget
    have hkept := (hstays.archived hactive).resolve_right fun harchived => hneeded harchived.1
    have htype := hstays.valueType.resolve_right fun hretyped => hneeded hretyped.2.2.2
    exact ⟨column', activeColumn?_get.mpr ⟨hcolumn', hstays.tableId.trans htable, hkept⟩, htype⟩
  | creates created dependencyIds h htables => exact ⟨column, activeColumn?_get.mpr ⟨h.keeps hget, htable, hactive⟩, rfl⟩

end Sound

section Formulas

variable {ν : Type} {before after grid : Grid ν} {column : Column ν} {expression : FormulaExpression ν}

def FormulasChecked (grid : Grid ν) : Prop :=
  ∀ id column, grid.columns.get? id = some column → column.kind = .formula → ∃ expression, FormulaChecked grid column expression

theorem FormulaChecked.of_types {column' : Column ν} (h : FormulaChecked before column expression)
    (hconfiguration : column'.configuration = column.configuration) (hvalueType : column'.valueType = column.valueType)
    (htypes : ∀ columnId ∈ collectFormulaColumnIds expression, before.columnType columnId = after.columnType columnId) :
    FormulaChecked after column' expression := by
  refine ⟨by rw [hconfiguration, h.configuration], ?_⟩
  rw [hvalueType, ← validateFormulaDefinition_congr htypes]
  exact h.validates

theorem SchemaSound.depends (hsound : SchemaSound grid) {id : String} (hcolumn : grid.columns.get? id = some column)
    (hkind : column.kind = .formula) (hchecked : FormulaChecked grid column expression) {columnId : String}
    (hmem : columnId ∈ collectFormulaColumnIds expression) : grid.registry.dependsOn id columnId := by
  obtain ⟨recorded, hconfiguration, hrecorded⟩ := hsound.recorded id column hcolumn hkind
  have hsame : recorded = expression := Option.some.inj (hconfiguration.symm.trans hchecked.configuration)
  subst hsame
  exact hrecorded columnId hmem

variable [JsRuntime ν] {views : Table (SavedGridView ν)} {retyped : String → Prop}

theorem SchemaEffect.formulasChecked (heffect : SchemaEffect views retyped before after) (hsound : SchemaSound before)
    (hfree : ∀ id, retyped id → ∀ child ∈ before.columns, before.registry.dependsOn child.id id → child.archivedAt = none)
    (hchecked : FormulasChecked before) : FormulasChecked after := by
  intro id column' hcolumn' hkind
  cases heffect with
  | stays h =>
    obtain ⟨column, hcolumn, hstays⟩ := h.old hcolumn'
    have hformula : column.kind = .formula := hstays.kind.symm.trans hkind
    obtain ⟨expression, hexpression⟩ := hchecked id column hcolumn hformula
    have hvalueType : column'.valueType = column.valueType := by
      refine hstays.valueType.resolve_right fun hretyped => ?_
      rw [hformula] at hretyped
      cases hretyped.2.1
    refine ⟨expression, hexpression.of_types hstays.configuration hvalueType fun columnId hmem => ?_⟩
    have hedge := hsound.depends hcolumn hformula hexpression hmem
    obtain ⟨parent, hparent⟩ := hsound.parent hedge
    obtain ⟨parent', hparent', hparentStays⟩ := h.new hparent
    -- A retyped column has no dependent at all: neither one in use nor an archived one.
    have htype : parent'.valueType = parent.valueType := by
      refine hparentStays.valueType.resolve_right ?_
      rintro ⟨_, _, hretyped, hunneeded⟩
      have hparentId : parent.id = columnId := (Table.get?_eq_some.mp hparent).2
      obtain ⟨hlisted, hid⟩ := Table.get?_eq_some.mp hcolumn
      subst hparentId
      have hdepends : before.registry.dependsOn column.id parent.id := by
        change column.id = id at hid
        rw [hid]
        exact hedge
      exact hunneeded.free hsound hcolumn hedge (hfree parent.id hretyped column hlisted hdepends)
    rw [columnType_eq_some hparent, columnType_eq_some hparent', htype]
  | creates column dependencyIds h htables =>
    rw [h.get?] at hcolumn'
    split_ifs at hcolumn'
    · cases hcolumn'
      obtain ⟨expression, hexpression, hids⟩ := h.formula hkind
      refine ⟨expression, hexpression.of_types rfl rfl fun columnId hmem => ?_⟩
      obtain ⟨parent, hparent⟩ := h.available columnId ((hids columnId).mp hmem)
      exact h.columnType (activeColumn?_get.mp hparent).1
    · obtain ⟨expression, hexpression⟩ := hchecked id column' hcolumn' hkind
      refine ⟨expression, hexpression.of_types rfl rfl fun columnId hmem => ?_⟩
      obtain ⟨parent, hparent⟩ := hsound.parent (hsound.depends hcolumn' hkind hexpression hmem)
      exact h.columnType hparent

end Formulas

section Recompute

variable {ν : Type} [JsRuntime ν]

def Grid.RowFits (grid : Grid ν) (rowId : String) : Prop :=
  ∀ columnId type, grid.columnType columnId = some type →
    (grid.storedValue rowId columnId).type = .empty ∨ (grid.storedValue rowId columnId).type = type

omit [JsRuntime ν] in
theorem SchemaSound.acyclic {grid : Grid ν} (hsound : SchemaSound grid) (tableId : String) (reachable : List String) :
    Acyclic (reachableEdge (grid.dependenciesOf tableId) reachable) := by
  have hacyclic : Acyclic (Function.swap grid.registry.dependsOn) := fun v hcycle =>
    hsound.registry.acyclic v (Relation.transGen_swap.mp hcycle)
  refine hacyclic.mono fun u v hedge => ?_
  obtain ⟨_, _, hmem⟩ := (reachableEdge_iff _).mp hedge
  obtain ⟨d, hd, hparent, hchild⟩ := (mem_dependents _).mp hmem
  exact ⟨d, (List.mem_filter.mp hd).1, hchild, hparent⟩

structure StateFits (grid : Grid ν) (rowId : String) (state : RecomputeState ν) : Prop where
  values : ∀ columnId type, grid.columnType columnId = some type → ∀ value, state.values columnId = some value → value.Fits type
  row : ∀ columnId type, grid.columnType columnId = some type →
    (state.grid.storedValue rowId columnId).type = .empty ∨ (state.grid.storedValue rowId columnId).type = type

omit [JsRuntime ν] in
theorem update_fits {grid : Grid ν} {values : String → Option (CellValue ν)}
    (hvalues : ∀ columnId type, grid.columnType columnId = some type → ∀ value, values columnId = some value → value.Fits type)
    {formula : Column ν} (hformula : grid.columns.get? formula.id = some formula) {value : CellValue ν}
    (hvalue : value.Fits formula.valueType) (columnId : String) (type : CellValueType) (htype : grid.columnType columnId = some type)
    (other : CellValue ν) (hother : Function.update values formula.id (some value) columnId = some other) : other.Fits type := by
    by_cases hid : columnId = formula.id
    · rw [hid, columnType_eq_some hformula] at htype
      rw [hid, Function.update_self] at hother
      cases htype
      cases hother
      exact hvalue
    · rw [Function.update_of_ne hid] at hother
      exact hvalues columnId type htype other hother

theorem StateFits.write {grid : Grid ν} {rowId : String} {state : RecomputeState ν} (hfits : StateFits grid rowId state)
    {formula : Column ν} (hformula : grid.columns.get? formula.id = some formula) {value : CellValue ν}
    (hvalue : value.Fits formula.valueType) (version : Nat) (changed : List String) :
    StateFits grid rowId
      { grid := state.grid.setCell rowId formula.id ⟨serializeSqliteCellValue value, .succeeded, version⟩
        values := Function.update state.values formula.id (some value)
        changedFormulaIds := changed } where
  values := update_fits hfits.values hformula hvalue
  row columnId type htype := by
    by_cases hid : columnId = formula.id
    · rw [hid, columnType_eq_some hformula] at htype
      cases htype
      rw [hid, Grid.storedValue, Grid.setCell_self]
      exact (serialize_type value).symm ▸ hvalue
    · have hsame := hfits.row columnId type htype
      rwa [Grid.storedValue, Grid.setCell_of_ne _ _ _ _ (fun heq => hid heq.2)]

omit [JsRuntime ν] in
theorem StateFits.read {grid : Grid ν} {rowId : String} {state : RecomputeState ν} (hfits : StateFits grid rowId state)
    {formula : Column ν} (hformula : grid.columns.get? formula.id = some formula) {value : CellValue ν}
    (hvalue : value.Fits formula.valueType) :
    StateFits grid rowId { state with values := Function.update state.values formula.id (some value) } where
  values := update_fits hfits.values hformula hvalue
  row := hfits.row

theorem recomputeFormula_fits {grid : Grid ν} (tableId : String) {rowId : String} (formulaId : String) {state : RecomputeState ν}
    (hchecked : FormulasChecked grid) (hfits : StateFits grid rowId state) :
    ∃ next, recomputeFormula (grid.formulaColumn tableId) rowId state formulaId = .ok next ∧ StateFits grid rowId next := by
  rw [recomputeFormula]
  cases hfound : grid.formulaColumn tableId formulaId with
  | none => exact ⟨state, rfl, hfits⟩
  | some formula =>
    obtain ⟨hlisted, _⟩ := Grid.formulaColumn_eq_some hfound
    obtain ⟨hmem, hkind⟩ := List.mem_filter.mp hlisted
    simp only [decide_eq_true_eq] at hkind
    have hget : grid.columns.get? formula.id = some formula := Table.get?_eq_some.mpr ⟨hmem, rfl⟩
    obtain ⟨expression, hconfiguration, hvalidates⟩ := hchecked formula.id formula hget hkind.1
    obtain ⟨_, hinfer, _⟩ := validateFormulaDefinition_ok hvalidates
    have hvalue : (evaluateFormula expression state.values).Fits formula.valueType :=
      evaluateFormula_fits expression 1 hinfer fun columnId _ _ value type hread htype => hfits.values columnId type htype value hread
    have htyped : ¬ ((evaluateFormula expression state.values).type ≠ .empty ∧
        (evaluateFormula expression state.values).type ≠ formula.valueType) := by
      rintro ⟨hne, hother⟩
      rcases hvalue with hempty | hsame
      · exact hne hempty
      · exact hother hsame
    simp only [hconfiguration, if_neg htyped]
    cases hcell : state.grid.cells rowId formula.id with
    | some existing => exact ⟨_, rfl, hfits.write hget hvalue _ _⟩
    | none =>
      by_cases hempty : (evaluateFormula expression state.values).type = .empty
      · exact ⟨_, if_pos hempty, hfits.read hget hvalue⟩
      · exact ⟨_, if_neg hempty, hfits.write hget hvalue _ _⟩

theorem recomputeLoop_fits {grid : Grid ν} (tableId : String) {rowId : String} (ordered : List String) {state : RecomputeState ν}
    (hchecked : FormulasChecked grid) (hfits : StateFits grid rowId state) :
    ∃ changed after, recomputeLoop (grid.formulaColumn tableId) rowId ordered state = (.ok changed, after) ∧
      ∀ columnId type, grid.columnType columnId = some type →
        (after.storedValue rowId columnId).type = .empty ∨ (after.storedValue rowId columnId).type = type := by
  induction ordered generalizing state with
  | nil => exact ⟨_, _, rfl, hfits.row⟩
  | cons formulaId ordered ih =>
    obtain ⟨next, hnext, hfits'⟩ := recomputeFormula_fits tableId formulaId hchecked hfits
    obtain ⟨changed, after, hloop, hrow⟩ := ih hfits'
    exact ⟨changed, after, by rw [recomputeLoop, hnext]; exact hloop, hrow⟩

theorem recompute_fits {grid : Grid ν} (hsound : SchemaSound grid) (hchecked : FormulasChecked grid) {rowId : String}
    (hrow : grid.RowFits rowId) (tableId : String) (changed : List String) :
    ∃ recomputed after, recomputeDependentSqliteFormulasForRow grid tableId rowId changed = (.ok recomputed, after) ∧
      after.RowFits rowId := by
  rcases recompute_cases grid tableId rowId changed with ⟨_, hrun⟩ | ⟨haffected, hcyclic, _⟩ | ⟨_, _, hrun⟩
  · exact ⟨[], grid, hrun, hrow⟩
  · exact absurd (hsound.acyclic tableId _) hcyclic
  · have hstart : StateFits grid rowId ⟨grid, cellValues (grid.cells rowId), []⟩ := by
      refine ⟨fun columnId type htype value hvalue => ?_, hrow⟩
      obtain ⟨cell, hcell, rfl⟩ := Option.map_eq_some_iff.mp hvalue
      have hfits := hrow columnId type htype
      rw [Grid.storedValue, hcell, Option.map_some, Option.getD_some] at hfits
      rw [CellValue.Fits, deserialize_type]
      exact hfits
    obtain ⟨recomputed, after, hloop, hfits⟩ := recomputeLoop_fits tableId
      (orderReachable (grid.dependenciesOf tableId) (grid.affectedColumns tableId changed)) hchecked hstart
    have hrecomputed : recomputeFormulas grid tableId rowId changed = .ok (recomputed, after) := by
      rw [recomputeFormulas, hrun, hloop]
    have hcolumns : after.columns = grid.columns := by
      rw [(recomputeFormulas_frame hrecomputed).cellsOnly]
    refine ⟨recomputed, after, hrun.trans hloop, fun columnId type htype => hfits columnId type ?_⟩
    rw [Grid.columnType, ← hcolumns]
    exact htype

end Recompute

end ByokGrid
