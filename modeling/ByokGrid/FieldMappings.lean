import ByokGrid.IngestionOrder
import ByokGrid.SourceWindows

/-! The fields which a source or an endpoint maps to columns: a field has one
column, and a column one field as long as no new field has the name of a column
which another field is mapped to. -/

namespace ByokGrid

section Plans

variable {ν : Type} [JsRuntime ν]

def namedColumn (existingColumns : List (Column ν)) (header : String) : Option String :=
  ((existingColumns.find? fun column => normalizeHeader ν column.name = normalizeHeader ν header).filter fun column =>
    column.kind = .input && column.valueType = .text).map Column.id

theorem normalizeHeader_trim (header : String) :
    normalizeHeader ν (jsTrim header) = normalizeHeader ν header := by
  simp [normalizeHeader]

theorem namedColumn_trim (existingColumns : List (Column ν)) (header : String) :
    namedColumn existingColumns (jsTrim header) = namedColumn existingColumns header := by
  simp only [namedColumn, normalizeHeader_trim]

theorem planHeader_existing (existingColumns : List (Column ν)) (reservedNames : List String) (header : String) :
    (planHeader existingColumns reservedNames header).existingColumnId = namedColumn existingColumns header := by
  unfold planHeader namedColumn
  split
  · rename_i hnone
    simp [hnone]
  · rename_i existing hfound
    by_cases htext : existing.kind = .input ∧ existing.valueType = .text
    · simp [hfound, htext]
    · rw [if_neg htext, hfound]
      simp only [not_and] at htext
      by_cases hkind : existing.kind = .input
      · simp [hkind, htext hkind]
      · simp [hkind]

theorem planHeader_header (existingColumns : List (Column ν)) (reservedNames : List String) (header : String) :
    (planHeader existingColumns reservedNames header).header = header := by
  unfold planHeader
  split
  · rfl
  · split <;> rfl

theorem namedColumn_inj {existingColumns : List (Column ν)} (hnd : (existingColumns.map Column.id).Nodup)
    {left right columnId : String} (hleft : namedColumn existingColumns left = some columnId)
    (hright : namedColumn existingColumns right = some columnId) :
    normalizeHeader ν left = normalizeHeader ν right := by
  obtain ⟨first, hfirst, hfirstId⟩ := Option.map_eq_some_iff.mp hleft
  obtain ⟨second, hsecond, hsecondId⟩ := Option.map_eq_some_iff.mp hright
  have hfound := (Option.filter_eq_some_iff.mp hfirst).1
  have hfound' := (Option.filter_eq_some_iff.mp hsecond).1
  have hsame : first = second := List.inj_on_of_nodup_map hnd (List.mem_of_find?_eq_some hfound)
    (List.mem_of_find?_eq_some hfound') (hfirstId.trans hsecondId.symm)
  have hname : normalizeHeader ν first.name = normalizeHeader ν left := by simpa using List.find?_some hfound
  have hname' : normalizeHeader ν second.name = normalizeHeader ν right := by simpa using List.find?_some hfound'
  rw [← hname, ← hname', hsame]

theorem namedColumn_mem {existingColumns : List (Column ν)} {header columnId : String}
    (h : namedColumn existingColumns header = some columnId) : columnId ∈ existingColumns.map Column.id := by
  obtain ⟨column, hcolumn, rfl⟩ := Option.map_eq_some_iff.mp h
  exact List.mem_map_of_mem (List.mem_of_find?_eq_some (Option.filter_eq_some_iff.mp hcolumn).1)

structure HeadersPlanned (existingColumns : List (Column ν)) (headers : List String) (seen : List String)
    (plans : List CsvColumnPlan) : Prop where
  trimmed : plans.map CsvColumnPlan.header = headers.map jsTrim
  existing : plans.map CsvColumnPlan.existingColumnId = headers.map (namedColumn existingColumns)
  nodup : (headers.map (normalizeHeader ν)).Nodup
  fresh : ∀ header ∈ headers, normalizeHeader ν header ∉ seen

theorem planHeaders_planned {existingColumns : List (Column ν)} {headers seen reservedNames : List String}
    {plans : List CsvColumnPlan} (h : planHeaders existingColumns headers seen reservedNames = .ok plans) :
    HeadersPlanned existingColumns headers seen plans := by
  induction headers generalizing seen reservedNames plans with
  | nil =>
    cases h
    exact ⟨rfl, rfl, List.nodup_nil, fun _ hmem => absurd hmem List.not_mem_nil⟩
  | cons header headers ih =>
    simp only [planHeaders, except_bind_eq_ok, requireThat_eq_ok, pure, Except.pure, Except.ok.injEq,
      normalizeHeader_trim, decide_eq_true_eq] at h
    obtain ⟨_, _, _, hfresh, rest, hrest, rfl⟩ := h
    have hplanned := ih hrest
    refine ⟨?_, ?_, ?_, ?_⟩
    · simp [planHeader_header, hplanned.trimmed]
    · simp [planHeader_existing, namedColumn_trim, hplanned.existing]
    · rw [List.map_cons, List.nodup_cons]
      refine ⟨fun hmem => ?_, hplanned.nodup⟩
      obtain ⟨other, hother, heq⟩ := List.mem_map.mp hmem
      exact hplanned.fresh other hother (heq ▸ List.mem_cons_self)
    · intro other hother
      rcases List.mem_cons.mp hother with rfl | hother
      · exact hfresh
      · exact fun hmem => hplanned.fresh other hother (List.mem_cons_of_mem _ hmem)

end Plans

section Created

variable {ν : Type}

structure ColumnsPlanned (grid : Grid ν) (plans : List CsvColumnPlan) (fields : List SourceField) : Prop where
  headers : fields.map SourceField.field = plans.map CsvColumnPlan.header
  columns : ∀ columnId ∈ fields.map SourceField.columnId,
    some columnId ∈ plans.map CsvColumnPlan.existingColumnId ∨ grid.columns.get? columnId = none
  found : ∀ columnId, some columnId ∈ plans.map CsvColumnPlan.existingColumnId →
    columnId ∈ fields.map SourceField.columnId
  nodup : (plans.filterMap CsvColumnPlan.existingColumnId).Nodup →
    (∀ columnId ∈ plans.filterMap CsvColumnPlan.existingColumnId, (grid.columns.get? columnId).isSome) →
    (fields.map SourceField.columnId).Nodup

theorem insertColumn_eq_ok {grid grid' : Grid ν} {column : Column ν} (h : insertColumn grid column = .ok grid') :
    (∀ other ∈ grid.columns, other.tableId = column.tableId → other.name ≠ column.name) ∧
      ∃ columns, grid.columns.insert column = some columns ∧ grid' = { grid with columns := columns } := by
  simp only [insertColumn, except_bind_eq_ok, requireThat_eq_ok, requireSome_eq_ok, pure, Except.pure,
    Except.ok.injEq] at h
  obtain ⟨_, hname, columns, hinsert, rfl⟩ := h
  refine ⟨fun other hother htable heq => ?_, columns, hinsert, rfl⟩
  rw [Bool.not_eq_true', List.any_eq_false] at hname
  exact hname other hother (by simp [htable, heq])

theorem createPlannedColumns_planned {tableId : String} {columnId : Nat → String} {index : Nat}
    {plans : List CsvColumnPlan} {grid grid' : Grid ν} {fields : List SourceField}
    (h : createPlannedColumns tableId columnId index plans grid = .ok (fields, grid')) :
    ColumnsPlanned grid plans fields := by
  induction plans generalizing index grid fields with
  | nil =>
    cases h
    exact ⟨rfl, fun _ hmem => absurd hmem List.not_mem_nil, fun _ hmem => absurd hmem List.not_mem_nil,
      fun _ _ => List.nodup_nil⟩
  | cons plan plans ih =>
    unfold createPlannedColumns at h
    split at h
    · rename_i existing hexisting
      simp only [except_bind_eq_ok, pure, Except.pure, Except.ok.injEq, Prod.mk.injEq] at h
      obtain ⟨rest, hrest, rfl, rfl⟩ := h
      have hplanned := ih hrest
      refine ⟨by simp [hplanned.headers], ?_, ?_, ?_⟩
      · intro other hother
        rcases List.mem_cons.mp hother with rfl | hother
        · exact Or.inl (by simp [hexisting])
        · exact (hplanned.columns other hother).imp (List.mem_cons_of_mem _) id
      · intro other hother
        rcases List.mem_cons.mp hother with heq | hother
        · rw [hexisting, Option.some.injEq] at heq
          exact heq ▸ List.mem_cons_self
        · exact List.mem_cons_of_mem _ (hplanned.found other hother)
      · intro hnd hstored
        rw [List.filterMap_cons_some hexisting, List.nodup_cons] at hnd
        rw [List.filterMap_cons_some hexisting] at hstored
        rw [List.map_cons, List.nodup_cons]
        refine ⟨fun hmem => ?_, hplanned.nodup hnd.2 fun other hother =>
          hstored other (List.mem_cons_of_mem _ hother)⟩
        rcases hplanned.columns existing hmem with hfound | hfresh
        · exact hnd.1 (by simpa [List.mem_filterMap] using hfound)
        · have hsome := hstored existing List.mem_cons_self
          rw [hfresh] at hsome
          cases hsome
    · rename_i hexisting
      simp only [except_bind_eq_ok, pure, Except.pure, Except.ok.injEq, Prod.mk.injEq] at h
      obtain ⟨created, hcreated, rest, hrest, rfl, rfl⟩ := h
      obtain ⟨_, columns, hinsert, hgrid⟩ := insertColumn_eq_ok hcreated
      have hplanned := ih hrest
      have hget : ∀ other, created.columns.get? other =
          if other = columnId index then some (textInputColumn (columnId index) tableId plan.columnName)
          else grid.columns.get? other := by
        intro other
        rw [hgrid]
        exact Table.get?_insert hinsert other
      have hfresh : grid.columns.get? (columnId index) = none := (Table.insert_eq_some hinsert).2
      refine ⟨by simp [hplanned.headers], ?_, ?_, ?_⟩
      · intro other hother
        rcases List.mem_cons.mp hother with rfl | hother
        · exact Or.inr hfresh
        · rcases hplanned.columns other hother with hfound | hnone
          · exact Or.inl (List.mem_cons_of_mem _ hfound)
          · rw [hget] at hnone
            split at hnone
            · cases hnone
            · exact Or.inr hnone
      · intro other hother
        rcases List.mem_cons.mp hother with heq | hother
        · rw [hexisting] at heq
          cases heq
        · exact List.mem_cons_of_mem _ (hplanned.found other hother)
      · intro hnd hstored
        rw [List.filterMap_cons_none hexisting] at hnd hstored
        have hkept : ∀ other ∈ plans.filterMap CsvColumnPlan.existingColumnId,
            (created.columns.get? other).isSome := by
          intro other hother
          rw [hget]
          split
          · rfl
          · exact hstored other hother
        rw [List.map_cons, List.nodup_cons]
        refine ⟨fun hmem => ?_, hplanned.nodup hnd hkept⟩
        rcases hplanned.columns _ hmem with hfound | hnone
        · have hsome := hstored (columnId index) (by simpa [List.mem_filterMap] using hfound)
          rw [hfresh] at hsome
          cases hsome
        · rw [hget, if_pos rfl] at hnone
          cases hnone

end Created

section Mapped

variable {ν : Type} [JsRuntime ν]

structure MappingInjective (ν : Type) [JsRuntime ν] (mapping : List SourceField) : Prop where
  fields : (mapping.map fun item => normalizeHeader ν item.field).Nodup
  columns : (mapping.map SourceField.columnId).Nodup

def OneToOne (ν : Type) [JsRuntime ν] (mapping : List SourceField) : Prop :=
  ∀ left ∈ mapping, ∀ right ∈ mapping,
    left.columnId = right.columnId ↔ normalizeHeader ν left.field = normalizeHeader ν right.field

theorem MappingInjective.oneToOne {mapping : List SourceField} (h : MappingInjective ν mapping) :
    OneToOne ν mapping := by
  intro left hleft right hright
  constructor
  · intro hcolumn
    have hsame : left = right := List.inj_on_of_nodup_map h.columns hleft hright hcolumn
    rw [hsame]
  · intro hfield
    have hsame : left = right := List.inj_on_of_nodup_map h.fields hleft hright hfield
    rw [hsame]

def MapFields.keptFields (input : MapFields) (grid : Grid ν) : List SourceField :=
  (input.fieldMapping.getD []).filter fun item =>
    item.columnId ∈ ((unarchivedColumns grid input.tableId input.position).filter fun column =>
      column.kind = .input).map Column.id

def MapFields.newFields (input : MapFields) (grid : Grid ν) : List String :=
  input.fields.filter fun field =>
    normalizeHeader ν field ∉ (input.keptFields grid).map fun item => normalizeHeader ν item.field

def MapFields.FreeNames (input : MapFields) (grid : Grid ν) : Prop :=
  ∀ field ∈ input.newFields grid, ∀ columnId,
    namedColumn (unarchivedColumns grid input.tableId input.position) field = some columnId →
      columnId ∉ (input.keptFields grid).map SourceField.columnId

omit [JsRuntime ν] in
theorem mem_unarchivedColumns {grid : Grid ν} {tableId : String} {position : String → String} {column : Column ν}
    (h : column ∈ unarchivedColumns grid tableId position) : column ∈ grid.columns := by
  rw [unarchivedColumns, List.mem_insertionSort, List.mem_filter] at h
  exact h.1

omit [JsRuntime ν] in
theorem nodup_unarchivedColumns (grid : Grid ν) (tableId : String) (position : String → String) :
    ((unarchivedColumns grid tableId position).map Column.id).Nodup := by
  have hperm := (List.perm_insertionSort (fun left right : Column ν => position left.id ≤ position right.id)
    (grid.columns.records.filter fun column => column.tableId = tableId && column.archivedAt.isNone)).map Column.id
  rw [unarchivedColumns, hperm.nodup_iff]
  exact grid.columns.nodup.sublist (List.filter_sublist.map Column.id)

omit [JsRuntime ν] in
theorem get?_isSome_of_unarchived {grid : Grid ν} {tableId : String} {position : String → String} {columnId : String}
    (h : columnId ∈ (unarchivedColumns grid tableId position).map Column.id) :
    (grid.columns.get? columnId).isSome := by
  obtain ⟨column, hcolumn, rfl⟩ := List.mem_map.mp h
  have hget : grid.columns.get? column.id = some column := Table.get?_of_mem (mem_unarchivedColumns hcolumn)
  rw [hget]
  rfl

theorem mapFields_eq_ok {grid grid' : Grid ν} {input : MapFields} {mapping : List SourceField}
    (h : mapFields grid input = .ok (mapping, grid')) :
    ∃ plans created,
      HeadersPlanned (unarchivedColumns grid input.tableId input.position) (input.newFields grid) [] plans ∧
      ColumnsPlanned grid plans created ∧ mapping = input.keptFields grid ++ created := by
  simp only [mapFields, except_bind_eq_ok, pure, Except.pure, Except.ok.injEq, Prod.mk.injEq] at h
  obtain ⟨_, _, plans, hplans, created, hcreated, rfl, _⟩ := h
  exact ⟨plans, created.1, planHeaders_planned hplans, createPlannedColumns_planned hcreated, rfl⟩

theorem HeadersPlanned.mem_existing {existingColumns : List (Column ν)} {headers seen : List String}
    {plans : List CsvColumnPlan} (h : HeadersPlanned existingColumns headers seen plans) {columnId : String} :
    some columnId ∈ plans.map CsvColumnPlan.existingColumnId ↔
      ∃ header ∈ headers, namedColumn existingColumns header = some columnId := by
  rw [h.existing, List.mem_map]

theorem HeadersPlanned.nodup_existing {existingColumns : List (Column ν)} {headers seen : List String}
    {plans : List CsvColumnPlan} (h : HeadersPlanned existingColumns headers seen plans)
    (hnd : (existingColumns.map Column.id).Nodup) : (plans.filterMap CsvColumnPlan.existingColumnId).Nodup := by
  have hfound : plans.filterMap CsvColumnPlan.existingColumnId = headers.filterMap (namedColumn existingColumns) := by
    have hlists := congrArg (List.filterMap id) h.existing
    simpa [List.filterMap_map] using hlists
  have hpairs := List.pairwise_map.mp h.nodup
  rw [hfound]
  refine List.pairwise_filterMap.mpr (hpairs.imp ?_)
  rintro left right hdistinct columnId hleft _ hright rfl
  exact hdistinct (namedColumn_inj hnd hleft hright)

theorem mapFields_injective {grid grid' : Grid ν} {input : MapFields} {mapping : List SourceField}
    (h : mapFields grid input = .ok (mapping, grid')) (hstored : MappingInjective ν (input.fieldMapping.getD []))
    (hfree : input.FreeNames grid) : MappingInjective ν mapping := by
  obtain ⟨plans, created, hplanned, hcolumns, rfl⟩ := mapFields_eq_ok h
  have hkept : (input.keptFields grid).Sublist (input.fieldMapping.getD []) := List.filter_sublist
  have hnames : created.map (fun item => normalizeHeader ν item.field) =
      (input.newFields grid).map (normalizeHeader ν) := by
    have hheaders : created.map SourceField.field = (input.newFields grid).map jsTrim := by
      rw [hcolumns.headers, hplanned.trimmed]
    have hnormal := congrArg (List.map (normalizeHeader ν)) hheaders
    simpa [List.map_map, Function.comp_def, normalizeHeader_trim] using hnormal
  constructor
  · rw [List.map_append, hnames, List.nodup_append]
    refine ⟨hstored.fields.sublist (hkept.map _), hplanned.nodup, ?_⟩
    rintro name hname _ hnew rfl
    obtain ⟨field, hfield, rfl⟩ := List.mem_map.mp hnew
    have hnot := (List.mem_filter.mp hfield).2
    rw [decide_eq_true_eq] at hnot
    exact hnot hname
  · have hexisting : ∀ columnId ∈ plans.filterMap CsvColumnPlan.existingColumnId,
        (grid.columns.get? columnId).isSome := by
      intro columnId hmem
      obtain ⟨header, _, hheader⟩ := hplanned.mem_existing.mp (by simpa [List.mem_filterMap] using hmem)
      exact get?_isSome_of_unarchived (namedColumn_mem hheader)
    rw [List.map_append, List.nodup_append]
    refine ⟨hstored.columns.sublist (hkept.map _),
      hcolumns.nodup (hplanned.nodup_existing (nodup_unarchivedColumns grid _ _)) hexisting, ?_⟩
    rintro columnId hmem _ hnew rfl
    rcases hcolumns.columns columnId hnew with hfound | hfresh
    · obtain ⟨field, hfield, hnamed⟩ := hplanned.mem_existing.mp hfound
      exact hfree field hfield columnId hnamed hmem
    · obtain ⟨item, hitem, rfl⟩ := List.mem_map.mp hmem
      have hused := (List.mem_filter.mp hitem).2
      rw [decide_eq_true_eq] at hused
      have hin := (List.filter_sublist.map Column.id).subset hused
      have hsome := get?_isSome_of_unarchived hin
      rw [hfresh] at hsome
      cases hsome

end Mapped

section Runs

variable {ν : Type} [JsRuntime ν]

def SourcePage.mapFields (input : SourcePage) (source : SourceDefinition) : MapFields where
  tableId := input.tableId
  fieldMapping := source.fieldMapping
  fields := input.batch.fields
  tooManyFields := "A source cannot map more than 100 fields across all pages."
  position := input.position
  columnId := input.columnId

def PageNamesFree (workspace : SourceWorkspace ν) : SourceAction ν → Prop
  | .applyPage input => ∀ source, workspace.sources.definitions.get? input.sourceId = some source →
      (input.mapFields source).FreeNames workspace.db.grid
  | _ => True

def SourceMappings (store : SourceStore) (p : List SourceField → Prop) : Prop :=
  ∀ source ∈ store.definitions, p (source.fieldMapping.getD [])

theorem mappingInjective_nil : MappingInjective ν [] :=
  ⟨List.nodup_nil, List.nodup_nil⟩

theorem QuietChange.mappings {store store' : SourceStore} (h : QuietChange ν store store')
    (hmappings : SourceMappings store (MappingInjective ν)) : SourceMappings store' (MappingInjective ν) := by
  cases h with
  | defined definition definitions hinsert _ hmapping _ =>
    intro source hsource
    rcases (Table.mem_insert hinsert).mp hsource with hold | rfl
    · exact hmappings source hold
    · rw [hmapping]
      exact mappingInjective_nil
  | redefined sourceId f hf _ _ hmapping =>
    refine Table.forall_mem_modify hf hmappings fun source hsource => ?_
    rw [hmapping]
    exact hmappings source hsource
  | queued _ _ _ _ _ _ => exact hmappings
  | reported _ _ _ => exact hmappings

theorem Quiet.mappings {store store' : SourceStore} (h : Quiet ν store store')
    (hmappings : SourceMappings store (MappingInjective ν)) : SourceMappings store' (MappingInjective ν) := by
  induction h with
  | refl => exact hmappings
  | tail _ hchange ih => exact hchange.mappings ih

theorem PageApplied.mapping {workspace workspace' : SourceWorkspace ν} {input : SourcePage} {run : SourceRun}
    {source : SourceDefinition} {counts : PageCounts} {mapping : List SourceField}
    (h : PageApplied workspace input run source counts mapping workspace') :
    ∃ grid, ByokGrid.mapFields workspace.db.grid (input.mapFields source) = .ok (mapping, grid) := by
  obtain ⟨db, happlied, _⟩ := h.applied
  simp only [applyPageRecords, except_bind_eq_ok, pure, Except.pure, Except.ok.injEq, Prod.mk.injEq] at happlied
  obtain ⟨⟨mapped, grid⟩, hmapped, _, _, _, _, _, _, _, rfl, _⟩ := happlied
  exact ⟨grid, hmapped⟩

theorem step_mappings {workspace : SourceWorkspace ν} {action : SourceAction ν}
    (hmappings : SourceMappings workspace.sources (MappingInjective ν)) (hfree : PageNamesFree workspace action) :
    SourceMappings (workspace.step action).sources (MappingInjective ν) := by
  rcases step_sources workspace action with hquiet | ⟨input, run, source, counts, mapping, rfl, happlied⟩
  · exact hquiet.mappings hmappings
  · obtain ⟨hsource, _⟩ := Table.get?_eq_some.mp happlied.defined
    obtain ⟨grid, hmapped⟩ := happlied.mapping
    have hinjective : MappingInjective ν mapping :=
      mapFields_injective hmapped (hmappings source hsource) (hfree source happlied.defined)
    unfold SourceMappings
    rw [happlied.definitions]
    exact Table.forall_mem_modify _ hmappings fun _ _ => hinjective

end Runs

section Endpoints

variable {ν : Type} [JsRuntime ν] [ConnectorRuntime ν]

def IngestionChunk.mapFields (input : IngestionChunk) (batch : IngestionBatch) (endpoint : IngestionEndpoint) :
    MapFields where
  tableId := input.batch.tableId
  fieldMapping := endpoint.fieldMapping
  fields := batch.fields
  tooManyFields := "An ingestion endpoint cannot map more than 100 fields."
  position := input.position
  columnId := input.columnId

def ChunkNamesFree (workspace : IngestionWorkspace ν) : IngestionAction ν → Prop
  | .apply input => ∀ batch, workspace.batches.get? input.batch.batchId = some batch →
      ∀ endpoint, workspace.ingestion.endpoints.get? batch.endpointId = some endpoint →
        (input.mapFields batch endpoint).FreeNames workspace.db.grid
  | _ => True

def EndpointMappings (store : IngestionStore) (p : List SourceField → Prop) : Prop :=
  ∀ endpoint ∈ store.endpoints, p (endpoint.fieldMapping.getD [])

omit [ConnectorRuntime ν] in
theorem applyRecords_endpoints {workspace workspace' : IngestionWorkspace ν} {input : IngestionChunk}
    {batch : IngestionBatch} {endpoint : IngestionEndpoint} {staged : List IngestionStagedRecord}
    (h : applyIngestionRecords workspace input batch endpoint staged = .ok workspace') :
    ∃ mapping grid, mapFields workspace.db.grid (input.mapFields batch endpoint) = .ok (mapping, grid) ∧
      workspace'.ingestion.endpoints = workspace.ingestion.endpoints.modify
        (fun candidate => candidate.id = endpoint.id)
        (fun candidate => { candidate with fieldMapping := some mapping }) ⟨fun _ => rfl⟩ := by
  simp only [applyIngestionRecords, except_bind_eq_ok, pure, Except.pure, Except.ok.injEq] at h
  obtain ⟨⟨mapping, grid⟩, hmapped, _, _, _, _, rfl⟩ := h
  exact ⟨mapping, grid, hmapped, rfl⟩

omit [ConnectorRuntime ν] in
theorem apply_endpointMappings {workspace workspace' : IngestionWorkspace ν} {input : IngestionChunk}
    (h : applySqliteIngestionBatchChunk workspace input = .ok workspace')
    (hmappings : EndpointMappings workspace.ingestion (MappingInjective ν))
    (hfree : ChunkNamesFree workspace (.apply input)) :
    EndpointMappings workspace'.ingestion (MappingInjective ν) := by
  simp only [applySqliteIngestionBatchChunk, except_bind_eq_ok, requireSome_eq_ok] at h
  obtain ⟨batch, hbatch, endpoint, hendpoint, h⟩ := h
  obtain ⟨hget, _⟩ := Option.filter_eq_some_iff.mp hbatch
  split at h
  · simp only [completeIngestionBatch, except_bind_eq_ok, pure, Except.pure, Except.ok.injEq] at h
    obtain ⟨_, _, _, _, rfl⟩ := h
    exact hmappings
  · obtain ⟨mapping, grid, hmapped, hendpoints⟩ := applyRecords_endpoints h
    have hstored := hmappings endpoint (Table.get?_eq_some.mp hendpoint).1
    have hinjective : MappingInjective ν mapping :=
      mapFields_injective hmapped hstored (hfree batch hget endpoint hendpoint)
    unfold EndpointMappings
    rw [hendpoints]
    exact Table.forall_mem_modify _ hmappings fun _ _ => hinjective

omit [JsRuntime ν] [ConnectorRuntime ν] in
theorem stage_endpoints {workspace workspace' : IngestionWorkspace ν} {input : StageIngestionBatch}
    (h : stageSqliteIngestionBatch workspace input = .ok workspace') :
    workspace'.ingestion.endpoints = workspace.ingestion.endpoints := by
  simp only [stageSqliteIngestionBatch, except_bind_eq_ok, requireSome_eq_ok, requireThat_eq_ok] at h
  obtain ⟨endpoint, _, _, _, hrest⟩ := h
  split at hrest
  · simp only [except_bind_eq_ok, pure, Except.pure, Except.ok.injEq] at hrest
    obtain ⟨_, _, rfl⟩ := hrest
    rfl
  · simp only [except_bind_eq_ok, pure, Except.pure, Except.ok.injEq] at hrest
    obtain ⟨_, _, _, _, _, _, _, _, _, _, rfl⟩ := hrest
    rfl

theorem start_endpoints {store : IngestionStore} {input : IngestionBatchInput} {now : Int}
    {result : IngestionStart × IngestionStore} (h : markSqliteIngestionBatchRunning store input now = .ok result) :
    result.2.endpoints = store.endpoints := by
  simp only [markSqliteIngestionBatchRunning, except_bind_eq_ok, requireSome_eq_ok] at h
  obtain ⟨batch, _, hrest⟩ := h
  have hstarted : ∀ started, startActiveBatch store input.endpointId batch now = started →
      started.2.endpoints = store.endpoints := by
    rintro _ rfl
    unfold startActiveBatch
    split <;> rfl
  cases hstatus : batch.status with
  | queued =>
    simp only [hstatus, pure, Except.pure, Except.ok.injEq] at hrest
    exact hstarted result hrest
  | running =>
    simp only [hstatus, pure, Except.pure, Except.ok.injEq] at hrest
    exact hstarted result hrest
  | failed =>
    rw [hstatus] at hrest
    cases hrest
  | _ =>
    rw [hstatus] at hrest
    cases hrest
    rfl

theorem step_endpointMappings {workspace : IngestionWorkspace ν} {action : IngestionAction ν}
    (hmappings : EndpointMappings workspace.ingestion (MappingInjective ν))
    (hfree : ChunkNamesFree workspace action) :
    EndpointMappings (workspace.step action).ingestion (MappingInjective ν) := by
  have hcommit : ∀ result : Except StoreError (IngestionWorkspace ν),
      (∀ next, result = .ok next → EndpointMappings next.ingestion (MappingInjective ν)) →
      EndpointMappings (workspace.commit result).ingestion (MappingInjective ν) := by
    intro result hresult
    cases result with
    | error _ => exact hmappings
    | ok next => exact hresult next rfl
  cases action with
  | createEndpoint input =>
    refine hcommit (createSqliteIngestionEndpoint workspace input) fun next h => ?_
    simp only [createSqliteIngestionEndpoint, except_bind_eq_ok, requireSome_eq_ok, pure, Except.pure,
      Except.ok.injEq] at h
    obtain ⟨_, _, _, _, _, _, _, _, endpoints, hinsert, rfl⟩ := h
    intro endpoint hendpoint
    rcases (Table.mem_insert hinsert).mp hendpoint with hold | rfl
    · exact hmappings endpoint hold
    · exact mappingInjective_nil
  | revokeEndpoint input =>
    refine hcommit (revokeSqliteIngestionEndpoint workspace input) fun next h => ?_
    simp only [revokeSqliteIngestionEndpoint, except_bind_eq_ok, pure, Except.pure, Except.ok.injEq] at h
    obtain ⟨_, _, _, _, rfl⟩ := h
    unfold EndpointMappings
    apply Table.forall_mem_modify
    · exact ⟨fun _ => rfl⟩
    · exact hmappings
    · exact hmappings
  | stage input =>
    refine hcommit (stageSqliteIngestionBatch workspace input) fun next h => ?_
    have hkept : next.ingestion.endpoints = workspace.ingestion.endpoints := stage_endpoints h
    intro endpoint hendpoint
    rw [hkept] at hendpoint
    exact hmappings endpoint hendpoint
  | start input now =>
    cases hok : markSqliteIngestionBatchRunning workspace.ingestion input now with
    | error _ =>
      rw [IngestionWorkspace.step, hok]
      exact hmappings
    | ok result =>
      rw [IngestionWorkspace.step, hok]
      intro endpoint hendpoint
      have hold : endpoint ∈ result.2.endpoints := hendpoint
      rw [start_endpoints hok] at hold
      exact hmappings endpoint hold
  | apply input =>
    exact hcommit (applySqliteIngestionBatchChunk workspace input) fun _ h =>
      apply_endpointMappings h hmappings hfree
  | fail failure => exact hmappings
  | other db => exact hmappings

end Endpoints

section Sample

def signupEmail : Column SafeInteger where
  id := "email"
  tableId := "signups"
  name := "Email"
  kind := .input
  valueType := .number
  configuration := .plain
  archivedAt := none

def signupDatabase : Database SafeInteger where
  grid :=
    { dataTables := ⟨[⟨"signups", none⟩], by decide⟩
      columns := ⟨[signupEmail], by decide⟩
      columnDependencies := Table.empty
      rows := Table.empty
      cells := fun _ _ => none }
  workspaceMembers := ⟨[⟨"ada", .owner⟩], by decide⟩
  credentials := Table.empty
  connectorRevocations := Table.empty
  cellRuns := Table.empty
  bulkRunBatches := Table.empty
  bulkRunItems := Table.empty
  rowSettlements := Table.empty
  webhookDestinations := Table.empty
  writebackDestinations := Table.empty
  outbox := Table.empty

def signupPage (page : Int) (key field : String) (cursor : Option String) : SourcePage where
  batch := ⟨[field], [⟨key, [(field, some "ada@example.com")]⟩]⟩
  expectedPage := page
  nextCursorEncrypted := cursor
  sourceId := "signups"
  sourceRunId := "import"
  tableId := "signups"
  position := id
  columnId _ := key
  rowId _ := key
  mutation _ := ⟨key, key, page⟩
  eventId := key
  now := page

def signupActions (first second : String) : List (SourceAction SafeInteger) :=
  [.createHttpJson
      { sourceId := "signups", tableId := "signups", userId := "ada", name := "Signups", credentialId := none,
        maxRecords := 10, maxPages := 2, paginationMode := .cursor, schedule := .manual, now := 0 },
    .queueManual
      { sourceId := "signups", tableId := "signups", userId := "ada", runId := "import", eventId := "queued", now := 0 },
    .start "signups" "import" 0,
    .applyPage (signupPage 1 "first" first (some "next")),
    .applyPage (signupPage 2 "second" second none)]

def signupWorkspace : SourceWorkspace SafeInteger := SourceWorkspace.initial signupDatabase

def signupMapping (first second : String) : List (List SourceField) :=
  (signupWorkspace.run (signupActions first second)).sources.definitions.records.map fun source =>
    source.fieldMapping.getD []

theorem freeNames_of_unmapped {input : MapFields} {grid : Grid SafeInteger} (h : input.fieldMapping = none) :
    input.FreeNames grid := by
  intro field _ columnId _ hkept
  rw [MapFields.keptFields, h] at hkept
  exact absurd hkept List.not_mem_nil

theorem signupActions_namesFree :
    EachStep SourceWorkspace.step PageNamesFree signupWorkspace (signupActions "Name" "Company") := by
  refine ⟨trivial, trivial, trivial, ?_, ?_, trivial⟩
  · intro source hsource
    have hunmapped : source.fieldMapping = none := by
      have hmappings : (signupWorkspace.run ((signupActions "Name" "Company").take 3)).sources.definitions.records.map
          SourceDefinition.fieldMapping = [none] := by decide +kernel
      have hmem := List.mem_map_of_mem (Table.get?_eq_some.mp hsource).1 (f := SourceDefinition.fieldMapping)
      exact List.mem_singleton.mp (hmappings ▸ hmem)
    exact freeNames_of_unmapped hunmapped
  · intro source _ field hfield columnId hnamed
    have hnew : field = "Company" := List.mem_singleton.mp (List.mem_filter.mp hfield).1
    have hnone : namedColumn (unarchivedColumns
        (signupWorkspace.run ((signupActions "Name" "Company").take 4)).db.grid "signups" id) "Company" = none := by
      decide +kernel
    rw [hnew] at hnamed
    exact absurd (hnone.symm.trans hnamed) nofun

def contactChunks : List (IngestionAction SafeInteger) :=
  [contactDelivery "a" "delivery-1", .start (contactInput "a") 1, .apply (contactChunk "a")]

theorem contactChunks_namesFree :
    EachStep IngestionWorkspace.step ChunkNamesFree contactWorkspace contactChunks := by
  refine ⟨trivial, trivial, ?_, trivial⟩
  intro batch _ endpoint hendpoint
  have hunmapped : endpoint.fieldMapping = none := by
    have hmem : endpoint ∈ [contactEndpoint] := (Table.get?_eq_some.mp hendpoint).1
    rw [List.mem_singleton.mp hmem]
    rfl
  exact freeNames_of_unmapped hunmapped

theorem signupWorkspace_unmapped : ∀ source ∈ signupWorkspace.sources.definitions, source.fieldMapping = none :=
  fun _ hsource => absurd hsource Table.not_mem_empty

end Sample

end ByokGrid
