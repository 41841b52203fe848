import ByokGrid.GridTraversal
import ByokGrid.SchemaSystem

/-! The workspaces which users get and change, from an empty store: their views can be opened, their
columns depend on columns in use, and archived columns can be brought back. -/

namespace ByokGrid

section Kept

variable {ν : Type} [JsRuntime ν]

structure SchemaKept (s : SchemaWorkspace ν) : Prop where
  sound : SchemaSound s.grid
  views : s.gridStore.ViewsKept

theorem SchemaKept.withViews {s : SchemaWorkspace ν} {store : GridStore ν} (hkept : SchemaKept s)
    (h : store.db = s.db ∧ store.position = s.position ∧ store.ViewsKept) : SchemaKept (s.withViews store.savedGridViews) := by
  obtain ⟨hdb, _, hviews⟩ := h
  refine ⟨hkept.sound, fun view hview => ?_⟩
  have hvalid := hviews view hview
  rw [hdb] at hvalid
  exact hvalid

theorem SchemaWorkspace.commit_holds {α : Type} {P : SchemaWorkspace ν → Prop} {s : SchemaWorkspace ν} {result : Except StoreError α}
    {f : α → SchemaWorkspace ν} (hs : P s) (h : ∀ value, result = .ok value → P (f value)) : P (s.commit result f) := by
  cases hresult : result with
  | error _ => exact hs
  | ok value => exact h value hresult

variable [ValueRuntime ν] [DigestRuntime] [FormulaLanguage ν] [EndpointRuntime]

theorem step_kept {s : SchemaWorkspace ν} {action : SchemaAction ν} (hkept : SchemaKept s) (hkeeps : KeepsSchema s action) :
    SchemaKept (s.step action) := by
  cases hview : action.isView with
  | true =>
    cases action with
    | createView scope viewId input now =>
      exact SchemaWorkspace.commit_holds hkept fun _ h => hkept.withViews (createSqliteSavedGridView_keeps hkept.views h)
    | updateView scope viewId input now =>
      exact SchemaWorkspace.commit_holds hkept fun _ h => hkept.withViews (updateSqliteSavedGridView_keeps hkept.views h)
    | deleteView scope viewId =>
      exact SchemaWorkspace.commit_holds hkept fun _ h => hkept.withViews (deleteSqliteSavedGridView_keeps hkept.views h)
    | _ => cases hview
  | false =>
    have hsteps := step_gridSteps hview hkeeps
    refine ⟨effects_sound hsteps.effects hkept.sound, fun view hmem => ?_⟩
    change view ∈ (s.step action).savedGridViews at hmem
    rw [hsteps.views] at hmem
    exact effects_valid hsteps.effects hmem (hkept.views view hmem)

theorem step_view_grid {s : SchemaWorkspace ν} {action : SchemaAction ν} (hview : action.isView = true) :
    (s.step action).grid = s.grid := by
  cases action with
  | createView scope viewId input now => exact SchemaWorkspace.commit_holds (P := fun after => after.grid = s.grid) rfl fun _ _ => rfl
  | updateView scope viewId input now => exact SchemaWorkspace.commit_holds (P := fun after => after.grid = s.grid) rfl fun _ _ => rfl
  | deleteView scope viewId => exact SchemaWorkspace.commit_holds (P := fun after => after.grid = s.grid) rfl fun _ _ => rfl
  | _ => cases hview

theorem step_formulasChecked {s : SchemaWorkspace ν} {action : SchemaAction ν} (hkept : SchemaKept s) (hkeeps : KeepsSchema s action)
    (hfree : ConvertsFree s action) (hchecked : FormulasChecked s.grid) : FormulasChecked (s.step action).grid := by
  by_cases hretypes : ∃ id, action.retyped id
  · cases action with
    | convertColumn scope input now stored cells =>
      refine SchemaWorkspace.commit_holds (P := fun after => FormulasChecked after.grid) hchecked fun _ h => ?_
      refine (convertColumn_effect h).1.formulasChecked hkept.sound ?_ hchecked
      rintro id rfl
      exact hfree
    | _ => exact hretypes.elim fun id hid => hid.elim
  · cases hview : action.isView with
    | true =>
      rw [step_view_grid hview]
      exact hchecked
    | false =>
      exact effects_formulasChecked (step_gridSteps hview hkeeps).effects (fun id hid => hretypes ⟨id, hid⟩) hkept.sound hchecked

end Kept

structure SqliteLocalUser where
  id : String
  name : String
  deriving Repr, DecidableEq

structure StarterIds where
  workspaceId : String
  tableId : String
  companyColumnId : String
  domainColumnId : String
  deriving Repr, DecidableEq

structure StoredWorkspace (ν : Type) where
  name : String
  slug : String
  schema : SchemaWorkspace ν

/-- A workspace is provisioned for a user, changed, or purged; what a purge asks for is left out. -/
inductive WorkspacesAction (ν : Type) where
  | ensure (ids : StarterIds) (user : SqliteLocalUser)
  | change (workspaceId : String) (action : SchemaAction ν)
  | purge (workspaceId : String)

section Starter

variable {ν : Type}

def starterGrid (ids : StarterIds) : Except StoreError (Grid ν) := do
  let tables : Table DataTable := Table.singleton { id := ids.tableId, archivedAt := none }
  let company ← insertColumn { Grid.empty with dataTables := tables } (textInputColumn ids.companyColumnId ids.tableId "Company")
  insertColumn company (textInputColumn ids.domainColumnId ids.tableId "Domain")

def starterWorkspace (ids : StarterIds) (userId : String) (grid : Grid ν) : SchemaWorkspace ν where
  id := ids.workspaceId
  workspace :=
    { db :=
        { grid := grid
          workspaceMembers := Table.singleton { userId := userId, role := .owner }
          credentials := Table.empty
          connectorRevocations := Table.empty
          cellRuns := Table.empty
          bulkRunBatches := Table.empty
          bulkRunItems := Table.empty
          rowSettlements := Table.empty
          webhookDestinations := Table.empty
          writebackDestinations := Table.empty
          outbox := Table.empty }
      sources := { definitions := Table.empty, runs := Table.empty, records := Table.empty }
      ingestion := { endpoints := Table.empty, batches := Table.empty, stagedRecords := Table.empty, records := Table.empty }
      imports := { jobs := Table.empty, stagedRows := Table.empty } }
  savedGridViews := Table.empty
  position _ := ""
  tableName _ := "Companies"
  webhookDeliveries := Table.empty
  writebackDeliveries := Table.empty
  archiveEvents := []
  conversionEvents := []

/-- The workspaces of the store are in the order of their creation: a user gets the first one of which he is a member,
or a new one. -/
def ensureSqlitePersonalWorkspace (stored : List (StoredWorkspace ν)) (ids : StarterIds) (user : SqliteLocalUser) :
    Except StoreError (StoredWorkspace ν × List (StoredWorkspace ν)) :=
  match stored.find? fun workspace => (workspace.schema.db.workspaceMembers.get? user.id).isSome with
  | some existing => .ok (existing, stored)
  | none => do
    let slug := "personal-" ++ user.id
    requireThat (!stored.any fun workspace => workspace.schema.id = ids.workspaceId) (.constraint "workspaces_id")
    requireThat (!stored.any fun workspace => workspace.slug = slug) (.constraint "workspaces_slug_unique")
    let grid ← starterGrid ids
    let created : StoredWorkspace ν :=
      { name := user.name ++ "'s workspace", slug := slug, schema := starterWorkspace ids user.id grid }
    return (created, stored ++ [created])

theorem SchemaSound.plain {grid : Grid ν} (hdependencies : grid.columnDependencies = Table.empty)
    (hplain : ∀ column ∈ grid.columns, column.kind = .input ∧ column.valueType ≠ .empty)
    (hcolumns : ∀ table ∈ grid.dataTables, ∃ id column, activeColumn? grid table.id id = some column)
    (htables : ∃ table ∈ grid.dataTables, table.archivedAt = none) : SchemaSound grid := by
  have hnone : ∀ d, d ∉ grid.columnDependencies := by
    rw [hdependencies]
    exact fun _ => Table.not_mem_empty
  have hedges : ∀ {child parent}, ¬ grid.registry.dependsOn child parent := fun ⟨d, hd, _⟩ => hnone d hd
  refine ⟨⟨fun hedge => (hedges hedge).elim, fun _ hedge => (hedges hedge).elim, ?_⟩, fun d hd => absurd hd (hnone d),
    fun id column hcolumn => ?_, fun id column hcolumn hkind => ?_, hcolumns, htables⟩
  · intro id hcycle
    obtain ⟨_, _, hedge⟩ := Relation.TransGen.tail'_iff.mp hcycle
    exact hedges hedge
  · exact (hplain column (Table.get?_eq_some.mp hcolumn).1).2
  · rw [(hplain column (Table.get?_eq_some.mp hcolumn).1).1] at hkind
    cases hkind

theorem starterGrid_ok {ids : StarterIds} {grid : Grid ν} (h : starterGrid ids = .ok grid) :
    grid.dataTables = Table.singleton { id := ids.tableId, archivedAt := none } ∧ SchemaSound grid ∧
      ∀ column ∈ grid.columns, column.kind = .input := by
  obtain ⟨company, hcompany, hdomain⟩ := except_bind_eq_ok.mp h
  obtain ⟨hfirst, hcompanyGrid⟩ := insertColumn_columns hcompany
  obtain ⟨hsecond, hgrid⟩ := insertColumn_columns hdomain
  have hcolumns : ∀ column, column ∈ grid.columns ↔
      column = textInputColumn ids.companyColumnId ids.tableId "Company" ∨
        column = textInputColumn ids.domainColumnId ids.tableId "Domain" := by
    intro column
    rw [Table.mem_insert hsecond, Table.mem_insert hfirst]
    exact or_congr_left (or_iff_right Table.not_mem_empty)
  have hplain : ∀ column ∈ grid.columns, column.kind = .input ∧ column.valueType ≠ .empty := by
    intro column hcolumn
    rcases (hcolumns column).mp hcolumn with rfl | rfl
    · exact ⟨rfl, by simp [textInputColumn]⟩
    · exact ⟨rfl, by simp [textInputColumn]⟩
  have htables : grid.dataTables = Table.singleton { id := ids.tableId, archivedAt := none } := by
    rw [hgrid, hcompanyGrid]
  have hdependencies : grid.columnDependencies = Table.empty := by
    rw [hgrid, hcompanyGrid]
    rfl
  refine ⟨htables, SchemaSound.plain hdependencies hplain (fun table htable => ?_) ?_, fun column hcolumn => (hplain column hcolumn).1⟩
  · rw [htables] at htable
    have htableId : table = { id := ids.tableId, archivedAt := none } := List.mem_singleton.mp htable
    exact ⟨_, _, activeColumn?_eq_some.mpr ⟨(hcolumns _).mpr (Or.inl rfl), rfl, by rw [htableId]; rfl, rfl⟩⟩
  · rw [htables]
    exact ⟨_, List.mem_singleton_self _, rfl⟩

variable [JsRuntime ν]

theorem starterWorkspace_kept {ids : StarterIds} {userId : String} {grid : Grid ν} (h : starterGrid ids = .ok grid) :
    SchemaKept (starterWorkspace ids userId grid) ∧ FormulasChecked (starterWorkspace ids userId grid).grid := by
  obtain ⟨_, hsound, hinput⟩ := starterGrid_ok h
  refine ⟨⟨hsound, fun view hview => absurd hview Table.not_mem_empty⟩, fun id column hcolumn hkind => ?_⟩
  rw [hinput column (Table.get?_eq_some.mp hcolumn).1] at hkind
  cases hkind

end Starter

section Restore

variable {ν : Type}

def restoreColumns (scope : TableScope) (order : List String) : List (SchemaAction ν) :=
  order.map fun columnId => .restoreColumn { scope with columnId := columnId }

def ArchivedIn (grid : Grid ν) (tableId columnId : String) : Prop :=
  ∃ column, grid.columns.get? columnId = some column ∧ column.tableId = tableId ∧ column.archivedAt ≠ none

theorem SchemaSound.parent_in_table {grid : Grid ν} (hsound : SchemaSound grid) {tableId childId parentId : String}
    (hchild : ArchivedIn grid tableId childId) (hedge : grid.registry.dependsOn childId parentId) :
    grid.registry.InUse parentId ∨ ArchivedIn grid tableId parentId := by
  obtain ⟨child, hget, htable, _⟩ := hchild
  obtain ⟨parent, hparent⟩ := hsound.parent hedge
  obtain ⟨d, hd, rfl, rfl⟩ := hedge
  have hsame : parent.tableId = tableId :=
    (hsound.within d hd _ parent (Or.inr rfl) hparent).trans ((hsound.within d hd _ child (Or.inl rfl) hget).symm.trans htable)
  by_cases hactive : parent.archivedAt = none
  · exact Or.inl (registry_inUse.mpr ⟨parent, hparent, hactive⟩)
  · exact Or.inr ⟨parent, hparent, hsame, hactive⟩

theorem archivedIn_restored {grid : Grid ν} {tableId columnId id : String} :
    ArchivedIn (grid.setColumnArchived columnId none) tableId id ↔ ArchivedIn grid tableId id ∧ id ≠ columnId := by
  constructor
  · rintro ⟨column, hcolumn, hsame, hactive⟩
    rw [setColumnArchived_get?] at hcolumn
    obtain ⟨old, hold, rfl⟩ := Option.map_eq_some_iff.mp hcolumn
    split_ifs at hsame hactive with hid
    · exact absurd rfl hactive
    · exact ⟨⟨old, hold, hsame, hactive⟩, hid⟩
  · rintro ⟨⟨column, hcolumn, hsame, hactive⟩, hother⟩
    exact ⟨column, by rw [setColumnArchived_get?, hcolumn, Option.map_some, if_neg hother], hsame, hactive⟩

def Column.restoredIn (tableId : String) (column : Column ν) : Column ν :=
  if column.tableId = tableId then column.setArchived none else column

theorem restoredIn_of_none {grid : Grid ν} {tableId : String} (hnone : ∀ id, ¬ ArchivedIn grid tableId id) (id : String) :
    (grid.columns.get? id).map (Column.restoredIn tableId) = grid.columns.get? id := by
  cases hget : grid.columns.get? id with
  | none => rfl
  | some column =>
    rw [Option.map_some, Column.restoredIn]
    split_ifs with hsame
    · have hactive : column.archivedAt = none := by
        by_contra hne
        exact hnone id ⟨column, hget, hsame, hne⟩
      rw [Column.setArchived, ← hactive]
    · rfl

theorem restoredIn_restored {grid : Grid ν} {tableId columnId : String} (harchived : ArchivedIn grid tableId columnId) (id : String) :
    ((grid.setColumnArchived columnId none).columns.get? id).map (Column.restoredIn tableId) =
      (grid.columns.get? id).map (Column.restoredIn tableId) := by
  rw [setColumnArchived_get?, Option.map_map]
  cases hget : grid.columns.get? id with
  | none => rfl
  | some column =>
    rw [Option.map_some, Option.map_some, Function.comp_apply]
    by_cases hid : id = columnId
    · obtain ⟨other, hother, hsame, _⟩ := harchived
      rw [← hid, hget] at hother
      cases hother
      have hkept : (column.setArchived none).tableId = tableId := hsame
      rw [if_pos hid, Column.restoredIn, if_pos hkept, Column.restoredIn, if_pos hsame]
      rfl
    · rw [if_neg hid]

theorem missingDependency?_none {grid : Grid ν} {tableId columnId : String}
    (havailable : ∀ parentId, grid.registry.dependsOn columnId parentId → grid.registry.InUse parentId) :
    missingDependency? grid tableId columnId = none := by
  rw [missingDependency?, List.head?_eq_none_iff, List.flatMap_eq_nil_iff]
  intro d hd
  obtain ⟨hmem, hscope⟩ := List.mem_filter.mp hd
  simp only [Bool.and_eq_true, decide_eq_true_eq] at hscope
  obtain ⟨parent, hparent, hactive⟩ := registry_inUse.mp (havailable d.dependsOnColumnId ⟨d, hmem, hscope.2, rfl⟩)
  apply List.filter_eq_nil_iff.mpr
  intro column hcolumn hfound
  simp only [Bool.and_eq_true, decide_eq_true_eq] at hfound
  have hget : grid.columns.get? d.dependsOnColumnId = some column := Table.get?_eq_some.mpr ⟨hcolumn, hfound.1⟩
  rw [hparent] at hget
  cases hget
  rw [hactive] at hfound
  cases hfound.2

theorem restoreSqliteWorkspaceColumn_ok (s : SchemaWorkspace ν) (scope : ColumnScope) {table : LifecycleTable} (hmanager : requireSchemaManager (s.lifecycle []) scope = .ok ())
    (htable : requireLifecycleTable (s.lifecycle []) scope = .ok table) (harchived : ArchivedIn s.grid scope.tableId scope.columnId)
    (havailable : ∀ parentId, s.grid.registry.dependsOn scope.columnId parentId → s.grid.registry.InUse parentId) :
    ∃ column events, restoreSqliteWorkspaceColumn s scope =
      .ok (column, { s.withGrid (s.grid.setColumnArchived scope.columnId none) with archiveEvents := events }) := by
  obtain ⟨column, hget, htableId, hnone⟩ := harchived
  obtain ⟨archivedAt, harchivedAt⟩ := Option.ne_none_iff_exists'.mp hnone
  have hid : column.id = scope.columnId := (Table.get?_eq_some.mp hget).2
  have hfound : (s.grid.columns.get? scope.columnId).filter (fun column => column.tableId = scope.tableId) = some column := by
    rw [hget, Option.filter_some, decide_eq_true htableId]
    rfl
  rw [restoreSqliteWorkspaceColumn, hmanager, except_ok_bind, htable, except_ok_bind, hfound]
  rw [requireSome, except_ok_bind, harchivedAt, requireSome, except_ok_bind, missingDependency?_none havailable, hid]
  exact ⟨_, _, rfl⟩

end Restore

section Runs

variable {ν : Type} [JsRuntime ν] [ValueRuntime ν] [DigestRuntime] [FormulaLanguage ν] [EndpointRuntime]

def StoredWorkspace.change (workspaceId : String) (action : SchemaAction ν) (stored : StoredWorkspace ν) : StoredWorkspace ν :=
  if stored.schema.id = workspaceId then { stored with schema := stored.schema.step action } else stored

def stepWorkspaces (stored : List (StoredWorkspace ν)) : WorkspacesAction ν → List (StoredWorkspace ν)
  | .ensure ids user =>
    match ensureSqlitePersonalWorkspace stored ids user with
    | .ok result => result.2
    | .error _ => stored
  | .change workspaceId action => stored.map (StoredWorkspace.change workspaceId action)
  | .purge workspaceId => stored.filter fun workspace => workspace.schema.id ≠ workspaceId

def runWorkspaces (actions : List (WorkspacesAction ν)) : List (StoredWorkspace ν) :=
  runActions stepWorkspaces [] actions

def ChangesMeet (condition : SchemaWorkspace ν → SchemaAction ν → Prop) (stored : List (StoredWorkspace ν)) :
    WorkspacesAction ν → Prop
  | .change workspaceId action => ∀ workspace ∈ stored, workspace.schema.id = workspaceId → condition workspace.schema action
  | _ => True

theorem stepWorkspaces_forall {P : SchemaWorkspace ν → Prop} {condition : SchemaWorkspace ν → SchemaAction ν → Prop}
    (hstarter : ∀ ids userId grid, starterGrid ids = .ok grid → P (starterWorkspace ids userId grid))
    (hstep : ∀ s action, P s → condition s action → P (s.step action)) (stored : List (StoredWorkspace ν))
    (action : WorkspacesAction ν) (hall : ∀ workspace ∈ stored, P workspace.schema) (hmeets : ChangesMeet condition stored action) :
    ∀ workspace ∈ stepWorkspaces stored action, P workspace.schema := by
  intro workspace hmem
  cases action with
  | ensure ids user =>
    rw [stepWorkspaces, ensureSqlitePersonalWorkspace] at hmem
    cases hfound : stored.find? fun workspace => (workspace.schema.db.workspaceMembers.get? user.id).isSome with
    | some existing =>
      rw [hfound] at hmem
      exact hall workspace hmem
    | none =>
      rw [hfound] at hmem
      split at hmem
      · rename_i result hresult
        simp only [except_bind_eq_ok, pure, Except.pure, Except.ok.injEq] at hresult
        obtain ⟨_, _, _, _, grid, hgrid, rfl⟩ := hresult
        rcases List.mem_append.mp hmem with hold | hnew
        · exact hall workspace hold
        · rw [List.mem_singleton.mp hnew]
          exact hstarter ids user.id grid hgrid
      · exact hall workspace hmem
  | change workspaceId change =>
    obtain ⟨before, hbefore, rfl⟩ := List.mem_map.mp hmem
    rw [StoredWorkspace.change]
    split
    · rename_i hid
      exact hstep before.schema change (hall before hbefore) (hmeets before hbefore hid)
    · exact hall before hbefore
  | purge workspaceId => exact hall workspace (List.mem_filter.mp hmem).1

theorem runWorkspaces_forall {P : SchemaWorkspace ν → Prop} {condition : SchemaWorkspace ν → SchemaAction ν → Prop}
    (hstarter : ∀ ids userId grid, starterGrid ids = .ok grid → P (starterWorkspace ids userId grid))
    (hstep : ∀ s action, P s → condition s action → P (s.step action)) {actions : List (WorkspacesAction ν)}
    (hrun : EachStep stepWorkspaces (ChangesMeet condition) [] actions) :
    ∀ workspace ∈ runWorkspaces actions, P workspace.schema :=
  hrun.invariant (stepWorkspaces_forall hstarter hstep) fun _ hmem => absurd hmem List.not_mem_nil

theorem runWorkspaces_kept {actions : List (WorkspacesAction ν)}
    (hrun : EachStep stepWorkspaces (ChangesMeet KeepsSchema) [] actions) :
    ∀ workspace ∈ runWorkspaces actions, SchemaKept workspace.schema :=
  runWorkspaces_forall (fun _ _ _ hgrid => (starterWorkspace_kept hgrid).1) (fun _ _ => step_kept) hrun

theorem runWorkspaces_checked {actions : List (WorkspacesAction ν)}
    (hrun : EachStep stepWorkspaces (ChangesMeet fun s action => KeepsSchema s action ∧ ConvertsFree s action) [] actions) :
    ∀ workspace ∈ runWorkspaces actions, SchemaKept workspace.schema ∧ FormulasChecked workspace.schema.grid :=
  runWorkspaces_forall (P := fun s => SchemaKept s ∧ FormulasChecked s.grid) (fun _ _ _ hgrid => starterWorkspace_kept hgrid)
    (fun _ _ hboth hmeets => ⟨step_kept hboth.1 hmeets.1, step_formulasChecked hboth.1 hmeets.1 hmeets.2 hboth.2⟩) hrun

theorem restoreColumns_all (scope : TableScope) {table : LifecycleTable} (archived : List String) {s : SchemaWorkspace ν}
    (hsound : SchemaSound s.grid) (hmanager : requireSchemaManager (s.lifecycle []) scope.columnScope = .ok ())
    (htable : requireLifecycleTable (s.lifecycle []) scope.columnScope = .ok table)
    (harchived : ∀ id, id ∈ archived ↔ ArchivedIn s.grid scope.tableId id) :
    ∃ order, (∀ id ∈ order, id ∈ archived) ∧ ∀ id, (s.run (restoreColumns scope order)).grid.columns.get? id =
      (s.grid.columns.get? id).map (Column.restoredIn scope.tableId) := by
  -- The induction is on the number of archived columns, of which the acyclic dependencies leave one free.
  induction hlength : archived.length using Nat.strong_induction_on generalizing archived s with
  | h n ih =>
    by_cases hne : archived = []
    · have hnone : ∀ id, ¬ ArchivedIn s.grid scope.tableId id := by
        intro id hid
        rw [← harchived, hne] at hid
        cases hid
      exact ⟨[], fun id hid => absurd hid List.not_mem_nil, fun id => (restoredIn_of_none hnone id).symm⟩
    · obtain ⟨columnId, hmem, havailable⟩ := hsound.registry.exists_restorable hne fun childId hchild parentId hedge =>
        (hsound.parent_in_table ((harchived childId).mp hchild) hedge).imp_right (harchived parentId).mpr
      have hcolumn := (harchived columnId).mp hmem
      obtain ⟨restored, events, hrestore⟩ := restoreSqliteWorkspaceColumn_ok s { scope with columnId := columnId }
        hmanager htable hcolumn havailable
      let next := { s.withGrid (s.grid.setColumnArchived columnId none) with archiveEvents := events }
      have hstep : s.step (.restoreColumn { scope with columnId := columnId }) = next := by
        rw [SchemaWorkspace.step, hrestore]
        rfl
      have hsteps : GridSteps (fun _ => False) s next := restoreSqliteWorkspaceColumn_steps hrestore
      have hnext : SchemaSound next.grid := effects_sound hsteps.effects hsound
      have hrest : ∀ id, id ∈ archived.filter (fun id => id ≠ columnId) ↔ ArchivedIn next.grid scope.tableId id := by
        intro id
        rw [List.mem_filter, harchived, decide_eq_true_eq]
        exact archivedIn_restored.symm
      have hshorter : (archived.filter fun id => id ≠ columnId).length < n := by
        rw [← hlength]
        exact List.length_filter_lt_length_iff_exists.mpr ⟨columnId, hmem, by simp⟩
      obtain ⟨order, horder, hcolumns⟩ := ih _ hshorter (archived.filter fun id => id ≠ columnId) hnext hmanager htable hrest rfl
      refine ⟨columnId :: order, ?_, fun id => ?_⟩
      · intro id hid
        rcases List.mem_cons.mp hid with rfl | hid
        · exact hmem
        · exact (List.mem_filter.mp (horder id hid)).1
      · change (((s.step _).run (restoreColumns scope order)).grid.columns.get? id) = _
        rw [hstep, hcolumns id]
        exact restoredIn_restored hcolumn id

section Reached

variable {actions : List (WorkspacesAction ν)} {stored : StoredWorkspace ν}

omit [JsRuntime ν] [ValueRuntime ν] [DigestRuntime] [FormulaLanguage ν] [EndpointRuntime] in
theorem requireSortColumn_ok {grid : Grid ν} (hsound : SchemaSound grid) {tableId : String} {sort : Option GridViewSort}
    (hsort : ∀ s ∈ sort, grid.TakesSort tableId s) : ∃ typed, requireSortColumn grid tableId sort = .ok typed := by
  cases sort with
  | none => exact ⟨none, rfl⟩
  | some s =>
    obtain ⟨column, hcolumn, hjson⟩ := hsort s rfl
    obtain ⟨hget, _, _⟩ := activeColumn?_get.mp hcolumn
    have htyped := hsound.typed _ column hget
    refine ⟨some ⟨s, column.valueType⟩, ?_⟩
    rw [requireSortColumn, hcolumn, Option.filter_some, decide_eq_true htyped, decide_eq_true hjson]
    rfl

/-- A column in use depends on columns in use of its table, and a recompute finds an order for all it reaches. -/
theorem dependencies_in_use (hrun : EachStep stepWorkspaces (ChangesMeet KeepsSchema) [] actions)
    (hstored : stored ∈ runWorkspaces actions) :
    (∀ d ∈ stored.schema.grid.columnDependencies, ∀ child,
      activeColumn? stored.schema.grid d.tableId d.columnId = some child →
        ∃ parent, activeColumn? stored.schema.grid d.tableId d.dependsOnColumnId = some parent) ∧
    ∀ tableId changed, TopologicalOrder (reachableColumns (stored.schema.grid.dependenciesOf tableId) changed)
      (reachableEdge (stored.schema.grid.dependenciesOf tableId) (reachableColumns (stored.schema.grid.dependenciesOf tableId) changed))
      (orderReachable (stored.schema.grid.dependenciesOf tableId)
        (reachableColumns (stored.schema.grid.dependenciesOf tableId) changed)) := by
  have hsound := (runWorkspaces_kept hrun stored hstored).sound
  refine ⟨fun d hd child hchild => ?_, fun tableId changed => ?_⟩
  · obtain ⟨hget, _, hactive⟩ := activeColumn?_get.mp hchild
    have hparentUsed := hsound.registry.closed (registry_inUse.mpr ⟨child, hget, hactive⟩) ⟨d, hd, rfl, rfl⟩
    obtain ⟨parent, hparent, hused⟩ := registry_inUse.mp hparentUsed
    exact ⟨parent, activeColumn?_get.mpr ⟨hparent, hsound.within d hd _ parent (Or.inr rfl) hparent, hused⟩⟩
  · exact orderReachable_topological _ (nodup_reachableColumns _ _) (hsound.acyclic tableId _)

/-- Every table has a column in use, and the workspace a table in use. -/
theorem schema_left (hrun : EachStep stepWorkspaces (ChangesMeet KeepsSchema) [] actions) (hstored : stored ∈ runWorkspaces actions) :
    (∃ table ∈ stored.schema.grid.dataTables, table.archivedAt = none) ∧
      ∀ table ∈ stored.schema.grid.dataTables, ∃ columnId column, activeColumn? stored.schema.grid table.id columnId = some column :=
  ⟨(runWorkspaces_kept hrun stored hstored).sound.tableLeft, (runWorkspaces_kept hrun stored hstored).sound.columnLeft⟩

/-- Whatever was archived in a table in use, a manager of the schema restores all of it, column by column. -/
theorem archived_columns_restored (hrun : EachStep stepWorkspaces (ChangesMeet KeepsSchema) [] actions)
    (hstored : stored ∈ runWorkspaces actions) {scope : TableScope} {table : LifecycleTable}
    (hmanager : requireSchemaManager (stored.schema.lifecycle []) scope.columnScope = .ok ())
    (htable : requireLifecycleTable (stored.schema.lifecycle []) scope.columnScope = .ok table) :
    ∃ order, (∀ id ∈ order, ArchivedIn stored.schema.grid scope.tableId id) ∧
      ∀ id, (stored.schema.run (restoreColumns scope order)).grid.columns.get? id =
        (stored.schema.grid.columns.get? id).map (Column.restoredIn scope.tableId) := by
  have hsound := (runWorkspaces_kept hrun stored hstored).sound
  let archived := (stored.schema.grid.columns.records.filter fun column =>
    column.tableId = scope.tableId && column.archivedAt.isSome).map Column.id
  have harchived : ∀ id, id ∈ archived ↔ ArchivedIn stored.schema.grid scope.tableId id := by
    intro id
    constructor
    · intro hmem
      obtain ⟨column, hcolumn, rfl⟩ := List.mem_map.mp hmem
      obtain ⟨hlisted, hguards⟩ := List.mem_filter.mp hcolumn
      simp only [Bool.and_eq_true, decide_eq_true_eq] at hguards
      exact ⟨column, Table.get?_of_mem hlisted, hguards.1, Option.isSome_iff_ne_none.mp hguards.2⟩
    · rintro ⟨column, hcolumn, hsame, hactive⟩
      obtain ⟨hlisted, hid⟩ := Table.get?_eq_some.mp hcolumn
      refine List.mem_map.mpr ⟨column, List.mem_filter.mpr ⟨hlisted, ?_⟩, hid⟩
      rw [decide_eq_true hsame, Option.isSome_iff_ne_none.mpr hactive]
      rfl
  obtain ⟨order, horder, hcolumns⟩ := restoreColumns_all scope archived hsound hmanager htable harchived
  exact ⟨order, fun id hid => (harchived id).mp (horder id hid), hcolumns⟩

/-- No formula loses the types it was checked with, and the recompute of a row whose cells fit their columns goes through. -/
theorem formulas_recompute
    (hrun : EachStep stepWorkspaces (ChangesMeet fun s action => KeepsSchema s action ∧ ConvertsFree s action) [] actions)
    (hstored : stored ∈ runWorkspaces actions) :
    (∀ column ∈ stored.schema.grid.columns, column.kind = .formula → ∃ expression,
      column.configuration.formula? = some expression ∧
        validateFormulaDefinition expression stored.schema.grid.columnType = .ok column.valueType) ∧
    ∀ rowId, stored.schema.grid.RowFits rowId → ∀ tableId changed, ∃ recomputed after,
      recomputeDependentSqliteFormulasForRow stored.schema.grid tableId rowId changed = (.ok recomputed, after) ∧
        after.RowFits rowId := by
  obtain ⟨hkept, hchecked⟩ := runWorkspaces_checked hrun stored hstored
  refine ⟨fun column hcolumn hkind => ?_, fun rowId hrow tableId changed => recompute_fits hkept.sound hchecked hrow tableId changed⟩
  obtain ⟨expression, hformula⟩ := hchecked column.id column (Table.get?_eq_some.mpr ⟨hcolumn, rfl⟩) hkind
  exact ⟨expression, hformula.configuration, hformula.validates⟩

end Reached

end Runs

section Sample

local instance companyFormulas : FormulaLanguage CalendarInteger where
  parseFormulaSource source _ := .error ⟨source⟩

local instance companyEndpoints : EndpointRuntime := ⟨fun _ => false⟩

local instance companyDigests : DigestRuntime := ⟨id, TimeValue.write⟩

local instance companyNumbers : StoredNumbers CalendarInteger :=
  (inferInstanceAs (StoredNumbers SafeInteger) : StoredNumbers (Option Int))

local instance companyConversions : ConversionRuntime CalendarInteger :=
  (inferInstanceAs (ConversionRuntime SafeInteger) : ConversionRuntime (Option Int))

def companyNameColumn : String := "00000000-0000-0000-0000-000000000000"

def companyScope : TableScope := { userId := "ada", workspaceId := "w", tableId := "t" }

def companyFormula (columnId name : String) : SchemaAction CalendarInteger :=
  .createFormula
    { columnId := columnId, tableId := "t", userId := "ada", name := name
      expression := some (.call .upper [.column companyNameColumn]), source := none
      rowPosition := fun rowId => rowId, mutation := fun _ => ⟨"settlement", "event", 0⟩ }

/-- Ada sorts her companies by name, writes the names in capitals twice, and archives the second column. -/
def companyRun : List (WorkspacesAction CalendarInteger) :=
  [.ensure ⟨"w", "t", companyNameColumn, "domain"⟩ ⟨"ada", "Ada"⟩,
    .change "w" (.createView ⟨"t", "ada"⟩ "v" ⟨"By name", .legacy [], some ⟨companyNameColumn, .asc⟩⟩ .epoch),
    .change "w" (companyFormula "f" "Capitals"), .change "w" (companyFormula "g" "Upper case"),
    .change "w" (.archiveColumn { companyScope with columnId := "g" } "Upper case" 1)]

theorem companyRun_keeps : EachStep stepWorkspaces (ChangesMeet KeepsSchema) [] companyRun :=
  ⟨trivial, fun _ _ _ => trivial, fun _ _ _ => trivial, fun _ _ _ => trivial, fun _ _ _ => trivial, trivial⟩

theorem companyRun_free :
    EachStep stepWorkspaces (ChangesMeet fun s action => KeepsSchema s action ∧ ConvertsFree s action) [] companyRun :=
  ⟨trivial, fun _ _ _ => ⟨trivial, trivial⟩, fun _ _ _ => ⟨trivial, trivial⟩, fun _ _ _ => ⟨trivial, trivial⟩,
    fun _ _ _ => ⟨trivial, trivial⟩, trivial⟩

def StoredWorkspace.opened (stored : StoredWorkspace CalendarInteger) : Bool :=
  (stored.schema.savedGridViews.records.any fun view => view.tableId = "t") &&
    (stored.schema.grid.columns.records.any fun column => column.id = "f" && column.archivedAt.isNone) &&
    (stored.schema.grid.columns.records.any fun column => column.id = "g" && column.archivedAt.isSome) &&
    (stored.schema.grid.columns.records.all fun column => (stored.schema.grid.cells "r" column.id).isNone) &&
    (requireActiveTableMembership stored.schema.db ⟨"t", "ada"⟩).isOk &&
    (requireSchemaManager (stored.schema.lifecycle []) companyScope.columnScope).isOk &&
    (requireLifecycleTable (stored.schema.lifecycle []) companyScope.columnScope).isOk

theorem companyRun_opened : ∃ stored ∈ runWorkspaces companyRun, stored.opened = true :=
  List.any_eq_true.mp (by decide +kernel)

theorem isOk_unit {result : Except StoreError Unit} (h : result.isOk = true) : result = .ok () := by
  cases result with
  | error error => cases h
  | ok value => rfl

theorem opened_spec {stored : StoredWorkspace CalendarInteger} (h : stored.opened = true) :
    stored.schema.grid.RowFits "r" ∧ (∃ view ∈ stored.schema.savedGridViews, view.tableId = "t") ∧
      requireActiveTableMembership stored.schema.db ⟨"t", "ada"⟩ = .ok () ∧
      requireSchemaManager (stored.schema.lifecycle []) companyScope.columnScope = .ok () ∧
      ∃ table, requireLifecycleTable (stored.schema.lifecycle []) companyScope.columnScope = .ok table := by
  simp only [StoredWorkspace.opened, Bool.and_eq_true, List.any_eq_true, List.all_eq_true, decide_eq_true_eq,
    Option.isNone_iff_eq_none] at h
  obtain ⟨⟨⟨⟨⟨⟨hview, _⟩, _⟩, hcells⟩, haccess⟩, hmanager⟩, htable⟩ := h
  refine ⟨fun columnId type htype => ?_, hview, isOk_unit haccess, isOk_unit hmanager, ?_⟩
  · left
    obtain ⟨column, hcolumn, _⟩ := Option.map_eq_some_iff.mp htype
    obtain ⟨hmem, hid⟩ := Table.get?_eq_some.mp hcolumn
    have hnone : stored.schema.grid.cells "r" columnId = none := hid ▸ hcells column hmem
    rw [Grid.storedValue, hnone]
    rfl
  cases hresult : requireLifecycleTable (stored.schema.lifecycle []) companyScope.columnScope with
  | error error =>
    rw [hresult] at htable
    cases htable
  | ok table => exact ⟨table, rfl⟩

theorem dependencies_in_use_company : ∃ stored ∈ runWorkspaces companyRun,
    ∀ d ∈ stored.schema.grid.columnDependencies, ∀ child,
      activeColumn? stored.schema.grid d.tableId d.columnId = some child →
        ∃ parent, activeColumn? stored.schema.grid d.tableId d.dependsOnColumnId = some parent := by
  obtain ⟨stored, hstored, _⟩ := companyRun_opened
  exact ⟨stored, hstored, (dependencies_in_use companyRun_keeps hstored).1⟩

theorem schema_left_company : ∃ stored ∈ runWorkspaces companyRun,
    ∃ table ∈ stored.schema.grid.dataTables, table.archivedAt = none := by
  obtain ⟨stored, hstored, _⟩ := companyRun_opened
  exact ⟨stored, hstored, (schema_left companyRun_keeps hstored).1⟩

theorem archived_columns_restored_company : ∃ stored ∈ runWorkspaces companyRun, ∃ order, ∀ id,
    (stored.schema.run (restoreColumns companyScope order)).grid.columns.get? id =
      (stored.schema.grid.columns.get? id).map (Column.restoredIn "t") := by
  obtain ⟨stored, hstored, hopened⟩ := companyRun_opened
  obtain ⟨_, _, _, hmanager, table, htable⟩ := opened_spec hopened
  obtain ⟨order, _, hcolumns⟩ := archived_columns_restored companyRun_keeps hstored hmanager htable
  exact ⟨stored, hstored, order, hcolumns⟩

theorem formulas_recompute_company : ∃ stored ∈ runWorkspaces companyRun, ∀ changed, ∃ recomputed after,
    recomputeDependentSqliteFormulasForRow stored.schema.grid "t" "r" changed = (.ok recomputed, after) ∧ after.RowFits "r" := by
  obtain ⟨stored, hstored, hopened⟩ := companyRun_opened
  obtain ⟨hrow, _⟩ := opened_spec hopened
  exact ⟨stored, hstored, (formulas_recompute companyRun_free hstored).2 "r" hrow "t"⟩

end Sample

end ByokGrid
