import ByokGrid.SchemaInvariants

/-! The schema of a workspace under any sequence of its operations: tables, columns and views are
created, renamed, archived, restored, converted and deleted, while other code changes rows, cells and jobs. -/

namespace ByokGrid

/-- The planned columns are those of an import, of a page of a source or of a batch of records. -/
inductive SchemaAction (ν : Type) where
  | createTable (input : CreateWorkspaceTable)
  | renameTable (input : TableScope) (name : String)
  | createInput (input : CreateInputColumn)
  | createFormula (input : CreateFormulaColumn ν)
  | createConnector (input : CreateConnectorColumn ν)
  | createEnrichment (input : CreateHttpEnrichmentColumn)
  | createWaterfall (input : CreateHttpWaterfallColumn)
  | createPlanned (tableId : String) (columnId : Nat → String) (plans : List CsvColumnPlan)
  | archiveTable (input : TableScope) (confirmationName : String) (now : Nat)
  | restoreTable (input : TableScope)
  | archiveColumn (input : ColumnScope) (confirmationName : String) (now : Nat)
  | restoreColumn (input : ColumnScope)
  | convertColumn (scope : ColumnScope) (input : ColumnTypeConversionRequest) (now : Int) (stored : List (LifecycleCell ν))
    (cells : String → String → Option (Cell ν))
  | createView (scope : GridScope) (viewId : String) (input : SavedGridViewRequest ν) (now : TimeValue)
  | updateView (scope : GridScope) (viewId : String) (input : SavedGridViewRequest ν) (now : TimeValue)
  | deleteView (scope : GridScope) (viewId : String)
  | other (next : SchemaWorkspace ν)

section System

variable {ν : Type}

namespace SchemaWorkspace

variable (s : SchemaWorkspace ν)

def withDatabase (db : Database ν) : SchemaWorkspace ν :=
  { s with workspace := s.workspace.withDatabase db }

def withTable [JsRuntime ν] (input : CreateWorkspaceTable) (db : Database ν) : SchemaWorkspace ν :=
  { s.withDatabase db with
    tableName := Function.update s.tableName input.tableId ((parseDisplayName ν input.name).getD input.name) }

def withViews (views : Table (SavedGridView ν)) : SchemaWorkspace ν :=
  { s with savedGridViews := views }

def commit {α : Type} (result : Except StoreError α) (f : α → SchemaWorkspace ν) : SchemaWorkspace ν :=
  match result with
  | .ok value => f value
  | .error _ => s

end SchemaWorkspace

variable [JsRuntime ν] [ValueRuntime ν] [DigestRuntime] [FormulaLanguage ν] [EndpointRuntime]

def SchemaWorkspace.step (s : SchemaWorkspace ν) : SchemaAction ν → SchemaWorkspace ν
  | .createTable input => s.commit (createSqliteWorkspaceTable s.db { input with tableName := s.tableName }) (s.withTable input)
  | .renameTable input name => s.commit (renameSqliteWorkspaceTable s input name) Prod.snd
  | .createInput input => s.commit (createSqliteInputColumn s.db input) s.withDatabase
  | .createFormula input => s.commit (createSqliteFormulaColumn s.db input) fun result => s.withDatabase result.2
  | .createConnector input => s.commit (createSqliteConnectorActionColumn s.db input) fun result => s.withDatabase result.2
  | .createEnrichment input => s.commit (createSqliteHttpEnrichmentColumn s.db input) fun result => s.withDatabase result.2
  | .createWaterfall input => s.commit (createSqliteHttpWaterfallColumn s.db input) fun result => s.withDatabase result.2
  | .createPlanned tableId columnId plans =>
    s.commit (createPlannedColumns tableId columnId 0 plans s.grid) fun result => s.withGrid result.2
  | .archiveTable input confirmationName now => s.commit (archiveSqliteWorkspaceTable s input confirmationName now) Prod.snd
  | .restoreTable input => s.commit (restoreSqliteWorkspaceTable s input) Prod.snd
  | .archiveColumn input confirmationName now => s.commit (archiveSqliteWorkspaceColumn s input confirmationName now) Prod.snd
  | .restoreColumn input => s.commit (restoreSqliteWorkspaceColumn s input) Prod.snd
  | .convertColumn scope input now stored cells => s.commit (s.convertColumn scope input now stored cells) Prod.snd
  | .createView scope viewId input now =>
    s.commit (createSqliteSavedGridView s.gridStore scope viewId input now) fun result => s.withViews result.2.savedGridViews
  | .updateView scope viewId input now =>
    s.commit (updateSqliteSavedGridView s.gridStore scope viewId input now) fun result => s.withViews result.2.savedGridViews
  | .deleteView scope viewId =>
    s.commit (deleteSqliteSavedGridView s.gridStore scope viewId) fun result => s.withViews result.2.savedGridViews
  | .other next => next

def SchemaWorkspace.run (s : SchemaWorkspace ν) (actions : List (SchemaAction ν)) : SchemaWorkspace ν :=
  runActions SchemaWorkspace.step s actions

/-- Other code changes neither the schema nor the views; what it does to rows, cells and jobs is left open. -/
def KeepsSchema (s : SchemaWorkspace ν) : SchemaAction ν → Prop
  | .other next => SchemaSame s.grid next.grid ∧ next.savedGridViews = s.savedGridViews
  | _ => True

/-- No column is converted on which an archived one depends: only the dependents in use keep a column from it,
and a restored formula is not checked again. -/
def ConvertsFree (s : SchemaWorkspace ν) : SchemaAction ν → Prop
  | .convertColumn scope _ _ _ _ => ∀ child ∈ s.grid.columns, s.grid.registry.dependsOn child.id scope.columnId →
    child.archivedAt = none
  | _ => True

end System

section Steps

variable {ν : Type}

def SchemaAction.retyped : SchemaAction ν → String → Prop
  | .convertColumn scope _ _ _ _ => fun columnId => columnId = scope.columnId
  | _ => fun _ => False

def SchemaAction.isView : SchemaAction ν → Bool
  | .createView _ _ _ _ | .updateView _ _ _ _ | .deleteView _ _ => true
  | _ => false

variable [JsRuntime ν] {views : Table (SavedGridView ν)} {retyped : String → Prop} {before after : Grid ν}

theorem effects_sound (h : Relation.ReflTransGen (SchemaEffect views retyped) before after) (hsound : SchemaSound before) :
    SchemaSound after := by
  induction h with
  | refl => exact hsound
  | tail _ heffect ih => exact heffect.sound ih

theorem effects_valid (h : Relation.ReflTransGen (SchemaEffect views retyped) before after) {view : SavedGridView ν}
    (hview : view ∈ views) (hvalid : view.Valid before) : view.Valid after := by
  induction h with
  | refl => exact hvalid
  | tail _ heffect ih => exact heffect.valid hview ih

theorem effects_formulasChecked (h : Relation.ReflTransGen (SchemaEffect views retyped) before after) (hnone : ∀ id, ¬ retyped id)
    (hsound : SchemaSound before) (hchecked : FormulasChecked before) : FormulasChecked after := by
  induction h with
  | refl => exact hchecked
  | tail hprefix heffect ih => exact heffect.formulasChecked (effects_sound hprefix hsound) (fun id hid => absurd hid (hnone id)) ih

theorem GridSteps.commit {α : Type} {s : SchemaWorkspace ν} {result : Except StoreError α} {f : α → SchemaWorkspace ν}
    (h : ∀ value, result = .ok value → GridSteps retyped s (f value)) : GridSteps retyped s (s.commit result f) := by
  cases hresult : result with
  | error _ => exact ⟨.refl, rfl⟩
  | ok value => exact h value hresult

theorem renameSqliteWorkspaceTable_steps {s s' : SchemaWorkspace ν} {input : TableScope} {name renamed : String}
    (h : renameSqliteWorkspaceTable s input name = .ok (renamed, s')) : GridSteps retyped s s' := by
  simp only [renameSqliteWorkspaceTable, except_bind_eq_ok, pure, Except.pure, Except.ok.injEq, Prod.mk.injEq] at h
  obtain ⟨_, _, _, _, _, _, _, _, _, rfl⟩ := h
  exact ⟨.refl, rfl⟩

variable [ValueRuntime ν] [DigestRuntime] [FormulaLanguage ν] [EndpointRuntime]

theorem step_gridSteps {s : SchemaWorkspace ν} {action : SchemaAction ν} (hview : action.isView = false) (hkeeps : KeepsSchema s action) :
    GridSteps action.retyped s (s.step action) := by
  cases action with
  | createTable input => exact .commit fun _ h => .single (createSqliteWorkspaceTable_effect h) rfl
  | renameTable input name => exact .commit fun _ h => renameSqliteWorkspaceTable_steps h
  | createInput input => exact .commit fun _ h => .single (createSqliteInputColumn_effect h) rfl
  | createFormula input => exact .commit fun _ h => .single (createSqliteFormulaColumn_effect h) rfl
  | createConnector input => exact .commit fun _ h => .single (createSqliteConnectorActionColumn_effect h) rfl
  | createEnrichment input =>
    refine .commit fun _ h => ?_
    obtain ⟨_, _, hhttp⟩ := except_bind_eq_ok.mp h
    exact .single (createSqliteHttpColumn_effect hhttp) rfl
  | createWaterfall input =>
    refine .commit fun _ h => ?_
    obtain ⟨_, _, hrest⟩ := except_bind_eq_ok.mp h
    obtain ⟨_, _, hhttp⟩ := except_bind_eq_ok.mp hrest
    exact .single (createSqliteHttpColumn_effect hhttp) rfl
  | createPlanned tableId columnId plans => exact .commit fun _ h => ⟨createPlannedColumns_effects h, rfl⟩
  | archiveTable input confirmationName now => exact .commit fun _ h => archiveSqliteWorkspaceTable_steps h
  | restoreTable input => exact .commit fun _ h => restoreSqliteWorkspaceTable_steps h
  | archiveColumn input confirmationName now => exact .commit fun _ h => archiveSqliteWorkspaceColumn_steps h
  | restoreColumn input => exact .commit fun _ h => restoreSqliteWorkspaceColumn_steps h
  | convertColumn scope input now stored cells =>
    refine .commit fun _ h => ?_
    obtain ⟨heffect, hviews⟩ := convertColumn_effect h
    exact .single heffect hviews
  | createView scope viewId input now => cases hview
  | updateView scope viewId input now => cases hview
  | deleteView scope viewId => cases hview
  | other next => exact .single (.stays hkeeps.1.stays) hkeeps.2

end Steps

end ByokGrid
