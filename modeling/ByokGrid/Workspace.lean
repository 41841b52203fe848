import ByokGrid.GridHistory
import ByokGrid.Transition

/-! The store of a workspace under any sequence of transactions: the writers of the
grid, and whatever any other code does. -/

namespace ByokGrid

structure Workspace (ν : Type) where
  db : Database ν
  sources : SourceStore
  ingestion : IngestionStore
  imports : ImportStore

inductive WorkspaceAction (ν : Type) where
  | createRow (input : CreateGridRow)
  | writeCell (input : WriteGridCell ν)
  | createFormula (input : CreateFormulaColumn ν)
  | writeRows (input : WriteWorkflowRows)
  | prepareImport (input : PrepareCsvImport)
  | applyImport (input : CsvImportBatch)
  | applyPage (input : SourcePage)
  | applyChunk (input : IngestionChunk)
  | cellRun (action : CellRunAction ν)
  | other (workspace : Workspace ν)

section System

variable {ν : Type}

def Workspace.withDatabase (workspace : Workspace ν) (db : Database ν) : Workspace ν :=
  { workspace with db := db }

def Workspace.commit {α : Type} (workspace : Workspace ν) (result : Except StoreError α) (f : α → Workspace ν) :
    Workspace ν :=
  match result with
  | .ok value => f value
  | .error _ => workspace

def Workspace.source (workspace : Workspace ν) : SourceWorkspace ν :=
  ⟨workspace.db, workspace.sources⟩

def Workspace.endpoint (workspace : Workspace ν) : IngestionWorkspace ν :=
  ⟨workspace.db, workspace.ingestion⟩

def Workspace.import (workspace : Workspace ν) : ImportWorkspace ν :=
  ⟨workspace.db, workspace.imports⟩

def Workspace.withImport (workspace : Workspace ν) (next : ImportWorkspace ν) : Workspace ν :=
  { workspace with db := next.db, imports := next.imports }

variable [JsRuntime ν] [ConnectorRuntime ν] [FormulaLanguage ν]

def Workspace.step (workspace : Workspace ν) : WorkspaceAction ν → Workspace ν
  | .createRow input => workspace.commit (createSqliteGridRow workspace.db input) workspace.withDatabase
  | .writeCell input => workspace.commit (writeSqliteGridCell workspace.db input) fun result =>
      workspace.withDatabase result.2
  | .createFormula input => workspace.commit (createSqliteFormulaColumn workspace.db input) fun result =>
      workspace.withDatabase result.2
  | .writeRows input => workspace.commit (writeSqliteWorkflowRowBatch workspace.db input) fun result =>
      workspace.withDatabase result.2
  | .prepareImport input => workspace.commit (prepareSqliteCsvImport workspace.import input) fun result =>
      workspace.withImport result.2
  | .applyImport input => workspace.commit (applySqliteCsvImportBatch workspace.import input) fun result =>
      workspace.withImport result.2
  | .applyPage input => workspace.commit (applySqliteSourceRunPage workspace.source input) fun next =>
      { workspace with db := next.db, sources := next.sources }
  | .applyChunk input => workspace.commit (applySqliteIngestionBatchChunk workspace.endpoint input) fun next =>
      { workspace with db := next.db, ingestion := next.ingestion }
  | .cellRun action => workspace.withDatabase (workspace.db.stepCellRun action)
  | .other next => next

def Workspace.run (workspace : Workspace ν) (actions : List (WorkspaceAction ν)) : Workspace ν :=
  runActions Workspace.step workspace actions

def KeepsRows (workspace : Workspace ν) : WorkspaceAction ν → Prop
  | .other next => RowsStay workspace.db.grid.rows next.db.grid.rows
  | _ => True

section Steps

variable {α : Type} {workspace : Workspace ν} {result : Except StoreError α} {f : α → Workspace ν}

omit [JsRuntime ν] [ConnectorRuntime ν] [FormulaLanguage ν] in
theorem Workspace.commit_moves
    (h : ∀ value, result = .ok value → GridMoves workspace.db.grid (f value).db.grid) :
    GridMoves workspace.db.grid (workspace.commit result f).db.grid := by
  cases hresult : result with
  | error _ => exact GridMoves.refl _
  | ok value => exact h value hresult

omit [JsRuntime ν] [ConnectorRuntime ν] [FormulaLanguage ν] in
theorem Workspace.commit_rowsStay
    (h : ∀ value, result = .ok value → RowsStay workspace.db.grid.rows (f value).db.grid.rows) :
    RowsStay workspace.db.grid.rows (workspace.commit result f).db.grid.rows := by
  cases hresult : result with
  | error _ => exact RowsStay.refl _
  | ok value => exact h value hresult

end Steps

def WorkspaceAction.keepsCells : WorkspaceAction ν → Bool
  | .applyPage _ | .applyChunk _ | .other _ => false
  | _ => true

theorem Workspace.step_moves (workspace : Workspace ν) {action : WorkspaceAction ν} (h : action.keepsCells = true) :
    GridMoves workspace.db.grid (workspace.step action).db.grid := by
  cases action with
  | createRow input => exact commit_moves fun _ => createSqliteGridRow_moves
  | writeCell input => exact commit_moves fun _ => writeSqliteGridCell_moves
  | createFormula input => exact commit_moves fun _ => createSqliteFormulaColumn_moves
  | writeRows input => exact commit_moves fun _ => writeSqliteWorkflowRowBatch_moves
  | prepareImport input => exact commit_moves fun _ => prepareSqliteCsvImport_moves
  | applyImport input => exact commit_moves fun _ => applySqliteCsvImportBatch_moves
  | applyPage input => cases h
  | applyChunk input => cases h
  | cellRun action => exact stepCellRun_moves workspace.db action
  | other next => cases h

theorem Workspace.step_rowsStay {workspace : Workspace ν} {action : WorkspaceAction ν}
    (hkeeps : KeepsRows workspace action) : RowsStay workspace.db.grid.rows (workspace.step action).db.grid.rows := by
  cases action with
  | applyPage input => exact commit_rowsStay fun _ => applySqliteSourceRunPage_rows
  | applyChunk input => exact commit_rowsStay fun _ => applySqliteIngestionBatchChunk_rows
  | other next => exact hkeeps
  | _ => exact (workspace.step_moves rfl).rows

theorem Workspace.run_rowsStay {workspace : Workspace ν} {actions : List (WorkspaceAction ν)}
    (hkeeps : EachStep Workspace.step KeepsRows workspace actions) :
    RowsStay workspace.db.grid.rows (workspace.run actions).db.grid.rows := by
  have hstep : ∀ (state : Workspace ν) (action : WorkspaceAction ν), True → KeepsRows state action →
      True ∧ RowsStay state.db.grid.rows (state.step action).db.grid.rows :=
    fun _ _ _ hkeep => ⟨trivial, Workspace.step_rowsStay hkeep⟩
  exact hkeeps.relates (R := fun before after => RowsStay before.db.grid.rows after.db.grid.rows)
    (fun _ => RowsStay.refl _) RowsStay.trans hstep trivial

end System

end ByokGrid
