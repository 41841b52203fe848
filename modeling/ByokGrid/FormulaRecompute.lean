import ByokGrid.Closure
import ByokGrid.Worklist
import ByokGrid.Grid

/-! The incremental recompute of a row's formula cells after some of its cells
changed. -/

namespace ByokGrid

def sortedBatch : ReadyList String where
  pop := popFirst
  push ready id := ready ++ [id]
  settle := sortStrings
  pop_none := popFirst_none
  pop_perm := popFirst_perm
  push_perm := perm_push
  settle_perm := sortStrings_perm

section Order

variable (dependencies : List ColumnDependency)

def dependents (id : String) : List String :=
  (dependencies.filter fun d => d.dependsOnColumnId = id).map ColumnDependency.columnId

def reachableColumns (changedColumnIds : List String) : List String :=
  closure (dependents dependencies) (changedColumnIds.length + dependencies.length) changedColumnIds

def reachableDependents (reachable : List String) (id : String) : List String :=
  (dependents dependencies id).filter (· ∈ reachable)

def indegree (reachable : List String) (id : String) : Int :=
  (dependencies.filter fun d =>
    d.columnId = id ∧ d.columnId ∈ reachable ∧ d.dependsOnColumnId ∈ reachable).length

def orderReachable (reachable : List String) : List String :=
  kahnLoop sortedBatch (reachableDependents dependencies reachable) reachable.length
    (indegree dependencies reachable)
    (sortStrings (reachable.filter fun id => indegree dependencies reachable id = 0)) []

end Order

section Recompute

variable {ν : Type} [JsRuntime ν]

def Grid.formulaColumns (grid : Grid ν) (tableId : String) : List (Column ν) :=
  grid.columns.records.filter fun column =>
    column.kind = .formula ∧ column.tableId = tableId ∧ column.archivedAt = none

def Grid.dependenciesOf (grid : Grid ν) (tableId : String) : List ColumnDependency :=
  grid.columnDependencies.records.filter fun d => d.tableId = tableId

def Grid.formulaColumn (grid : Grid ν) (tableId formulaId : String) : Option (Column ν) :=
  (grid.formulaColumns tableId).find? fun column => column.id = formulaId

/-- The `values` map of a row: the cells it has, read back. -/
def cellValues (cells : String → Option (Cell ν)) : String → Option (CellValue ν) :=
  fun columnId => (cells columnId).map fun cell => deserializeSqliteCellValue cell.value

structure RecomputeState (ν : Type) where
  grid : Grid ν
  values : String → Option (CellValue ν)
  changedFormulaIds : List String

/-- One round of the evaluation loop: an existing cell is updated, and a
missing one is inserted when the value is not empty. -/
def recomputeFormula (formulas : String → Option (Column ν)) (rowId : String)
    (state : RecomputeState ν) (formulaId : String) : Except FormulaDefinitionError (RecomputeState ν) :=
  match formulas formulaId with
  | none => .ok state
  | some formula =>
    match formula.configuration.formula? with
    | none => .error ⟨"Formula column " ++ formula.id ++ " has an invalid configuration."⟩
    | some expression =>
      let value := evaluateFormula expression state.values
      if value.type ≠ .empty ∧ value.type ≠ formula.valueType then
        .error ⟨"Formula column " ++ formula.id ++ " produced " ++ value.type.name ++ ", expected " ++
          formula.valueType.name ++ "."⟩
      else
        let values := Function.update state.values formula.id (some value)
        let written (version : Nat) : Cell ν := ⟨serializeSqliteCellValue value, .succeeded, version⟩
        match state.grid.cells rowId formula.id with
        | some existing => .ok
            { grid := state.grid.setCell rowId formula.id (written (existing.version + 1))
              values := values
              changedFormulaIds := state.changedFormulaIds ++ [formula.id] }
        | none =>
          if value.type = .empty then .ok { state with values := values }
          else .ok
            { grid := state.grid.setCell rowId formula.id (written 1)
              values := values
              changedFormulaIds := state.changedFormulaIds ++ [formula.id] }

def recomputeLoop (formulas : String → Option (Column ν)) (rowId : String) :
    List String → RecomputeState ν → Except FormulaDefinitionError (List String) × Grid ν
  | [], state => (.ok state.changedFormulaIds, state.grid)
  | formulaId :: ordered, state =>
    match recomputeFormula formulas rowId state formulaId with
    | .error e => (.error e, state.grid)
    | .ok next => recomputeLoop formulas rowId ordered next

def recomputeDependentSqliteFormulasForRow (grid : Grid ν) (tableId rowId : String)
    (changedColumnIds : List String) : Except FormulaDefinitionError (List String) × Grid ν :=
  if changedColumnIds = [] then (.ok [], grid)
  else if grid.formulaColumns tableId = [] then (.ok [], grid)
  else
    let dependencies := grid.dependenciesOf tableId
    let reachable := reachableColumns dependencies changedColumnIds
    if reachable = [] then (.ok [], grid)
    else
      let ordered := orderReachable dependencies reachable
      if ordered.length ≠ reachable.length then
        (.error ⟨"The formula dependency graph is cyclic."⟩, grid)
      else
        recomputeLoop (grid.formulaColumn tableId) rowId ordered ⟨grid, cellValues (grid.cells rowId), []⟩

end Recompute

end ByokGrid
