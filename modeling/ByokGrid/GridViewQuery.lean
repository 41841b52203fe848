import Mathlib.Data.List.Infix
import ByokGrid.GridView

/-! The rows a filter tree selects, as the query on the stored cells finds them. -/

namespace ByokGrid

/-- The comparison of stored numbers in a query, without a result for a null. -/
class NumberComparison (ν : Type) where
  compareNumber : ν → ν → Option Ordering

instance : NumberComparison SafeInteger :=
  ⟨fun left right => left.bind fun x => right.map fun y => compare x y⟩

/-- `lower(…)`, which folds the letters of ASCII only. -/
def asciiLower (text : String) : List Char :=
  text.toList.map fun c => if 'A' ≤ c ∧ c ≤ 'Z' then Char.ofNat (c.toNat + 32) else c

section Query

variable {ν : Type} [JsRuntime ν] [NumberComparison ν] (grid : Grid ν) (rowId : String)

/-- `buildSqliteGridViewFilterPredicate` on one row. -/
def GridViewFilter.matches : GridViewFilter ν → Bool
  | .empty columnId negated => ((grid.storedValue rowId columnId).type ≠ .empty) == negated
  | .text columnId contains value =>
    match grid.storedValue rowId columnId with
    | .text stored =>
      if contains then decide (asciiLower value <:+: asciiLower stored) else asciiLower stored = asciiLower value
    | _ => false
  | .number columnId comparison value =>
    match grid.storedValue rowId columnId with
    | .number stored => NumberComparison.compareNumber stored value = some comparison
    | _ => false
  | .boolean columnId value =>
    match grid.storedValue rowId columnId with
    | .boolean stored => stored = value
    | _ => false
  | .timestamp columnId after value =>
    match grid.storedValue rowId columnId with
    | .timestamp stored =>
      let bound := (JsRuntime.parseDate ν value).milliseconds
      if after then bound < stored.milliseconds else stored.milliseconds < bound
    | _ => false
  | .status columnId value => (grid.cells rowId columnId).any fun cell => cell.status = value

mutual

def GridViewFilterNode.matches : GridViewFilterNode ν → Bool
  | .leaf filter => filter.matches grid rowId
  | .group combinator children => children.isEmpty || GridViewFilterNode.matchesChildren combinator children

/-- `and(…)` or `or(…)` of the predicates. -/
def GridViewFilterNode.matchesChildren : FilterCombinator → List (GridViewFilterNode ν) → Bool
  | .and, [] => true
  | .or, [] => false
  | .and, child :: children => child.matches && GridViewFilterNode.matchesChildren .and children
  | .or, child :: children => child.matches || GridViewFilterNode.matchesChildren .or children

end

/-- `buildSqliteGridViewFilterTreePredicate` on one row. -/
def GridViewFilterGroup.matches (group : GridViewFilterGroup ν) : Bool :=
  GridViewFilterNode.matches grid rowId (.group group.combinator group.children)

end Query

end ByokGrid
