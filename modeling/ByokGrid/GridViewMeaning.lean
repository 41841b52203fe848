import ByokGrid.GridViewQuery
import ByokGrid.SqlLogic

/-! What the predicate of a filter tree keeps, and what the tree asks of a row: the
two differ where a status is asked of a cell which does not exist. -/

namespace ByokGrid

/-- The columns of a stored cell which filters read: the value columns of other types are null. -/
structure CellRecord (ν : Type) where
  valueType : CellValueType
  valueText : Option String
  valueNumber : Option ν
  valueBoolean : Option Nat
  valueTimestamp : Option Int
  status : CellStatus

section Predicate

variable {ν : Type}

def Cell.record (cell : Cell ν) : CellRecord ν where
  valueType := cell.value.type
  valueText := match cell.value with
    | .text value => some value
    | _ => none
  valueNumber := match cell.value with
    | .number value => some value
    | _ => none
  valueBoolean := match cell.value with
    | .boolean value => some (if value then 1 else 0)
    | _ => none
  valueTimestamp := match cell.value with
    | .timestamp value => some value.milliseconds
    | _ => none
  status := cell.status

def CellRecord.hasType (record : CellRecord ν) (valueType : CellValueType) : SqlTruth :=
  .ofBool (record.valueType = valueType)

/-- `instr(…, …) > 0` on texts in lower case. -/
def sqlInstr (text searched : String) : Bool :=
  decide (asciiLower searched <:+: asciiLower text)

variable [JsRuntime ν] [NumberComparison ν]

def filterCondition (filter : GridViewFilter ν) (record : CellRecord ν) : SqlTruth :=
  match filter with
  | .empty _ _ => (record.hasType .empty).not
  | .text _ true value =>
    (record.hasType .text).and (sqlCompare sqlInstr (sqlCoalesce record.valueText "") (some value))
  | .text _ false value =>
    (record.hasType .text).and
      (sqlCompare (fun stored value => asciiLower stored = asciiLower value) record.valueText (some value))
  | .number _ comparison value =>
    (record.hasType .number).and
      (sqlCompare (fun stored value => NumberComparison.compareNumber stored value = some comparison) record.valueNumber
        (some value))
  | .boolean _ value =>
    (record.hasType .boolean).and
      (sqlCompare (fun stored value => stored = value) record.valueBoolean (some (if value then 1 else 0)))
  | .timestamp _ after value =>
    let bound := (JsRuntime.parseDate ν value).milliseconds
    (record.hasType .timestamp).and
      (sqlCompare (fun stored bound => if after then bound < stored else stored < bound) record.valueTimestamp (some bound))
  | .status _ value => .ofBool (record.status = value)

variable (grid : Grid ν) (rowId : String)

def cellRecords (columnId : String) : List (CellRecord ν) :=
  ((grid.cells rowId columnId).map Cell.record).toList

def buildSqliteGridViewFilterPredicate (filter : GridViewFilter ν) : SqlTruth :=
  let found := sqlExists (cellRecords grid rowId filter.columnId) (filterCondition filter)
  match filter with
  | .empty _ false => found.not
  | _ => found

mutual

/-- `buildSqliteGridViewFilterTreePredicate` on one row. -/
def GridViewFilterNode.predicate : GridViewFilterNode ν → SqlTruth
  | .leaf filter => buildSqliteGridViewFilterPredicate grid rowId filter
  | .group combinator children =>
    if children.isEmpty then some true
    else
      match combinator with
      | .and => .all (GridViewFilterNode.predicates children)
      | .or => .any (GridViewFilterNode.predicates children)

def GridViewFilterNode.predicates : List (GridViewFilterNode ν) → List SqlTruth
  | [] => []
  | child :: children => child.predicate :: GridViewFilterNode.predicates children

end

def buildSqliteGridViewFilterTreePredicate (group : GridViewFilterGroup ν) : SqlTruth :=
  GridViewFilterNode.predicate grid rowId (.group group.combinator group.children)

end Predicate

section Meaning

variable {ν : Type}

def missingCell : Cell ν :=
  { value := .empty, status := .idle, version := 1 }

def Grid.cellOrMissing (grid : Grid ν) (rowId columnId : String) : Cell ν :=
  (grid.cells rowId columnId).getD missingCell

variable [JsRuntime ν] [NumberComparison ν]

def GridViewFilter.Asks (filter : GridViewFilter ν) (cell : Cell ν) : Prop :=
  match filter with
  | .empty _ false => cell.value.type = .empty
  | .empty _ true => cell.value.type ≠ .empty
  | .text _ true value => ∃ stored, cell.value = .text stored ∧ asciiLower value <:+: asciiLower stored
  | .text _ false value => ∃ stored, cell.value = .text stored ∧ asciiLower stored = asciiLower value
  | .number _ comparison value =>
    ∃ stored, cell.value = .number stored ∧ NumberComparison.compareNumber stored value = some comparison
  | .boolean _ value => cell.value = .boolean value
  | .timestamp _ true value =>
    ∃ stored, cell.value = .timestamp stored ∧ (JsRuntime.parseDate ν value).milliseconds < stored.milliseconds
  | .timestamp _ false value =>
    ∃ stored, cell.value = .timestamp stored ∧ stored.milliseconds < (JsRuntime.parseDate ν value).milliseconds
  | .status _ value => cell.status = value

/-- A row meets a tree: an `and` asks all its children and an `or` one of them, and without children a group
asks nothing. -/
inductive GridViewFilterNode.Meets (grid : Grid ν) (rowId : String) : GridViewFilterNode ν → Prop where
  | leaf {filter : GridViewFilter ν} (h : filter.Asks (grid.cellOrMissing rowId filter.columnId)) : Meets grid rowId (.leaf filter)
  | none {combinator : FilterCombinator} : Meets grid rowId (.group combinator [])
  | all {children : List (GridViewFilterNode ν)} (h : ∀ child ∈ children, Meets grid rowId child) :
    Meets grid rowId (.group .and children)
  | some {children : List (GridViewFilterNode ν)} {child : GridViewFilterNode ν} (hmem : child ∈ children)
    (h : Meets grid rowId child) : Meets grid rowId (.group .or children)

inductive GridViewFilterNode.HingesOnMissing (grid : Grid ν) (rowId : String) : GridViewFilterNode ν → Prop where
  | leaf {columnId : String} (hcell : grid.cells rowId columnId = none) :
    HingesOnMissing grid rowId (.leaf (.status columnId .idle))
  | all {children : List (GridViewFilterNode ν)} {child : GridViewFilterNode ν}
    (hall : ∀ other ∈ children, other.Meets grid rowId) (hmem : child ∈ children)
    (h : HingesOnMissing grid rowId child) : HingesOnMissing grid rowId (.group .and children)
  | some {children : List (GridViewFilterNode ν)} {child : GridViewFilterNode ν} (hmem : child ∈ children)
    (h : HingesOnMissing grid rowId child)
    (hothers : ∀ other ∈ children, other.Meets grid rowId → HingesOnMissing grid rowId other) :
    HingesOnMissing grid rowId (.group .or children)

def GridViewFilterGroup.node (group : GridViewFilterGroup ν) : GridViewFilterNode ν :=
  .group group.combinator group.children

end Meaning

section Agreement

variable {ν : Type}

theorem GridViewFilterNode.inductOn {motive : GridViewFilterNode ν → Prop} (hleaf : ∀ filter, motive (.leaf filter))
    (hgroup : ∀ combinator children, (∀ child ∈ children, motive child) → motive (.group combinator children)) :
    ∀ node, motive node
  | .leaf filter => hleaf filter
  | .group combinator children => hgroup combinator children fun child _ => inductOn hleaf hgroup child

variable [JsRuntime ν] [NumberComparison ν] (grid : Grid ν) (rowId : String)

omit [JsRuntime ν] [NumberComparison ν] in
theorem keeps_exists_cell (columnId : String) (condition : CellRecord ν → SqlTruth) :
    (sqlExists (cellRecords grid rowId columnId) condition).keeps =
      (grid.cells rowId columnId).any fun cell => (condition cell.record).keeps := by
  rw [keeps_sqlExists, cellRecords]
  cases grid.cells rowId columnId with
  | none => rfl
  | some cell => simp

theorem filterCondition_record (filter : GridViewFilter ν) (cell : Cell ν) (hfilter : ∀ columnId, filter ≠ .empty columnId false) :
    (filterCondition filter cell.record).keeps = true ↔ filter.Asks cell := by
  obtain ⟨value, status, version⟩ := cell
  cases filter with
  | empty columnId negated =>
    cases negated with
    | false => exact absurd rfl (hfilter columnId)
    | true =>
      have hknown : ((Cell.record ⟨value, status, version⟩).hasType .empty).isSome = true := rfl
      rw [filterCondition, SqlTruth.keeps_not hknown, CellRecord.hasType, SqlTruth.keeps_ofBool, Bool.not_eq_true',
        decide_eq_false_iff_not]
      exact Iff.rfl
  | text columnId contains searched =>
    cases contains <;> cases value <;>
      simp [filterCondition, Cell.record, CellRecord.hasType, GridViewFilter.Asks, StoredValue.type, sqlCoalesce, sqlInstr]
  | number columnId comparison bound =>
    cases value <;> simp [filterCondition, Cell.record, CellRecord.hasType, GridViewFilter.Asks, StoredValue.type]
  | boolean columnId wanted =>
    cases value with
    | boolean value => cases value <;> cases wanted <;> simp [filterCondition, Cell.record, CellRecord.hasType, GridViewFilter.Asks, StoredValue.type]
    | _ => simp [filterCondition, Cell.record, CellRecord.hasType, GridViewFilter.Asks, StoredValue.type]
  | timestamp columnId after bound =>
    cases after <;> cases value <;>
      simp [filterCondition, Cell.record, CellRecord.hasType, GridViewFilter.Asks, StoredValue.type]
  | status columnId wanted =>
    rw [filterCondition, SqlTruth.keeps_ofBool, decide_eq_true_iff]
    exact Iff.rfl

theorem filterPredicate_of_cell (filter : GridViewFilter ν) {cell : Cell ν} (hcell : grid.cells rowId filter.columnId = some cell) :
    (buildSqliteGridViewFilterPredicate grid rowId filter).keeps = true ↔ filter.Asks cell := by
  by_cases hfilter : ∀ columnId, filter ≠ .empty columnId false
  · have hplain : buildSqliteGridViewFilterPredicate grid rowId filter =
        sqlExists (cellRecords grid rowId filter.columnId) (filterCondition filter) := by
      rw [buildSqliteGridViewFilterPredicate.eq_def]
      split
      · exact absurd rfl (hfilter _)
      · rfl
    rw [hplain, keeps_exists_cell, hcell, Option.any_some]
    exact filterCondition_record filter cell hfilter
  · push Not at hfilter
    obtain ⟨columnId, rfl⟩ := hfilter
    have hexists := filterCondition_record (.empty columnId true : GridViewFilter ν) cell nofun
    have hsame : (filterCondition (.empty columnId false : GridViewFilter ν)) = filterCondition (.empty columnId true) := rfl
    have hfound : (sqlExists (cellRecords grid rowId columnId) (filterCondition (.empty columnId false))).keeps =
        (filterCondition (.empty columnId true : GridViewFilter ν) cell.record).keeps := by
      rw [keeps_exists_cell, show grid.cells rowId columnId = some cell from hcell, Option.any_some, hsame]
    have hpredicate : (buildSqliteGridViewFilterPredicate grid rowId (.empty columnId false)).keeps =
        !(sqlExists (cellRecords grid rowId columnId) (filterCondition (.empty columnId false))).keeps :=
      SqlTruth.keeps_not rfl
    rw [hpredicate, hfound, Bool.not_eq_true', ← Bool.not_eq_true, hexists]
    simp [GridViewFilter.Asks]

theorem filterPredicate_of_missing (filter : GridViewFilter ν) (hcell : grid.cells rowId filter.columnId = none) :
    (buildSqliteGridViewFilterPredicate grid rowId filter).keeps = true ↔
      filter.Asks missingCell ∧ ∀ columnId, filter ≠ .status columnId .idle := by
  have hrecords : cellRecords grid rowId filter.columnId = [] := by
    rw [cellRecords, hcell]
    rfl
  rw [buildSqliteGridViewFilterPredicate.eq_def, hrecords]
  cases filter with
  | empty columnId negated => cases negated <;> simp [sqlExists, SqlTruth.ofBool, SqlTruth.not, GridViewFilter.Asks, missingCell, StoredValue.type]
  | text columnId contains searched => cases contains <;> simp [GridViewFilter.Asks, missingCell]
  | number columnId comparison bound => simp [GridViewFilter.Asks, missingCell]
  | boolean columnId wanted => simp [GridViewFilter.Asks, missingCell]
  | timestamp columnId after bound => cases after <;> simp [GridViewFilter.Asks, missingCell]
  | status columnId wanted => cases wanted <;> simp [GridViewFilter.Asks, missingCell]

/-- The filter asks for the status `idle` of a cell which is missing. -/
def AsksMissing (filter : GridViewFilter ν) : Prop :=
  ∃ columnId, filter = .status columnId .idle ∧ grid.cells rowId columnId = none

theorem filterPredicate_keeps (filter : GridViewFilter ν) : (buildSqliteGridViewFilterPredicate grid rowId filter).keeps = true ↔
    filter.Asks (grid.cellOrMissing rowId filter.columnId) ∧ ¬ AsksMissing grid rowId filter := by
  cases hcell : grid.cells rowId filter.columnId with
  | none =>
    rw [filterPredicate_of_missing grid rowId filter hcell, Grid.cellOrMissing, hcell, Option.getD_none]
    refine and_congr_right fun _ => ⟨?_, fun h columnId hfilter => h ⟨columnId, hfilter, ?_⟩⟩
    · rintro h ⟨columnId, hfilter, _⟩
      exact h columnId hfilter
    · rw [hfilter] at hcell
      exact hcell
  | some cell =>
    rw [filterPredicate_of_cell grid rowId filter hcell, Grid.cellOrMissing, hcell, Option.getD_some]
    refine (and_iff_left ?_).symm
    rintro ⟨columnId, rfl, hnone⟩
    cases hcell.symm.trans hnone

theorem predicates_eq (children : List (GridViewFilterNode ν)) :
    GridViewFilterNode.predicates grid rowId children = children.map (GridViewFilterNode.predicate grid rowId) := by
  induction children with
  | nil => rfl
  | cons child children ih => rw [GridViewFilterNode.predicates, ih, List.map_cons]

theorem predicate_and_keeps (children : List (GridViewFilterNode ν)) :
    (GridViewFilterNode.predicate grid rowId (.group .and children)).keeps = true ↔
      ∀ child ∈ children, (child.predicate grid rowId).keeps = true := by
  cases children with
  | nil => simp [GridViewFilterNode.predicate]
  | cons child children => simp [GridViewFilterNode.predicate, predicates_eq]

theorem predicate_or_keeps (children : List (GridViewFilterNode ν)) :
    (GridViewFilterNode.predicate grid rowId (.group .or children)).keeps = true ↔
      children = [] ∨ ∃ child ∈ children, (child.predicate grid rowId).keeps = true := by
  cases children with
  | nil => simp [GridViewFilterNode.predicate]
  | cons child children => simp [GridViewFilterNode.predicate, predicates_eq]

theorem matchesChildren_and (children : List (GridViewFilterNode ν)) :
    GridViewFilterNode.matchesChildren grid rowId .and children = children.all fun child => child.matches grid rowId := by
  induction children with
  | nil => rfl
  | cons child children ih => rw [GridViewFilterNode.matchesChildren, ih, List.all_cons]

theorem matchesChildren_or (children : List (GridViewFilterNode ν)) :
    GridViewFilterNode.matchesChildren grid rowId .or children = children.any fun child => child.matches grid rowId := by
  induction children with
  | nil => rfl
  | cons child children ih => rw [GridViewFilterNode.matchesChildren, ih, List.any_cons]

variable {grid rowId}

theorem meets_and {children : List (GridViewFilterNode ν)} :
    GridViewFilterNode.Meets grid rowId (.group .and children) ↔ ∀ child ∈ children, child.Meets grid rowId := by
  constructor
  · rintro (_ | _ | h)
    · exact List.forall_mem_nil _
    · exact h
  · exact .all

theorem meets_or {children : List (GridViewFilterNode ν)} :
    GridViewFilterNode.Meets grid rowId (.group .or children) ↔
      children = [] ∨ ∃ child ∈ children, child.Meets grid rowId := by
  constructor
  · rintro (_ | _ | _ | ⟨hmem, h⟩)
    · exact .inl rfl
    · exact .inr ⟨_, hmem, h⟩
  · rintro (rfl | ⟨child, hmem, h⟩)
    · exact .none
    · exact .some hmem h

theorem meets_leaf {filter : GridViewFilter ν} :
    GridViewFilterNode.Meets grid rowId (.leaf filter) ↔ filter.Asks (grid.cellOrMissing rowId filter.columnId) :=
  ⟨fun (.leaf h) => h, .leaf⟩

theorem hinges_leaf {filter : GridViewFilter ν} :
    GridViewFilterNode.HingesOnMissing grid rowId (.leaf filter) ↔ AsksMissing grid rowId filter := by
  constructor
  · rintro ⟨hcell⟩
    exact ⟨_, rfl, hcell⟩
  · rintro ⟨columnId, rfl, hcell⟩
    exact .leaf hcell

theorem GridViewFilterNode.HingesOnMissing.meets {node : GridViewFilterNode ν} (h : node.HingesOnMissing grid rowId) :
    node.Meets grid rowId := by
  induction h with
  | @leaf columnId hcell =>
    have hmissing : grid.cellOrMissing rowId columnId = missingCell := by rw [Grid.cellOrMissing, hcell, Option.getD_none]
    exact .leaf (congrArg Cell.status hmissing)
  | all hall _ _ _ => exact .all hall
  | some hmem _ _ ih _ => exact .some hmem ih

theorem predicate_keeps (node : GridViewFilterNode ν) :
    (node.predicate grid rowId).keeps = true ↔ node.Meets grid rowId ∧ ¬ node.HingesOnMissing grid rowId := by
  induction node using GridViewFilterNode.inductOn with
  | hleaf filter =>
    rw [meets_leaf, hinges_leaf, GridViewFilterNode.predicate]
    exact filterPredicate_keeps grid rowId filter
  | hgroup combinator children ih =>
    cases combinator with
    | and =>
      rw [predicate_and_keeps, meets_and]
      constructor
      · intro h
        have hall := fun child hmem => (ih child hmem).mp (h child hmem)
        refine ⟨fun child hmem => (hall child hmem).1, ?_⟩
        intro hhinges
        cases hhinges with
        | all _ hmem hchild => exact (hall _ hmem).2 hchild
      · rintro ⟨hall, hhinges⟩ child hmem
        exact (ih child hmem).mpr ⟨hall child hmem, fun h => hhinges (.all hall hmem h)⟩
    | or =>
      rw [predicate_or_keeps, meets_or]
      constructor
      · rintro (rfl | ⟨child, hmem, h⟩)
        · exact ⟨.inl rfl, nofun⟩
        · obtain ⟨hmeets, hfree⟩ := (ih child hmem).mp h
          refine ⟨.inr ⟨child, hmem, hmeets⟩, ?_⟩
          intro hhinges
          cases hhinges with
          | some _ _ hothers => exact hfree (hothers child hmem hmeets)
      · rintro ⟨rfl | ⟨child, hmem, hmeets⟩, hhinges⟩
        · exact .inl rfl
        · by_contra hnone
          push Not at hnone
          have hothers : ∀ other ∈ children, other.Meets grid rowId → other.HingesOnMissing grid rowId := by
            intro other hother hmeets
            by_contra hfree
            exact hnone.2 other hother ((ih other hother).mpr ⟨hmeets, hfree⟩)
          exact hhinges (.some hmem (hothers child hmem hmeets) hothers)

/-- The predicate of a tree keeps exactly the rows which meet it, unless they meet it for the status of a missing cell. -/
theorem gridViewFilter_exact (grid : Grid ν) (rowId : String) (group : GridViewFilterGroup ν) :
    ((buildSqliteGridViewFilterTreePredicate grid rowId group).keeps = true ↔ group.node.Meets grid rowId) ↔
      ¬ group.node.HingesOnMissing grid rowId := by
  have hkeeps : (buildSqliteGridViewFilterTreePredicate grid rowId group).keeps = true ↔
    group.node.Meets grid rowId ∧ ¬ group.node.HingesOnMissing grid rowId := predicate_keeps _
  rw [hkeeps]
  constructor
  · intro h hhinges
    exact (h.mpr hhinges.meets).2 hhinges
  · intro hfree
    exact and_iff_left hfree

/-- A row without a cell is not found by a filter for cells at rest. -/
theorem gridViewFilter_missing :
    let group : GridViewFilterGroup SafeInteger := ⟨.and, [.leaf (.status "note" .idle)]⟩
    (buildSqliteGridViewFilterTreePredicate Grid.empty "ada" group).keeps = false ∧
      group.node.Meets Grid.empty "ada" := by
  refine ⟨rfl, .all ?_⟩
  intro child hchild
  rw [List.mem_singleton.mp hchild]
  exact .leaf rfl

end Agreement

end ByokGrid
