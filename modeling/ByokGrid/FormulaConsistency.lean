import ByokGrid.Dataflow
import ByokGrid.FormulaSoundness
import ByokGrid.FormulaOrder

/-! The incremental recompute of a row agrees with the evaluation of all its
formula columns in dependency order. -/

namespace ByokGrid

variable {ν : Type}

section Lookup

variable (grid : Grid ν) (tableId : String)

def Grid.formulaExpression (formulaId : String) : Option (FormulaExpression ν) :=
  (grid.formulaColumn tableId formulaId).bind fun column => column.configuration.formula?

def Grid.formulaIds : List String :=
  (grid.formulaColumns tableId).map Column.id

variable {grid tableId}

theorem Grid.formulaColumn_eq_some {formulaId : String} {column : Column ν}
    (h : grid.formulaColumn tableId formulaId = some column) :
    column ∈ grid.formulaColumns tableId ∧ column.id = formulaId := by
  have hmem := List.mem_of_find?_eq_some h
  have hid := List.find?_some h
  exact ⟨hmem, by simpa using hid⟩

theorem Grid.formulaColumn_of_mem {column : Column ν} (h : column ∈ grid.formulaColumns tableId) :
    grid.formulaColumn tableId column.id = some column := by
  cases hfind : grid.formulaColumn tableId column.id with
  | none =>
    have := List.find?_eq_none.mp hfind column h
    simp at this
  | some other =>
    obtain ⟨hmem, hid⟩ := Grid.formulaColumn_eq_some hfind
    have hin : other ∈ grid.columns := (List.mem_filter.mp hmem).1
    have hcol : column ∈ grid.columns := (List.mem_filter.mp h).1
    rw [Table.eq_of_key hin hcol hid]

theorem Grid.mem_formulaIds_of_expression {formulaId : String} {expression : FormulaExpression ν}
    (h : grid.formulaExpression tableId formulaId = some expression) :
    formulaId ∈ grid.formulaIds tableId := by
  obtain ⟨column, hcolumn, _⟩ := Option.bind_eq_some_iff.mp h
  obtain ⟨hmem, rfl⟩ := Grid.formulaColumn_eq_some hcolumn
  exact List.mem_map_of_mem hmem

theorem Grid.nodup_formulaIds : (grid.formulaIds tableId).Nodup := by
  have hsub : (grid.formulaIds tableId).Sublist (grid.columns.records.map Column.id) :=
    List.filter_sublist.map _
  exact hsub.nodup grid.columns.nodup

theorem Grid.formulaExpression_eq_none {formulaId : String} (h : formulaId ∉ grid.formulaIds tableId) :
    grid.formulaExpression tableId formulaId = none := by
  cases he : grid.formulaExpression tableId formulaId with
  | none => rfl
  | some expression => exact absurd (Grid.mem_formulaIds_of_expression he) h

def Grid.affectedColumns (grid : Grid ν) (tableId : String) (changedColumnIds : List String) : List String :=
  if grid.formulaColumns tableId = [] then []
  else reachableColumns (grid.dependenciesOf tableId) changedColumnIds

theorem Grid.mem_affectedColumns {changed : List String} {f : String} (hf : f ∈ grid.formulaIds tableId) :
    f ∈ grid.affectedColumns tableId changed ↔
      f ∈ reachableColumns (grid.dependenciesOf tableId) changed := by
  have hne : grid.formulaColumns tableId ≠ [] := by
    intro he
    simp [Grid.formulaIds, he] at hf
  simp [Grid.affectedColumns, hne]

end Lookup

variable [JsRuntime ν]

mutual

theorem evaluateFormula_congr_nodes {v w : String → Option (CellValue ν)} (expression : FormulaExpression ν)
    (depth : Nat)
    (h : ∀ columnId d, (.column columnId, d) ∈ walkFormula expression depth →
      (v columnId).getD emptyValue = (w columnId).getD emptyValue) :
    evaluateFormula expression v = evaluateFormula expression w := by
  cases expression with
  | column columnId =>
    simp only [evaluateFormula]
    exact h columnId depth (by simp [walkFormula])
  | literal value => simp only [evaluateFormula]
  | call fn args =>
    simp only [evaluateFormula]
    rw [evaluateArguments_congr_nodes args (depth + 1)
      fun columnId d hmem => h columnId d (by simp [walkFormula, hmem])]

theorem evaluateArguments_congr_nodes {v w : String → Option (CellValue ν)}
    (args : List (FormulaExpression ν)) (depth : Nat)
    (h : ∀ columnId d, (.column columnId, d) ∈ walkArguments args depth →
      (v columnId).getD emptyValue = (w columnId).getD emptyValue) :
    evaluateArguments args v = evaluateArguments args w := by
  cases args with
  | nil => simp only [evaluateArguments]
  | cons argument args =>
    simp only [evaluateArguments]
    rw [evaluateFormula_congr_nodes argument depth
        fun columnId d hmem => h columnId d (by simp [walkArguments, hmem]),
      evaluateArguments_congr_nodes args depth
        fun columnId d hmem => h columnId d (by simp [walkArguments, hmem])]

end

theorem evaluateFormula_congr {v w : String → Option (CellValue ν)} {expression : FormulaExpression ν}
    (h : ∀ columnId ∈ collectFormulaColumnIds expression,
      (v columnId).getD emptyValue = (w columnId).getD emptyValue) :
    evaluateFormula expression v = evaluateFormula expression w :=
  evaluateFormula_congr_nodes expression 1 fun columnId _ hmem =>
    h columnId (mem_collectFormulaColumnIds hmem)

section Network

variable (grid : Grid ν) (tableId : String)

/-- The unarchived formula columns compute their cell from the cells they
reference; every other column is a source. -/
def formulaNetwork : Network String (CellValue ν) where
  rule formulaId := (grid.formulaExpression tableId formulaId).map fun expression values =>
    evaluateFormula expression fun columnId => some (values columnId)
  reads formulaId columnId :=
    ∃ expression, grid.formulaExpression tableId formulaId = some expression ∧
      columnId ∈ collectFormulaColumnIds expression
  rule_congr formulaId rule v w hrule hreads := by
    cases he : grid.formulaExpression tableId formulaId with
    | none => simp [he] at hrule
    | some expression =>
      simp only [he, Option.map_some, Option.some.injEq] at hrule
      subst hrule
      exact evaluateFormula_congr fun columnId hmem => by
        simpa using hreads columnId ⟨expression, he, hmem⟩

def Grid.DependenciesRecorded : Prop :=
  ∀ formulaId expression, grid.formulaExpression tableId formulaId = some expression →
    ∀ columnId ∈ collectFormulaColumnIds expression,
      formulaId ∈ dependents (grid.dependenciesOf tableId) columnId

def valuation (values : String → Option (CellValue ν)) : String → CellValue ν :=
  fun columnId => (values columnId).getD emptyValue

variable {grid tableId}

theorem evaluateFormula_valuation (expression : FormulaExpression ν)
    (values : String → Option (CellValue ν)) :
    evaluateFormula expression (fun columnId => some (valuation values columnId)) =
      evaluateFormula expression values :=
  evaluateFormula_congr fun _ _ => rfl

end Network

section Loop

variable {grid : Grid ν} {tableId rowId : String}

/-- The loop state holds the valuation `v`, and the row stores it. -/
structure RecomputeState.Holds (rowId : String) (state : RecomputeState ν) (v : String → CellValue ν) :
    Prop where
  values : valuation state.values = v
  stored : ∀ columnId, state.grid.storedValue rowId columnId = serializeSqliteCellValue (v columnId)

inductive RecomputeRound (grid : Grid ν) (tableId rowId : String) (state : RecomputeState ν)
    (v : String → CellValue ν) (formulaId : String) :
    Except FormulaDefinitionError (RecomputeState ν) → Prop where
  | skipped (h : grid.formulaColumn tableId formulaId = none) :
    RecomputeRound grid tableId rowId state v formulaId (.ok state)
  | silent (next : RecomputeState ν) (hmem : formulaId ∈ grid.formulaIds tableId)
    (hholds : next.Holds rowId ((formulaNetwork grid tableId).evaluateNode v formulaId))
    (hgrid : next.grid = state.grid) (hchanged : next.changedFormulaIds = state.changedFormulaIds) :
    RecomputeRound grid tableId rowId state v formulaId (.ok next)
  | written (next : RecomputeState ν) (cell : Cell ν) (hmem : formulaId ∈ grid.formulaIds tableId)
    (hholds : next.Holds rowId ((formulaNetwork grid tableId).evaluateNode v formulaId))
    (hgrid : next.grid = state.grid.setCell rowId formulaId cell) (hstatus : cell.status = .succeeded)
    (hchanged : next.changedFormulaIds = state.changedFormulaIds ++ [formulaId]) :
    RecomputeRound grid tableId rowId state v formulaId (.ok next)
  | failed (column : Column ν) (e : FormulaDefinitionError)
    (h : grid.formulaColumn tableId formulaId = some column)
    (hbad : column.configuration.formula? = none ∨
      ¬ ((formulaNetwork grid tableId).evaluateNode v formulaId formulaId).Fits column.valueType) :
    RecomputeRound grid tableId rowId state v formulaId (.error e)

theorem RecomputeState.Holds.setCell {state : RecomputeState ν} {v : String → CellValue ν}
    (h : state.Holds rowId v) (formulaId : String) (value : CellValue ν) (cell : Cell ν)
    (hcell : cell.value = serializeSqliteCellValue value) (changed : List String) :
    RecomputeState.Holds rowId
      ⟨state.grid.setCell rowId formulaId cell, Function.update state.values formulaId (some value), changed⟩
      (Function.update v formulaId value) := by
  refine ⟨?_, fun columnId => ?_⟩
  · funext columnId
    by_cases hc : columnId = formulaId
    · subst hc
      simp [valuation]
    · simp [valuation, Function.update_of_ne hc, ← h.values]
  · by_cases hc : columnId = formulaId
    · subst hc
      simp [Grid.storedValue, hcell]
    · have hne : ¬ (rowId = rowId ∧ columnId = formulaId) := fun hh => hc hh.2
      have hstored := h.stored columnId
      simp only [Grid.storedValue, Grid.setCell_of_ne _ _ _ _ hne, Function.update_of_ne hc] at hstored ⊢
      exact hstored

theorem recomputeFormula_round (grid : Grid ν) (tableId : String) {state : RecomputeState ν} {v : String → CellValue ν}
    (h : state.Holds rowId v) (formulaId : String) :
    RecomputeRound grid tableId rowId state v formulaId
      (recomputeFormula (grid.formulaColumn tableId) rowId state formulaId) := by
  unfold recomputeFormula
  cases hcolumn : grid.formulaColumn tableId formulaId with
  | none => exact .skipped hcolumn
  | some column =>
    obtain ⟨hmem, rfl⟩ := Grid.formulaColumn_eq_some hcolumn
    have hid : column.id ∈ grid.formulaIds tableId := List.mem_map_of_mem hmem
    dsimp only
    cases hexpr : column.configuration.formula? with
    | none => exact .failed column _ hcolumn (Or.inl hexpr)
    | some expression =>
      have hrule : (formulaNetwork grid tableId).evaluateNode v column.id =
          Function.update v column.id (evaluateFormula expression state.values) := by
        have hvalue := evaluateFormula_valuation expression state.values
        rw [h.values] at hvalue
        simp [Network.evaluateNode, formulaNetwork, Grid.formulaExpression, hcolumn, hexpr, hvalue]
      dsimp only
      split
      · rename_i hbad
        refine .failed column _ hcolumn (Or.inr ?_)
        rw [hrule, Function.update_self]
        rintro (he | he)
        · exact hbad.1 he
        · exact hbad.2 he
      · cases hcell : state.grid.cells rowId column.id with
        | some existing =>
          refine .written _ _ hid ?_ rfl rfl rfl
          rw [hrule]
          exact h.setCell column.id _ _ rfl _
        | none =>
          dsimp only
          split
          · rename_i hempty
            refine .silent _ hid ?_ rfl rfl
            rw [hrule]
            refine ⟨?_, fun columnId => ?_⟩
            · exact (h.setCell column.id _ ⟨_, .succeeded, 1⟩ rfl []).values
            · by_cases hc : columnId = column.id
              · subst hc
                rw [Function.update_self, CellValue.eq_empty_of_type hempty]
                simp [Grid.storedValue, hcell, serializeSqliteCellValue]
              · rw [Function.update_of_ne hc]
                exact h.stored columnId
          · refine .written _ _ hid ?_ rfl rfl rfl
            rw [hrule]
            exact h.setCell column.id _ _ rfl _

/-- What a completed loop leaves: the row stores `w`, and only the cells of the
returned formula columns were written. -/
structure RecomputeResult (grid : Grid ν) (tableId rowId : String) (start : Grid ν) (ordered : List String)
    (w : String → CellValue ν) (changedFormulaIds : List String) (after : Grid ν) : Prop where
  cellsOnly : after = { start with cells := after.cells }
  stored : ∀ columnId, after.storedValue rowId columnId = serializeSqliteCellValue (w columnId)
  untouched : ∀ r c, ¬ (r = rowId ∧ c ∈ changedFormulaIds) → after.cells r c = start.cells r c
  sublist : changedFormulaIds.Sublist ordered
  formula : ∀ c ∈ changedFormulaIds, c ∈ grid.formulaIds tableId
  written : ∀ c ∈ changedFormulaIds, ∃ cell, after.cells rowId c = some cell ∧ cell.status = .succeeded

def RecomputeFailure (grid : Grid ν) (tableId : String) (ordered : List String)
    (w : String → CellValue ν) : Prop :=
  ∃ formulaId ∈ ordered, ∃ column, grid.formulaColumn tableId formulaId = some column ∧
    (column.configuration.formula? = none ∨ ¬ (w formulaId).Fits column.valueType)

theorem RecomputeResult.prepend {start middle after : Grid ν} {ordered fresh : List String}
    {w : String → CellValue ν} {formulaId : String} {cell : Cell ν}
    (h : RecomputeResult grid tableId rowId middle ordered w fresh after)
    (hmiddle : middle = start.setCell rowId formulaId cell) (hstatus : cell.status = .succeeded)
    (hmem : formulaId ∈ grid.formulaIds tableId) (hfresh : formulaId ∉ fresh) :
    RecomputeResult grid tableId rowId start (formulaId :: ordered) w (formulaId :: fresh) after where
  cellsOnly := by
    rw [h.cellsOnly, hmiddle]
    rfl
  stored := h.stored
  untouched r c hne := by
    simp only [List.mem_cons, not_and, not_or] at hne
    have hlater : ¬ (r = rowId ∧ c ∈ fresh) := fun hh => (hne hh.1).2 hh.2
    have hnow : ¬ (r = rowId ∧ c = formulaId) := fun hh => (hne hh.1).1 hh.2
    rw [h.untouched r c hlater, hmiddle, Grid.setCell_of_ne _ _ _ _ hnow]
  sublist := h.sublist.cons_cons formulaId
  formula c hc := by
    rcases List.mem_cons.mp hc with rfl | hc
    · exact hmem
    · exact h.formula c hc
  written c hc := by
    rcases List.mem_cons.mp hc with rfl | hc
    · refine ⟨cell, ?_, hstatus⟩
      rw [h.untouched rowId c fun hh => hfresh hh.2, hmiddle, Grid.setCell_self]
    · exact h.written c hc

theorem RecomputeResult.skip {start middle after : Grid ν} {ordered fresh : List String}
    {w : String → CellValue ν} (formulaId : String)
    (h : RecomputeResult grid tableId rowId middle ordered w fresh after) (hmiddle : middle = start) :
    RecomputeResult grid tableId rowId start (formulaId :: ordered) w fresh after := by
  subst hmiddle
  exact ⟨h.cellsOnly, h.stored, h.untouched, h.sublist.cons formulaId, h.formula, h.written⟩

theorem recomputeLoop_spec (grid : Grid ν) (tableId : String) {ordered : List String} (hnd : ordered.Nodup) {state : RecomputeState ν}
    {v : String → CellValue ν} (h : state.Holds rowId v) :
    match recomputeLoop (grid.formulaColumn tableId) rowId ordered state with
    | (.ok changed, after) => ∃ fresh, changed = state.changedFormulaIds ++ fresh ∧
        RecomputeResult grid tableId rowId state.grid ordered
          ((formulaNetwork grid tableId).evaluate ordered v) fresh after
    | (.error _, _) => RecomputeFailure grid tableId ordered
        ((formulaNetwork grid tableId).evaluate ordered v) := by
  induction ordered generalizing state v with
  | nil =>
    exact ⟨[], by simp, rfl, h.stored, fun _ _ _ => rfl, List.Sublist.refl _, by simp, by simp⟩
  | cons formulaId ordered ih =>
    have hids := List.nodup_cons.mp hnd
    have hround := recomputeFormula_round grid tableId h formulaId
    have hlater : ∀ w : String → CellValue ν,
        RecomputeFailure grid tableId ordered ((formulaNetwork grid tableId).evaluate ordered w) →
        RecomputeFailure grid tableId (formulaId :: ordered)
          ((formulaNetwork grid tableId).evaluate ordered w) := by
      rintro w ⟨id, hid, hbad⟩
      exact ⟨id, List.mem_cons_of_mem _ hid, hbad⟩
    unfold recomputeLoop
    generalize hresult : recomputeFormula (grid.formulaColumn tableId) rowId state formulaId = result
    rw [hresult] at hround
    have hevaluate : (formulaNetwork grid tableId).evaluate (formulaId :: ordered) v =
        (formulaNetwork grid tableId).evaluate ordered
          ((formulaNetwork grid tableId).evaluateNode v formulaId) := rfl
    cases hround with
    | skipped hnone =>
      have hsame : (formulaNetwork grid tableId).evaluateNode v formulaId = v := by
        simp [Network.evaluateNode, formulaNetwork, Grid.formulaExpression, hnone]
      rw [hevaluate, hsame]
      have hrest := ih hids.2 h
      dsimp only
      split
      · rename_i changed after heq
        rw [heq] at hrest
        obtain ⟨fresh, hchanged, hspec⟩ := hrest
        exact ⟨fresh, hchanged, hspec.skip formulaId rfl⟩
      · rename_i heq
        rw [heq] at hrest
        exact hlater v hrest
    | silent next hmem hholds hgrid hchanged =>
      rw [hevaluate]
      have hrest := ih hids.2 hholds
      dsimp only
      split
      · rename_i changed after heq
        rw [heq] at hrest
        obtain ⟨fresh, hfresh, hspec⟩ := hrest
        exact ⟨fresh, by rw [hfresh, hchanged], hspec.skip formulaId hgrid⟩
      · rename_i heq
        rw [heq] at hrest
        exact hlater _ hrest
    | written next cell hmem hholds hgrid hstatus hchanged =>
      rw [hevaluate]
      have hrest := ih hids.2 hholds
      dsimp only
      split
      · rename_i changed after heq
        rw [heq] at hrest
        obtain ⟨fresh, hfresh, hspec⟩ := hrest
        refine ⟨formulaId :: fresh, by rw [hfresh, hchanged]; simp, ?_⟩
        exact hspec.prepend hgrid hstatus hmem fun hin => hids.1 (hspec.sublist.subset hin)
      · rename_i heq
        rw [heq] at hrest
        exact hlater _ hrest
    | failed column e hcolumn hbad =>
      refine ⟨formulaId, List.mem_cons_self, column, hcolumn, hbad.imp_right fun hfit => ?_⟩
      rw [hevaluate, Network.evaluate_of_not_mem _ hids.1]
      exact hfit

end Loop

section Agreement

abbrev Grid.FormulaOrder (grid : Grid ν) (tableId : String) (order : List String) : Prop :=
  TopologicalOrder (grid.formulaIds tableId)
    (graphEdge (grid.formulaIds tableId) (dependents (grid.dependenciesOf tableId))) order

def Grid.FormulaConsistent (grid : Grid ν) (tableId : String) (cells : String → Option (Cell ν))
    (formulaId : String) : Prop :=
  ∀ expression, grid.formulaExpression tableId formulaId = some expression →
    (cellValues cells formulaId).getD emptyValue = evaluateFormula expression (cellValues cells)

variable {grid : Grid ν} {tableId rowId : String} {changed : List String}
  {before : String → Option (Cell ν)}

theorem Grid.FormulaConsistent.settled {cells : String → Option (Cell ν)} {formulaId : String}
    (h : grid.FormulaConsistent tableId cells formulaId) :
    (formulaNetwork grid tableId).Settled (valuation (cellValues cells)) formulaId := by
  intro rule hrule
  obtain ⟨expression, he, rfl⟩ := Option.map_eq_some_iff.mp hrule
  exact (h expression he).trans (evaluateFormula_valuation expression _).symm

theorem RecomputeState.holds_initial (grid : Grid ν) (rowId : String) :
    RecomputeState.Holds rowId ⟨grid, cellValues (grid.cells rowId), []⟩
      (valuation (cellValues (grid.cells rowId))) := by
  refine ⟨rfl, fun columnId => ?_⟩
  cases h : grid.cells rowId columnId with
  | none => simp [Grid.storedValue, valuation, cellValues, h]
  | some cell => simp [Grid.storedValue, valuation, cellValues, h]

theorem readsEarlier_of_topological {vertices order : List String} (hnd : vertices.Nodup)
    (hrecorded : grid.DependenciesRecorded tableId)
    (horder : TopologicalOrder vertices
      (fun u v => u ∈ vertices ∧ v ∈ vertices ∧ v ∈ dependents (grid.dependenciesOf tableId) u) order) :
    (formulaNetwork grid tableId).ReadsEarlier order := by
  rintro pre i post heq j ⟨expression, he, hj⟩ hin
  have hordernd := horder.perm.nodup_iff.mpr hnd
  have hjmem : j ∈ vertices := horder.perm.mem_iff.mp (by simp [heq, hin])
  have himem : i ∈ vertices := horder.perm.mem_iff.mp (by simp [heq])
  have hearlier := horder.preceded pre i post heq j ⟨hjmem, himem, hrecorded i expression he j hj⟩
  rw [heq] at hordernd
  exact (List.nodup_append.mp hordernd).2.2 j hearlier j hin rfl

theorem evaluate_reachable_settled (hrecorded : grid.DependenciesRecorded tableId)
    (hassigned : ∀ c, grid.cells rowId c ≠ before c → c ∈ changed ∧ c ∉ grid.formulaIds tableId)
    (hconsistent : ∀ f ∈ grid.formulaIds tableId,
      f ∉ reachableColumns (grid.dependenciesOf tableId) changed → grid.FormulaConsistent tableId before f)
    {order : List String}
    (horder : TopologicalOrder (reachableColumns (grid.dependenciesOf tableId) changed)
      (reachableEdge (grid.dependenciesOf tableId)
        (reachableColumns (grid.dependenciesOf tableId) changed)) order)
    {f : String} (hf : f ∈ grid.formulaIds tableId) :
    (formulaNetwork grid tableId).Settled
      ((formulaNetwork grid tableId).evaluate order (valuation (cellValues (grid.cells rowId)))) f := by
  have hnd := nodup_reachableColumns (grid.dependenciesOf tableId) changed
  have hearlier : (formulaNetwork grid tableId).ReadsEarlier order :=
    readsEarlier_of_topological hnd hrecorded
      ⟨horder.perm, horder.preceded.mono fun u v hedge => (reachableEdge_iff _).mpr hedge⟩
  by_cases hreach : f ∈ reachableColumns (grid.dependenciesOf tableId) changed
  · exact Network.evaluate_settled (horder.perm.nodup_iff.mpr hnd) hearlier _ (horder.perm.mem_iff.mpr hreach)
  · have hsame : ∀ c, c ∉ changed ∨ c ∈ grid.formulaIds tableId →
        valuation (cellValues (grid.cells rowId)) c = valuation (cellValues before) c := by
      intro c hc
      have hcell : grid.cells rowId c = before c := by
        by_contra hne
        obtain ⟨hin, hnot⟩ := hassigned c hne
        rcases hc with hc | hc
        · exact hc hin
        · exact hnot hc
      simp [valuation, cellValues, hcell]
    have hnow : (formulaNetwork grid tableId).Settled (valuation (cellValues (grid.cells rowId))) f := by
      refine (hconsistent f hf hreach).settled.congr (hsame f (Or.inr hf)) ?_
      rintro c ⟨expression, he, hc⟩
      refine hsame c (Or.inl fun hin => hreach ?_)
      exact reachableColumns_closed _ (Or.inl hin) (hrecorded f expression he c hc)
    refine hnow.evaluate (fun hin => hreach (horder.perm.mem_iff.mp hin)) ?_
    rintro c ⟨expression, he, hc⟩ hin
    exact hreach (reachableColumns_closed _ (Or.inr (horder.perm.mem_iff.mp hin))
      (hrecorded f expression he c hc))

theorem evaluate_reachable_eq_full (hrecorded : grid.DependenciesRecorded tableId)
    (hassigned : ∀ c, grid.cells rowId c ≠ before c → c ∈ changed ∧ c ∉ grid.formulaIds tableId)
    (hconsistent : ∀ f ∈ grid.formulaIds tableId,
      f ∉ reachableColumns (grid.dependenciesOf tableId) changed → grid.FormulaConsistent tableId before f)
    {incremental full : List String}
    (hpart : TopologicalOrder (reachableColumns (grid.dependenciesOf tableId) changed)
      (reachableEdge (grid.dependenciesOf tableId)
        (reachableColumns (grid.dependenciesOf tableId) changed)) incremental)
    (hfull : grid.FormulaOrder tableId full) {f : String} (hf : f ∈ grid.formulaIds tableId) :
    (formulaNetwork grid tableId).evaluate incremental (valuation (cellValues (grid.cells rowId))) f =
      (formulaNetwork grid tableId).evaluate full (valuation (cellValues (grid.cells rowId))) f := by
  have hnd : (grid.formulaIds tableId).Nodup := Grid.nodup_formulaIds
  have hearlier : (formulaNetwork grid tableId).ReadsEarlier full :=
    readsEarlier_of_topological hnd hrecorded
      ⟨hfull.perm, hfull.preceded.mono fun u v hedge => ⟨hedge.1, hedge.2.2⟩⟩
  have hmem := hfull.perm.mem_iff.mpr hf
  refine Network.settled_unique (N := formulaNetwork grid tableId) ?_ ?_ ?_ ?_ hmem
  · intro i _ hrule
    rw [Network.evaluate_of_rule_none _ hrule, Network.evaluate_of_rule_none _ hrule]
  · intro i hi
    exact evaluate_reachable_settled hrecorded hassigned hconsistent hpart (hfull.perm.mem_iff.mp hi)
  · intro i hi
    exact Network.evaluate_settled (hfull.perm.nodup_iff.mpr hnd) hearlier _ hi
  · rintro pre i post heq j ⟨expression, he, hj⟩
    by_cases hjf : j ∈ grid.formulaIds tableId
    · exact Or.inl (hfull.preceded pre i post heq j ⟨hjf, hrecorded i expression he j hj⟩)
    · have hrule : (formulaNetwork grid tableId).rule j = none := by
        simp [formulaNetwork, Grid.formulaExpression_eq_none hjf]
      exact Or.inr (by
        rw [Network.evaluate_of_rule_none _ hrule, Network.evaluate_of_rule_none _ hrule])

theorem reachableColumns_nil (dependencies : List ColumnDependency) :
    reachableColumns dependencies [] = [] := by
  refine List.eq_nil_iff_forall_not_mem.mpr fun v hv => ?_
  obtain ⟨u, hu, _⟩ := (mem_reachableColumns dependencies).mp hv
  cases hu

theorem recompute_cases (grid : Grid ν) (tableId rowId : String) (changed : List String) :
    (grid.affectedColumns tableId changed = [] ∧
      recomputeDependentSqliteFormulasForRow grid tableId rowId changed = (.ok [], grid)) ∨
    (grid.affectedColumns tableId changed = reachableColumns (grid.dependenciesOf tableId) changed ∧
      ¬ Acyclic (reachableEdge (grid.dependenciesOf tableId) (grid.affectedColumns tableId changed)) ∧
      recomputeDependentSqliteFormulasForRow grid tableId rowId changed =
        (.error ⟨"The formula dependency graph is cyclic."⟩, grid)) ∨
    (grid.affectedColumns tableId changed = reachableColumns (grid.dependenciesOf tableId) changed ∧
      Acyclic (reachableEdge (grid.dependenciesOf tableId) (grid.affectedColumns tableId changed)) ∧
      recomputeDependentSqliteFormulasForRow grid tableId rowId changed =
        recomputeLoop (grid.formulaColumn tableId) rowId
          (orderReachable (grid.dependenciesOf tableId) (grid.affectedColumns tableId changed))
          ⟨grid, cellValues (grid.cells rowId), []⟩) := by
  by_cases hchanged : changed = []
  · subst hchanged
    refine Or.inl ⟨?_, by simp [recomputeDependentSqliteFormulasForRow]⟩
    simp [Grid.affectedColumns, reachableColumns_nil]
  by_cases hcolumns : grid.formulaColumns tableId = []
  · exact Or.inl ⟨by simp [Grid.affectedColumns, hcolumns],
      by simp [recomputeDependentSqliteFormulasForRow, hchanged, hcolumns]⟩
  have haffected : grid.affectedColumns tableId changed =
      reachableColumns (grid.dependenciesOf tableId) changed := by simp [Grid.affectedColumns, hcolumns]
  by_cases hreach : reachableColumns (grid.dependenciesOf tableId) changed = []
  · exact Or.inl ⟨by rw [haffected, hreach],
      by simp [recomputeDependentSqliteFormulasForRow, hchanged, hcolumns, hreach]⟩
  have hiff := orderReachable_length_iff (grid.dependenciesOf tableId)
    (nodup_reachableColumns (grid.dependenciesOf tableId) changed)
  rw [haffected]
  by_cases hlength : (orderReachable (grid.dependenciesOf tableId)
      (reachableColumns (grid.dependenciesOf tableId) changed)).length =
        (reachableColumns (grid.dependenciesOf tableId) changed).length
  · refine Or.inr (Or.inr ⟨rfl, hiff.mp hlength, ?_⟩)
    simp [recomputeDependentSqliteFormulasForRow, hchanged, hcolumns, hreach, hlength]
  · refine Or.inr (Or.inl ⟨rfl, fun hacyclic => hlength (hiff.mpr hacyclic), ?_⟩)
    simp [recomputeDependentSqliteFormulasForRow, hchanged, hcolumns, hreach, hlength]

/-- A recompute agrees with the full evaluation `full` of the row: its formula
cells hold those values, and exactly the cells of returned columns changed. -/
structure RecomputeAgrees (grid : Grid ν) (tableId rowId : String) (changed : List String)
    (full : String → CellValue ν) (returned : List String) (after : Grid ν) : Prop where
  cellsOnly : after = { grid with cells := after.cells }
  evaluated : ∀ f ∈ grid.formulaIds tableId, after.storedValue rowId f = serializeSqliteCellValue (full f)
  untouched : ∀ r c, ¬ (r = rowId ∧ c ∈ grid.formulaIds tableId ∧
    ∃ u ∈ changed, Relation.TransGen (Affects (grid.dependenciesOf tableId)) u c) →
      after.cells r c = grid.cells r c
  listed : ∀ f, after.storedValue rowId f ≠ grid.storedValue rowId f → f ∈ returned
  returned_formula : ∀ f ∈ returned, f ∈ grid.formulaIds tableId
  returned_reachable : ∀ f ∈ returned,
    ∃ u ∈ changed, Relation.TransGen (Affects (grid.dependenciesOf tableId)) u f
  returned_nodup : returned.Nodup

def RecomputeIllTyped (grid : Grid ν) (tableId : String) (changed : List String)
    (full : String → CellValue ν) : Prop :=
  ∃ column ∈ grid.formulaColumns tableId,
    (∃ u ∈ changed, Relation.TransGen (Affects (grid.dependenciesOf tableId)) u column.id) ∧
    (column.configuration.formula? = none ∨
      ¬ ((full column.id).type = .empty ∨ (full column.id).type = column.valueType))

theorem recompute_of_order (hrecorded : grid.DependenciesRecorded tableId)
    (hassigned : ∀ c, grid.cells rowId c ≠ before c → c ∈ changed ∧ c ∉ grid.formulaIds tableId)
    (hconsistent : ∀ f ∈ grid.formulaIds tableId,
      f ∉ reachableColumns (grid.dependenciesOf tableId) changed → grid.FormulaConsistent tableId before f)
    {incremental full : List String}
    (hpart : TopologicalOrder (reachableColumns (grid.dependenciesOf tableId) changed)
      (reachableEdge (grid.dependenciesOf tableId)
        (reachableColumns (grid.dependenciesOf tableId) changed)) incremental)
    (hfull : grid.FormulaOrder tableId full) :
    match recomputeLoop (grid.formulaColumn tableId) rowId incremental
      ⟨grid, cellValues (grid.cells rowId), []⟩ with
    | (.ok returned, after) => RecomputeAgrees grid tableId rowId changed
        ((formulaNetwork grid tableId).evaluate full (valuation (cellValues (grid.cells rowId))))
        returned after
    | (.error _, _) => RecomputeIllTyped grid tableId changed
        ((formulaNetwork grid tableId).evaluate full (valuation (cellValues (grid.cells rowId)))) := by
  have hnd := hpart.perm.nodup_iff.mpr (nodup_reachableColumns (grid.dependenciesOf tableId) changed)
  have heq := fun {f} hf => evaluate_reachable_eq_full hrecorded hassigned hconsistent hpart hfull
    (f := f) hf
  have hreach : ∀ f ∈ incremental,
      ∃ u ∈ changed, Relation.TransGen (Affects (grid.dependenciesOf tableId)) u f :=
    fun f hf => (mem_reachableColumns _).mp (hpart.perm.mem_iff.mp hf)
  have hspec := recomputeLoop_spec grid tableId hnd
    (RecomputeState.holds_initial grid rowId)
  split
  · rename_i returned after hrun
    rw [hrun] at hspec
    obtain ⟨fresh, hfresh, hresult⟩ := hspec
    simp only [List.nil_append] at hfresh
    subst hfresh
    refine ⟨hresult.cellsOnly, ?_, ?_, ?_, hresult.formula, ?_, hresult.sublist.nodup hnd⟩
    · intro f hf
      rw [hresult.stored f, heq hf]
    · intro r c hne
      refine hresult.untouched r c fun hin => hne ⟨hin.1, hresult.formula c hin.2, ?_⟩
      exact hreach c (hresult.sublist.subset hin.2)
    · intro f hdiffers
      by_contra hnot
      refine hdiffers ?_
      simp [Grid.storedValue, hresult.untouched rowId f fun hin => hnot hin.2]
    · intro f hf
      exact hreach f (hresult.sublist.subset hf)
  · rename_i hrun
    rw [hrun] at hspec
    obtain ⟨formulaId, hmem, column, hcolumn, hbad⟩ := hspec
    obtain ⟨hin, rfl⟩ := Grid.formulaColumn_eq_some hcolumn
    have hf : column.id ∈ grid.formulaIds tableId := List.mem_map_of_mem hin
    refine ⟨column, hin, hreach column.id hmem, hbad.imp_right fun hfit => ?_⟩
    rw [← heq hf]
    exact hfit

/-- The recompute after an assignment to cells of the changed columns agrees
with every dependency-ordered evaluation of the whole row, or reports the
cycle among the affected columns and writes nothing. -/
theorem recomputeDependentSqliteFormulasForRow_correct
    (hrecorded : grid.DependenciesRecorded tableId)
    (hassigned : ∀ c, grid.cells rowId c ≠ before c → c ∈ changed ∧ c ∉ grid.formulaIds tableId)
    (hconsistent : ∀ f ∈ grid.formulaIds tableId, f ∉ grid.affectedColumns tableId changed →
      grid.FormulaConsistent tableId before f) :
    (Acyclic (reachableEdge (grid.dependenciesOf tableId) (grid.affectedColumns tableId changed)) →
      ∀ full, grid.FormulaOrder tableId full →
        match recomputeDependentSqliteFormulasForRow grid tableId rowId changed with
        | (.ok returned, after) => RecomputeAgrees grid tableId rowId changed
            ((formulaNetwork grid tableId).evaluate full (valuation (cellValues (grid.cells rowId))))
            returned after
        | (.error _, _) => RecomputeIllTyped grid tableId changed
            ((formulaNetwork grid tableId).evaluate full (valuation (cellValues (grid.cells rowId))))) ∧
    (¬ Acyclic (reachableEdge (grid.dependenciesOf tableId) (grid.affectedColumns tableId changed)) →
      recomputeDependentSqliteFormulasForRow grid tableId rowId changed =
        (.error ⟨"The formula dependency graph is cyclic."⟩, grid)) := by
  have hunreached : ∀ f ∈ grid.formulaIds tableId,
      f ∉ reachableColumns (grid.dependenciesOf tableId) changed → grid.FormulaConsistent tableId before f :=
    fun f hf hnot => hconsistent f hf fun hin => hnot ((Grid.mem_affectedColumns hf).mp hin)
  rcases recompute_cases grid tableId rowId changed with
    ⟨hnone, hrun⟩ | ⟨haffected, hcyclic, hrun⟩ | ⟨haffected, hacyclic, hrun⟩
  · refine ⟨fun _ full hfull => ?_, fun hcyclic => absurd ?_ hcyclic⟩
    · rw [hrun]
      by_cases hcolumns : grid.formulaColumns tableId = []
      · refine ⟨rfl, fun f hf => ?_, fun _ _ _ => rfl, fun f h => absurd rfl h, by simp, by simp, by simp⟩
        simp [Grid.formulaIds, hcolumns] at hf
      · have hreach : reachableColumns (grid.dependenciesOf tableId) changed = [] := by
          simpa [Grid.affectedColumns, hcolumns] using hnone
        have hempty : TopologicalOrder (reachableColumns (grid.dependenciesOf tableId) changed)
            (reachableEdge (grid.dependenciesOf tableId)
              (reachableColumns (grid.dependenciesOf tableId) changed)) [] :=
          ⟨by rw [hreach], PrecededBy.nil _⟩
        exact recompute_of_order hrecorded hassigned hunreached hempty hfull
    · rw [hnone]
      exact (PrecededBy.nil _).acyclic List.nodup_nil
        fun u v hedge => absurd ((reachableEdge_iff _).mp hedge).1 (by simp)
  · exact ⟨fun h => absurd h hcyclic, fun _ => hrun⟩
  · refine ⟨fun _ full hfull => ?_, fun hcyclic => absurd hacyclic hcyclic⟩
    rw [hrun]
    rw [haffected] at hacyclic ⊢
    have horder := orderReachable_topological (grid.dependenciesOf tableId)
      (nodup_reachableColumns (grid.dependenciesOf tableId) changed) hacyclic
    exact recompute_of_order hrecorded hassigned hunreached horder hfull

end Agreement

section Sample

def sampleColumn (id : String) (kind : ColumnKind) (configuration : ColumnConfiguration SafeInteger) :
    Column SafeInteger :=
  ⟨id, "t", id, kind, .text, configuration, none⟩

def sampleExpression (left right : String) : FormulaExpression SafeInteger :=
  .call .concat [.column left, .column right]

def sampleText (value : String) : Option (Cell SafeInteger) :=
  some ⟨.text value, .succeeded, 1⟩

def sampleCells (a columnId : String) : Option (Cell SafeInteger) :=
  if columnId = "a" then sampleText a
  else match columnId with
    | "b" => sampleText "z"
    | "f" => sampleText "xz"
    | "g" => sampleText "xzx"
    | "h" => sampleText "zz"
    | _ => none

/-- `f = a ++ b`, `g = f ++ a` and `h = b ++ b`; the cell of `a` has just changed. -/
def sampleGrid : Grid SafeInteger where
  dataTables := ⟨[⟨"t", none⟩], by decide⟩
  columns := ⟨[sampleColumn "a" .input .plain, sampleColumn "b" .input .plain,
    sampleColumn "f" .formula (.formula (sampleExpression "a" "b")),
    sampleColumn "g" .formula (.formula (sampleExpression "f" "a")),
    sampleColumn "h" .formula (.formula (sampleExpression "b" "b"))], by decide⟩
  columnDependencies := ⟨[⟨"f", "a", "t"⟩, ⟨"f", "b", "t"⟩, ⟨"g", "f", "t"⟩, ⟨"g", "a", "t"⟩,
    ⟨"h", "b", "t"⟩], by decide⟩
  rows := ⟨[⟨"r", "t", 1, none⟩], by decide⟩
  cells rowId columnId := if rowId = "r" then sampleCells "y" columnId else none

theorem sampleGrid_recorded : sampleGrid.DependenciesRecorded "t" := by
  intro formulaId expression he columnId hmem
  have hin := Grid.mem_formulaIds_of_expression he
  have hids : sampleGrid.formulaIds "t" = ["f", "g", "h"] := rfl
  rw [hids] at hin
  simp only [List.mem_cons, List.not_mem_nil, or_false] at hin
  rcases hin with rfl | rfl | rfl
  all_goals
    cases he
    revert columnId
    decide

theorem sampleGrid_order : sampleGrid.FormulaOrder "t" ["f", "g", "h"] := by
  have hedge : ∀ (v : String) (before : List String), (∀ u ∈ sampleGrid.formulaIds "t",
      v ∈ dependents (sampleGrid.dependenciesOf "t") u → u ∈ before) →
        ∀ u, graphEdge (sampleGrid.formulaIds "t") (dependents (sampleGrid.dependenciesOf "t")) u v →
          u ∈ before :=
    fun v before h u hedge => h u hedge.1 hedge.2
  refine ⟨by decide, ?_⟩
  have hf := (PrecededBy.nil _).append_singleton (hedge "f" [] (by decide))
  have hg := hf.append_singleton (hedge "g" ["f"] (by decide))
  exact hg.append_singleton (hedge "h" ["f", "g"] (by decide))

theorem recomputeDependentSqliteFormulasForRow_correct_sample :
    match recomputeDependentSqliteFormulasForRow sampleGrid "t" "r" ["a"] with
    | (.ok returned, after) => RecomputeAgrees sampleGrid "t" "r" ["a"]
        ((formulaNetwork sampleGrid "t").evaluate ["f", "g", "h"]
          (valuation (cellValues (sampleGrid.cells "r")))) returned after
    | (.error _, _) => RecomputeIllTyped sampleGrid "t" ["a"]
        ((formulaNetwork sampleGrid "t").evaluate ["f", "g", "h"]
          (valuation (cellValues (sampleGrid.cells "r")))) := by
  have hassigned : ∀ c, sampleGrid.cells "r" c ≠ sampleCells "x" c →
      c ∈ ["a"] ∧ c ∉ sampleGrid.formulaIds "t" := by
    intro c hne
    by_cases hc : c = "a"
    · subst hc
      decide
    · refine absurd ?_ hne
      simp [sampleGrid, sampleCells, hc]
  have hconsistent : ∀ f ∈ sampleGrid.formulaIds "t", f ∉ sampleGrid.affectedColumns "t" ["a"] →
      sampleGrid.FormulaConsistent "t" (sampleCells "x") f := by
    intro f hf hnot expression he
    have hids : sampleGrid.formulaIds "t" = ["f", "g", "h"] := rfl
    rw [hids] at hf
    simp only [List.mem_cons, List.not_mem_nil, or_false] at hf
    rcases hf with rfl | rfl | rfl
    · exact absurd (by decide) hnot
    · exact absurd (by decide) hnot
    · cases he
      rfl
  have hacyclic : Acyclic (reachableEdge (sampleGrid.dependenciesOf "t")
      (sampleGrid.affectedColumns "t" ["a"])) :=
    (orderReachable_length_iff _ (by decide)).mp (by decide)
  exact (recomputeDependentSqliteFormulasForRow_correct sampleGrid_recorded hassigned hconsistent).1
    hacyclic ["f", "g", "h"] sampleGrid_order

end Sample

end ByokGrid
