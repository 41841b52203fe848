import ByokGrid.ColumnTypeConversion

/-! The scan of a column's cells: its pages together are all the cells of the column, each once,
in the order of their ids. -/

namespace ByokGrid

structure LifecycleStore.Valid {ν : Type} (store : LifecycleStore ν) : Prop where
  cellIds : (store.cells.map LifecycleCell.id).Nodup
  rowIds : (store.rows.map LifecycleRow.id).Nodup
  columnIds : (store.columns.map LifecycleColumn.id).Nodup
  cellRows : ∀ cell ∈ store.cells, ∃ row ∈ store.rows,
    row.id = cell.rowId ∧ row.tableId = cell.tableId ∧ row.workspaceId = cell.workspaceId

section Pages

variable {ν : Type} {store : LifecycleStore ν} {scope : ColumnScope}

def rowOf (store : LifecycleStore ν) (cell : LifecycleCell ν) : Option LifecycleRow :=
  store.rows.find? fun row => row.id = cell.rowId

def rowPosition (store : LifecycleStore ν) (cell : LifecycleCell ν) : String :=
  ((rowOf store cell).map LifecycleRow.position).getD ""

theorem filter_eq_singleton {α κ : Type} [DecidableEq κ] {key : α → κ} {xs : List α} (hnd : (xs.map key).Nodup) {x : α} (hx : x ∈ xs)
    {p : α → Bool} (hp : p x = true) (honly : ∀ y ∈ xs, p y = true → key y = key x) : xs.filter p = [x] := by
  induction xs with
  | nil => cases hx
  | cons y ys ih =>
    obtain ⟨hkey, hnodup⟩ := List.nodup_cons.mp hnd
    rcases List.mem_cons.mp hx with rfl | hx
    · have hnone : ys.filter p = [] := by
        rw [List.filter_eq_nil_iff]
        intro y hy hpy
        exact hkey (honly y (List.mem_cons_of_mem _ hy) hpy ▸ List.mem_map_of_mem hy)
      rw [List.filter_cons_of_pos hp, hnone]
    · have hy : ¬ p y = true := by
        intro hpy
        exact hkey (honly y List.mem_cons_self hpy ▸ List.mem_map_of_mem hx)
      rw [List.filter_cons_of_neg hy]
      exact ih hnodup hx fun z hz => honly z (List.mem_cons_of_mem _ hz)

theorem joinRows_eq (hvalid : store.Valid) {cells : List (LifecycleCell ν)} (h : ∀ cell ∈ cells, cell ∈ store.cells) :
    joinRows store cells = cells.map fun cell => (cell, rowPosition store cell) := by
  induction cells with
  | nil => rfl
  | cons cell cells ih =>
    obtain ⟨hcell, hcells⟩ := List.forall_mem_cons.mp h
    obtain ⟨row, hrow, hid, htable, hworkspace⟩ := hvalid.cellRows cell hcell
    have hjoined : (store.rows.filter fun row =>
        row.id = cell.rowId && row.tableId = cell.tableId && row.workspaceId = cell.workspaceId) = [row] := by
      refine filter_eq_singleton hvalid.rowIds hrow (by simp [hid, htable, hworkspace]) fun other _ hother => ?_
      simp only [Bool.and_eq_true, decide_eq_true_eq] at hother
      exact hother.1.1.trans hid.symm
    have hfind : rowOf store cell = some row := by
      have hsingle : store.rows.filter (fun row => row.id = cell.rowId) = [row] :=
        filter_eq_singleton hvalid.rowIds hrow (by simp [hid]) fun other _ hother => (of_decide_eq_true hother).trans hid.symm
      rw [rowOf, ← List.head?_filter, hsingle]
      rfl
    have hposition : rowPosition store cell = row.position := by
      rw [rowPosition, hfind]
      rfl
    have hrest := ih hcells
    rw [joinRows] at hrest
    rw [joinRows, List.flatMap_cons, hjoined, hrest, List.map_cons, List.map_cons, hposition]
    rfl

def columnCells (store : LifecycleStore ν) (scope : ColumnScope) : List (LifecycleCell ν) :=
  orderedBy LifecycleCell.id (store.cells.filter (inColumn scope))

theorem mem_columnCells {cell : LifecycleCell ν} : cell ∈ columnCells store scope ↔ cell ∈ store.cells ∧ inColumn scope cell = true := by
  rw [columnCells, mem_orderedBy, List.mem_filter]

variable (scope) in
theorem columnCells_sorted (hvalid : store.Valid) :
    (columnCells store scope).Pairwise fun left right => left.id < right.id :=
  orderedBy_sorted (hvalid.cellIds.sublist (List.filter_sublist.map _))

def Remaining (store : LifecycleStore ν) (scope : ColumnScope) (lastCellId : Option String) (remaining : List (LifecycleCell ν)) : Prop :=
  (lastCellId = none ∧ remaining = columnCells store scope) ∨
    ∃ before last, columnCells store scope = before ++ last :: remaining ∧ lastCellId = some last.id ∧ last.id ≠ ""

theorem conversionPage_remaining (hvalid : store.Valid) {lastCellId : Option String} {remaining : List (LifecycleCell ν)}
    (h : Remaining store scope lastCellId remaining) :
    conversionPage store scope lastCellId =
      (remaining.take CONVERSION_PAGE_SIZE).map fun cell => (cell, rowPosition store cell) := by
  have hordered : orderedBy LifecycleCell.id (store.cells.filter fun cell => inColumn scope cell && afterCell lastCellId cell) =
      (columnCells store scope).filter (afterCell lastCellId) := by
    rw [columnCells, ← orderedBy_filter (hvalid.cellIds.sublist (List.filter_sublist.map _)), List.filter_filter]
    simp only [Bool.and_comm]
  have hremaining : (columnCells store scope).filter (afterCell lastCellId) = remaining := by
    rcases h with ⟨rfl, rfl⟩ | ⟨before, last, hcells, rfl, hlast⟩
    · exact List.filter_eq_self.mpr fun _ _ => rfl
    · have hsorted := columnCells_sorted scope hvalid
      rw [hcells] at hsorted ⊢
      refine filter_after (fun left right hlt => lt_asymm hlt) hsorted fun cell _ => ?_
      simp [afterCell, hlast]
  have hmem : ∀ cell ∈ remaining, cell ∈ store.cells := by
    intro cell hcell
    rw [← hremaining] at hcell
    exact (mem_columnCells.mp (List.mem_filter.mp hcell).1).1
  rw [conversionPage, hordered, hremaining, joinRows_eq hvalid hmem, List.map_take]

theorem ne_empty_of_lt {s t : String} (h : s < t) : t ≠ "" := by
  rintro rfl
  exact absurd (String.lt_iff_toList_lt.mp h) (List.not_lt_nil _)

theorem Remaining.next (hvalid : store.Valid) {lastCellId : Option String} {remaining : List (LifecycleCell ν)}
    (h : Remaining store scope lastCellId remaining) {limit : Nat} (htwo : 2 ≤ limit) (hfull : limit ≤ remaining.length) :
    ∃ last, (remaining.take limit).getLast? = some last ∧ Remaining store scope (some last.id) (remaining.drop limit) := by
  obtain ⟨before, hcells⟩ : ∃ before, columnCells store scope = before ++ remaining := by
    rcases h with ⟨-, rfl⟩ | ⟨before, last, hcells, -, -⟩
    · exact ⟨[], rfl⟩
    · exact ⟨before ++ [last], by rw [hcells, List.append_assoc]; rfl⟩
  obtain ⟨first, rest, hfirst⟩ : ∃ first rest, remaining = first :: rest :=
    List.exists_cons_of_length_pos (by omega)
  have hpage : (remaining.take limit).length = limit := List.length_take_of_le hfull
  obtain ⟨start, last, hstart⟩ := List.eq_nil_or_concat (remaining.take limit) |>.resolve_left (by
    intro hnil
    rw [hnil, List.length_nil] at hpage
    omega)
  have hsplit : remaining = start ++ last :: remaining.drop limit := by
    conv_lhs => rw [← List.take_append_drop limit remaining, hstart]
    simp
  have hsorted := columnCells_sorted scope hvalid
  rw [hcells, hsplit] at hsorted
  have hpositive : start ≠ [] := by
    rintro rfl
    rw [hstart] at hpage
    simp at hpage
    omega
  obtain ⟨head, tail, hhead⟩ := List.exists_cons_of_ne_nil hpositive
  have hless : head.id < last.id := by
    have hinner := (List.pairwise_append.mp hsorted).2.1
    exact (List.pairwise_append.mp hinner).2.2 head (by rw [hhead]; exact List.mem_cons_self) last List.mem_cons_self
  refine ⟨last, by rw [hstart]; simp, .inr ⟨before ++ start, last, ?_, rfl, ne_empty_of_lt hless⟩⟩
  rw [hcells, List.append_assoc, ← hsplit]

variable [ValueRuntime ν] {currentType targetType : EditableInputValueType}

def scanCells (store : LifecycleStore ν) (currentType targetType : EditableInputValueType) (scan : ConversionScan)
    (cells : List (LifecycleCell ν)) : ConversionScan :=
  cells.foldl (fun scan cell => scanConversionCell currentType targetType scan (cell, rowPosition store cell)) scan

theorem scanPages_eq (hvalid : store.Valid) {fuel : Nat} {lastCellId : Option String} {remaining : List (LifecycleCell ν)}
    (h : Remaining store scope lastCellId remaining) (hfuel : remaining.length < fuel) (scan : ConversionScan) :
    scanPages store scope currentType targetType fuel lastCellId scan = some (scanCells store currentType targetType scan remaining) := by
  induction fuel generalizing lastCellId remaining scan with
  | zero => omega
  | succ fuel ih =>
    have hpage := conversionPage_remaining hvalid h
    rw [scanPages, hpage, List.foldl_map, List.length_map]
    by_cases hlast : (remaining.take CONVERSION_PAGE_SIZE).length < CONVERSION_PAGE_SIZE
    · have hall : remaining.take CONVERSION_PAGE_SIZE = remaining := by
        rw [List.length_take] at hlast
        exact List.take_of_length_le (by omega)
      rw [if_pos hlast, hall]
      rfl
    · have hfull : CONVERSION_PAGE_SIZE ≤ remaining.length := by
        rw [List.length_take] at hlast
        omega
      obtain ⟨last, hlastCell, hnext⟩ := h.next hvalid (by decide) hfull
      have hsize : 0 < CONVERSION_PAGE_SIZE := by decide
      have hshorter : (remaining.drop CONVERSION_PAGE_SIZE).length < fuel := by
        rw [List.length_drop]
        omega
      have hrest := ih hnext hshorter (scanCells store currentType targetType scan (remaining.take CONVERSION_PAGE_SIZE))
      rw [if_neg hlast, List.getLast?_map, hlastCell, Option.map_some, Option.map_some]
      refine hrest.trans (congrArg some ?_)
      rw [scanCells, scanCells, scanCells, ← List.foldl_append, List.take_append_drop]

theorem scanColumnTypeConversion_eq (hvalid : store.Valid) :
    scanColumnTypeConversion store scope currentType targetType =
      some (scanCells store currentType targetType (startScan scope currentType targetType) (columnCells store scope)) := by
  refine scanPages_eq hvalid (.inl ⟨rfl, rfl⟩) ?_ _
  have hlength : (columnCells store scope).length ≤ store.cells.length := by
    rw [columnCells, (orderedBy_perm _ _).length_eq]
    exact List.length_filter_le _ _
  omega

end Pages

end ByokGrid
