import ByokGrid.ColumnCreation
import ByokGrid.GridSelection

/-! The saved views of a table: they are created, updated and deleted, under names which are apart
in any case, and only with filters and a sort which the columns of the table take. -/

namespace ByokGrid

def MAXIMUM_SAVED_GRID_VIEWS_PER_TABLE : Nat := 50

section Requests

variable {ν : Type}

/-- The filters of a request: `filterTree`, or the `filters` of an older client. -/
structure SavedGridViewRequest (ν : Type) where
  name : String
  filters : PersistedFilters ν
  sort : Option GridViewSort

structure ParsedViewRequest (ν : Type) where
  name : String
  filterTree : GridViewFilterGroup ν
  sort : Option GridViewSort

variable [JsRuntime ν]

/-- `gridViewNameSchema`. -/
def parseGridViewName (ν : Type) [JsRuntime ν] (text : String) : Option String :=
  let value := JsRuntime.normalizeNFKC ν (jsTrim text)
  if 1 ≤ utf16Length value ∧ utf16Length value ≤ 80 ∧
      (value.toList.any fun c => c.toNat ≤ 0x1F || c.toNat = 0x7F) = false then some value
  else none

/-- `savedGridViewRequestSchema`. -/
def parseViewRequest (request : SavedGridViewRequest ν) : Option (ParsedViewRequest ν) := do
  let filterTree ← normalizeGridViewFilterTree request.filters
  let name ← parseGridViewName ν request.name
  if request.sort.all fun sort => isEntityId sort.columnId then
    return { name := name, filterTree := filterTree, sort := request.sort }
  else none

end Requests

section Store

variable {ν : Type}

def GridStore.tableViews (store : GridStore ν) (tableId : String) : List (SavedGridView ν) :=
  store.savedGridViews.records.filter fun view => view.tableId = tableId

def findDuplicateName (store : GridStore ν) (tableId name : String) (excludedViewId : Option String) : Bool :=
  (store.tableViews tableId).any fun view => sameName view.name name && some view.id ≠ excludedViewId

variable [JsRuntime ν]

def SavedGridView.summary (view : SavedGridView ν) (filterTree : GridViewFilterGroup ν) : SavedGridViewSummary ν :=
  { id := view.id, name := view.name, filterTree := filterTree, sort := view.sort, updatedAt := view.updatedAt }

def createSqliteSavedGridView (store : GridStore ν) (scope : GridScope) (viewId : String) (input : SavedGridViewRequest ν)
    (now : TimeValue) : Except StoreError (SavedGridViewSummary ν × GridStore ν) := do
  let request ← requireSome (parseViewRequest input) .request
  requireActiveTableMembership store.db scope
  validateViewColumns store.db.grid scope.tableId request.filterTree request.sort
  requireThat ((store.tableViews scope.tableId).length < MAXIMUM_SAVED_GRID_VIEWS_PER_TABLE)
    (.validation "A table can contain at most 50 saved views.")
  requireThat (!findDuplicateName store scope.tableId request.name none)
    (.conflict "A saved view with this name already exists.")
  let created : SavedGridView ν :=
    { id := viewId, tableId := scope.tableId, name := request.name, filters := .tree request.filterTree,
      sort := request.sort, updatedAt := now }
  let views ← requireSome (store.savedGridViews.insert created) (.constraint "saved_grid_views_id")
  return (created.summary request.filterTree, { store with savedGridViews := views })

def SavedGridView.inScope (scope : GridScope) (viewId : String) (view : SavedGridView ν) : Bool :=
  view.id = viewId && view.tableId = scope.tableId

def SavedGridView.apply (request : ParsedViewRequest ν) (now : TimeValue) (view : SavedGridView ν) : SavedGridView ν :=
  { view with name := request.name, filters := .tree request.filterTree, sort := request.sort, updatedAt := now }

def updateSqliteSavedGridView (store : GridStore ν) (scope : GridScope) (viewId : String) (input : SavedGridViewRequest ν)
    (now : TimeValue) : Except StoreError (SavedGridViewSummary ν × GridStore ν) := do
  let request ← requireSome (parseViewRequest input) .request
  requireActiveTableMembership store.db scope
  validateViewColumns store.db.grid scope.tableId request.filterTree request.sort
  requireThat (!findDuplicateName store scope.tableId request.name (some viewId))
    (.conflict "A saved view with this name already exists.")
  let view ← requireSome ((store.savedGridViews.get? viewId).filter (SavedGridView.inScope scope viewId))
    (.access "The saved view is not accessible.")
  let views := store.savedGridViews.modify (SavedGridView.inScope scope viewId) (SavedGridView.apply request now) ⟨fun _ => rfl⟩
  return ((view.apply request now).summary request.filterTree, { store with savedGridViews := views })

def deleteSqliteSavedGridView (store : GridStore ν) (scope : GridScope) (viewId : String) :
    Except StoreError (String × GridStore ν) := do
  requireActiveTableMembership store.db scope
  let view ← requireSome ((store.savedGridViews.get? viewId).filter (SavedGridView.inScope scope viewId))
    (.access "The saved view is not accessible.")
  let views := store.savedGridViews.filter fun view => !view.inScope scope viewId
  return (view.id, { store with savedGridViews := views })

end Store

section Valid

variable {ν : Type}

def Grid.TakesFilter (grid : Grid ν) (tableId : String) (filter : GridViewFilter ν) : Prop :=
  ∃ column, activeColumn? grid tableId filter.columnId = some column ∧ gridViewFilterAcceptsValueType filter column.valueType = true

def Grid.TakesSort (grid : Grid ν) (tableId : String) (sort : GridViewSort) : Prop :=
  ∃ column, activeColumn? grid tableId sort.columnId = some column ∧ column.valueType ≠ .json

theorem validateViewFilters_eq_ok {grid : Grid ν} {tableId : String} {filters : List (GridViewFilter ν)} {u : Unit} :
    validateViewFilters grid tableId filters = .ok u ↔ ∀ filter ∈ filters, grid.TakesFilter tableId filter := by
  induction filters with
  | nil => simp [validateViewFilters]
  | cons filter filters ih =>
    simp only [validateViewFilters, except_bind_eq_ok, requireSome_eq_ok, requireThat_eq_ok, ih, List.forall_mem_cons]
    constructor
    · rintro ⟨column, hcolumn, _, haccepts, hrest⟩
      exact ⟨⟨column, hcolumn, haccepts⟩, hrest⟩
    · rintro ⟨⟨column, hcolumn, haccepts⟩, hrest⟩
      exact ⟨column, hcolumn, (), haccepts, hrest⟩

theorem validateViewColumns_eq_ok {grid : Grid ν} {tableId : String} {filterTree : GridViewFilterGroup ν}
    {sort : Option GridViewSort} :
    validateViewColumns grid tableId filterTree sort = .ok () ↔
      (∀ filter ∈ gridViewFilterLeaves filterTree, grid.TakesFilter tableId filter) ∧ ∀ s ∈ sort, grid.TakesSort tableId s := by
  simp only [validateViewColumns, except_bind_eq_ok, requireThat_eq_ok, validateViewFilters_eq_ok]
  constructor
  · rintro ⟨_, hactive, _, hfilters, hsort⟩
    refine ⟨hfilters, fun s hs => ?_⟩
    have hmem : s.columnId ∈ distinct ((gridViewFilterLeaves filterTree).map GridViewFilter.columnId ++
        sort.toList.map GridViewSort.columnId) := by
      rw [mem_distinct]
      exact List.mem_append_right _ (List.mem_map_of_mem (Option.mem_toList.mpr hs))
    obtain ⟨column, hcolumn⟩ := Option.isSome_iff_exists.mp (List.all_eq_true.mp hactive _ hmem)
    refine ⟨column, hcolumn, fun hjson => ?_⟩
    have hrefused : (sort.any fun s => (activeColumn? grid tableId s.columnId).any fun column => column.valueType = .json) = true := by
      rw [Option.mem_def.mp hs, Option.any_some, hcolumn, Option.any_some, hjson]
      rfl
    rw [hrefused] at hsort
    cases hsort
  · rintro ⟨hfilters, hsort⟩
    refine ⟨(), ?_, (), hfilters, ?_⟩
    · apply List.all_eq_true.mpr
      intro columnId hmem
      rcases List.mem_append.mp (mem_distinct.mp hmem) with hleaf | hsorted
      · obtain ⟨filter, hfilter, rfl⟩ := List.mem_map.mp hleaf
        obtain ⟨column, hcolumn, _⟩ := hfilters filter hfilter
        rw [hcolumn]
        rfl
      · obtain ⟨s, hs, rfl⟩ := List.mem_map.mp hsorted
        obtain ⟨column, hcolumn, _⟩ := hsort s (Option.mem_toList.mp hs)
        rw [hcolumn]
        rfl
    · cases sort with
      | none => rfl
      | some s =>
        obtain ⟨column, hcolumn, hjson⟩ := hsort s rfl
        rw [Option.any_some, hcolumn, Option.any_some, decide_eq_false hjson]
        rfl

variable [JsRuntime ν]

def SavedGridView.Valid (grid : Grid ν) (view : SavedGridView ν) : Prop :=
  ∃ filterTree, normalizeGridViewFilterTree view.filters = some filterTree ∧
    validateViewColumns grid view.tableId filterTree view.sort = .ok ()

def SavedGridView.Reads (view : SavedGridView ν) (columnId : String) : Prop :=
  (∃ sort ∈ view.sort, sort.columnId = columnId) ∨ ∃ filterTree, normalizeGridViewFilterTree view.filters = some filterTree ∧
    ∃ filter ∈ gridViewFilterLeaves filterTree, filter.columnId = columnId

theorem SavedGridView.Valid.of_columns {grid grid' : Grid ν} {view : SavedGridView ν} (hvalid : view.Valid grid)
    (hcolumns : ∀ columnId column, view.Reads columnId → activeColumn? grid view.tableId columnId = some column →
      ∃ column', activeColumn? grid' view.tableId columnId = some column' ∧ column'.valueType = column.valueType) :
    view.Valid grid' := by
  obtain ⟨filterTree, htree, hok⟩ := hvalid
  obtain ⟨hfilters, hsort⟩ := validateViewColumns_eq_ok.mp hok
  refine ⟨filterTree, htree, validateViewColumns_eq_ok.mpr ⟨?_, ?_⟩⟩
  · intro filter hfilter
    obtain ⟨column, hcolumn, haccepts⟩ := hfilters filter hfilter
    obtain ⟨column', hcolumn', htype⟩ := hcolumns _ column (Or.inr ⟨filterTree, htree, filter, hfilter, rfl⟩) hcolumn
    exact ⟨column', hcolumn', htype ▸ haccepts⟩
  · intro s hs
    obtain ⟨column, hcolumn, hjson⟩ := hsort s hs
    obtain ⟨column', hcolumn', htype⟩ := hcolumns _ column (Or.inl ⟨s, hs, rfl⟩) hcolumn
    exact ⟨column', hcolumn', htype ▸ hjson⟩

omit [JsRuntime ν] in
theorem leavesOf_leaf (children : List (GridViewFilter ν)) :
    GridViewFilterNode.leavesOf (children.map GridViewFilterNode.leaf) = children := by
  induction children with
  | nil => rfl
  | cons child children ih => rw [List.map_cons, GridViewFilterNode.leavesOf, GridViewFilterNode.leaves, ih, List.singleton_append]

theorem legacy_accepted {children : List (GridViewFilter ν)} (hlength : children.length ≤ 5)
    (haccepted : children.all GridViewFilter.accepted = true) :
    (⟨.and, children.map GridViewFilterNode.leaf⟩ : GridViewFilterGroup ν).accepted = true := by
  have hall : GridViewFilterNode.acceptedAll (children.map GridViewFilterNode.leaf) = true ∧
      GridViewFilterNode.nestsAll 1 (children.map GridViewFilterNode.leaf) = true := by
    clear hlength
    induction children with
    | nil => exact ⟨rfl, rfl⟩
    | cons child children ih =>
      rw [List.all_cons, Bool.and_eq_true] at haccepted
      obtain ⟨hchildren, hnests⟩ := ih haccepted.2
      simp only [List.map_cons, GridViewFilterNode.acceptedAll, GridViewFilterNode.accepted, GridViewFilterNode.nestsAll,
        GridViewFilterNode.nests, haccepted.1, hchildren, hnests, Bool.and_self, and_self]
  have hchildren : children.length ≤ MAXIMUM_GRID_VIEW_GROUP_CHILDREN := by
    unfold MAXIMUM_GRID_VIEW_GROUP_CHILDREN
    omega
  have hleaves : children.length ≤ MAXIMUM_GRID_VIEW_FILTERS := by
    unfold MAXIMUM_GRID_VIEW_FILTERS
    omega
  simp only [GridViewFilterGroup.accepted, gridViewFilterLeaves, leavesOf_leaf, List.length_map, hall.1, hall.2, hchildren, hleaves,
    decide_true, Bool.and_self]

theorem parseViewRequest_normal {input : SavedGridViewRequest ν} {request : ParsedViewRequest ν}
    (h : parseViewRequest input = some request) : normalizeGridViewFilterTree (.tree request.filterTree) = some request.filterTree := by
  have htree : normalizeGridViewFilterTree input.filters = some request.filterTree := by
    rw [parseViewRequest, Option.bind_eq_bind, Option.bind_eq_some_iff] at h
    obtain ⟨filterTree, htree, h⟩ := h
    obtain ⟨name, _, h⟩ := Option.bind_eq_some_iff.mp h
    split_ifs at h with hsort
    cases h
    exact htree
  apply if_pos
  cases hfilters : input.filters with
  | tree group =>
    rw [hfilters] at htree
    obtain ⟨haccepted, hgroup⟩ := Option.ite_none_right_eq_some.mp htree
    exact Option.some.inj hgroup ▸ haccepted
  | legacy children =>
    rw [hfilters] at htree
    obtain ⟨⟨hlength, haccepted⟩, hgroup⟩ := Option.ite_none_right_eq_some.mp htree
    rw [← Option.some.inj hgroup]
    exact legacy_accepted hlength haccepted

end Valid

section Steps

variable {ν : Type} [JsRuntime ν]

def GridStore.ViewsKept (store : GridStore ν) : Prop :=
  ∀ view ∈ store.savedGridViews, view.Valid store.db.grid

variable {store store' : GridStore ν} {scope : GridScope} {viewId : String} {input : SavedGridViewRequest ν} {now : TimeValue}

theorem createSqliteSavedGridView_keeps {summary : SavedGridViewSummary ν} (hkept : store.ViewsKept)
    (h : createSqliteSavedGridView store scope viewId input now = .ok (summary, store')) :
    store'.db = store.db ∧ store'.position = store.position ∧ store'.ViewsKept := by
  simp only [createSqliteSavedGridView, except_bind_eq_ok, requireSome_eq_ok, requireThat_eq_ok, pure, Except.pure, Except.ok.injEq,
    Prod.mk.injEq, Bool.not_eq_true'] at h
  obtain ⟨request, hrequest, _, _, _, hcolumns, _, _, _, _, views, hinsert, _, rfl⟩ := h
  refine ⟨rfl, rfl, fun view hview => ?_⟩
  rcases (Table.mem_insert hinsert).mp hview with hold | rfl
  · exact hkept view hold
  · exact ⟨request.filterTree, parseViewRequest_normal hrequest, hcolumns⟩

theorem updateSqliteSavedGridView_keeps {summary : SavedGridViewSummary ν} (hkept : store.ViewsKept)
    (h : updateSqliteSavedGridView store scope viewId input now = .ok (summary, store')) :
    store'.db = store.db ∧ store'.position = store.position ∧ store'.ViewsKept := by
  simp only [updateSqliteSavedGridView, except_bind_eq_ok, requireSome_eq_ok, requireThat_eq_ok, pure, Except.pure, Except.ok.injEq,
    Prod.mk.injEq, Bool.not_eq_true'] at h
  obtain ⟨request, hrequest, _, _, _, hcolumns, _, _, view, _, _, rfl⟩ := h
  refine ⟨rfl, rfl, fun changed hchanged => ?_⟩
  obtain ⟨old, hold, rfl⟩ := (Table.mem_modify (f := SavedGridView.apply request now) ⟨fun _ => rfl⟩).mp hchanged
  split_ifs with hscope
  · have htable : old.tableId = scope.tableId := of_decide_eq_true (Bool.and_eq_true_iff.mp hscope).2
    refine ⟨request.filterTree, parseViewRequest_normal hrequest, ?_⟩
    rw [SavedGridView.apply, htable]
    exact hcolumns
  · exact hkept old hold

theorem deleteSqliteSavedGridView_keeps {deleted : String} (hkept : store.ViewsKept)
    (h : deleteSqliteSavedGridView store scope viewId = .ok (deleted, store')) :
    store'.db = store.db ∧ store'.position = store.position ∧ store'.ViewsKept := by
  simp only [deleteSqliteSavedGridView, except_bind_eq_ok, requireSome_eq_ok, pure, Except.pure, Except.ok.injEq, Prod.mk.injEq] at h
  obtain ⟨_, _, view, _, _, rfl⟩ := h
  exact ⟨rfl, rfl, fun other hother => hkept other (Table.mem_filter.mp hother).1⟩

theorem getSqliteSavedGridView_ok {view : SavedGridView ν} (hkept : store.ViewsKept) (hview : view ∈ store.savedGridViews)
    (htable : view.tableId = scope.tableId) (haccess : requireActiveTableMembership store.db scope = .ok ()) :
    ∃ filterTree, getSqliteSavedGridView store scope view.id = .ok (view.summary filterTree) := by
  obtain ⟨filterTree, htree, hcolumns⟩ := hkept view hview
  have hfound : (store.savedGridViews.get? view.id).filter (fun other => other.tableId = scope.tableId) = some view := by
    rw [Option.filter_eq_some_iff]
    exact ⟨Table.get?_eq_some.mpr ⟨hview, rfl⟩, decide_eq_true htable⟩
  rw [htable] at hcolumns
  refine ⟨filterTree, ?_⟩
  simp only [getSqliteSavedGridView, haccess, hfound, htree, hcolumns, requireSome, bind, Except.bind, pure, Except.pure]
  rfl

end Steps

end ByokGrid
