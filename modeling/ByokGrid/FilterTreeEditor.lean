import ByokGrid.Calendar
import ByokGrid.Deliveries
import ByokGrid.IntegerTexts

/-! The editor of filter trees. A tree is opened as a draft of texts and saved again; what comes back
is the same tree exactly when no time loses its seconds or its zone. -/

namespace ByokGrid

structure TimeZone where
  offset : Int → Int
  bounded : ∀ wall, (offset wall).natAbs < 86400000

/-- The texts which the editor reads back in the browser. `new Date` reads a time without a zone as local. -/
class FilterRuntime (ν : Type) [JsRuntime ν] [NumberComparison ν] where
  toNumber : String → ν
  toNumber_numberToString : ∀ n : ν, JsRuntime.isFinite n = true →
    toNumber (JsRuntime.numberToString n) = if JsRuntime.isZero n then JsRuntime.zero else n
  isZero_zero : JsRuntime.isZero (JsRuntime.zero : ν) = true
  isFinite_zero : JsRuntime.isFinite (JsRuntime.zero : ν) = true
  compareNumber_zero : ∀ stored n : ν, JsRuntime.isZero n = true →
    NumberComparison.compareNumber stored n = NumberComparison.compareNumber stored JsRuntime.zero
  isIsoDatetime_iff : ∀ text, JsRuntime.isIsoDatetime ν text = (readIsoDate text.toList).isSome
  parseDate_iso : ∀ text milliseconds, readIsoDate text.toList = some milliseconds →
    (JsRuntime.parseDate ν text).milliseconds = milliseconds
  toISOString_iso : ∀ (chars : List Char) (t : TimeValue), readIsoDate chars = some t.milliseconds →
    readIsoDate (JsRuntime.toISOString ν t).toList = some t.milliseconds
  newDate : TimeZone → String → Option TimeValue
  newDate_local : ∀ (zone : TimeZone) text wall, readIsoDate (text.toList ++ ['Z']) = some wall →
    ∃ t, newDate zone text = some t ∧ t.milliseconds = wall - zone.offset wall

inductive FilterOperator where
  | isEmpty
  | isNotEmpty
  | textContains
  | textEquals
  | numberEquals
  | numberGt
  | numberLt
  | booleanIs
  | timestampAfter
  | timestampBefore
  | statusIs
  deriving Repr, DecidableEq

structure FilterDraft where
  columnId : String
  operator : FilterOperator
  value : String
  deriving Repr, DecidableEq

inductive FilterNodeDraft where
  | filter (draft : FilterDraft)
  | group (combinator : FilterCombinator) (children : List FilterNodeDraft)

structure FilterGroupDraft where
  combinator : FilterCombinator
  children : List FilterNodeDraft

inductive FilterDraftError where
  | typeError (message : String)
  | unlistedStatus
  deriving Repr, DecidableEq

def cellStatuses : List CellStatus :=
  [.idle, .queued, .running, .succeeded, .failed, .stale, .cancelled]

section Editor

variable {ν : Type}

def GridViewFilter.filterOperator : GridViewFilter ν → FilterOperator
  | .empty _ negated => if negated then .isNotEmpty else .isEmpty
  | .text _ contains _ => if contains then .textContains else .textEquals
  | .number _ .eq _ => .numberEquals
  | .number _ .gt _ => .numberGt
  | .number _ .lt _ => .numberLt
  | .boolean _ _ => .booleanIs
  | .timestamp _ after _ => if after then .timestampAfter else .timestampBefore
  | .status _ _ => .statusIs

variable [JsRuntime ν]

def toFilterDraft (filter : GridViewFilter ν) : FilterDraft where
  columnId := filter.columnId
  operator := filter.filterOperator
  value :=
    match filter with
    | .empty _ _ => ""
    | .text _ _ value => value
    | .number _ _ value => JsRuntime.numberToString value
    | .boolean _ value => if value then "true" else "false"
    | .timestamp _ _ value => String.ofList (value.toList.take 16)
    | .status _ value => value.name

mutual

def nodeValueToDraft : GridViewFilterNode ν → FilterNodeDraft
  | .leaf filter => .filter (toFilterDraft filter)
  | .group combinator children => .group combinator (nodesValueToDraft children)

def nodesValueToDraft : List (GridViewFilterNode ν) → List FilterNodeDraft
  | [] => []
  | child :: children => nodeValueToDraft child :: nodesValueToDraft children

end

def filterTreeValueToDraft (group : GridViewFilterGroup ν) : FilterGroupDraft where
  combinator := group.combinator
  children := nodesValueToDraft group.children

variable [NumberComparison ν] [FilterRuntime ν]

def toGridViewFilter (zone : TimeZone) (filter : FilterDraft) : Except FilterDraftError (GridViewFilter ν) :=
  match filter.operator with
  | .isEmpty => .ok (.empty filter.columnId false)
  | .isNotEmpty => .ok (.empty filter.columnId true)
  | .textContains => .ok (.text filter.columnId true filter.value)
  | .textEquals => .ok (.text filter.columnId false filter.value)
  | .numberEquals => readNumberFilter .eq
  | .numberGt => readNumberFilter .gt
  | .numberLt => readNumberFilter .lt
  | .booleanIs => .ok (.boolean filter.columnId (filter.value = "true"))
  | .timestampAfter => readTimestampFilter true
  | .timestampBefore => readTimestampFilter false
  | .statusIs =>
    match cellStatuses.find? fun status => status.name = filter.value with
    | some status => .ok (.status filter.columnId status)
    | none => .error .unlistedStatus
where
  readNumberFilter (comparison : Ordering) : Except FilterDraftError (GridViewFilter ν) :=
    let value : ν := FilterRuntime.toNumber filter.value
    if JsRuntime.isFinite value then .ok (.number filter.columnId comparison value)
    else .error (.typeError "Enter a finite number.")
  readTimestampFilter (after : Bool) : Except FilterDraftError (GridViewFilter ν) :=
    match FilterRuntime.newDate ν zone filter.value with
    | some value => .ok (.timestamp filter.columnId after (JsRuntime.toISOString ν value))
    | none => .error (.typeError "Enter a valid date and time.")

mutual

def nodeDraftToValue (zone : TimeZone) : FilterNodeDraft → Except FilterDraftError (GridViewFilterNode ν)
  | .filter draft => (toGridViewFilter zone draft).map .leaf
  | .group combinator children => (nodesDraftToValue zone children).map (.group combinator)

def nodesDraftToValue (zone : TimeZone) : List FilterNodeDraft → Except FilterDraftError (List (GridViewFilterNode ν))
  | [] => .ok []
  | child :: children => do
    let node ← nodeDraftToValue zone child
    let nodes ← nodesDraftToValue zone children
    return node :: nodes

end

def filterTreeDraftToValue (zone : TimeZone) (group : FilterGroupDraft) :
    Except FilterDraftError (GridViewFilterGroup ν) := do
  let children ← nodesDraftToValue zone group.children
  return { combinator := group.combinator, children }

def GridViewFilter.edited (zone : TimeZone) : GridViewFilter ν → GridViewFilter ν
  | .number columnId comparison value =>
    .number columnId comparison (if JsRuntime.isZero value then JsRuntime.zero else value)
  | .timestamp columnId after value =>
    .timestamp columnId after
      (((FilterRuntime.newDate ν zone (String.ofList (value.toList.take 16))).map (JsRuntime.toISOString ν)).getD value)
  | filter => filter

mutual

def GridViewFilterNode.edited (zone : TimeZone) : GridViewFilterNode ν → GridViewFilterNode ν
  | .leaf filter => .leaf (filter.edited zone)
  | .group combinator children => .group combinator (GridViewFilterNode.editedAll zone children)

def GridViewFilterNode.editedAll (zone : TimeZone) : List (GridViewFilterNode ν) → List (GridViewFilterNode ν)
  | [] => []
  | child :: children => child.edited zone :: GridViewFilterNode.editedAll zone children

end

omit [JsRuntime ν] in
theorem readIsoDate_split {chars : List Char} {milliseconds : Int} (h : readIsoDate chars = some milliseconds) :
    ∃ wall seconds, readIsoDate (chars.take 16 ++ ['Z']) = some wall ∧ readIsoSeconds (chars.drop 16) = some seconds ∧
      milliseconds = wall + (seconds : Nat) := by
  rw [readIsoDate.eq_def] at h
  split at h
  · simp only [Option.bind_eq_bind, Option.bind_eq_some_iff] at h
    obtain ⟨year, hyear, month, hmonth, day, hday, hour, hhour, minute, hminute, seconds, hseconds, h⟩ := h
    split at h
    case isTrue hvalid =>
      refine ⟨daysFromCivil year month day * 86400000 + ((hour * 60 + minute) * 60000 + 0 : Nat), seconds, ?_, hseconds, ?_⟩
      · simp only [List.take_succ_cons, List.take_zero, List.cons_append, List.nil_append, readIsoDate, hyear, hmonth, hday,
          hhour, hminute, readIsoSeconds, Option.bind_eq_bind, Option.bind_some, if_pos hvalid]
      · have hmilliseconds := Option.some.inj h
        omega
    case isFalse => cases h
  · cases h

theorem newDate_of_accepted (zone : TimeZone) {value : String} {milliseconds : Int}
    (h : readIsoDate value.toList = some milliseconds) :
    ∃ wall seconds t, readIsoDate (value.toList.take 16 ++ ['Z']) = some wall ∧
      readIsoSeconds (value.toList.drop 16) = some seconds ∧ milliseconds = wall + (seconds : Nat) ∧
      FilterRuntime.newDate ν zone (String.ofList (value.toList.take 16)) = some t ∧
      t.milliseconds = wall - zone.offset wall := by
  obtain ⟨wall, seconds, hwall, hseconds, hsum⟩ := readIsoDate_split h
  have hlocal : readIsoDate ((String.ofList (value.toList.take 16)).toList ++ ['Z']) = some wall := by
    rw [String.toList_ofList, hwall]
  obtain ⟨t, hdate, ht⟩ := FilterRuntime.newDate_local (ν := ν) zone _ wall hlocal
  exact ⟨wall, seconds, t, hwall, hseconds, hsum, hdate, ht⟩

theorem toGridViewFilter_toFilterDraft (zone : TimeZone) {filter : GridViewFilter ν} (h : filter.accepted = true) :
    toGridViewFilter zone (toFilterDraft filter) = .ok (filter.edited zone) := by
  cases filter with
  | empty columnId negated => cases negated <;> rfl
  | text columnId contains value => cases contains <;> rfl
  | number columnId comparison value =>
    have hfinite : JsRuntime.isFinite value = true := (Bool.and_eq_true_iff.mp h).2
    have hread := FilterRuntime.toNumber_numberToString value hfinite
    have hback : JsRuntime.isFinite (if JsRuntime.isZero value then (JsRuntime.zero : ν) else value) = true := by
      split
      · exact FilterRuntime.isFinite_zero
      · exact hfinite
    cases comparison <;>
      simp only [toGridViewFilter, toFilterDraft, GridViewFilter.filterOperator, GridViewFilter.columnId,
        toGridViewFilter.readNumberFilter, hread, hback, if_true, GridViewFilter.edited]
  | boolean columnId value => cases value <;> rfl
  | timestamp columnId after value =>
    have hiso := (Bool.and_eq_true_iff.mp h).2
    rw [FilterRuntime.isIsoDatetime_iff] at hiso
    obtain ⟨milliseconds, hread⟩ := Option.isSome_iff_exists.mp hiso
    obtain ⟨wall, seconds, t, -, -, -, hdate, -⟩ := newDate_of_accepted (ν := ν) zone hread
    cases after <;>
      simp [toGridViewFilter, toFilterDraft, GridViewFilter.filterOperator, GridViewFilter.columnId,
        toGridViewFilter.readTimestampFilter, hdate, GridViewFilter.edited]
  | status columnId value => cases value <;> rfl

mutual

theorem nodeDraftToValue_edited (zone : TimeZone) : ∀ node : GridViewFilterNode ν, node.accepted = true →
    nodeDraftToValue zone (nodeValueToDraft node) = .ok (node.edited zone)
  | .leaf filter, h => by
    rw [nodeValueToDraft, nodeDraftToValue, toGridViewFilter_toFilterDraft zone h]
    rfl
  | .group combinator children, h => by
    rw [GridViewFilterNode.accepted, Bool.and_eq_true] at h
    rw [nodeValueToDraft, nodeDraftToValue, nodesDraftToValue_edited zone children h.2]
    rfl

theorem nodesDraftToValue_edited (zone : TimeZone) : ∀ children : List (GridViewFilterNode ν),
    GridViewFilterNode.acceptedAll children = true →
      nodesDraftToValue zone (nodesValueToDraft children) = .ok (GridViewFilterNode.editedAll zone children)
  | [], _ => rfl
  | child :: children, h => by
    rw [GridViewFilterNode.acceptedAll, Bool.and_eq_true] at h
    rw [nodesValueToDraft, nodesDraftToValue, nodeDraftToValue_edited zone child h.1, nodesDraftToValue_edited zone children h.2]
    rfl

end

def GridViewFilterGroup.edited (zone : TimeZone) (tree : GridViewFilterGroup ν) : GridViewFilterGroup ν :=
  { tree with children := GridViewFilterNode.editedAll zone tree.children }

omit [NumberComparison ν] [FilterRuntime ν] in
theorem GridViewFilterGroup.accepted_iff {tree : GridViewFilterGroup ν} : tree.accepted = true ↔
    tree.children.length ≤ MAXIMUM_GRID_VIEW_GROUP_CHILDREN ∧ GridViewFilterNode.acceptedAll tree.children = true ∧
      GridViewFilterNode.nestsAll 1 tree.children = true ∧
      (gridViewFilterLeaves tree).length ≤ MAXIMUM_GRID_VIEW_FILTERS := by
  simp only [GridViewFilterGroup.accepted, Bool.and_eq_true, decide_eq_true_eq, and_assoc]

theorem filterTreeDraftToValue_edited (zone : TimeZone) {tree : GridViewFilterGroup ν} (h : tree.accepted = true) :
    filterTreeDraftToValue zone (filterTreeValueToDraft tree) = .ok (tree.edited zone) := by
  obtain ⟨-, hchildren, -⟩ := GridViewFilterGroup.accepted_iff.mp h
  rw [filterTreeDraftToValue, filterTreeValueToDraft, nodesDraftToValue_edited zone tree.children hchildren]
  rfl

def EqualNumbers (n m : ν) : Prop :=
  n = m ∨ JsRuntime.isZero n = true ∧ JsRuntime.isZero m = true

def SameFilter : GridViewFilter ν → GridViewFilter ν → Prop
  | .number columnId comparison value, .number otherId otherComparison other =>
    columnId = otherId ∧ comparison = otherComparison ∧ EqualNumbers value other
  | .timestamp columnId after value, .timestamp otherId otherAfter other =>
    columnId = otherId ∧ after = otherAfter ∧
      (JsRuntime.parseDate ν value).milliseconds = (JsRuntime.parseDate ν other).milliseconds
  | filter, other => filter = other

mutual

def SameNode : GridViewFilterNode ν → GridViewFilterNode ν → Prop
  | .leaf filter, .leaf other => SameFilter filter other
  | .group combinator children, .group otherCombinator others => combinator = otherCombinator ∧ SameNodes children others
  | _, _ => False

def SameNodes : List (GridViewFilterNode ν) → List (GridViewFilterNode ν) → Prop
  | [], [] => True
  | child :: children, other :: others => SameNode child other ∧ SameNodes children others
  | _, _ => False

end

def SameTree (tree other : GridViewFilterGroup ν) : Prop :=
  tree.combinator = other.combinator ∧ SameNodes tree.children other.children

/-- The time has no seconds which the zone does not make up for: at a whole number of minutes from UTC, the
seconds and the offset are zero. -/
def GridViewFilter.KeepsInstant (zone : TimeZone) : GridViewFilter ν → Prop
  | .timestamp _ _ value => ∀ wall seconds, readIsoDate (value.toList.take 16 ++ ['Z']) = some wall →
      readIsoSeconds (value.toList.drop 16) = some seconds → zone.offset wall = -(seconds : Nat)
  | _ => True

theorem sameFilter_edited_iff (zone : TimeZone) {filter : GridViewFilter ν} (h : filter.accepted = true) :
    SameFilter (filter.edited zone) filter ↔ filter.KeepsInstant zone := by
  cases filter with
  | number columnId comparison value =>
    have hsame : EqualNumbers (if JsRuntime.isZero value then (JsRuntime.zero : ν) else value) value := by
      split
      case isTrue hzero => exact .inr ⟨FilterRuntime.isZero_zero, hzero⟩
      case isFalse => exact .inl rfl
    exact iff_of_true ⟨rfl, rfl, hsame⟩ trivial
  | timestamp columnId after value =>
    have hiso := (Bool.and_eq_true_iff.mp h).2
    rw [FilterRuntime.isIsoDatetime_iff] at hiso
    obtain ⟨milliseconds, hread⟩ := Option.isSome_iff_exists.mp hiso
    obtain ⟨wall, seconds, t, hwall, hseconds, hsum, hdate, ht⟩ := newDate_of_accepted (ν := ν) zone hread
    have hinstant : (JsRuntime.parseDate ν value).milliseconds = milliseconds := FilterRuntime.parseDate_iso _ _ hread
    have hback : (JsRuntime.parseDate ν (JsRuntime.toISOString ν t)).milliseconds = wall - zone.offset wall := by
      rw [JsRuntime.parseDate_toISOString, ht]
    simp only [GridViewFilter.edited, hdate, Option.map_some, Option.getD_some, SameFilter, true_and, hback, hinstant, hsum,
      GridViewFilter.KeepsInstant, hwall, hseconds, Option.some.injEq]
    constructor
    · rintro heq wall seconds rfl rfl
      omega
    · intro hkeeps
      have hoffset := hkeeps wall seconds rfl rfl
      omega
  | empty columnId negated => exact iff_of_true rfl trivial
  | text columnId contains value => exact iff_of_true rfl trivial
  | boolean columnId value => exact iff_of_true rfl trivial
  | status columnId value => exact iff_of_true rfl trivial

mutual

theorem sameNode_edited_iff (zone : TimeZone) : ∀ node : GridViewFilterNode ν, node.accepted = true →
    (SameNode (node.edited zone) node ↔ ∀ filter ∈ node.leaves, filter.KeepsInstant zone)
  | .leaf filter, h => by
    rw [GridViewFilterNode.edited, SameNode, GridViewFilterNode.leaves, List.forall_mem_singleton]
    exact sameFilter_edited_iff zone h
  | .group combinator children, h => by
    rw [GridViewFilterNode.accepted, Bool.and_eq_true] at h
    rw [GridViewFilterNode.edited, SameNode, GridViewFilterNode.leaves, eq_self, true_and]
    exact sameNodes_edited_iff zone children h.2

theorem sameNodes_edited_iff (zone : TimeZone) : ∀ children : List (GridViewFilterNode ν),
    GridViewFilterNode.acceptedAll children = true →
      (SameNodes (GridViewFilterNode.editedAll zone children) children ↔
        ∀ filter ∈ GridViewFilterNode.leavesOf children, filter.KeepsInstant zone)
  | [], _ => by
    rw [GridViewFilterNode.editedAll, SameNodes, GridViewFilterNode.leavesOf]
    exact iff_of_true trivial fun _ h => nomatch h
  | child :: children, h => by
    rw [GridViewFilterNode.acceptedAll, Bool.and_eq_true] at h
    rw [GridViewFilterNode.editedAll, SameNodes, GridViewFilterNode.leavesOf, List.forall_mem_append,
      sameNode_edited_iff zone child h.1, sameNodes_edited_iff zone children h.2]

end

theorem accepted_edited (zone : TimeZone) {filter : GridViewFilter ν} (h : filter.accepted = true)
    (hkeeps : filter.KeepsInstant zone) : (filter.edited zone).accepted = true := by
  cases filter with
  | number columnId comparison value =>
    rw [GridViewFilter.accepted, Bool.and_eq_true] at h
    rw [GridViewFilter.edited, GridViewFilter.accepted, h.1, Bool.true_and]
    split
    case isTrue => exact FilterRuntime.isFinite_zero
    case isFalse => exact h.2
  | timestamp columnId after value =>
    rw [GridViewFilter.accepted, Bool.and_eq_true, FilterRuntime.isIsoDatetime_iff] at h
    obtain ⟨milliseconds, hread⟩ := Option.isSome_iff_exists.mp h.2
    obtain ⟨wall, seconds, t, hwall, hseconds, hsum, hdate, ht⟩ := newDate_of_accepted (ν := ν) zone hread
    have hoffset := hkeeps wall seconds hwall hseconds
    have hsame : t.milliseconds = milliseconds := by omega
    have hback := FilterRuntime.toISOString_iso (ν := ν) value.toList t (hsame ▸ hread)
    rw [GridViewFilter.edited, hdate, Option.map_some, Option.getD_some, GridViewFilter.accepted, h.1, Bool.true_and,
      FilterRuntime.isIsoDatetime_iff, hback, Option.isSome_some]
  | empty columnId negated => exact h
  | text columnId contains value => exact h
  | boolean columnId value => exact h
  | status columnId value => exact h

omit [JsRuntime ν] [NumberComparison ν] [FilterRuntime ν] in
theorem length_editedAll [JsRuntime ν] [NumberComparison ν] [FilterRuntime ν] (zone : TimeZone)
    (children : List (GridViewFilterNode ν)) : (GridViewFilterNode.editedAll zone children).length = children.length := by
  induction children with
  | nil => rfl
  | cons child children ih => rw [GridViewFilterNode.editedAll, List.length_cons, ih, List.length_cons]

mutual

theorem acceptedNode_edited (zone : TimeZone) : ∀ node : GridViewFilterNode ν, node.accepted = true →
    (∀ filter ∈ node.leaves, filter.KeepsInstant zone) → (node.edited zone).accepted = true
  | .leaf filter, h, hkeeps => by
    rw [GridViewFilterNode.leaves, List.forall_mem_singleton] at hkeeps
    exact accepted_edited zone h hkeeps
  | .group combinator children, h, hkeeps => by
    rw [GridViewFilterNode.accepted, Bool.and_eq_true] at h
    rw [GridViewFilterNode.leaves] at hkeeps
    rw [GridViewFilterNode.edited, GridViewFilterNode.accepted, length_editedAll, h.1, Bool.true_and]
    exact acceptedAll_edited zone children h.2 hkeeps

theorem acceptedAll_edited (zone : TimeZone) : ∀ children : List (GridViewFilterNode ν),
    GridViewFilterNode.acceptedAll children = true →
      (∀ filter ∈ GridViewFilterNode.leavesOf children, filter.KeepsInstant zone) →
        GridViewFilterNode.acceptedAll (GridViewFilterNode.editedAll zone children) = true
  | [], _, _ => rfl
  | child :: children, h, hkeeps => by
    rw [GridViewFilterNode.acceptedAll, Bool.and_eq_true] at h
    rw [GridViewFilterNode.leavesOf, List.forall_mem_append] at hkeeps
    rw [GridViewFilterNode.editedAll, GridViewFilterNode.acceptedAll, acceptedNode_edited zone child h.1 hkeeps.1,
      acceptedAll_edited zone children h.2 hkeeps.2, Bool.true_and]

end

mutual

theorem nests_edited (zone : TimeZone) : ∀ (node : GridViewFilterNode ν) (depth : Nat),
    GridViewFilterNode.nests depth (node.edited zone) = GridViewFilterNode.nests depth node ∧
      (node.edited zone).leaves.length = node.leaves.length
  | .leaf filter, depth => ⟨rfl, rfl⟩
  | .group combinator children, depth => by
    obtain ⟨hnests, hleaves⟩ := nestsAll_edited zone children (depth + 1)
    have hempty : (GridViewFilterNode.editedAll zone children).isEmpty = children.isEmpty := by
      cases children <;> rfl
    rw [GridViewFilterNode.edited, GridViewFilterNode.nests, GridViewFilterNode.nests, GridViewFilterNode.leaves,
      GridViewFilterNode.leaves, hnests, hleaves, hempty]
    exact ⟨rfl, rfl⟩

theorem nestsAll_edited (zone : TimeZone) : ∀ (children : List (GridViewFilterNode ν)) (depth : Nat),
    GridViewFilterNode.nestsAll depth (GridViewFilterNode.editedAll zone children) =
        GridViewFilterNode.nestsAll depth children ∧
      (GridViewFilterNode.leavesOf (GridViewFilterNode.editedAll zone children)).length =
        (GridViewFilterNode.leavesOf children).length
  | [], _ => ⟨rfl, rfl⟩
  | child :: children, depth => by
    obtain ⟨hnests, hleaves⟩ := nests_edited zone child depth
    obtain ⟨hrest, hothers⟩ := nestsAll_edited zone children depth
    rw [GridViewFilterNode.editedAll, GridViewFilterNode.nestsAll, GridViewFilterNode.nestsAll, GridViewFilterNode.leavesOf,
      GridViewFilterNode.leavesOf, List.length_append, List.length_append, hnests, hrest, hleaves, hothers]
    exact ⟨rfl, rfl⟩

end

theorem edited_accepted (zone : TimeZone) {tree : GridViewFilterGroup ν} (h : tree.accepted = true)
    (hkeeps : ∀ filter ∈ gridViewFilterLeaves tree, filter.KeepsInstant zone) : (tree.edited zone).accepted = true := by
  obtain ⟨hfull, hchildren, hnests, hleaves⟩ := GridViewFilterGroup.accepted_iff.mp h
  obtain ⟨hsame, hcount⟩ := nestsAll_edited zone tree.children 1
  refine GridViewFilterGroup.accepted_iff.mpr ⟨?_, acceptedAll_edited zone tree.children hchildren hkeeps, ?_, ?_⟩
  · exact (length_editedAll zone tree.children).trans_le hfull
  · exact hsame.trans hnests
  · exact hcount.trans_le hleaves

theorem SameFilter.matches_eq (grid : Grid ν) (rowId : String) {filter other : GridViewFilter ν} (h : SameFilter filter other) :
    filter.matches grid rowId = other.matches grid rowId := by
  have hnumber : ∀ stored n m : ν, EqualNumbers n m →
      NumberComparison.compareNumber stored n = NumberComparison.compareNumber stored m := by
    rintro stored n m (rfl | ⟨hn, hm⟩)
    · rfl
    · rw [FilterRuntime.compareNumber_zero stored n hn, FilterRuntime.compareNumber_zero stored m hm]
  cases filter with
  | number columnId comparison value =>
    cases other with
    | number otherId otherComparison otherValue =>
      obtain ⟨rfl, rfl, hsame⟩ := h
      have hcompare := fun stored => hnumber stored value otherValue hsame
      simp only [GridViewFilter.matches, hcompare]
    | _ => cases h
  | timestamp columnId after value =>
    cases other with
    | timestamp otherId otherAfter otherValue =>
      obtain ⟨rfl, rfl, hinstant⟩ := h
      simp only [GridViewFilter.matches, hinstant]
    | _ => cases h
  | _ =>
    cases h
    rfl

mutual

theorem SameNode.matches_eq (grid : Grid ν) (rowId : String) : ∀ node other : GridViewFilterNode ν, SameNode node other →
    node.matches grid rowId = other.matches grid rowId
  | .leaf filter, .leaf other, h => SameFilter.matches_eq grid rowId h
  | .group combinator children, .group otherCombinator others, h => by
    rw [SameNode] at h
    obtain ⟨rfl, hsame⟩ := h
    obtain ⟨hempty, hchildren⟩ := SameNodes.matches_eq grid rowId children others hsame
    rw [GridViewFilterNode.matches, GridViewFilterNode.matches, hempty, hchildren]
  | .leaf _, .group _ _, h => h.elim
  | .group _ _, .leaf _, h => h.elim

theorem SameNodes.matches_eq (grid : Grid ν) (rowId : String) : ∀ children others : List (GridViewFilterNode ν),
    SameNodes children others → children.isEmpty = others.isEmpty ∧ ∀ combinator,
      GridViewFilterNode.matchesChildren grid rowId combinator children =
        GridViewFilterNode.matchesChildren grid rowId combinator others
  | [], [], _ => ⟨rfl, fun _ => rfl⟩
  | child :: children, other :: others, h => by
    rw [SameNodes] at h
    have hchild := SameNode.matches_eq grid rowId child other h.1
    obtain ⟨-, hchildren⟩ := SameNodes.matches_eq grid rowId children others h.2
    refine ⟨rfl, fun combinator => ?_⟩
    cases combinator <;>
      rw [GridViewFilterNode.matchesChildren, GridViewFilterNode.matchesChildren, hchild, hchildren]
  | [], _ :: _, h => h.elim
  | _ :: _, [], h => h.elim

end

/-- Opened and saved again, a tree is the same exactly when every time of it keeps its instant; then it is accepted
and selects the same rows. -/
theorem filterTreeEditor_exact (zone : TimeZone) (tree : GridViewFilterGroup ν) (h : tree.accepted = true) :
    ((∃ value, filterTreeDraftToValue zone (filterTreeValueToDraft tree) = .ok value ∧ SameTree value tree) ↔
      ∀ filter ∈ gridViewFilterLeaves tree, filter.KeepsInstant zone) ∧
    ∀ value, filterTreeDraftToValue zone (filterTreeValueToDraft tree) = .ok value → SameTree value tree →
      value.accepted = true ∧ ∀ (grid : Grid ν) (rowId : String), value.matches grid rowId = tree.matches grid rowId := by
  obtain ⟨-, hchildren, -⟩ := GridViewFilterGroup.accepted_iff.mp h
  have hsame : SameTree (tree.edited zone) tree ↔ ∀ filter ∈ gridViewFilterLeaves tree, filter.KeepsInstant zone :=
    (and_iff_right rfl).trans (sameNodes_edited_iff zone tree.children hchildren)
  rw [filterTreeDraftToValue_edited zone h]
  constructor
  · constructor
    · rintro ⟨value, hvalue, htree⟩
      cases hvalue
      exact hsame.mp htree
    · intro hkeeps
      exact ⟨_, rfl, hsame.mpr hkeeps⟩
  · rintro value hvalue htree
    cases hvalue
    refine ⟨edited_accepted zone h (hsame.mp htree), fun grid rowId => ?_⟩
    refine SameNode.matches_eq grid rowId (.group _ _) (.group _ _) ?_
    rw [SameNode]
    exact htree

end Editor

section Sample

instance : NumberComparison CalendarInteger :=
  inferInstanceAs (NumberComparison SafeInteger)

def readLocalDate (zone : TimeZone) (text : String) : Option TimeValue :=
  (readIsoDate (text.toList ++ ['Z'])).bind fun wall =>
    if h : (wall - zone.offset wall).natAbs ≤ 8640000000000000 then some ⟨wall - zone.offset wall, h⟩ else none

theorem readLocalDate_local (zone : TimeZone) {text : String} {wall : Int} (h : readIsoDate (text.toList ++ ['Z']) = some wall) :
    ∃ t, readLocalDate zone text = some t ∧ t.milliseconds = wall - zone.offset wall := by
  have hrange := readIsoDate_range h
  have hbounded := zone.bounded wall
  have hin : (wall - zone.offset wall).natAbs ≤ 8640000000000000 := by omega
  refine ⟨⟨wall - zone.offset wall, hin⟩, ?_, rfl⟩
  rw [readLocalDate, h, Option.bind_some]
  exact dif_pos hin

theorem parseCalendarDate_iso {text : String} {milliseconds : Int} (h : readIsoDate text.toList = some milliseconds) :
    (parseCalendarDate text).milliseconds = milliseconds := by
  have hrange := readIsoDate_range h
  have hin : milliseconds.natAbs ≤ 8640000000000000 := by omega
  simp only [parseCalendarDate, h, dif_pos hin]

theorem calendarText_iso {chars : List Char} {t : TimeValue} (h : readIsoDate chars = some t.milliseconds) :
    readIsoDate (calendarText t).toList = some t.milliseconds := by
  have hrange := readIsoDate_range h
  rw [calendarText, if_pos hrange, String.toList_ofList]
  exact readIsoDate_isoDate hrange.1 hrange.2

instance : FilterRuntime CalendarInteger where
  toNumber := SafeInteger.parse
  toNumber_numberToString n h := by
    cases n with
    | none => cases h
    | some n =>
      have hparse : SafeInteger.parse (toString n) = some n := parse_toString n
      change SafeInteger.parse (toString n) = if decide (some n = some (0 : Int)) = true then some 0 else some n
      rw [hparse]
      split
      case isTrue hzero => exact of_decide_eq_true hzero
      case isFalse => rfl
  isZero_zero := rfl
  isFinite_zero := rfl
  compareNumber_zero stored n h := congrArg (NumberComparison.compareNumber stored) (of_decide_eq_true h)
  isIsoDatetime_iff _ := rfl
  parseDate_iso _ _ h := parseCalendarDate_iso h
  toISOString_iso _ _ h := calendarText_iso h
  newDate := readLocalDate
  newDate_local zone _ _ h := readLocalDate_local zone h

def greenwich : TimeZone := ⟨fun _ => 0, fun _ => by decide⟩

def dueFilter (value : String) : GridViewFilter CalendarInteger :=
  .timestamp "c2a94e17-6b08-4d35-9f7c-0e8b1a2d3c4f" true value

def dueTree (value : String) : GridViewFilterGroup CalendarInteger :=
  ⟨.and, [.group .or [.leaf (dueFilter value), .leaf (.number "c2a94e17-6b08-4d35-9f7c-0e8b1a2d3c4f" .gt (some 5))]]⟩

/-- A full minute in Greenwich. -/
theorem filterTreeEditor_exact_minute :
    (dueTree "2026-01-15T09:30:00Z").accepted = true ∧
      ∃ value, filterTreeDraftToValue greenwich (filterTreeValueToDraft (dueTree "2026-01-15T09:30:00Z")) = .ok value ∧
        SameTree value (dueTree "2026-01-15T09:30:00Z") := by
  have haccepted : (dueTree "2026-01-15T09:30:00Z").accepted = true := by decide +kernel
  refine ⟨haccepted, (filterTreeEditor_exact greenwich _ haccepted).1.mpr ?_⟩
  intro filter hfilter
  have hleaves : filter = dueFilter "2026-01-15T09:30:00Z" ∨
      filter = .number "c2a94e17-6b08-4d35-9f7c-0e8b1a2d3c4f" .gt (some 5) := by
    simpa [gridViewFilterLeaves, dueTree, GridViewFilterNode.leavesOf, GridViewFilterNode.leaves] using hfilter
  rcases hleaves with rfl | rfl
  · intro wall seconds _ hseconds
    have hnone : readIsoSeconds ("2026-01-15T09:30:00Z".toList.drop 16) = some 0 := by decide +kernel
    rw [hnone] at hseconds
    cases hseconds
    rfl
  · trivial

/-- Half a minute is lost, even in Greenwich. -/
theorem filterTreeEditor_drops_seconds : ¬ ∀ (zone : TimeZone) (tree : GridViewFilterGroup CalendarInteger),
    tree.accepted = true →
      ∃ value, filterTreeDraftToValue zone (filterTreeValueToDraft tree) = .ok value ∧ SameTree value tree := by
  intro h
  have haccepted : (dueTree "2026-01-15T09:30:30Z").accepted = true := by decide +kernel
  obtain ⟨value, hvalue, hsame⟩ := h greenwich _ haccepted
  rw [filterTreeDraftToValue_edited greenwich haccepted, Except.ok.injEq] at hvalue
  subst hvalue
  obtain ⟨-, hchildren, -⟩ := GridViewFilterGroup.accepted_iff.mp haccepted
  have hkeeps := (sameNodes_edited_iff greenwich _ hchildren).mp hsame.2 (dueFilter "2026-01-15T09:30:30Z") (by
    simp [dueTree, GridViewFilterNode.leavesOf, GridViewFilterNode.leaves])
  have hoffset := hkeeps 1768469400000 30000 (by decide +kernel) (by decide +kernel)
  cases hoffset

end Sample

end ByokGrid
