import ByokGrid.BulkRunContract
import ByokGrid.GridCursors
import ByokGrid.IntegerTexts

/-! The pages of a grid put together: when every page ends with a row whose cursor
is taken back, they are the rows of the view in its order. -/

namespace ByokGrid

theorem except_ok_bind {ε α β : Type} (x : α) (f : α → Except ε β) : (Except.ok x >>= f) = f x :=
  rfl

section Order

variable {ν : Type} [StoredNumbers ν] (store : GridStore ν) (sort : Option TypedSort)

def GridStore.RowBefore (left right : Row) : Prop :=
  match sort with
  | none => positionKey store.position left < positionKey store.position right
  | some ⟨⟨columnId, .asc⟩, valueType⟩ =>
    ascendingKey store.db.grid columnId valueType left < ascendingKey store.db.grid columnId valueType right
  | some ⟨⟨columnId, .desc⟩, valueType⟩ =>
    descendingKey store.db.grid columnId valueType left < descendingKey store.db.grid columnId valueType right

theorem GridStore.RowBefore.asymm (left right : Row) (h : store.RowBefore sort left right) :
    ¬ store.RowBefore sort right left := by
  unfold GridStore.RowBefore at h ⊢
  split <;> exact lt_asymm h

theorem nodup_keys {κ : Type} {key : Row → κ} (hkey : ∀ left right, key left = key right → left.id = right.id)
    {rows : List Row} (hnd : (rows.map Row.id).Nodup) : (rows.map key).Nodup := by
  rw [List.Nodup, List.pairwise_map] at hnd ⊢
  exact hnd.imp fun hne heq => hne (hkey _ _ heq)

theorem positionKey_row {position : String → String} {left right : Row}
    (h : positionKey position left = positionKey position right) : left.id = right.id :=
  congrArg (fun key => (ofLex key).2) h

theorem ascendingKey_row {grid : Grid ν} {columnId : String} {valueType : CellValueType} {left right : Row}
    (h : ascendingKey grid columnId valueType left = ascendingKey grid columnId valueType right) : left.id = right.id :=
  congrArg (fun key => (ofLex (ofLex key).2).2) h

theorem descendingKey_row {grid : Grid ν} {columnId : String} {valueType : CellValueType} {left right : Row}
    (h : descendingKey grid columnId valueType left = descendingKey grid columnId valueType right) :
    left.id = right.id :=
  congrArg (fun key : Bool ×ₗ (WithBot SqlValue)ᵒᵈ ×ₗ Stringᵒᵈ => OrderDual.ofDual (ofLex (ofLex key).2).2) h

variable {rows : List Row}

theorem GridStore.orderRows_sorted (hnd : (rows.map Row.id).Nodup) :
    (store.orderRows sort rows).Pairwise (store.RowBefore sort) := by
  unfold GridStore.orderRows GridStore.RowBefore
  split
  · exact orderedBy_sorted (nodup_keys (fun _ _ => positionKey_row) hnd)
  · exact orderedBy_sorted (nodup_keys (fun _ _ => ascendingKey_row) hnd)
  · exact orderedBy_sorted (nodup_keys (fun _ _ => descendingKey_row) hnd)

theorem GridStore.orderRows_filter (hnd : (rows.map Row.id).Nodup) (p : Row → Bool) :
    store.orderRows sort (rows.filter p) = (store.orderRows sort rows).filter p := by
  unfold GridStore.orderRows
  split
  · exact orderedBy_filter (nodup_keys (fun _ _ => positionKey_row) hnd) p
  · exact orderedBy_filter (nodup_keys (fun _ _ => ascendingKey_row) hnd) p
  · exact orderedBy_filter (nodup_keys (fun _ _ => descendingKey_row) hnd) p

end Order

section Matching

variable {ν : Type} [JsRuntime ν] [StoredNumbers ν]

theorem matchingRows_nodup (grid : Grid ν) (tableId : String) (filterTree : GridViewFilterGroup ν)
    (searchQuery : Option String) : ((matchingRows grid tableId filterTree searchQuery).map Row.id).Nodup :=
  grid.rows.nodup.sublist ((List.filter_sublist.trans List.filter_sublist).map Row.id)

def SortFits (grid : Grid ν) (sort : Option TypedSort) (row : Row) : Prop :=
  match sort with
  | none => True
  | some ⟨sort, valueType⟩ =>
    let stored := grid.storedValue row.id sort.columnId
    sortEmpty stored = true ∨ sortValue valueType stored ≠ ⊥

def StoredValue.Finite : StoredValue ν → Prop
  | .number value => JsRuntime.isFinite value = true
  | _ => True

def SortFinite (grid : Grid ν) (sort : Option TypedSort) (row : Row) : Prop :=
  match sort with
  | none => True
  | some ⟨sort, _⟩ => (grid.storedValue row.id sort.columnId).Finite

def cursorValue : StoredValue ν → CursorValue
  | .text value => .text value
  | .number value => .text (JsRuntime.numberToString value)
  | .boolean value => .boolean value
  | .timestamp value => .text (JsRuntime.toISOString ν value)
  | .empty | .json _ => .null

def cursorOf (store : GridStore ν) (sort : Option TypedSort) (viewId : String) (searchQuery : Option String)
    (row : Row) : GridCursor :=
  match sort with
  | none => .position row.id (store.position row.id) searchQuery
  | some ⟨sort, _⟩ =>
    let stored := store.db.grid.storedValue row.id sort.columnId
    .sorted sort (sortEmpty stored) row.id searchQuery (cursorValue stored) viewId

omit [JsRuntime ν] [StoredNumbers ν] in
theorem sortEmpty_eq_true {stored : StoredValue ν} : sortEmpty stored = true ↔ stored = .empty := by
  cases stored <;> simp [sortEmpty, StoredValue.type]

theorem normalize_sortResult {valueType : CellValueType} {stored : StoredValue ν} {value : CursorValue} :
    normalizeSortedCursorValue (sortResult valueType stored) valueType = .ok value ↔
      sortValue valueType stored ≠ ⊥ ∧ value = cursorValue stored := by
  cases stored with
  | number n =>
    cases hrank : StoredNumbers.rank n with
    | none => cases valueType <;> simp [normalizeSortedCursorValue, sortResult, sortValue, hrank]
    | some r =>
      cases valueType <;>
        simp [normalizeSortedCursorValue, sortResult, sortValue, hrank, cursorValue, eq_comm]
  | empty => cases valueType <;> simp [normalizeSortedCursorValue, sortResult, sortValue]
  | json _ => cases valueType <;> simp [normalizeSortedCursorValue, sortResult, sortValue]
  | text _ => cases valueType <;> simp [normalizeSortedCursorValue, sortResult, sortValue, cursorValue, eq_comm]
  | boolean _ => cases valueType <;> simp [normalizeSortedCursorValue, sortResult, sortValue, cursorValue, eq_comm]
  | timestamp _ =>
    cases valueType <;> simp [normalizeSortedCursorValue, sortResult, sortValue, cursorValue, eq_comm]

theorem rowCursor_eq_ok {store : GridStore ν} {sort : Option TypedSort} {viewId : String} {searchQuery : Option String}
    {row : Row} {cursor : GridCursor} : rowCursor store sort viewId searchQuery row = .ok cursor ↔
      SortFits store.db.grid sort row ∧ cursor = cursorOf store sort viewId searchQuery row := by
  cases sort with
  | none => simp [rowCursor, SortFits, cursorOf, eq_comm]
  | some typed =>
    obtain ⟨sort, valueType⟩ := typed
    dsimp only [rowCursor, SortFits, cursorOf]
    cases hempty : sortEmpty (store.db.grid.storedValue row.id sort.columnId) with
    | true =>
      rw [sortEmpty_eq_true.mp hempty]
      simp only [if_true, except_bind_eq_ok, pure, Except.pure, Except.ok.injEq, true_or, true_and, cursorValue]
      constructor
      · rintro ⟨_, hnull, hcursor⟩
        rw [← hcursor, hnull]
      · exact fun hcursor => ⟨_, rfl, hcursor.symm⟩
    | false =>
      simp only [Bool.false_eq_true, if_false, except_bind_eq_ok, normalize_sortResult, false_or, pure, Except.pure,
        Except.ok.injEq]
      constructor
      · rintro ⟨value, ⟨hfits, rfl⟩, rfl⟩
        exact ⟨hfits, rfl⟩
      · rintro ⟨hfits, rfl⟩
        exact ⟨_, ⟨hfits, rfl⟩, rfl⟩

/-- Written numbers and times are read back. -/
class CursorTexts (ν : Type) [JsRuntime ν] [StoredNumbers ν] [ConversionRuntime ν] : Prop where
  finite_rank : ∀ n : ν, JsRuntime.isFinite n = true → (StoredNumbers.rank n).isSome = true
  parseNumber_finite : ∀ n : ν,
    JsRuntime.isFinite (ConversionRuntime.parseNumber (JsRuntime.numberToString n) : ν) = JsRuntime.isFinite n
  parseNumber_rank : ∀ n : ν, JsRuntime.isFinite n = true →
    StoredNumbers.rank (ConversionRuntime.parseNumber (JsRuntime.numberToString n) : ν) = StoredNumbers.rank n
  parseInstant_toISOString : ∀ t, ConversionRuntime.parseInstant ν (JsRuntime.toISOString ν t) = some t

variable [ConversionRuntime ν] [CursorTexts ν]

theorem parse_cursorValue {valueType : CellValueType} {stored : StoredValue ν} (hfits : sortValue valueType stored ≠ ⊥)
    {value : SqlValue} : parseSortedCursorValue ν (cursorValue stored) valueType = .ok value ↔
      stored.Finite ∧ sortValue valueType stored = value := by
  cases stored with
  | number n =>
    have hfinite := CursorTexts.parseNumber_finite n
    cases hn : JsRuntime.isFinite n with
    | false =>
      rw [hn] at hfinite
      cases valueType <;> simp_all [parseSortedCursorValue, sortValue, cursorValue, StoredValue.Finite]
    | true =>
      have hrank := CursorTexts.parseNumber_rank n hn
      obtain ⟨r, hr⟩ := Option.isSome_iff_exists.mp (CursorTexts.finite_rank n hn)
      rw [hn] at hfinite
      cases valueType <;> simp_all [parseSortedCursorValue, sortValue, cursorValue, StoredValue.Finite]
  | empty => cases valueType <;> exact absurd rfl hfits
  | json _ => cases valueType <;> exact absurd rfl hfits
  | text _ => cases valueType <;> simp_all [parseSortedCursorValue, sortValue, cursorValue, StoredValue.Finite]
  | boolean _ => cases valueType <;> simp_all [parseSortedCursorValue, sortValue, cursorValue, StoredValue.Finite]
  | timestamp t =>
    have hparse := CursorTexts.parseInstant_toISOString (ν := ν) t
    cases valueType <;> simp_all [parseSortedCursorValue, sortValue, cursorValue, StoredValue.Finite]

omit [ConversionRuntime ν] [CursorTexts ν] in
theorem cursorValue_ne_null {valueType : CellValueType} {stored : StoredValue ν} (hfits : sortValue valueType stored ≠ ⊥) :
    cursorValue stored ≠ .null := by
  cases stored with
  | empty => cases valueType <;> exact absurd rfl hfits
  | json _ => cases valueType <;> exact absurd rfl hfits
  | text _ => exact CursorValue.noConfusion
  | number _ => exact CursorValue.noConfusion
  | boolean _ => exact CursorValue.noConfusion
  | timestamp _ => exact CursorValue.noConfusion

omit [ConversionRuntime ν] [CursorTexts ν] [JsRuntime ν] in
theorem rowBefore_sorted (store : GridStore ν) (columnId : String) (direction : SortDirection)
    (valueType : CellValueType) (left right : Row) :
    let stored := fun row : Row => store.db.grid.storedValue row.id columnId
    store.RowBefore (some ⟨⟨columnId, direction⟩, valueType⟩) left right ↔
      sortEmpty (stored left) < sortEmpty (stored right) ∨
        sortEmpty (stored left) = sortEmpty (stored right) ∧
          match direction with
          | .asc => sortValue valueType (stored left) < sortValue valueType (stored right) ∨
              sortValue valueType (stored left) = sortValue valueType (stored right) ∧ left.id < right.id
          | .desc => sortValue valueType (stored right) < sortValue valueType (stored left) ∨
              sortValue valueType (stored left) = sortValue valueType (stored right) ∧ right.id < left.id := by
  cases direction with
  | asc => simp only [GridStore.RowBefore, ascendingKey, Prod.Lex.toLex_lt_toLex]
  | desc =>
    simp only [GridStore.RowBefore, descendingKey, Prod.Lex.toLex_lt_toLex, OrderDual.toDual_lt_toDual,
      EmbeddingLike.apply_eq_iff_eq]

omit [JsRuntime ν] [ConversionRuntime ν] [CursorTexts ν] in
theorem sortValue_of_sortEmpty (valueType : CellValueType) {stored : StoredValue ν} (h : sortEmpty stored = true) :
    sortValue valueType stored = ⊥ := by
  rw [sortEmpty_eq_true.mp h]
  cases valueType <;> rfl

theorem cursorPredicate_cursorOf {store : GridStore ν} {sort : Option TypedSort} (viewId : String)
    (searchQuery : Option String) {row : Row} (hfits : SortFits store.db.grid sort row)
    (hfinite : SortFinite store.db.grid sort row) :
    ∃ p, cursorPredicate store sort viewId (some (cursorOf store sort viewId searchQuery row)) = .ok p ∧
      ∀ other, SortFits store.db.grid sort other → (p other = true ↔ store.RowBefore sort row other) := by
  cases sort with
  | none =>
    refine ⟨_, rfl, fun other _ => ?_⟩
    simp [GridStore.RowBefore, positionKey, Prod.Lex.toLex_lt_toLex, @eq_comm _ (store.position other.id)]
  | some typed =>
    obtain ⟨⟨columnId, direction⟩, valueType⟩ := typed
    dsimp only [SortFits, SortFinite] at hfits hfinite ⊢
    simp only [cursorPredicate, cursorOf, ne_eq, not_true_eq_false, or_self, if_false, buildSortedCursorPredicate]
    cases hempty : sortEmpty (store.db.grid.storedValue row.id columnId) with
    | true =>
      refine ⟨_, rfl, fun other _ => ?_⟩
      have hrow := sortValue_of_sortEmpty valueType hempty
      cases hother : sortEmpty (store.db.grid.storedValue other.id columnId) with
      | false => cases direction <;> simp [rowBefore_sorted, hempty, hother]
      | true =>
        have hvalue := sortValue_of_sortEmpty valueType hother
        cases direction <;> simp [rowBefore_sorted, hempty, hother, hrow, hvalue, rowAfter]
    | false =>
      have hvalue := hfits.resolve_left (by simp [hempty])
      obtain ⟨value, hsort⟩ := WithBot.ne_bot_iff_exists.mp hvalue
      have hparse := (parse_cursorValue hvalue).mpr ⟨hfinite, hsort.symm⟩
      rw [if_neg (by simp), if_neg (cursorValue_ne_null hvalue), hparse]
      refine ⟨_, rfl, fun other hother => ?_⟩
      cases hlast : sortEmpty (store.db.grid.storedValue other.id columnId) with
      | true => cases direction <;> simp [rowBefore_sorted, hempty, hlast]
      | false =>
        have hsome := hother.resolve_left (by simp [hlast])
        have hsame : sortValue valueType (store.db.grid.storedValue other.id columnId) = (value : WithBot SqlValue) ↔
          (value : WithBot SqlValue) = sortValue valueType (store.db.grid.storedValue other.id columnId) := eq_comm
        cases direction with
        | asc => simp [rowBefore_sorted, hempty, hlast, valueAfter, rowAfter, ← hsort, hsame]
        | desc => simp [rowBefore_sorted, hempty, hlast, valueAfter, rowAfter, ← hsort, hsome, hsame]

end Matching

structure GridReading (ν : Type) where
  searchQuery : Option String
  activeView : Option (SavedGridViewSummary ν)
  sort : Option TypedSort

section Reading

variable {ν : Type} [JsRuntime ν]

def readGridRequest (store : GridStore ν) (scope : GridScope) (options : GridOptions) :
    Except StoreError (GridReading ν) := do
  requireActiveTableMembership store.db scope
  let searchQuery ← parseSearchRequest ν options.searchQuery
  let activeView ← requireView store scope options.viewId
  let sort ← requireSortColumn store.db.grid scope.tableId (activeView.bind SavedGridViewSummary.sort)
  return ⟨searchQuery, activeView, sort⟩

theorem readGridRequest_eq_ok {store : GridStore ν} {scope : GridScope} {options : GridOptions}
    {reading : GridReading ν} : readGridRequest store scope options = .ok reading ↔
      requireActiveTableMembership store.db scope = .ok () ∧
      parseSearchRequest ν options.searchQuery = .ok reading.searchQuery ∧
      requireView store scope options.viewId = .ok reading.activeView ∧
      requireSortColumn store.db.grid scope.tableId (reading.activeView.bind SavedGridViewSummary.sort) =
        .ok reading.sort := by
  simp only [readGridRequest, except_bind_eq_ok, pure, Except.pure, Except.ok.injEq]
  constructor
  · rintro ⟨⟨⟩, haccess, searchQuery, hsearch, activeView, hview, sort, hsort, rfl⟩
    exact ⟨haccess, hsearch, hview, hsort⟩
  · rintro ⟨haccess, hsearch, hview, hsort⟩
    exact ⟨(), haccess, _, hsearch, _, hview, _, hsort, rfl⟩

def GridReading.viewId (reading : GridReading ν) : String :=
  (reading.activeView.map SavedGridViewSummary.id).getD ""

def GridReading.filterTree (reading : GridReading ν) : GridViewFilterGroup ν :=
  (reading.activeView.map SavedGridViewSummary.filterTree).getD ⟨.and, []⟩

variable [StoredNumbers ν]

def GridReading.rows (reading : GridReading ν) (store : GridStore ν) (tableId : String) : List Row :=
  store.orderRows reading.sort (matchingRows store.db.grid tableId reading.filterTree reading.searchQuery)

def GridReading.cursor (reading : GridReading ν) (store : GridStore ν) (row : Row) : GridCursor :=
  cursorOf store reading.sort reading.viewId reading.searchQuery row

def GridReading.token (reading : GridReading ν) (store : GridStore ν) (row : Row) : String :=
  (reading.cursor store row).encode ν

def GridReading.Typed (reading : GridReading ν) (store : GridStore ν) (tableId : String) : Prop :=
  ∀ row ∈ reading.rows store tableId,
    SortFits store.db.grid reading.sort row ∧ SortFinite store.db.grid reading.sort row

variable [ConversionRuntime ν]

def gridPage (store : GridStore ν) (scope : GridScope) (options : GridOptions) (cursor : Option String) :
    Except StoreError (List (SqliteGridRow ν) × Option String) :=
  (getSqliteGridSnapshot store scope { options with cursor := cursor }).map fun snapshot =>
    (snapshot.rows, snapshot.pageInfo.nextCursor)

variable {store : GridStore ν} {scope : GridScope} {options : GridOptions} {reading : GridReading ν}

theorem GridOptions.pageLimit_pos (options : GridOptions) : 0 < options.pageLimit := by
  unfold GridOptions.pageLimit
  omega

omit [ConversionRuntime ν] in
theorem encodeGridCursor_eq_ok (hsort : requireSortColumn store.db.grid scope.tableId
    (reading.activeView.bind SavedGridViewSummary.sort) = .ok reading.sort) {row : Row}
    (hfits : SortFits store.db.grid reading.sort row) :
    encodeGridCursor store scope.tableId reading.activeView reading.searchQuery row = .ok (reading.token store row) := by
  have hcursor : rowCursor store reading.sort reading.viewId reading.searchQuery row = .ok (reading.cursor store row) :=
    rowCursor_eq_ok.mpr ⟨hfits, rfl⟩
  rw [encodeGridCursor, hsort]
  simp only [GridReading.viewId] at hcursor
  simp only [except_ok_bind, hcursor]
  rfl

theorem gridPage_of_select (hread : readGridRequest store scope options = .ok reading)
    (htyped : reading.Typed store scope.tableId) {cursor : Option String} {decoded : Option GridCursor}
    (hdecode : decodeCursor ν cursor = .ok decoded) {start : Nat}
    (hselect : ∀ limit, selectSqliteGridRows store scope.tableId reading.activeView decoded limit reading.searchQuery =
      .ok (((reading.rows store scope.tableId).drop start).take limit)) :
    gridPage store scope options cursor = .ok (pageFrom options.pageLimit (toGridRow store) (reading.token store)
      (reading.rows store scope.tableId) start) := by
  obtain ⟨haccess, hsearch, hview, hsort⟩ := readGridRequest_eq_ok.mp hread
  have hlimit := options.pageLimit_pos
  have hpageLimit : ({ options with cursor := cursor } : GridOptions).pageLimit = options.pageLimit := rfl
  rw [gridPage, getSqliteGridSnapshot, haccess, except_ok_bind, hsearch, except_ok_bind, hdecode, except_ok_bind, hview,
    except_ok_bind, hselect, except_ok_bind, hpageLimit, List.take_take, min_eq_left (Nat.le_succ _)]
  by_cases hmore : start + options.pageLimit < (reading.rows store scope.tableId).length
  · obtain ⟨last, hlast, hpage⟩ := pageFrom_next (toGridRow store) (reading.token store) hlimit hmore
    have hselected : options.pageLimit <
        (((reading.rows store scope.tableId).drop start).take (options.pageLimit + 1)).length := by
      rw [List.length_take, List.length_drop]
      omega
    have hend : (((reading.rows store scope.tableId).drop start).take options.pageLimit).getLast? = some last := by
      have hlength : (((reading.rows store scope.tableId).drop start).take options.pageLimit).length =
          options.pageLimit := by
        rw [List.length_take, List.length_drop]
        omega
      rw [List.getLast?_eq_getElem?, hlength, List.getElem?_take, if_pos (by omega), List.getElem?_drop,
        ← Nat.add_sub_assoc hlimit, hlast]
    dsimp only
    rw [hend, hpage]
    simp only [hselected, if_true, encodeGridCursor_eq_ok hsort (htyped last (List.mem_of_getElem? hlast)).1]
    rfl
  · have hselected : ¬ options.pageLimit <
        (((reading.rows store scope.tableId).drop start).take (options.pageLimit + 1)).length := by
      rw [List.length_take, List.length_drop]
      omega
    have hshort : ((reading.rows store scope.tableId).drop start).length ≤ options.pageLimit := by
      rw [List.length_drop]
      omega
    dsimp only
    rw [pageFrom_last (by omega), List.take_of_length_le hshort]
    simp only [hselected, if_false]
    cases ((reading.rows store scope.tableId).drop start).getLast? <;> rfl

theorem selectSqliteGridRows_eq_ok (hread : readGridRequest store scope options = .ok reading)
    {decoded : Option GridCursor} (hsearch : (decoded.all fun cursor => cursor.searchQuery = reading.searchQuery) = true)
    {p : Row → Bool} (hp : cursorPredicate store reading.sort reading.viewId decoded = .ok p) (limit : Nat) :
    selectSqliteGridRows store scope.tableId reading.activeView decoded limit reading.searchQuery =
      .ok (((reading.rows store scope.tableId).filter p).take limit) := by
  obtain ⟨_, _, _, hsort⟩ := readGridRequest_eq_ok.mp hread
  have hnodup := matchingRows_nodup store.db.grid scope.tableId reading.filterTree reading.searchQuery
  rw [selectSqliteGridRows, requireThat, if_pos hsearch, except_ok_bind, hsort, except_ok_bind]
  rw [GridReading.viewId] at hp
  rw [hp, except_ok_bind, GridReading.rows, ← store.orderRows_filter reading.sort hnodup]
  rfl

theorem select_first (hread : readGridRequest store scope options = .ok reading) (limit : Nat) :
    selectSqliteGridRows store scope.tableId reading.activeView none limit reading.searchQuery =
      .ok (((reading.rows store scope.tableId).drop 0).take limit) := by
  rw [selectSqliteGridRows_eq_ok hread rfl rfl, List.filter_true, List.drop_zero]

variable [CursorTexts ν]

theorem select_after (hread : readGridRequest store scope options = .ok reading)
    (htyped : reading.Typed store scope.tableId) {start : Nat} {row : Row}
    (hrow : (reading.rows store scope.tableId)[start]? = some row) (limit : Nat) :
    selectSqliteGridRows store scope.tableId reading.activeView (some (reading.cursor store row)) limit
      reading.searchQuery = .ok (((reading.rows store scope.tableId).drop (start + 1)).take limit) := by
  obtain ⟨hfits, hfinite⟩ := htyped row (List.mem_of_getElem? hrow)
  obtain ⟨p, hp, hafter⟩ := cursorPredicate_cursorOf reading.viewId reading.searchQuery hfits hfinite
  have hsearch : (reading.cursor store row).searchQuery = reading.searchQuery := by
    unfold GridReading.cursor cursorOf
    split <;> rfl
  obtain ⟨hlt, heq⟩ := List.getElem?_eq_some_iff.mp hrow
  have hsplit : reading.rows store scope.tableId = (reading.rows store scope.tableId).take start ++
      row :: (reading.rows store scope.tableId).drop (start + 1) := by
    rw [← heq, ← List.drop_eq_getElem_cons hlt, List.take_append_drop]
  have hfilter : (reading.rows store scope.tableId).filter p = (reading.rows store scope.tableId).drop (start + 1) := by
    have hsorted : (reading.rows store scope.tableId).Pairwise (store.RowBefore reading.sort) :=
      store.orderRows_sorted reading.sort
        (matchingRows_nodup store.db.grid scope.tableId reading.filterTree reading.searchQuery)
    have hall : ∀ other ∈ reading.rows store scope.tableId, p other = true ↔ store.RowBefore reading.sort row other :=
      fun other hother => hafter other (htyped other hother).1
    rw [hsplit] at hsorted hall
    have hrest := filter_after (GridStore.RowBefore.asymm store reading.sort) hsorted hall
    rwa [← hsplit] at hrest
  rw [← hfilter]
  have hsame : ((some (reading.cursor store row)).all fun cursor => cursor.searchQuery = reading.searchQuery) = true :=
    decide_eq_true hsearch
  exact selectSqliteGridRows_eq_ok hread hsame hp limit

omit [CursorTexts ν] in
theorem gridPage_first (hread : readGridRequest store scope options = .ok reading)
    (htyped : reading.Typed store scope.tableId) :
    gridPage store scope options none = .ok (pageFrom options.pageLimit (toGridRow store) (reading.token store)
      (reading.rows store scope.tableId) 0) :=
  gridPage_of_select hread htyped rfl (select_first hread)

omit [CursorTexts ν] [StoredNumbers ν] in
theorem decodeCursor_token (reading : GridReading ν) (row : Row) :
    decodeCursor ν (some (reading.token store row)) = (decodeGridCursor ν (reading.token store row)).map some := by
  have hpresent : reading.token store row ≠ "" := GridCursor.encode_ne_empty ν (reading.cursor store row)
  rw [decodeCursor, Option.filter_some, if_pos (decide_eq_true hpresent)]

theorem gridPage_after (hread : readGridRequest store scope options = .ok reading)
    (htyped : reading.Typed store scope.tableId) {start : Nat} {row : Row}
    (hrow : (reading.rows store scope.tableId)[start]? = some row) (hfits : (reading.cursor store row).Fits ν) :
    gridPage store scope options (some (reading.token store row)) =
      .ok (pageFrom options.pageLimit (toGridRow store) (reading.token store) (reading.rows store scope.tableId)
        (start + 1)) := by
  have hcursor := (decodeGridCursor_encode ν (reading.cursor store row) _).mpr ⟨hfits, rfl⟩
  have hdecode : decodeCursor ν (some (reading.token store row)) = .ok (some (reading.cursor store row)) := by
    rw [decodeCursor_token, GridReading.token, hcursor]
    rfl
  exact gridPage_of_select hread htyped hdecode (select_after hread htyped hrow)

omit [CursorTexts ν] in
theorem gridPage_refused {row : Row} (hfits : ¬ (reading.cursor store row).Fits ν)
    (page : List (SqliteGridRow ν) × Option String) :
    gridPage store scope options (some (reading.token store row)) ≠ .ok page := by
  intro hpage
  obtain ⟨snapshot, hsnapshot, _⟩ := except_map_eq_ok.mp hpage
  simp only [getSqliteGridSnapshot, except_bind_eq_ok] at hsnapshot
  obtain ⟨_, _, _, _, decoded, hdecode, _⟩ := hsnapshot
  rw [decodeCursor_token] at hdecode
  obtain ⟨cursor, hcursor, _⟩ := except_map_eq_ok.mp hdecode
  exact hfits ((decodeGridCursor_encode ν _ _).mp hcursor).1

theorem traverses_gridPage_iff (hread : readGridRequest store scope options = .ok reading)
    (htyped : reading.Typed store scope.tableId) :
    Traverses (gridPage store scope options) none ((reading.rows store scope.tableId).map (toGridRow store)) ↔
      ∀ row, PageEnd options.pageLimit (reading.rows store scope.tableId) row → (reading.cursor store row).Fits ν :=
  Traverses.iff_pageEnds options.pageLimit_pos (gridPage_first hread htyped)
    (fun _ _ hrow hfits => gridPage_after hread htyped hrow hfits) (fun _ _ hfits => gridPage_refused hfits)

end Reading

section Sample

instance : ConversionRuntime SafeInteger where
  parseJson := ByokGrid.parseJson SafeInteger.parse
  parseNumber := SafeInteger.parse
  parseInstant text := some (TimeValue.read text)

instance : CursorTexts SafeInteger where
  finite_rank _ h := h
  parseNumber_finite n := by
    cases n with
    | none => rfl
    | some n => exact congrArg Option.isSome (parse_toString n)
  parseNumber_rank n h := by
    obtain ⟨n, rfl⟩ := Option.isSome_iff_exists.mp h
    exact parse_toString n
  parseInstant_toISOString t := congrArg some (TimeValue.read_write t)

def lettersTable : String := "2f6a91d4-5c07-4b8e-9d13-7e40a6c2b958"

def lettersView : SavedGridView SafeInteger where
  id := "7d1e5a90-3c4b-4f6d-8a2e-51b0c9d8e7f6"
  tableId := lettersTable
  name := "By text"
  filters := .tree ⟨.and, []⟩
  sort := some ⟨"c2a94e17-6b08-4d35-9f7c-0e8b1a2d3c4f", .asc⟩
  updatedAt := .epoch

def lettersStore (text : String) : GridStore SafeInteger where
  db :=
    { greetingDatabase with
      grid :=
        { dataTables := ⟨[⟨lettersTable, none⟩], by decide⟩
          columns := ⟨[{ greetingColumn with id := "c2a94e17-6b08-4d35-9f7c-0e8b1a2d3c4f", tableId := lettersTable }],
            by decide⟩
          columnDependencies := Table.empty
          rows :=
            ⟨[⟨"1b7f0c52-94de-4a3b-b6c8-2d5e7f801a94", lettersTable, 1, none⟩,
              ⟨"8e42d6b1-07fa-4c19-a35d-9b60e1f2c873", lettersTable, 1, none⟩], by decide⟩
          cells := fun _ _ => some ⟨.text text, .idle, 1⟩ }
      workspaceMembers := Table.singleton { userId := "alan", role := .owner } }
  savedGridViews := ⟨[lettersView], by decide⟩
  position := fun _ => ""

def lettersScope : GridScope := ⟨lettersTable, "alan"⟩

def lettersOptions : GridOptions := { limit := some 1, viewId := some lettersView.id }

def lettersReading : GridReading SafeInteger where
  searchQuery := none
  activeView := some ⟨lettersView.id, "By text", ⟨.and, []⟩, lettersView.sort, .epoch⟩
  sort := lettersView.sort.map fun sort => ⟨sort, .text⟩

theorem readGridRequest_letters (text : String) :
    readGridRequest (lettersStore text) lettersScope lettersOptions = .ok lettersReading :=
  rfl

theorem letters_typed (text : String) : lettersReading.Typed (lettersStore text) lettersTable :=
  fun _ _ => ⟨Or.inr (WithBot.coe_ne_bot), trivial⟩

theorem mem_letters {text : String} {row : Row} :
    row ∈ lettersReading.rows (lettersStore text) lettersTable ↔ row ∈ (lettersStore text).db.grid.rows.records := by
  rw [GridReading.rows, GridStore.mem_orderRows]
  rfl

theorem letters_length (text : String) : (lettersReading.rows (lettersStore text) lettersTable).length = 2 :=
  (orderedBy_perm _ _).length_eq

theorem letters_pageEnd (text : String) : ∃ row,
    PageEnd lettersOptions.pageLimit (lettersReading.rows (lettersStore text) lettersTable) row := by
  have hlength := letters_length text
  have hlimit : 1 * lettersOptions.pageLimit = 1 := rfl
  obtain ⟨row, hrow⟩ : ∃ row, (lettersReading.rows (lettersStore text) lettersTable)[0]? = some row :=
    ⟨_, List.getElem?_eq_getElem (by omega)⟩
  refine ⟨row, 1, Nat.one_pos, ?_, ?_⟩
  · rw [hlength, hlimit]
    exact Nat.one_lt_two
  · rw [hlimit]
    exact hrow

def repeated (n : Nat) : String :=
  String.ofList (List.replicate n 'a')

theorem length_le_letters (text : String) (row : Row) :
    text.length ≤ ((lettersReading.cursor (lettersStore text) row).text SafeInteger).utf8ByteSize :=
  GridCursor.length_le_text ..

theorem repeated_refused {n : Nat} (h : MAXIMUM_CURSOR_BYTES < n) (row : Row) :
    ¬ (lettersReading.cursor (lettersStore (repeated n)) row).Fits SafeInteger := by
  rintro ⟨_, hshort⟩
  have hlong := (length_le_letters (repeated n) row).trans hshort
  rw [repeated, String.length_ofList, List.length_replicate] at hlong
  omega

end Sample

end ByokGrid
