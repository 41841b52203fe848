import ByokGrid.BulkRunContract
import ByokGrid.GridSearch

/-! The full-text index of the cells. Its content is the table of cells; three triggers keep the text of a cell and
the entry of its row number. -/

namespace ByokGrid

section Texts

variable {ν : Type} [JsRuntime ν] [StoredNumbers ν]

def triggerText : StoredValue ν → List Char
  | .empty => []
  | .text value => value.toList
  | .number value => ((StoredNumbers.rank value).map fun _ => (StoredNumbers.numberText value).toList).getD []
  | .boolean value => if value then ['t', 'r', 'u', 'e'] else ['f', 'a', 'l', 's', 'e']
  | .timestamp value => ((StoredNumbers.timeText ν value).map String.toList).getD []
  | .json value => value.stringify.toList

def triggerSearchText (value : StoredValue ν) : List Char :=
  sqlSubstr (triggerText value) MAXIMUM_SEARCHABLE_CELL_CHARACTERS

def firstCharacters (value : StoredValue ν) : List Char :=
  (triggerText value).take MAXIMUM_SEARCHABLE_CELL_CHARACTERS

theorem triggerSearchText_no_nul (value : StoredValue ν) : '\x00' ∉ triggerSearchText value :=
  (CellSearchText.ofText (triggerText value)).no_nul

theorem triggerSearchText_eq_iff {value : StoredValue ν} :
    triggerSearchText value = firstCharacters value ↔ '\x00' ∉ firstCharacters value := by
  constructor
  · intro h
    rw [← h]
    exact triggerSearchText_no_nul value
  · intro h
    have hcut : (cString (triggerText value)).take MAXIMUM_SEARCHABLE_CELL_CHARACTERS = cString (firstCharacters value) :=
      List.take_takeWhile
    rw [triggerSearchText, sqlSubstr, hcut, cString_eq_self h]

end Texts

structure IndexedCell (ν : Type) where
  rowid : Nat
  id : String
  rowId : String
  columnId : String
  value : StoredValue ν
  status : CellStatus
  version : Nat
  searchText : List Char

def IndexedCell.entry {ν : Type} (cell : IndexedCell ν) : Nat × List Char :=
  (cell.rowid, cell.searchText)

def IndexedCell.isAt {ν : Type} (rowid : Nat) (cell : IndexedCell ν) : Bool :=
  cell.rowid == rowid

structure SearchStore (ν : Type) where
  cells : List (IndexedCell ν)
  index : List (Nat × List Char)
  archivedColumns : List String

def updateAt {ν : Type} (rowid : Nat) (update : IndexedCell ν → IndexedCell ν) (cells : List (IndexedCell ν)) :
    List (IndexedCell ν) :=
  cells.map fun cell => if cell.isAt rowid then update cell else cell

section Steps

variable {ν : Type} [JsRuntime ν] [StoredNumbers ν]

def SearchStore.empty : SearchStore ν :=
  ⟨[], [], []⟩

/-- `UPDATE cells SET search_text = substr(…) WHERE rowid = NEW.rowid` -/
def SearchStore.setSearchText (store : SearchStore ν) (new : IndexedCell ν) : SearchStore ν :=
  { store with cells := updateAt new.rowid (fun cell => { cell with searchText := triggerSearchText new.value }) store.cells }

/-- `INSERT INTO cells_search_fts(rowid, search_text) SELECT rowid, search_text FROM cells WHERE rowid = …` -/
def SearchStore.insertEntry (store : SearchStore ν) (rowid : Nat) : SearchStore ν :=
  { store with index := (store.cells.filter (IndexedCell.isAt rowid)).map IndexedCell.entry ++ store.index }

/-- The command `'delete'` with the row number and the text which were indexed. -/
def SearchStore.deleteEntry (store : SearchStore ν) (old : IndexedCell ν) : SearchStore ν :=
  { store with index := store.index.erase old.entry }

def SearchStore.cellsSearchInsert (store : SearchStore ν) (new : IndexedCell ν) : SearchStore ν :=
  (store.setSearchText new).insertEntry new.rowid

def SearchStore.cellsSearchUpdate (store : SearchStore ν) (old new : IndexedCell ν) : SearchStore ν :=
  ((store.deleteEntry old).setSearchText new).insertEntry new.rowid

def SearchStore.cellsSearchDelete (store : SearchStore ν) (old : IndexedCell ν) : SearchStore ν :=
  store.deleteEntry old

/-- `INSERT INTO cells`: the keys are new, and the search text, which a writer may give, is short. -/
def SearchStore.insertCell (store : SearchStore ν) (new : IndexedCell ν) : Option (SearchStore ν) :=
  if store.cells.any (fun cell => cell.isAt new.rowid || cell.id = new.id ||
      cell.rowId = new.rowId && cell.columnId = new.columnId) then none
  else if MAXIMUM_SEARCHABLE_CELL_CHARACTERS < new.searchText.length then none
  else some (({ store with cells := store.cells ++ [new] }).cellsSearchInsert new)

def SearchStore.replaceCell (store : SearchStore ν) (new : IndexedCell ν) : SearchStore ν :=
  { store with cells := updateAt new.rowid (fun _ => new) store.cells }

/-- `UPDATE cells SET value_type = …`: the version may be set with it, and the status. -/
def SearchStore.updateValue (store : SearchStore ν) (rowid : Nat) (value : StoredValue ν) (status : CellStatus) (version : Nat) :
    Option (SearchStore ν) := do
  let old ← store.cells.find? (IndexedCell.isAt rowid)
  let new := { old with value, status, version }
  some ((store.replaceCell new).cellsSearchUpdate old new)

def SearchStore.updateStatus (store : SearchStore ν) (rowid : Nat) (status : CellStatus) (version : Nat) :
    Option (SearchStore ν) := do
  let old ← store.cells.find? (IndexedCell.isAt rowid)
  some (store.replaceCell { old with status, version })

def SearchStore.deleteCell (store : SearchStore ν) (rowid : Nat) : Option (SearchStore ν) := do
  let old ← store.cells.find? (IndexedCell.isAt rowid)
  some (({ store with cells := store.cells.filter fun cell => !cell.isAt rowid }).cellsSearchDelete old)

def SearchStore.archiveColumn (store : SearchStore ν) (columnId : String) : Option (SearchStore ν) :=
  if columnId ∈ store.archivedColumns then none
  else some { store with archivedColumns := columnId :: store.archivedColumns }

def SearchStore.restoreColumn (store : SearchStore ν) (columnId : String) : Option (SearchStore ν) :=
  if columnId ∈ store.archivedColumns then
    some { store with archivedColumns := store.archivedColumns.filter fun archived => archived ≠ columnId }
  else none

inductive SearchStatement (ν : Type) where
  | insertCell (new : IndexedCell ν)
  | updateValue (rowid : Nat) (value : StoredValue ν) (status : CellStatus) (version : Nat)
  | updateStatus (rowid : Nat) (status : CellStatus) (version : Nat)
  | deleteCell (rowid : Nat)
  | archiveColumn (columnId : String)
  | restoreColumn (columnId : String)

def SearchStore.step (store : SearchStore ν) : SearchStatement ν → Option (SearchStore ν)
  | .insertCell new => store.insertCell new
  | .updateValue rowid value status version => store.updateValue rowid value status version
  | .updateStatus rowid status version => store.updateStatus rowid status version
  | .deleteCell rowid => store.deleteCell rowid
  | .archiveColumn columnId => store.archiveColumn columnId
  | .restoreColumn columnId => store.restoreColumn columnId

def SearchStore.run (store : SearchStore ν) (statements : List (SearchStatement ν)) : SearchStore ν :=
  statements.foldl (fun store statement => (store.step statement).getD store) store

def SearchStore.cellsSearchFts (store : SearchStore ν) : List (Nat × List Char) :=
  store.cells.map IndexedCell.entry

def SearchStore.buildSqliteGridSearchPredicate (store : SearchStore ν) (rowId : String) : Option String → Bool
  | none => true
  | some searchQuery => store.cellsSearchFts.any fun entry => store.cells.any fun cell =>
      cell.isAt entry.1 && cell.rowId = rowId && searchLike searchQuery.toList entry.2

structure SearchStore.Indexed (store : SearchStore ν) : Prop where
  rowids : (store.cells.map IndexedCell.rowid).Nodup
  entries : store.index.Perm store.cellsSearchFts
  texts : ∀ cell ∈ store.cells, cell.searchText = triggerSearchText cell.value

theorem SearchStore.indexed_empty : (SearchStore.empty : SearchStore ν).Indexed :=
  ⟨List.nodup_nil, .nil, fun _ h => absurd h List.not_mem_nil⟩

end Steps

section Focus

variable {ν : Type} {cells others : List (IndexedCell ν)} {cell : IndexedCell ν}

structure Focus (cells : List (IndexedCell ν)) (cell : IndexedCell ν) (others : List (IndexedCell ν)) : Prop where
  perm : cells.Perm (cell :: others)
  apart : ∀ other ∈ others, other.isAt cell.rowid = false

theorem focus_of_mem (hnodup : (cells.map IndexedCell.rowid).Nodup) (hcell : cell ∈ cells) :
    Focus cells cell (cells.filter fun other => !other.isAt cell.rowid) := by
  refine ⟨?_, fun other hother => by simpa using (List.mem_filter.mp hother).2⟩
  induction cells with
  | nil => exact absurd hcell List.not_mem_nil
  | cons first cells ih =>
    obtain ⟨hfresh, hlater⟩ := List.nodup_cons.mp hnodup
    have hother : ∀ other ∈ cells, first.rowid ≠ other.rowid := fun other hmem heq => hfresh (heq ▸ List.mem_map_of_mem hmem)
    rcases List.mem_cons.mp hcell with rfl | hmem
    · have hothers : (cells.filter fun other => !other.isAt cell.rowid) = cells := by
        rw [List.filter_eq_self]
        intro other hmem
        rw [IndexedCell.isAt, Bool.not_eq_true', beq_eq_false_iff_ne]
        exact (hother other hmem).symm
      rw [List.filter_cons, IndexedCell.isAt, beq_self_eq_true, hothers]
      exact .refl _
    · have hkept : (!first.isAt cell.rowid) = true := by
        rw [IndexedCell.isAt, Bool.not_eq_true', beq_eq_false_iff_ne]
        exact hother cell hmem
      rw [List.filter_cons, hkept]
      exact ((ih hlater hmem).cons first).trans (.swap cell first _)

theorem Focus.updateAt (h : Focus cells cell others) (update : IndexedCell ν → IndexedCell ν)
    (hrowid : (update cell).rowid = cell.rowid) : Focus (updateAt cell.rowid update cells) (update cell) others := by
  constructor
  · have hothers : ByokGrid.updateAt cell.rowid update others = others := by
      conv_rhs => rw [← List.map_id others]
      apply List.map_congr_left
      intro other hother
      rw [h.apart other hother]
      rfl
    have hcell : ByokGrid.updateAt cell.rowid update (cell :: others) = update cell :: others := by
      rw [ByokGrid.updateAt, List.map_cons, IndexedCell.isAt, beq_self_eq_true]
      exact congrArg (update cell :: ·) hothers
    rw [← hcell]
    exact h.perm.map _
  · rw [hrowid]
    exact h.apart

theorem Focus.filter_isAt (h : Focus cells cell others) : cells.filter (IndexedCell.isAt cell.rowid) = [cell] := by
  have hothers : others.filter (IndexedCell.isAt cell.rowid) = [] := by
    rw [List.filter_eq_nil_iff]
    exact fun other hother => Bool.eq_false_iff.mp (h.apart other hother)
  have hperm := h.perm.filter (IndexedCell.isAt cell.rowid)
  rw [List.filter_cons, IndexedCell.isAt, beq_self_eq_true, if_pos rfl, hothers] at hperm
  exact List.perm_singleton.mp hperm

end Focus

section Runs

variable {ν : Type} [JsRuntime ν] [StoredNumbers ν] {store next : SearchStore ν}

theorem SearchStore.indexed_insertEntry (store : SearchStore ν) {cell : IndexedCell ν} {others : List (IndexedCell ν)} (hfocus : Focus store.cells cell others)
    (hnodup : (others.map IndexedCell.rowid).Nodup) (hindex : store.index.Perm (others.map IndexedCell.entry))
    (htexts : ∀ other ∈ others, other.searchText = triggerSearchText other.value) :
    ((store.setSearchText cell).insertEntry cell.rowid).Indexed := by
  let kept : IndexedCell ν := { cell with searchText := triggerSearchText cell.value }
  have hkept : Focus (store.setSearchText cell).cells kept others :=
    hfocus.updateAt (fun old => { old with searchText := triggerSearchText cell.value }) rfl
  refine ⟨?_, ?_, ?_⟩
  · have hrowids : ((kept :: others).map IndexedCell.rowid).Nodup := by
      refine List.nodup_cons.mpr ⟨fun hmem => ?_, hnodup⟩
      obtain ⟨other, hother, heq⟩ := List.mem_map.mp hmem
      exact beq_eq_false_iff_ne.mp (hfocus.apart other hother) heq
    exact (hkept.perm.map IndexedCell.rowid).nodup_iff.mpr hrowids
  · have hentry : ((store.setSearchText cell).cells.filter (IndexedCell.isAt cell.rowid)).map IndexedCell.entry = [kept.entry] :=
      congrArg (List.map IndexedCell.entry) hkept.filter_isAt
    show (((store.setSearchText cell).cells.filter (IndexedCell.isAt cell.rowid)).map IndexedCell.entry ++ store.index).Perm _
    rw [hentry]
    exact (hindex.cons kept.entry).trans (hkept.perm.map IndexedCell.entry).symm
  · intro other hother
    rcases List.mem_cons.mp (hkept.perm.mem_iff.mp hother) with rfl | hother
    · rfl
    · exact htexts other hother

omit [JsRuntime ν] [StoredNumbers ν] in
theorem SearchStore.find?_spec {rowid : Nat} {old : IndexedCell ν} (h : store.cells.find? (IndexedCell.isAt rowid) = some old) :
    old ∈ store.cells ∧ old.rowid = rowid := by
  have hat : old.isAt rowid = true := List.find?_some h
  exact ⟨List.mem_of_find?_eq_some h, eq_of_beq hat⟩

theorem SearchStore.Indexed.erase (h : store.Indexed) {old : IndexedCell ν} {others : List (IndexedCell ν)}
    (hfocus : Focus store.cells old others) : (store.index.erase old.entry).Perm (others.map IndexedCell.entry) := by
  have hperm := (h.entries.trans (hfocus.perm.map IndexedCell.entry)).erase old.entry
  rwa [List.map_cons, List.erase_cons_head] at hperm

theorem SearchStore.Indexed.others (h : store.Indexed) {old : IndexedCell ν} {others : List (IndexedCell ν)}
    (hfocus : Focus store.cells old others) :
    (others.map IndexedCell.rowid).Nodup ∧ ∀ other ∈ others, other.searchText = triggerSearchText other.value := by
  have hnodup := (hfocus.perm.map IndexedCell.rowid).nodup_iff.mp h.rowids
  exact ⟨(List.nodup_cons.mp hnodup).2, fun other hother => h.texts other (hfocus.perm.mem_iff.mpr (List.mem_cons_of_mem _ hother))⟩

theorem SearchStore.Indexed.insertCell (h : store.Indexed) {new : IndexedCell ν} (hstep : store.insertCell new = some next) :
    next.Indexed := by
  unfold SearchStore.insertCell at hstep
  split at hstep
  · cases hstep
  · rename_i hfresh
    split at hstep
    · cases hstep
    · cases hstep
      have hfocus : Focus (store.cells ++ [new]) new store.cells := by
        refine ⟨List.perm_append_singleton new store.cells, fun other hother => ?_⟩
        by_contra hsame
        rw [Bool.not_eq_false] at hsame
        exact hfresh (List.any_eq_true.mpr ⟨other, hother, by rw [hsame]; rfl⟩)
      exact indexed_insertEntry { store with cells := store.cells ++ [new] } hfocus h.rowids h.entries h.texts

theorem SearchStore.Indexed.updateValue (h : store.Indexed) {rowid version : Nat} {value : StoredValue ν} {status : CellStatus}
    (hstep : store.updateValue rowid value status version = some next) : next.Indexed := by
  unfold SearchStore.updateValue at hstep
  cases hfind : store.cells.find? (IndexedCell.isAt rowid) with
  | none => rw [hfind] at hstep; cases hstep
  | some old =>
    rw [hfind] at hstep
    cases hstep
    obtain ⟨hold, -⟩ := find?_spec hfind
    have hfocus := focus_of_mem h.rowids hold
    obtain ⟨hnodup, htexts⟩ := h.others hfocus
    let new : IndexedCell ν := { old with value, status, version }
    have hnew : Focus (store.replaceCell new).cells new _ := hfocus.updateAt (fun _ => new) rfl
    -- the entry of the old text goes before the text is set
    exact indexed_insertEntry ((store.replaceCell new).deleteEntry old) hnew hnodup (h.erase hfocus) htexts

theorem SearchStore.Indexed.updateStatus (h : store.Indexed) {rowid version : Nat} {status : CellStatus}
    (hstep : store.updateStatus rowid status version = some next) : next.Indexed := by
  unfold SearchStore.updateStatus at hstep
  cases hfind : store.cells.find? (IndexedCell.isAt rowid) with
  | none => rw [hfind] at hstep; cases hstep
  | some old =>
    rw [hfind] at hstep
    cases hstep
    obtain ⟨hold, -⟩ := find?_spec hfind
    have hfocus := focus_of_mem h.rowids hold
    let new : IndexedCell ν := { old with status, version }
    have hnew : Focus (store.replaceCell new).cells new _ := hfocus.updateAt (fun _ => new) rfl
    refine ⟨?_, ?_, ?_⟩
    · exact ((hnew.perm.map IndexedCell.rowid).trans (hfocus.perm.map IndexedCell.rowid).symm).nodup_iff.mpr h.rowids
    · exact (h.entries.trans (hfocus.perm.map IndexedCell.entry)).trans (hnew.perm.map IndexedCell.entry).symm
    · intro other hother
      rcases List.mem_cons.mp (hnew.perm.mem_iff.mp hother) with rfl | hother
      · exact h.texts old hold
      · exact (h.others hfocus).2 other hother

theorem SearchStore.Indexed.deleteCell (h : store.Indexed) {rowid : Nat} (hstep : store.deleteCell rowid = some next) :
    next.Indexed := by
  unfold SearchStore.deleteCell at hstep
  cases hfind : store.cells.find? (IndexedCell.isAt rowid) with
  | none => rw [hfind] at hstep; cases hstep
  | some old =>
    rw [hfind] at hstep
    cases hstep
    obtain ⟨hold, rfl⟩ := find?_spec hfind
    have hfocus := focus_of_mem h.rowids hold
    obtain ⟨hnodup, htexts⟩ := h.others hfocus
    exact ⟨hnodup, h.erase hfocus, htexts⟩

theorem SearchStore.Indexed.step (h : store.Indexed) {statement : SearchStatement ν} (hstep : store.step statement = some next) :
    next.Indexed := by
  cases statement with
  | insertCell new => exact h.insertCell hstep
  | updateValue rowid value status version => exact h.updateValue hstep
  | updateStatus rowid status version => exact h.updateStatus hstep
  | deleteCell rowid => exact h.deleteCell hstep
  | archiveColumn columnId =>
    simp only [SearchStore.step, SearchStore.archiveColumn] at hstep
    split at hstep
    · cases hstep
    · cases hstep
      exact ⟨h.rowids, h.entries, h.texts⟩
  | restoreColumn columnId =>
    simp only [SearchStore.step, SearchStore.restoreColumn] at hstep
    split at hstep
    · cases hstep
      exact ⟨h.rowids, h.entries, h.texts⟩
    · cases hstep

theorem SearchStore.Indexed.run (h : store.Indexed) (statements : List (SearchStatement ν)) : (store.run statements).Indexed := by
  induction statements generalizing store with
  | nil => exact h
  | cons statement statements ih =>
    have hnext : ((store.step statement).getD store).Indexed := by
      cases hstep : store.step statement with
      | none => exact h
      | some next => exact h.step hstep
    exact ih hnext

structure SearchStore.MirrorsVisible (store : SearchStore ν) (rowId searchQuery : String) : Prop where
  entries : ∀ cell ∈ store.cells, ∀ text, (cell.rowid, text) ∈ store.index ↔ text = cell.searchText
  no_others : ∀ entry ∈ store.index, ∃ cell ∈ store.cells, cell.rowid = entry.1
  texts : ∀ cell ∈ store.cells, cell.searchText = firstCharacters cell.value
  found : store.buildSqliteGridSearchPredicate rowId (some searchQuery) = true ↔
    ∃ cell ∈ store.cells, cell.rowId = rowId ∧ cell.columnId ∉ store.archivedColumns ∧
      FoundIn searchQuery.toList (firstCharacters cell.value)

/-- No text has a null character; a row whose cell in an archived column has the query has it in another one too; and
with a null character in the query no text of the row ends with what stands in front of that. -/
structure SearchStore.SearchesVisible (store : SearchStore ν) (rowId searchQuery : String) : Prop where
  texts : ∀ cell ∈ store.cells, '\x00' ∉ firstCharacters cell.value
  archived : '\x00' ∉ searchQuery.toList →
    ∀ cell ∈ store.cells, cell.rowId = rowId → cell.columnId ∈ store.archivedColumns →
      FoundIn searchQuery.toList (firstCharacters cell.value) →
      ∃ visible ∈ store.cells, visible.rowId = rowId ∧ visible.columnId ∉ store.archivedColumns ∧
        FoundIn searchQuery.toList (firstCharacters visible.value)
  cut : '\x00' ∈ searchQuery.toList →
    ∀ cell ∈ store.cells, cell.rowId = rowId →
      ¬ foldLetters (cString searchQuery.toList) <:+ foldLetters (firstCharacters cell.value)

theorem SearchStore.Indexed.mem_index (h : store.Indexed) {entry : Nat × List Char} :
    entry ∈ store.index ↔ ∃ cell ∈ store.cells, cell.entry = entry :=
  h.entries.mem_iff.trans List.mem_map

theorem SearchStore.Indexed.eq_of_rowid (h : store.Indexed) {first second : IndexedCell ν} (hfirst : first ∈ store.cells)
    (hsecond : second ∈ store.cells) (hrowid : first.rowid = second.rowid) : first = second :=
  List.inj_on_of_nodup_map h.rowids hfirst hsecond hrowid

theorem SearchStore.Indexed.index_eq_iff (h : store.Indexed) {cell : IndexedCell ν} (hcell : cell ∈ store.cells) (text : List Char) :
    (cell.rowid, text) ∈ store.index ↔ text = cell.searchText := by
  rw [h.mem_index]
  constructor
  · rintro ⟨other, hother, hentry⟩
    have hsame := h.eq_of_rowid hother hcell (congrArg Prod.fst hentry)
    rw [← hsame]
    exact (congrArg Prod.snd hentry).symm
  · rintro rfl
    exact ⟨cell, hcell, rfl⟩

theorem SearchStore.Indexed.predicate_iff (h : store.Indexed) (rowId searchQuery : String) :
    store.buildSqliteGridSearchPredicate rowId (some searchQuery) = true ↔
      ∃ cell ∈ store.cells, cell.rowId = rowId ∧ searchLike searchQuery.toList (triggerSearchText cell.value) = true := by
  simp only [buildSqliteGridSearchPredicate, cellsSearchFts, List.any_eq_true, List.mem_map, Bool.and_eq_true, decide_eq_true_eq,
    exists_exists_and_eq_and]
  constructor
  · rintro ⟨indexed, hindexed, cell, hcell, ⟨hat, hrow⟩, hlike⟩
    obtain rfl := h.eq_of_rowid hcell hindexed (eq_of_beq hat)
    refine ⟨cell, hcell, hrow, ?_⟩
    rw [← h.texts cell hcell]
    exact hlike
  · rintro ⟨cell, hcell, hrow, hlike⟩
    refine ⟨cell, hcell, cell, hcell, ⟨beq_self_eq_true _, hrow⟩, ?_⟩
    rw [← h.texts cell hcell] at hlike
    exact hlike

theorem SearchStore.Indexed.mirrorsVisible_iff (h : store.Indexed) (rowId searchQuery : String) :
    store.MirrorsVisible rowId searchQuery ↔ store.SearchesVisible rowId searchQuery := by
  have hsame : (∀ cell ∈ store.cells, '\x00' ∉ firstCharacters cell.value) → ∀ cell ∈ store.cells,
      triggerSearchText cell.value = firstCharacters cell.value :=
    fun htexts cell hcell => triggerSearchText_eq_iff.mpr (htexts cell hcell)
  constructor
  · intro hmirrors
    have htexts : ∀ cell ∈ store.cells, '\x00' ∉ firstCharacters cell.value := by
      intro cell hcell
      rw [← triggerSearchText_eq_iff, ← h.texts cell hcell]
      exact hmirrors.texts cell hcell
    have hfound := (h.predicate_iff rowId searchQuery).symm.trans hmirrors.found
    refine ⟨htexts, ?_, ?_⟩
    · intro hnul cell hcell hrow _ hfoundIn
      refine hfound.mp ⟨cell, hcell, hrow, ?_⟩
      rw [hsame htexts cell hcell, searchLike_eq_true (htexts cell hcell), if_neg hnul]
      exact hfoundIn
    · intro hnul cell hcell hrow hends
      have hlike : searchLike searchQuery.toList (triggerSearchText cell.value) = true := by
        rw [hsame htexts cell hcell, searchLike_eq_true (htexts cell hcell), if_pos hnul]
        exact hends
      obtain ⟨visible, hvisible, -, -, hliteral⟩ := hfound.mp ⟨cell, hcell, hrow, hlike⟩
      exact not_foundIn_of_nul hnul (htexts visible hvisible) hliteral
  · intro hcondition
    have htexts := hcondition.texts
    refine ⟨fun cell hcell => h.index_eq_iff hcell, ?_, ?_, ?_⟩
    · intro entry hentry
      obtain ⟨cell, hcell, rfl⟩ := h.mem_index.mp hentry
      exact ⟨cell, hcell, rfl⟩
    · intro cell hcell
      rw [h.texts cell hcell, hsame htexts cell hcell]
    · rw [h.predicate_iff]
      constructor
      · rintro ⟨cell, hcell, hrow, hlike⟩
        rw [hsame htexts cell hcell, searchLike_eq_true (htexts cell hcell)] at hlike
        by_cases hnul : '\x00' ∈ searchQuery.toList
        · rw [if_pos hnul] at hlike
          exact absurd hlike (hcondition.cut hnul cell hcell hrow)
        · rw [if_neg hnul] at hlike
          by_cases harchived : cell.columnId ∈ store.archivedColumns
          · exact hcondition.archived hnul cell hcell hrow harchived hlike
          · exact ⟨cell, hcell, hrow, harchived, hlike⟩
      · rintro ⟨cell, hcell, hrow, -, hliteral⟩
        have hnul : '\x00' ∉ searchQuery.toList := fun hnul => not_foundIn_of_nul hnul (htexts cell hcell) hliteral
        refine ⟨cell, hcell, hrow, ?_⟩
        rw [hsame htexts cell hcell, searchLike_eq_true (htexts cell hcell), if_neg hnul]
        exact hliteral

/-- After any statements the index mirrors the cells. What a search finds are the visible cells just when nothing is
found in an archived column alone and no null character cuts a text or the query. -/
theorem searchIndex_exact (statements : List (SearchStatement ν)) (rowId searchQuery : String) :
    ((SearchStore.empty : SearchStore ν).run statements).MirrorsVisible rowId searchQuery ↔
      ((SearchStore.empty : SearchStore ν).run statements).SearchesVisible rowId searchQuery :=
  (SearchStore.indexed_empty.run statements).mirrorsVisible_iff rowId searchQuery

def archivedName : List (SearchStatement SafeInteger) :=
  [.insertCell ⟨1, "cell", "row", "name", .text "Acme", .idle, 1, []⟩, .archiveColumn "name"]

theorem cells_archivedName : ((SearchStore.empty : SearchStore SafeInteger).run archivedName).cells =
    [⟨1, "cell", "row", "name", .text "Acme", .idle, 1, ['A', 'c', 'm', 'e']⟩] := by
  rfl

theorem archivedColumns_archivedName :
    ((SearchStore.empty : SearchStore SafeInteger).run archivedName).archivedColumns = ["name"] := by
  rfl

/-- The search finds the row by a cell which one cannot see. -/
theorem searchIndex_archived :
    ¬ ((SearchStore.empty : SearchStore SafeInteger).run archivedName).MirrorsVisible "row" "acme" := by
  intro hmirrors
  have hindexed := (SearchStore.indexed_empty : (SearchStore.empty : SearchStore SafeInteger).Indexed).run archivedName
  have hlike : searchLike "acme".toList (triggerSearchText (.text "Acme" : StoredValue SafeInteger)) = true := by decide
  have hfound : ∃ cell ∈ ((SearchStore.empty : SearchStore SafeInteger).run archivedName).cells, cell.rowId = "row" ∧
      searchLike "acme".toList (triggerSearchText cell.value) = true := by
    rw [cells_archivedName]
    exact ⟨_, List.mem_singleton_self _, rfl, hlike⟩
  obtain ⟨visible, hvisible, -, hshown, -⟩ := hmirrors.found.mp ((hindexed.predicate_iff "row" "acme").mpr hfound)
  rw [cells_archivedName] at hvisible
  rw [archivedColumns_archivedName, List.mem_singleton.mp hvisible] at hshown
  exact hshown (List.mem_singleton_self _)

end Runs

end ByokGrid
