import ByokGrid.GridSelection
import ByokGrid.LikePatterns

/-! The search of the grid: a query is escaped and put between two wildcards, the text of a cell is cut. -/

namespace ByokGrid

/-- `replaceAll(mark, '\\' + mark)` -/
def escapeMark (mark : Char) (text : List Char) : List Char :=
  text.flatMap fun c => if c = mark then ['\\', mark] else [c]

def searchPattern (searchQuery : List Char) : List Char :=
  '%' :: (escapeMark '_' (escapeMark '%' (escapeMark '\\' searchQuery)) ++ ['%'])

/-- `like … escape '\\'` on the text of one cell, as `buildSqliteGridSearchPredicate` has it. -/
def searchLike (searchQuery searchText : List Char) : Bool :=
  sqlLike '\\' (searchPattern searchQuery) searchText

theorem searchPattern_eq (searchQuery : List Char) :
    searchPattern searchQuery = '%' :: (literalPattern '\\' searchQuery ++ ['%']) := by
  have hmarks : escapeMark '_' (escapeMark '%' (escapeMark '\\' searchQuery)) = literalPattern '\\' searchQuery := by
    induction searchQuery with
    | nil => rfl
    | cons c searchQuery ih =>
      have hcons : ∀ mark text, escapeMark mark (c :: text) = (if c = mark then ['\\', mark] else [c]) ++ escapeMark mark text :=
        fun mark text => rfl
      have happend : ∀ mark front text, escapeMark mark (front ++ text) = escapeMark mark front ++ escapeMark mark text :=
        fun mark front text => List.flatMap_append
      have hliteral : literalPattern '\\' (c :: searchQuery) =
          (if isWildcard '\\' c then ['\\', c] else [c]) ++ literalPattern '\\' searchQuery := rfl
      rw [hcons, happend, happend, ih, hliteral]
      congr 1
      by_cases hbackslash : c = '\\'
      · subst hbackslash
        rfl
      · by_cases hpercent : c = '%'
        · subst hpercent
          rfl
        · by_cases hunderscore : c = '_'
          · subst hunderscore
            rfl
          · simp only [escapeMark, isWildcard, hbackslash, hpercent, hunderscore, if_false, List.flatMap_singleton, beq_iff_eq,
              or_self, Bool.or_eq_true]
  rw [searchPattern, hmarks]

theorem searchLike_eq_true {searchQuery searchText : List Char} (htext : '\x00' ∉ searchText) :
    searchLike searchQuery searchText = true ↔
      if '\x00' ∈ searchQuery then foldLetters (cString searchQuery) <:+ foldLetters searchText
      else FoundIn searchQuery searchText := by
  rw [searchLike, sqlLike, cString_eq_self htext, searchPattern_eq]
  have hcut : ∀ pattern, cString ('%' :: pattern) = '%' :: cString pattern :=
    fun pattern => List.takeWhile_cons_of_pos (by decide)
  rw [hcut]
  by_cases hnul : '\x00' ∈ searchQuery
  · rw [if_pos hnul, cString_literalPattern (by decide) hnul]
    exact likeMatch_endsWith (by decide)
  · have hwhole : '\x00' ∉ literalPattern '\\' searchQuery ++ ['%'] := by
      rw [List.mem_append, nul_mem_literalPattern (by decide), List.mem_singleton, not_or]
      exact ⟨hnul, by decide⟩
    rw [if_neg hnul, cString_eq_self hwhole]
    exact likeMatch_contains (by decide)

/-- `substr(text, 1, count)`, which reads a text up to its first null character. -/
def sqlSubstr (text : List Char) (count : Nat) : List Char :=
  (cString text).take count

structure CellSearchText where
  text : List Char
  bounded : text.length ≤ MAXIMUM_SEARCHABLE_CELL_CHARACTERS
  no_nul : '\x00' ∉ text

def CellSearchText.ofText (text : List Char) : CellSearchText where
  text := sqlSubstr text MAXIMUM_SEARCHABLE_CELL_CHARACTERS
  bounded := List.length_take_le _ _
  no_nul h := nul_not_mem_cString text (List.take_subset _ _ h)

theorem foldLetter_eq_nul {c : Char} (h : foldLetter c = '\x00') : c = '\x00' := by
  unfold foldLetter at h
  split at h
  · rename_i hupper
    have hlow : 65 ≤ c.toNat := hupper.1
    have hhigh : c.toNat ≤ 90 := hupper.2
    have hvalid : (c.toNat + 32).isValidChar := .inl (by omega)
    have hcode := congrArg Char.toNat h
    unfold Char.ofNat at hcode
    rw [dif_pos hvalid] at hcode
    change c.toNat + 32 = 0 at hcode
    omega
  · exact h

theorem not_foundIn_of_nul {searched text : List Char} (h : '\x00' ∈ searched) (htext : '\x00' ∉ text) :
    ¬ FoundIn searched text := by
  intro hfound
  have hmem : '\x00' ∈ foldLetters text := hfound.subset (List.mem_map.mpr ⟨'\x00', h, rfl⟩)
  obtain ⟨c, hc, hnul⟩ := List.mem_map.mp hmem
  exact htext (foldLetter_eq_nul hnul ▸ hc)

/-- The predicate finds a query literally just when the query has no null character or the text does not end with what
stands in front of it. -/
theorem searchLike_literal_iff (searchQuery : List Char) (cell : CellSearchText) :
    (searchLike searchQuery cell.text = true ↔ FoundIn searchQuery cell.text) ↔
      ('\x00' ∈ searchQuery → ¬ foldLetters (cString searchQuery) <:+ foldLetters cell.text) := by
  rw [searchLike_eq_true cell.no_nul]
  by_cases hnul : '\x00' ∈ searchQuery
  · have hnone := not_foundIn_of_nul hnul cell.no_nul
    rw [if_pos hnul]
    constructor
    · exact fun h _ hsuffix => hnone (h.mp hsuffix)
    · exact fun h => ⟨fun hsuffix => absurd hsuffix (h hnul), fun hfound => absurd hfound hnone⟩
  · rw [if_neg hnul]
    exact ⟨fun _ h => absurd h hnul, fun _ => Iff.rfl⟩

/-- A query of three characters with a null character in it finds a text that ends with the first of them. -/
theorem searchLike_stops_at_nul :
    searchLike ['a', '\x00', 'b'] (CellSearchText.ofText ['x', 'A']).text = true ∧
      ¬ FoundIn ['a', '\x00', 'b'] (CellSearchText.ofText ['x', 'A']).text := by
  decide +kernel

end ByokGrid
