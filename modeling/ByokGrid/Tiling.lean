import Mathlib.Order.Lattice

/-! Half-open windows which tile a stretch of time: each begins where the one
before it ends, so that every time of the stretch lies in exactly one of them. -/

namespace ByokGrid

section Tiling

variable {τ ω : Type} [LinearOrder τ] (start stop : ω → τ)

/-- The windows lead from `a` to `b` without a gap or an overlap. -/
def Tiles (a : τ) : List ω → τ → Prop
  | [], b => a = b
  | w :: windows, b => start w = a ∧ start w < stop w ∧ Tiles (stop w) windows b

variable {start stop} {a b t : τ} {windows : List ω}

theorem Tiles.extend (h : Tiles start stop a windows b) {w : ω} (hstart : start w = b) (hforward : start w < stop w) :
    Tiles start stop a (windows ++ [w]) (stop w) := by
  induction windows generalizing a with
  | nil =>
    have hab : a = b := h
    exact ⟨hstart.trans hab.symm, hforward, rfl⟩
  | cons v windows ih => exact ⟨h.1, h.2.1, ih h.2.2⟩

theorem Tiles.exists_window (h : Tiles start stop a windows b) (ha : a ≤ t) (hb : t < b) :
    ∃ w ∈ windows, start w ≤ t ∧ t < stop w := by
  induction windows generalizing a with
  | nil =>
    have hab : a = b := h
    exact absurd (lt_of_le_of_lt ha hb) (by rw [hab]; exact lt_irrefl b)
  | cons w windows ih =>
    obtain ⟨hstart, _, hrest⟩ := h
    by_cases ht : t < stop w
    · exact ⟨w, List.mem_cons_self, by rw [hstart]; exact ha, ht⟩
    · obtain ⟨v, hv, hin⟩ := ih hrest (le_of_not_gt ht)
      exact ⟨v, List.mem_cons_of_mem w hv, hin⟩

theorem Tiles.start_le (h : Tiles start stop a windows b) {w : ω} (hw : w ∈ windows) : a ≤ start w := by
  induction windows generalizing a with
  | nil => cases hw
  | cons v windows ih =>
    obtain ⟨hstart, hforward, hrest⟩ := h
    rcases List.mem_cons.mp hw with rfl | hlater
    · exact le_of_eq hstart.symm
    · rw [← hstart]
      exact le_trans (le_of_lt hforward) (ih hrest hlater)

theorem Tiles.pairwise (h : Tiles start stop a windows b) : windows.Pairwise fun v w => stop v ≤ start w := by
  induction windows generalizing a with
  | nil => exact List.Pairwise.nil
  | cons v windows ih =>
    obtain ⟨_, _, hrest⟩ := h
    exact List.pairwise_cons.mpr ⟨fun w hw => hrest.start_le hw, ih hrest⟩

end Tiling

end ByokGrid
