import Mathlib.Logic.Function.Basic

/-! Jobs which take a slot each while they are queued or running, when every
slot shows the phase of its job. -/

namespace ByokGrid

inductive Phase where
  | queued
  | running
  deriving Repr, DecidableEq

structure JobBoard (α σ : Type) where
  job : α → Option (σ × Option Phase)
  slot : σ → Option Phase

section Board

variable {α σ : Type}

structure JobBoard.Agrees (board : JobBoard α σ) : Prop where
  unique : ∀ i j s p q, board.job i = some (s, some p) → board.job j = some (s, some q) → i = j
  slot_iff : ∀ s p, board.slot s = some p ↔ ∃ i, board.job i = some (s, some p)

variable {board board' : JobBoard α σ}

theorem JobBoard.Agrees.slot_eq (h : board.Agrees) {i : α} {s : σ} {p : Phase}
    (hjob : board.job i = some (s, some p)) : board.slot s = some p :=
  (h.slot_iff s p).mpr ⟨i, hjob⟩

theorem JobBoard.Agrees.free (h : board.Agrees) {s : σ} (hslot : board.slot s = none) (i : α) (p : Phase) :
    board.job i ≠ some (s, some p) := by
  intro hjob
  rw [h.slot_eq hjob] at hslot
  cases hslot

theorem JobBoard.Agrees.assign [DecidableEq α] [DecidableEq σ] (h : board.Agrees) {i : α} {s : σ} (p : Phase)
    (hbefore : board.job i = none ∧ board.slot s = none ∨ ∃ q, board.job i = some (s, some q))
    (hjob : ∀ j, board'.job j = if j = i then some (s, some p) else board.job j)
    (hslot : ∀ t, board'.slot t = if t = s then some p else board.slot t) : board'.Agrees := by
  have hother : ∀ j q, j ≠ i → board.job j ≠ some (s, some q) := by
    intro j q hne hj
    rcases hbefore with ⟨_, hfree⟩ | ⟨q', hi⟩
    · exact h.free hfree j q hj
    · exact hne (h.unique j i s q q' hj hi)
  constructor
  · intro j k t q r hj hk
    rw [hjob] at hj hk
    by_cases hji : j = i
    · by_cases hki : k = i
      · rw [hji, hki]
      · rw [if_pos hji, Option.some.injEq, Prod.mk.injEq] at hj
        rw [if_neg hki, ← hj.1] at hk
        exact absurd hk (hother k r hki)
    · rw [if_neg hji] at hj
      by_cases hki : k = i
      · rw [if_pos hki, Option.some.injEq, Prod.mk.injEq] at hk
        rw [← hk.1] at hj
        exact absurd hj (hother j q hji)
      · rw [if_neg hki] at hk
        exact h.unique j k t q r hj hk
  · intro t q
    rw [hslot]
    by_cases hts : t = s
    · rw [if_pos hts, hts]
      constructor
      · intro hq
        exact ⟨i, by rw [hjob, if_pos rfl, Option.some.inj hq]⟩
      · intro hq
        obtain ⟨j, hj⟩ := hq
        rw [hjob] at hj
        by_cases hji : j = i
        · rw [if_pos hji, Option.some.injEq, Prod.mk.injEq] at hj
          exact hj.2
        · rw [if_neg hji] at hj
          exact absurd hj (hother j q hji)
    · rw [if_neg hts, h.slot_iff]
      refine exists_congr fun j => ?_
      rw [hjob]
      by_cases hji : j = i
      · rw [if_pos hji]
        constructor
        · intro hj
          rcases hbefore with ⟨hnone, _⟩ | ⟨q', hi⟩
          · rw [hji, hnone] at hj
            cases hj
          · rw [hji, hi, Option.some.injEq, Prod.mk.injEq] at hj
            exact absurd hj.1.symm hts
        · intro hj
          rw [Option.some.injEq, Prod.mk.injEq] at hj
          exact absurd hj.1.symm hts
      · rw [if_neg hji]

theorem JobBoard.Agrees.finish (h : board.Agrees) (ended : α → Prop)
    (hended : ∀ i, ended i → board'.job i = (board.job i).map fun job => (job.1, none))
    (hkept : ∀ i, ¬ ended i → board'.job i = board.job i)
    (hgiven : ∀ s, (∃ i p, ended i ∧ board.job i = some (s, some p)) → board'.slot s = none)
    (hslot : ∀ s, (∀ i p, ended i → board.job i ≠ some (s, some p)) → board'.slot s = board.slot s) :
    board'.Agrees := by
  have hback : ∀ i s p, board'.job i = some (s, some p) → ¬ ended i ∧ board.job i = some (s, some p) := by
    intro i s p hi
    by_cases hend : ended i
    · rw [hended i hend] at hi
      obtain ⟨job, _, hjob⟩ := Option.map_eq_some_iff.mp hi
      cases hjob
    · rw [hkept i hend] at hi
      exact ⟨hend, hi⟩
  constructor
  · intro i j s p q hi hj
    exact h.unique i j s p q (hback i s p hi).2 (hback j s q hj).2
  · intro s p
    constructor
    · intro hs
      by_cases hany : ∃ i p, ended i ∧ board.job i = some (s, some p)
      · rw [hgiven s hany] at hs
        cases hs
      · have hnone : ∀ i p, ended i → board.job i ≠ some (s, some p) :=
          fun i p hend hi => hany ⟨i, p, hend, hi⟩
        rw [hslot s hnone] at hs
        obtain ⟨i, hi⟩ := (h.slot_iff s p).mp hs
        exact ⟨i, by rw [hkept i fun hend => hnone i p hend hi, hi]⟩
    · intro hs
      obtain ⟨i, hi⟩ := hs
      obtain ⟨hend, hi⟩ := hback i s p hi
      have hnone : ∀ j q, ended j → board.job j ≠ some (s, some q) := by
        intro j q hj hjob
        have hsame := h.unique j i s q p hjob hi
        exact hend (hsame ▸ hj)
      rw [hslot s hnone]
      exact h.slot_eq hi

end Board

end ByokGrid
