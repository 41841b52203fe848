import ByokGrid.Transition

/-! Leases on resources: an action may grant a resource which nobody holds, or
whose lease has run out. Whoever was granted the resource last is the only one
who can hold it, and two grants without a release between them are a lease apart. -/

namespace ByokGrid

structure LeaseGrant (ι : Type) where
  claimId : ι
  takenAt : Int
  lease : Int

/-- `holder` and `since` read the lease in force, `grant` what an action grants. -/
structure LeaseSystem (σ α κ ι : Type) where
  step : σ → α → σ
  holder : σ → κ → Option ι
  since : σ → κ → Option Int
  grant : σ → α → κ → Option (LeaseGrant ι)

namespace LeaseSystem

section Leases

variable {σ α κ ι : Type}

structure Lawful (L : LeaseSystem σ α κ ι) : Prop where
  granted : ∀ s a k g, L.grant s a k = some g →
    L.holder (L.step s a) k = some g.claimId ∧ L.since (L.step s a) k = some g.takenAt
  lease : ∀ s a k g, L.grant s a k = some g → 0 ≤ g.lease
  expired : ∀ s a k g, L.grant s a k = some g → L.holder s k ≠ none →
    ∃ t, L.since s k = some t ∧ t + g.lease < g.takenAt
  kept : ∀ s a k, L.grant s a k = none → L.holder (L.step s a) k = none ∨
    L.holder (L.step s a) k = L.holder s k ∧ L.since (L.step s a) k = L.since s k

def lastGrant (L : LeaseSystem σ α κ ι) : σ → List α → κ → Option (LeaseGrant ι)
  | _, [], _ => none
  | s, a :: actions, k => (L.lastGrant (L.step s a) actions k).or (L.grant s a k)

variable {L : LeaseSystem σ α κ ι} (h : L.Lawful)

include h

theorem Lawful.holder_cases {s : σ} {actions : List α} {k : κ} {c : ι}
    (hheld : L.holder (runActions L.step s actions) k = some c) :
    (∃ g, L.lastGrant s actions k = some g ∧ g.claimId = c) ∨
      L.lastGrant s actions k = none ∧ L.holder s k = some c := by
  induction actions generalizing s with
  | nil => exact Or.inr ⟨rfl, hheld⟩
  | cons a actions ih =>
    rcases ih hheld with ⟨g, hg, hc⟩ | ⟨hnone, hnext⟩
    · exact Or.inl ⟨g, by rw [lastGrant, hg]; rfl, hc⟩
    rw [lastGrant, hnone, Option.none_or]
    cases hgrant : L.grant s a k with
    | some g =>
      have hholder := (h.granted s a k g hgrant).1
      rw [hnext, Option.some.injEq] at hholder
      exact Or.inl ⟨g, rfl, hholder.symm⟩
    | none =>
      rcases h.kept s a k hgrant with hfree | ⟨hsame, _⟩
      · rw [hfree] at hnext
        cases hnext
      · exact Or.inr ⟨rfl, hsame ▸ hnext⟩

theorem Lawful.superseded {s : σ} {actions : List α} {k : κ} {c : ι} (hfree : L.holder s k = none)
    (hlast : ∀ g, L.lastGrant s actions k = some g → g.claimId ≠ c) :
    L.holder (runActions L.step s actions) k ≠ some c := by
  intro hheld
  rcases h.holder_cases hheld with ⟨g, hg, hc⟩ | ⟨_, hstart⟩
  · exact hlast g hg hc
  · rw [hfree] at hstart
    cases hstart

theorem Lawful.since_le {s : σ} {actions : List α} {k : κ} {t : Int} (hsince : L.since s k = some t)
    (hheld : ∀ earlier later, actions = earlier ++ later → L.holder (runActions L.step s earlier) k ≠ none) :
    ∃ u, L.since (runActions L.step s actions) k = some u ∧ t ≤ u := by
  induction actions generalizing s t with
  | nil => exact ⟨t, hsince, Int.le_refl t⟩
  | cons a actions ih =>
    have hnow : L.holder s k ≠ none := hheld [] (a :: actions) rfl
    have hnext : L.holder (L.step s a) k ≠ none := hheld [a] actions rfl
    have hrest : ∀ earlier later, actions = earlier ++ later →
        L.holder (runActions L.step (L.step s a) earlier) k ≠ none := by
      intro earlier later hactions
      exact hheld (a :: earlier) later (by rw [hactions]; rfl)
    cases hgrant : L.grant s a k with
    | some g =>
      obtain ⟨u, hu, hle⟩ := ih (h.granted s a k g hgrant).2 hrest
      obtain ⟨v, hv, hlt⟩ := h.expired s a k g hgrant hnow
      have hlease := h.lease s a k g hgrant
      rw [hsince, Option.some.injEq] at hv
      exact ⟨u, hu, by omega⟩
    | none =>
      rcases h.kept s a k hgrant with hfree | ⟨_, hsame⟩
      · exact absurd hfree hnext
      · exact ih (hsame.trans hsince) hrest

theorem Lawful.exclusive {s : σ} {a b : α} {between : List α} {k : κ} {g g' : LeaseGrant ι}
    (hgrant : L.grant s a k = some g)
    (hheld : ∀ earlier later, between = earlier ++ later →
      L.holder (runActions L.step (L.step s a) earlier) k ≠ none)
    (hgrant' : L.grant (runActions L.step (L.step s a) between) b k = some g') :
    g.takenAt + g'.lease < g'.takenAt := by
  obtain ⟨u, hu, hle⟩ := h.since_le (h.granted s a k g hgrant).2 hheld
  obtain ⟨v, hv, hlt⟩ := h.expired _ b k g' hgrant' (hheld between [] (List.append_nil _).symm)
  rw [hu, Option.some.injEq] at hv
  omega

end Leases

end LeaseSystem

end ByokGrid
