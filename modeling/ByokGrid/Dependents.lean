import Mathlib.Data.Set.Basic
import ByokGrid.Kahn

/-! Items which depend on each other and are taken out of use and back into it. An item in use
depends on items in use only, and the dependencies have no cycle, whatever the order of the steps. -/

namespace ByokGrid

structure Registry (α : Type) where
  status : α → Option Bool
  dependsOn : α → α → Prop

namespace Registry

variable {α : Type} {r : Registry α}

def InUse (r : Registry α) (a : α) : Prop :=
  r.status a = some true

structure Sound (r : Registry α) : Prop where
  listed : ∀ {a b}, r.dependsOn a b → r.status a ≠ none ∧ r.status b ≠ none
  closed : ∀ {a b}, r.InUse a → r.dependsOn a b → r.InUse b
  acyclic : Acyclic r.dependsOn

theorem Sound.change {r' : Registry α} (hsound : r.Sound) (hlisted : ∀ a, r.status a ≠ none → r'.status a ≠ none)
    (hdepends : r'.dependsOn = r.dependsOn) (hretired : ∀ b, r.InUse b → r'.InUse b ∨ ∀ a, r.InUse a → ¬ r.dependsOn a b)
    (hrestored : ∀ a, r'.InUse a → r.InUse a ∨ ∀ b, r.dependsOn a b → r'.InUse b) : r'.Sound where
  listed := by
    rw [hdepends]
    exact fun hedge => (hsound.listed hedge).imp (hlisted _) (hlisted _)
  closed := by
    rw [hdepends]
    intro a b ha hedge
    rcases hrestored a ha with hused | havailable
    · exact (hretired b (hsound.closed hused hedge)).resolve_right fun hfree => hfree a hused hedge
    · exact havailable b hedge
  acyclic := hdepends ▸ hsound.acyclic

theorem Sound.exists_restorable (hsound : r.Sound) {archived : List α} (hne : archived ≠ [])
    (hclosed : ∀ a ∈ archived, ∀ b, r.dependsOn a b → r.InUse b ∨ b ∈ archived) :
    ∃ a ∈ archived, ∀ b, r.dependsOn a b → r.InUse b := by
  have hacyclic : Acyclic (Function.swap r.dependsOn) := fun v hcycle => hsound.acyclic v (Relation.transGen_swap.mp hcycle)
  obtain ⟨source, hsource, hfirst⟩ := hacyclic.exists_source hne
  refine ⟨source, hsource, fun b hedge => ?_⟩
  rcases hclosed source hsource b hedge with hused | hmem
  · exact hused
  · exact absurd hedge (hfirst b hmem)

variable [DecidableEq α] {item : α}

def add (r : Registry α) (item : α) (parents : Set α) : Registry α where
  status := Function.update r.status item (some true)
  dependsOn a b := r.dependsOn a b ∨ a = item ∧ b ∈ parents

theorem update_ne_none {a : α} (h : r.status a ≠ none) : Function.update r.status item (some true) a ≠ none := by
  by_cases ha : a = item <;> simp [ha, h]

section Add

variable {parents : Set α} (hsound : r.Sound) (hfresh : r.status item = none) (havailable : ∀ b ∈ parents, r.InUse b)

include hsound hfresh havailable

theorem Sound.add_target {a b : α} (hedge : (r.add item parents).dependsOn a b) : b ≠ item := by
  rintro rfl
  rcases hedge with hold | ⟨_, hparent⟩
  · exact (hsound.listed hold).2 hfresh
  · have hused := havailable b hparent
    rw [InUse, hfresh] at hused
    cases hused

theorem Sound.add_path {a b : α} (ha : a ≠ item) (hpath : Relation.TransGen (r.add item parents).dependsOn a b) :
    b ≠ item ∧ Relation.TransGen r.dependsOn a b := by
  have hold : ∀ {a b}, a ≠ item → (r.add item parents).dependsOn a b → r.dependsOn a b := fun hne hedge =>
    hedge.resolve_right fun hnew => hne hnew.1
  induction hpath with
  | single hedge => exact ⟨hsound.add_target hfresh havailable hedge, .single (hold ha hedge)⟩
  | tail _ hedge ih => exact ⟨hsound.add_target hfresh havailable hedge, ih.2.tail (hold ih.1 hedge)⟩

theorem Sound.add : (r.add item parents).Sound where
  listed := by
    intro a b hedge
    rcases hedge with hold | ⟨rfl, hparent⟩
    · exact (hsound.listed hold).imp update_ne_none update_ne_none
    · refine ⟨by simp [Registry.add], update_ne_none ?_⟩
      simp [show r.status b = some true from havailable b hparent]
  closed := by
    intro a b ha hedge
    have hb := hsound.add_target hfresh havailable hedge
    suffices hused : r.InUse b by simpa [InUse, Registry.add, hb] using hused
    rcases hedge with hold | ⟨_, hparent⟩
    · have hne : a ≠ item := by
        rintro rfl
        exact (hsound.listed hold).1 hfresh
      exact hsound.closed (by simpa [InUse, Registry.add, hne] using ha) hold
    · exact havailable b hparent
  acyclic := by
    intro v hcycle
    by_cases hv : v = item
    · obtain ⟨w, _, hedge⟩ := Relation.TransGen.tail'_iff.mp hcycle
      exact hsound.add_target hfresh havailable hedge hv
    · exact hsound.acyclic v (hsound.add_path hfresh havailable hv hcycle).2

end Add

end Registry

end ByokGrid
