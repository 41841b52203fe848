import Mathlib.Data.List.Nodup
import Mathlib.Data.List.Perm.Subperm
import Mathlib.Logic.Relation

/-! Breadth-first discovery: the vertices which can be reached from a list of
starting vertices by at least one edge, each listed once. -/

namespace ByokGrid

section Closure

variable {α : Type} [DecidableEq α]

def discover : List α → List α → List α → List α × List α
  | [], reachable, queue => (reachable, queue)
  | v :: vs, reachable, queue =>
    if v ∈ reachable then discover vs reachable queue
    else discover vs (reachable ++ [v]) (queue ++ [v])

def closureLoop (next : α → List α) : Nat → List α → List α → List α
  | 0, reachable, _ => reachable
  | _ + 1, reachable, [] => reachable
  | fuel + 1, reachable, v :: queue =>
    let found := discover (next v) reachable queue
    closureLoop next fuel found.1 found.2

def closure (next : α → List α) (fuel : Nat) (start : List α) : List α :=
  closureLoop next fuel [] start

theorem discover_spec (vs reachable queue : List α) (hnd : reachable.Nodup) :
    ∃ fresh : List α, discover vs reachable queue = (reachable ++ fresh, queue ++ fresh) ∧
      (reachable ++ fresh).Nodup ∧ ∀ v, v ∈ reachable ++ fresh ↔ v ∈ reachable ∨ v ∈ vs := by
  induction vs generalizing reachable queue with
  | nil => exact ⟨[], by simp [discover], by simpa using hnd, by simp⟩
  | cons v vs ih =>
    simp only [discover]
    by_cases hv : v ∈ reachable
    · obtain ⟨fresh, heq, hfresh, hmem⟩ := ih reachable queue hnd
      rw [if_pos hv]
      refine ⟨fresh, heq, hfresh, fun w => ?_⟩
      rw [hmem w, List.mem_cons]
      constructor
      · rintro (h | h)
        · exact Or.inl h
        · exact Or.inr (Or.inr h)
      · rintro (h | rfl | h)
        · exact Or.inl h
        · exact Or.inl hv
        · exact Or.inr h
    · rw [if_neg hv]
      have hnext : (reachable ++ [v]).Nodup := by
        rw [List.nodup_append]
        refine ⟨hnd, List.nodup_singleton v, ?_⟩
        rintro a ha b hb rfl
        exact hv (List.mem_singleton.mp hb ▸ ha)
      obtain ⟨fresh, heq, hfresh, hmem⟩ := ih (reachable ++ [v]) (queue ++ [v]) hnext
      refine ⟨v :: fresh, by simpa using heq, by simpa using hfresh, fun w => ?_⟩
      have := hmem w
      simp only [List.mem_append, List.mem_cons, List.not_mem_nil, or_false, or_assoc] at this ⊢
      exact this

structure ClosureInvariant (next : α → List α) (start reachable queue : List α) : Prop where
  nodup : reachable.Nodup
  sound : ∀ v ∈ reachable, ∃ u ∈ start, Relation.TransGen (fun a b => b ∈ next a) u v
  origin : ∀ v ∈ queue, v ∈ start ∨ v ∈ reachable
  explored : ∀ u, u ∈ start ∨ u ∈ reachable → u ∈ queue ∨ ∀ v ∈ next u, v ∈ reachable

theorem ClosureInvariant.step {next : α → List α} {start reachable queue : List α} {v : α}
    (h : ClosureInvariant next start reachable (v :: queue)) :
    ClosureInvariant next start (discover (next v) reachable queue).1
      (discover (next v) reachable queue).2 := by
  obtain ⟨fresh, heq, hnd, hmem⟩ := discover_spec (next v) reachable queue h.nodup
  rw [heq]
  have hpath : ∀ w ∈ next v, ∃ u ∈ start, Relation.TransGen (fun a b => b ∈ next a) u w := by
    intro w hw
    rcases h.origin v List.mem_cons_self with hv | hv
    · exact ⟨v, hv, Relation.TransGen.single hw⟩
    · obtain ⟨u, hu, huv⟩ := h.sound v hv
      exact ⟨u, hu, huv.tail hw⟩
  refine ⟨hnd, ?_, ?_, ?_⟩
  · intro w hw
    rcases (hmem w).mp hw with hw | hw
    · exact h.sound w hw
    · exact hpath w hw
  · intro w hw
    rcases List.mem_append.mp hw with hw | hw
    · rcases h.origin w (List.mem_cons_of_mem _ hw) with hw | hw
      · exact Or.inl hw
      · exact Or.inr (List.mem_append_left _ hw)
    · exact Or.inr (List.mem_append_right _ hw)
  · intro u hu
    by_cases hfresh : u ∈ fresh
    · exact Or.inl (List.mem_append_right _ hfresh)
    · have hold : u ∈ start ∨ u ∈ reachable := by
        rcases hu with hu | hu
        · exact Or.inl hu
        · exact Or.inr ((List.mem_append.mp hu).resolve_right hfresh)
      rcases h.explored u hold with hq | hall
      · rcases List.mem_cons.mp hq with rfl | hq
        · exact Or.inr fun w hw => (hmem w).mpr (Or.inr hw)
        · exact Or.inl (List.mem_append_left _ hq)
      · exact Or.inr fun w hw => List.mem_append_left _ (hall w hw)

theorem closureLoop_spec {next : α → List α} {bound start : List α}
    (hbound : ∀ u, ∀ v ∈ next u, v ∈ bound) {fuel : Nat} {reachable queue : List α}
    (h : ClosureInvariant next start reachable queue) (hsub : ∀ v ∈ reachable, v ∈ bound)
    (hfuel : queue.length + bound.length ≤ fuel + reachable.length) :
    ClosureInvariant next start (closureLoop next fuel reachable queue) [] := by
  induction fuel generalizing reachable queue with
  | zero =>
    have hle : reachable.length ≤ bound.length := (List.subperm_of_subset h.nodup hsub).length_le
    have hempty : queue = [] := List.eq_nil_of_length_eq_zero (by omega)
    subst hempty
    simpa [closureLoop] using h
  | succ fuel ih =>
    cases queue with
    | nil => simpa [closureLoop] using h
    | cons v queue =>
      have hstep := h.step
      obtain ⟨fresh, heq, hnd, hmem⟩ := discover_spec (next v) reachable queue h.nodup
      simp only [closureLoop]
      rw [heq] at hstep ⊢
      refine ih hstep ?_ ?_
      · intro w hw
        rcases (hmem w).mp hw with hw | hw
        · exact hsub w hw
        · exact hbound v w hw
      · simp only [List.length_append, List.length_cons] at hfuel ⊢
        omega

variable {next : α → List α} {bound start : List α} {fuel : Nat}

theorem closure_invariant (hbound : ∀ u, ∀ v ∈ next u, v ∈ bound)
    (hfuel : start.length + bound.length ≤ fuel) :
    ClosureInvariant next start (closure next fuel start) [] := by
  refine closureLoop_spec hbound ⟨List.nodup_nil, ?_, fun v hv => Or.inl hv, ?_⟩ ?_ ?_
  · intro v hv
    cases hv
  · intro u hu
    rcases hu with hu | hu
    · exact Or.inl hu
    · cases hu
  · intro v hv
    cases hv
  · simpa using hfuel

theorem nodup_closure (hbound : ∀ u, ∀ v ∈ next u, v ∈ bound)
    (hfuel : start.length + bound.length ≤ fuel) : (closure next fuel start).Nodup :=
  (closure_invariant hbound hfuel).nodup

theorem mem_closure (hbound : ∀ u, ∀ v ∈ next u, v ∈ bound)
    (hfuel : start.length + bound.length ≤ fuel) {v : α} :
    v ∈ closure next fuel start ↔ ∃ u ∈ start, Relation.TransGen (fun a b => b ∈ next a) u v := by
  have h := closure_invariant hbound hfuel
  have hclosed : ∀ u, u ∈ start ∨ u ∈ closure next fuel start →
      ∀ w ∈ next u, w ∈ closure next fuel start := by
    intro u hu
    exact (h.explored u hu).resolve_left (by simp)
  constructor
  · exact h.sound v
  · rintro ⟨u, hu, huv⟩
    induction huv with
    | single hedge => exact hclosed u (Or.inl hu) _ hedge
    | tail _ hedge ih => exact hclosed _ (Or.inr ih) _ hedge

end Closure

end ByokGrid
