import Mathlib.Data.List.Nodup
import Mathlib.Data.List.Induction
import Mathlib.Logic.Function.Basic

/-! Networks of derived values. A valuation is settled at a node when its rule
reproduces the value; evaluation in dependency order settles every node, and
settled valuations over the same sources agree. -/

namespace ByokGrid

structure Network (ι β : Type) where
  rule : ι → Option ((ι → β) → β)
  reads : ι → ι → Prop
  rule_congr : ∀ i r v w, rule i = some r → (∀ j, reads i j → v j = w j) → r v = r w

namespace Network

variable {ι β : Type} (N : Network ι β)

def Settled (v : ι → β) (i : ι) : Prop :=
  ∀ r, N.rule i = some r → v i = r v

def ReadsEarlier (order : List ι) : Prop :=
  ∀ before i after, order = before ++ i :: after → ∀ j, N.reads i j → j ∉ i :: after

variable {N}

theorem ReadsEarlier.tail {i : ι} {order : List ι} (h : N.ReadsEarlier (i :: order)) :
    N.ReadsEarlier order := by
  intro before k after heq j hj
  exact h (i :: before) k after (by simp [heq]) j hj

theorem Settled.congr {v w : ι → β} {i : ι} (h : N.Settled v i) (hi : w i = v i)
    (hreads : ∀ j, N.reads i j → w j = v j) : N.Settled w i := by
  intro r hr
  rw [hi, h r hr]
  exact (N.rule_congr i r w v hr hreads).symm

theorem settled_unique {order : List ι} {v w : ι → β}
    (hrule : ∀ i ∈ order, N.rule i = none → v i = w i)
    (hv : ∀ i ∈ order, N.Settled v i) (hw : ∀ i ∈ order, N.Settled w i)
    (hreads : ∀ before i after, order = before ++ i :: after →
      ∀ j, N.reads i j → j ∈ before ∨ v j = w j) {i : ι} (hi : i ∈ order) : v i = w i := by
  have hprefix : ∀ before after, order = before ++ after → ∀ k ∈ before, v k = w k := by
    intro before
    induction before using List.reverseRecOn with
    | nil =>
      intro _ _ k hk
      cases hk
    | append_singleton before k ih =>
      intro after heq l hl
      have hsplit : order = before ++ k :: after := by simpa using heq
      have hbefore := ih (k :: after) hsplit
      rcases List.mem_append.mp hl with hl | hl
      · exact hbefore l hl
      · obtain rfl := List.mem_singleton.mp hl
        have hmem : l ∈ order := by simp [hsplit]
        cases hr : N.rule l with
        | none => exact hrule l hmem hr
        | some r =>
          rw [hv l hmem r hr, hw l hmem r hr]
          refine N.rule_congr l r v w hr fun j hj => ?_
          rcases hreads before l after hsplit j hj with hin | heq
          · exact hbefore j hin
          · exact heq
  exact hprefix order [] (by simp) i hi

section Evaluate

variable [DecidableEq ι]

variable (N) in
def evaluateNode (v : ι → β) (i : ι) : ι → β :=
  match N.rule i with
  | some r => Function.update v i (r v)
  | none => v

variable (N) in
def evaluate (order : List ι) (v : ι → β) : ι → β :=
  order.foldl N.evaluateNode v

theorem evaluateNode_of_ne (v : ι → β) {i k : ι} (h : k ≠ i) : N.evaluateNode v i k = v k := by
  unfold evaluateNode
  cases N.rule i with
  | none => rfl
  | some r => exact Function.update_of_ne h _ _

theorem evaluate_of_not_mem {order : List ι} (v : ι → β) {k : ι} (h : k ∉ order) :
    N.evaluate order v k = v k := by
  induction order generalizing v with
  | nil => rfl
  | cons i order ih =>
    simp only [List.mem_cons, not_or] at h
    exact (ih (N.evaluateNode v i) h.2).trans (evaluateNode_of_ne v h.1)

theorem evaluate_of_rule_none {order : List ι} (v : ι → β) {k : ι} (h : N.rule k = none) :
    N.evaluate order v k = v k := by
  induction order generalizing v with
  | nil => rfl
  | cons i order ih =>
    refine (ih (N.evaluateNode v i)).trans ?_
    by_cases hk : k = i
    · subst hk
      simp [evaluateNode, h]
    · exact evaluateNode_of_ne v hk

theorem evaluateNode_settled (v : ι → β) {i : ι} (h : ¬ N.reads i i) : N.Settled (N.evaluateNode v i) i := by
  intro r hr
  have hi : N.evaluateNode v i i = r v := by simp [evaluateNode, hr]
  rw [hi]
  refine N.rule_congr i r v _ hr fun j hj => ?_
  refine (evaluateNode_of_ne v ?_).symm
  rintro rfl
  exact h hj

theorem Settled.evaluate {order : List ι} {v : ι → β} {i : ι} (h : N.Settled v i) (hi : i ∉ order)
    (hreads : ∀ j, N.reads i j → j ∉ order) : N.Settled (N.evaluate order v) i :=
  h.congr (evaluate_of_not_mem v hi) fun j hj => evaluate_of_not_mem v (hreads j hj)

theorem evaluate_settled {order : List ι} (hnd : order.Nodup) (hreads : N.ReadsEarlier order) (v : ι → β)
    {i : ι} (hi : i ∈ order) : N.Settled (N.evaluate order v) i := by
  induction order generalizing v with
  | nil => cases hi
  | cons k order ih =>
    have hk := List.nodup_cons.mp hnd
    have hself := hreads [] k order rfl
    rcases List.mem_cons.mp hi with rfl | hi
    · have hnow : N.Settled (N.evaluateNode v i) i :=
        evaluateNode_settled v fun h => hself i h List.mem_cons_self
      exact hnow.evaluate hk.1 fun j hj hmem => hself j hj (List.mem_cons_of_mem _ hmem)
    · exact ih hk.2 hreads.tail (N.evaluateNode v k) hi

end Evaluate

end Network

end ByokGrid
