import Mathlib.Logic.Basic

/-! Runs of a system which takes one action after another, and the rule that an
invariant kept by every admissible step holds in every state reached. -/

namespace ByokGrid

section Runs

variable {σ α : Type}

def runActions (step : σ → α → σ) (s : σ) (actions : List α) : σ :=
  actions.foldl step s

def EachStep (step : σ → α → σ) (condition : σ → α → Prop) : σ → List α → Prop
  | _, [] => True
  | s, a :: actions => condition s a ∧ EachStep step condition (step s a) actions

variable {step : σ → α → σ} {condition : σ → α → Prop} {inv : σ → Prop}

theorem runActions_invariant (hstep : ∀ s a, inv s → inv (step s a)) {s : σ}
    (h : inv s) (actions : List α) : inv (runActions step s actions) := by
  induction actions generalizing s with
  | nil => exact h
  | cons a actions ih => exact ih (hstep s a h)

theorem EachStep.invariant (hstep : ∀ s a, inv s → condition s a → inv (step s a)) {s : σ}
    {actions : List α} (hrun : EachStep step condition s actions) (h : inv s) :
    inv (runActions step s actions) := by
  induction actions generalizing s with
  | nil => exact h
  | cons a actions ih => exact ih hrun.2 (hstep s a h hrun.1)

theorem runActions_append (s : σ) (xs ys : List α) :
    runActions step s (xs ++ ys) = runActions step (runActions step s xs) ys :=
  List.foldl_append

theorem EachStep.append {s : σ} {xs ys : List α} (h : EachStep step condition s (xs ++ ys)) :
    EachStep step condition s xs ∧ EachStep step condition (runActions step s xs) ys := by
  induction xs generalizing s with
  | nil => exact ⟨trivial, h⟩
  | cons a xs ih =>
    obtain ⟨hxs, hys⟩ := ih h.2
    exact ⟨⟨h.1, hxs⟩, hys⟩

theorem EachStep.concat {s : σ} {xs : List α} {a : α} (h : EachStep step condition s xs)
    (ha : condition (runActions step s xs) a) : EachStep step condition s (xs ++ [a]) := by
  induction xs generalizing s with
  | nil => exact ⟨ha, trivial⟩
  | cons x xs ih => exact ⟨h.1, ih h.2 ha⟩

theorem eachStep_iff {s : σ} {actions : List α} : EachStep step condition s actions ↔
    ∀ xs a ys, actions = xs ++ a :: ys → condition (runActions step s xs) a := by
  constructor
  · rintro h xs a ys rfl
    exact h.append.2.1
  · intro h
    induction actions generalizing s with
    | nil => exact trivial
    | cons a actions ih =>
      refine ⟨h [] a actions rfl, ih fun xs b ys hsplit => ?_⟩
      exact h (a :: xs) b ys (congrArg (List.cons a) hsplit)

theorem EachStep.relates {R : σ → σ → Prop} (hrefl : ∀ s, R s s) (htrans : ∀ {s t u}, R s t → R t u → R s u)
    (hstep : ∀ s a, inv s → condition s a → inv (step s a) ∧ R s (step s a)) {s : σ} {actions : List α}
    (hrun : EachStep step condition s actions) (h : inv s) : R s (runActions step s actions) := by
  induction actions generalizing s with
  | nil => exact hrefl s
  | cons a actions ih =>
    obtain ⟨hinv, hfirst⟩ := hstep s a h hrun.1
    have hrest : R (step s a) (runActions step (step s a) actions) := ih hrun.2 hinv
    exact htrans hfirst hrest

def runOutputs {β : Type} (step : σ → α → σ) (output : σ → α → List β) : σ → List α → List β
  | _, [] => []
  | s, a :: actions => output s a ++ runOutputs step output (step s a) actions

theorem runOutputs_append {β : Type} (output : σ → α → List β) (s : σ) (xs ys : List α) :
    runOutputs step output s (xs ++ ys) =
      runOutputs step output s xs ++ runOutputs step output (runActions step s xs) ys := by
  induction xs generalizing s with
  | nil => rfl
  | cons a xs ih => simp only [List.cons_append, runOutputs, ih, List.append_assoc, runActions, List.foldl_cons]

theorem mem_runOutputs {β : Type} {output : σ → α → List β} {s : σ} {actions : List α} {b : β} :
    b ∈ runOutputs step output s actions ↔
      ∃ xs a ys, actions = xs ++ a :: ys ∧ b ∈ output (runActions step s xs) a := by
  constructor
  · intro h
    induction actions generalizing s with
    | nil => cases h
    | cons a actions ih =>
      rcases List.mem_append.mp h with hfirst | hrest
      · exact ⟨[], a, actions, rfl, hfirst⟩
      · obtain ⟨xs, c, ys, hsplit, hmem⟩ := ih hrest
        exact ⟨a :: xs, c, ys, congrArg (List.cons a) hsplit, hmem⟩
  · rintro ⟨xs, a, ys, rfl, hmem⟩
    rw [runOutputs_append]
    exact List.mem_append_right _ (List.mem_append_left _ hmem)

theorem runOutputs_invariant {β : Type} {output : σ → α → List β} {inv : σ → List β → Prop}
    (hstep : ∀ s a log, inv s log → inv (step s a) (log ++ output s a)) {s : σ} {log : List β}
    (h : inv s log) (actions : List α) :
    inv (runActions step s actions) (log ++ runOutputs step output s actions) := by
  induction actions generalizing s log with
  | nil =>
    rw [runOutputs, List.append_nil]
    exact h
  | cons a actions ih =>
    rw [runOutputs, ← List.append_assoc]
    exact ih (hstep s a log h)

end Runs

end ByokGrid
