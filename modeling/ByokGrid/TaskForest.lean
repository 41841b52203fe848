import ByokGrid.Kahn

/-! Tasks which wait for at most one predecessor. A task that succeeds chooses
among the labels of the tasks behind it: the chosen ones become ready, and the
others are skipped with everything behind them. One failure cancels the rest. -/

namespace ByokGrid

inductive TaskStatus where
  | blocked
  | ready
  | running
  | succeeded
  | failed
  | skipped
  | cancelled
  deriving Repr, DecidableEq

inductive ForestOutcome where
  | active
  | succeeded
  | failed
  deriving Repr, DecidableEq

def TaskStatus.pending : TaskStatus → Bool
  | .blocked | .ready | .running => true
  | .succeeded | .failed | .skipped | .cancelled => false

def TaskStatus.active : TaskStatus → Bool
  | .ready | .running => true
  | .blocked | .succeeded | .failed | .skipped | .cancelled => false

def TaskStatus.begun : TaskStatus → Bool
  | .ready | .running | .succeeded | .failed => true
  | .blocked | .skipped | .cancelled => false

theorem TaskStatus.pending_of_active {s : TaskStatus} (h : s.active = true) : s.pending = true := by
  cases s <;> first | rfl | cases h

theorem TaskStatus.begun_of_active {s : TaskStatus} (h : s.active = true) : s.begun = true := by
  cases s <;> first | rfl | cases h

section Forest

variable {α β : Type}

structure TaskForest (α β : Type) where
  tasks : List α
  parent : α → Option (α × β)

def TaskForest.follows (forest : TaskForest α β) (u v : α) : Prop :=
  ∃ label, forest.parent v = some (u, label)

structure TaskForest.WellFormed (forest : TaskForest α β) : Prop where
  nonempty : forest.tasks ≠ []
  mem : ∀ u v, forest.follows u v → u ∈ forest.tasks ∧ v ∈ forest.tasks
  acyclic : Acyclic forest.follows

def TaskForest.Behind (forest : TaskForest α β) (u : α) (labels : List β) (v : α) : Prop :=
  ∃ child label, forest.parent child = some (u, label) ∧ label ∉ labels ∧
    Relation.ReflTransGen forest.follows child v

structure Progress (α β : Type) where
  status : α → TaskStatus
  chosen : α → Option (List β)
  outcome : ForestOutcome

structure ForestInvariant (forest : TaskForest α β) (p : Progress α β) : Prop where
  blocked : ∀ v ∈ forest.tasks, p.status v = .blocked ↔
    ∃ u label, forest.parent v = some (u, label) ∧ (p.status u).pending = true
  begun : ∀ v ∈ forest.tasks, (p.status v).begun = true → ∀ u label, forest.parent v = some (u, label) →
    p.status u = .succeeded ∧ ∃ labels, p.chosen u = some labels ∧ label ∈ labels
  skipped : ∀ v ∈ forest.tasks, p.status v = .skipped → ∃ u label, forest.parent v = some (u, label) ∧
    (p.status u = .skipped ∨ p.status u = .succeeded ∧ ∃ labels, p.chosen u = some labels ∧ label ∉ labels)
  active : p.outcome = .active → (∃ v ∈ forest.tasks, (p.status v).pending = true) ∧
    ∀ v ∈ forest.tasks, p.status v ≠ .failed ∧ p.status v ≠ .cancelled
  succeeded : p.outcome = .succeeded → ∀ v ∈ forest.tasks, p.status v = .succeeded ∨ p.status v = .skipped
  failed : p.outcome = .failed → ∃ v ∈ forest.tasks, p.status v = .failed ∧ ∀ w ∈ forest.tasks, w ≠ v →
    p.status w = .succeeded ∨ p.status w = .skipped ∨ p.status w = .cancelled

structure InitialProgress (forest : TaskForest α β) (p : Progress α β) : Prop where
  status : ∀ v ∈ forest.tasks, p.status v = if (forest.parent v).isNone then .ready else .blocked
  outcome : p.outcome = .active

structure ActiveStep (forest : TaskForest α β) (p p' : Progress α β) : Prop where
  status : ∀ v ∈ forest.tasks, p'.status v = p.status v ∨
    (p.status v).active = true ∧ (p'.status v).active = true
  chosen : p'.chosen = p.chosen
  outcome : p'.outcome = p.outcome

structure CompleteStep (forest : TaskForest α β) (task : α) (labels : List β) (p p' : Progress α β) :
    Prop where
  mem : task ∈ forest.tasks
  running : p.status task = .running
  task_status : p'.status task = .succeeded
  chosen_child : ∀ v ∈ forest.tasks, ∀ label, forest.parent v = some (task, label) → label ∈ labels →
    p.status v = .blocked → p'.status v = .ready
  behind : ∀ v ∈ forest.tasks, forest.Behind task labels v → p.status v = .blocked → p'.status v = .skipped
  other : ∀ v ∈ forest.tasks, v ≠ task → (∀ label, forest.parent v = some (task, label) → label ∉ labels) →
    ¬ forest.Behind task labels v → p'.status v = p.status v
  chosen_task : p'.chosen task = some labels
  chosen_other : ∀ v, v ≠ task → p'.chosen v = p.chosen v
  before : p.outcome = .active
  after : p'.outcome = .active ∧ (∃ v ∈ forest.tasks, (p'.status v).pending = true) ∨
    p'.outcome = .succeeded ∧ ∀ v ∈ forest.tasks, (p'.status v).pending = false

structure FailStep (forest : TaskForest α β) (task : α) (p p' : Progress α β) : Prop where
  mem : task ∈ forest.tasks
  running : p.status task = .running
  task_status : p'.status task = .failed
  other : ∀ v ∈ forest.tasks, v ≠ task →
    p'.status v = if (p.status v).pending then .cancelled else p.status v
  chosen : p'.chosen = p.chosen
  outcome : p'.outcome = .failed

section Behind

variable {forest : TaskForest α β} {u v w : α} {labels : List β}

theorem TaskForest.follows_unique (hu : forest.follows u w) (hv : forest.follows v w) : u = v := by
  obtain ⟨label, hu⟩ := hu
  obtain ⟨label', hv⟩ := hv
  rw [hu] at hv
  simp only [Option.some.injEq, Prod.mk.injEq] at hv
  exact hv.1

theorem TaskForest.Behind.trans (h : forest.Behind u labels v) (hw : forest.follows v w) :
    forest.Behind u labels w := by
  obtain ⟨child, label, hparent, hlabel, hpath⟩ := h
  exact ⟨child, label, hparent, hlabel, hpath.tail hw⟩

theorem TaskForest.Behind.transGen (h : forest.Behind u labels v) : Relation.TransGen forest.follows u v := by
  obtain ⟨child, label, hparent, _, hpath⟩ := h
  exact Relation.TransGen.head' ⟨label, hparent⟩ hpath

theorem TaskForest.Behind.parent (h : forest.Behind u labels v) {label : β}
    (hparent : forest.parent v = some (w, label)) :
    (w = u ∧ label ∉ labels) ∨ forest.Behind u labels w := by
  obtain ⟨child, label', hchild, hlabel, hpath⟩ := h
  rcases Relation.ReflTransGen.cases_tail hpath with hsame | ⟨x, hx, hxv⟩
  · subst hsame
    rw [hchild] at hparent
    simp only [Option.some.injEq, Prod.mk.injEq] at hparent
    obtain ⟨hw, hl⟩ := hparent
    subst hl
    exact Or.inl ⟨hw.symm, hlabel⟩
  · have hxw : x = w := TaskForest.follows_unique hxv ⟨label, hparent⟩
    subst hxw
    exact Or.inr ⟨child, label', hchild, hlabel, hx⟩

theorem TaskForest.WellFormed.behind_mem (h : forest.WellFormed) (hv : forest.Behind u labels v) :
    v ∈ forest.tasks := by
  obtain ⟨w, _, hedge⟩ := Relation.TransGen.tail'_iff.mp hv.transGen
  exact (h.mem w v hedge).2

theorem TaskForest.WellFormed.not_behind_self (h : forest.WellFormed) : ¬ forest.Behind u labels u :=
  fun hu => h.acyclic u hu.transGen

theorem TaskForest.WellFormed.not_behind_chosen (h : forest.WellFormed) {label : β}
    (hparent : forest.parent v = some (u, label)) (hlabel : label ∈ labels) : ¬ forest.Behind u labels v := by
  intro hv
  rcases hv.parent hparent with ⟨_, hnot⟩ | hu
  · exact hnot hlabel
  · exact h.not_behind_self hu

end Behind

section Invariant

variable {forest : TaskForest α β} {p p' : Progress α β}

theorem InitialProgress.invariant (hforest : forest.WellFormed) (h : InitialProgress forest p) :
    ForestInvariant forest p := by
  have hroot : ∀ v ∈ forest.tasks, forest.parent v = none → p.status v = .ready := by
    intro v hv hnone
    rw [h.status v hv, hnone]
    rfl
  have hchild : ∀ v ∈ forest.tasks, ∀ u label, forest.parent v = some (u, label) → p.status v = .blocked := by
    intro v hv u label hparent
    rw [h.status v hv, hparent]
    rfl
  have hpending : ∀ v ∈ forest.tasks, p.status v = .ready ∨ p.status v = .blocked := by
    intro v hv
    cases hparent : forest.parent v with
    | none => exact Or.inl (hroot v hv hparent)
    | some pair => exact Or.inr (hchild v hv pair.1 pair.2 hparent)
  refine ⟨?_, ?_, ?_, ?_, ?_, ?_⟩
  · intro v hv
    constructor
    · intro hblocked
      cases hparent : forest.parent v with
      | none => simp [hroot v hv hparent] at hblocked
      | some pair =>
        have hu := (hforest.mem pair.1 v ⟨pair.2, hparent⟩).1
        refine ⟨pair.1, pair.2, rfl, ?_⟩
        rcases hpending pair.1 hu with hs | hs
        · rw [hs]
          rfl
        · rw [hs]
          rfl
    · intro hparent
      obtain ⟨u, label, hparent, _⟩ := hparent
      exact hchild v hv u label hparent
  · intro v hv hbegun u label hparent
    rw [hchild v hv u label hparent] at hbegun
    cases hbegun
  · intro v hv hskipped
    rcases hpending v hv with hs | hs
    · rw [hs] at hskipped
      cases hskipped
    · rw [hs] at hskipped
      cases hskipped
  · intro _
    obtain ⟨first, hfirst⟩ := List.exists_mem_of_ne_nil forest.tasks hforest.nonempty
    refine ⟨⟨first, hfirst, ?_⟩, fun v hv => ?_⟩
    · rcases hpending first hfirst with hs | hs
      · rw [hs]
        rfl
      · rw [hs]
        rfl
    · rcases hpending v hv with hs | hs
      · simp [hs]
      · simp [hs]
  · intro houtcome
    rw [h.outcome] at houtcome
    cases houtcome
  · intro houtcome
    rw [h.outcome] at houtcome
    cases houtcome

theorem ActiveStep.status_iff (h : ActiveStep forest p p') {v : α} (hv : v ∈ forest.tasks) {s : TaskStatus}
    (hs : s.active = false) : p'.status v = s ↔ p.status v = s := by
  rcases h.status v hv with heq | ⟨hbefore, hafter⟩
  · rw [heq]
  · constructor
    · intro hh
      rw [hh, hs] at hafter
      cases hafter
    · intro hh
      rw [hh, hs] at hbefore
      cases hbefore

theorem ActiveStep.pending_eq (h : ActiveStep forest p p') {v : α} (hv : v ∈ forest.tasks) :
    (p'.status v).pending = (p.status v).pending := by
  rcases h.status v hv with heq | ⟨hbefore, hafter⟩
  · rw [heq]
  · rw [TaskStatus.pending_of_active hbefore, TaskStatus.pending_of_active hafter]

theorem ActiveStep.begun_eq (h : ActiveStep forest p p') {v : α} (hv : v ∈ forest.tasks) :
    (p'.status v).begun = (p.status v).begun := by
  rcases h.status v hv with heq | ⟨hbefore, hafter⟩
  · rw [heq]
  · rw [TaskStatus.begun_of_active hbefore, TaskStatus.begun_of_active hafter]

theorem ActiveStep.invariant (hforest : forest.WellFormed) (h : ActiveStep forest p p')
    (hp : ForestInvariant forest p) : ForestInvariant forest p' := by
  have hmem : ∀ {u v label}, forest.parent v = some (u, label) → u ∈ forest.tasks :=
    fun hparent => (hforest.mem _ _ ⟨_, hparent⟩).1
  refine ⟨?_, ?_, ?_, ?_, ?_, ?_⟩
  · intro v hv
    rw [h.status_iff hv rfl, hp.blocked v hv]
    constructor
    · intro hh
      obtain ⟨u, label, hparent, hu⟩ := hh
      exact ⟨u, label, hparent, by rw [h.pending_eq (hmem hparent), hu]⟩
    · intro hh
      obtain ⟨u, label, hparent, hu⟩ := hh
      exact ⟨u, label, hparent, by rw [← h.pending_eq (hmem hparent), hu]⟩
  · intro v hv hbegun u label hparent
    rw [h.begun_eq hv] at hbegun
    rw [h.status_iff (hmem hparent) rfl, h.chosen]
    exact hp.begun v hv hbegun u label hparent
  · intro v hv hskipped
    obtain ⟨u, label, hparent, hu⟩ := hp.skipped v hv ((h.status_iff hv rfl).mp hskipped)
    refine ⟨u, label, hparent, ?_⟩
    rw [h.status_iff (hmem hparent) rfl, h.status_iff (hmem hparent) rfl, h.chosen]
    exact hu
  · intro houtcome
    obtain ⟨⟨v, hv, hpending⟩, hnone⟩ := hp.active (h.outcome ▸ houtcome)
    refine ⟨⟨v, hv, by rw [h.pending_eq hv, hpending]⟩, fun w hw => ?_⟩
    have hh := hnone w hw
    rwa [ne_eq, ne_eq, h.status_iff hw rfl, h.status_iff hw rfl]
  · intro houtcome v hv
    rw [h.status_iff hv rfl, h.status_iff hv rfl]
    exact hp.succeeded (h.outcome ▸ houtcome) v hv
  · intro houtcome
    obtain ⟨v, hv, hfailed, hrest⟩ := hp.failed (h.outcome ▸ houtcome)
    refine ⟨v, hv, (h.status_iff hv rfl).mpr hfailed, fun w hw hne => ?_⟩
    rw [h.status_iff hw rfl, h.status_iff hw rfl, h.status_iff hw rfl]
    exact hrest w hw hne

theorem ForestInvariant.blocked_behind (hforest : forest.WellFormed) (hp : ForestInvariant forest p) {u v : α}
    (hu : (p.status u).pending = true) (h : Relation.TransGen forest.follows u v) :
    p.status v = .blocked := by
  induction h with
  | single hedge =>
    obtain ⟨label, hparent⟩ := hedge
    exact (hp.blocked _ (hforest.mem _ _ ⟨label, hparent⟩).2).mpr ⟨u, label, hparent, hu⟩
  | tail _ hedge ih =>
    obtain ⟨label, hparent⟩ := hedge
    refine (hp.blocked _ (hforest.mem _ _ ⟨label, hparent⟩).2).mpr ⟨_, label, hparent, ?_⟩
    rw [ih]
    rfl

inductive CompleteCase (forest : TaskForest α β) (task : α) (labels : List β) (p p' : Progress α β) (v : α) :
    Prop where
  | task (heq : v = task) (before : p.status v = .running) (after : p'.status v = .succeeded)
  | chosen (label : β) (hparent : forest.parent v = some (task, label)) (hlabel : label ∈ labels)
      (before : p.status v = .blocked) (after : p'.status v = .ready)
  | behind (hbehind : forest.Behind task labels v) (before : p.status v = .blocked)
      (after : p'.status v = .skipped)
  | other (hne : v ≠ task) (hunchosen : ∀ label, forest.parent v ≠ some (task, label))
      (hnot : ¬ forest.Behind task labels v) (after : p'.status v = p.status v)

theorem CompleteStep.cases (hforest : forest.WellFormed) (hp : ForestInvariant forest p) {task : α}
    {labels : List β} (h : CompleteStep forest task labels p p') {v : α} (hv : v ∈ forest.tasks) :
    CompleteCase forest task labels p p' v := by
  have hpending : (p.status task).pending = true := by
    rw [h.running]
    rfl
  by_cases heq : v = task
  · subst heq
    exact .task rfl h.running h.task_status
  · by_cases hbehind : forest.Behind task labels v
    · have hblocked := hp.blocked_behind hforest hpending hbehind.transGen
      exact .behind hbehind hblocked (h.behind v hv hbehind hblocked)
    · by_cases hchild : ∃ label, forest.parent v = some (task, label)
      · obtain ⟨label, hparent⟩ := hchild
        have hblocked := (hp.blocked v hv).mpr ⟨task, label, hparent, hpending⟩
        by_cases hlabel : label ∈ labels
        · exact .chosen label hparent hlabel hblocked (h.chosen_child v hv label hparent hlabel hblocked)
        · exact absurd ⟨v, label, hparent, hlabel, Relation.ReflTransGen.refl⟩ hbehind
      · have hnone : ∀ label, forest.parent v ≠ some (task, label) := fun label hh => hchild ⟨label, hh⟩
        exact .other heq hnone hbehind (h.other v hv heq (fun label hh => absurd hh (hnone label)) hbehind)

theorem CompleteStep.succeeded_kept (hforest : forest.WellFormed) (hp : ForestInvariant forest p) {task : α}
    {labels : List β} (h : CompleteStep forest task labels p p') {u : α} (hu : u ∈ forest.tasks)
    (hs : p.status u = .succeeded) : p'.status u = .succeeded ∧ p'.chosen u = p.chosen u := by
  cases h.cases hforest hp hu with
  | task _ before _ =>
    rw [hs] at before
    cases before
  | chosen _ _ _ before _ =>
    rw [hs] at before
    cases before
  | behind _ before _ =>
    rw [hs] at before
    cases before
  | other hne _ _ after => exact ⟨after.trans hs, h.chosen_other u hne⟩

theorem CompleteStep.skipped_kept (hforest : forest.WellFormed) (hp : ForestInvariant forest p) {task : α}
    {labels : List β} (h : CompleteStep forest task labels p p') {u : α} (hu : u ∈ forest.tasks)
    (hs : p.status u = .skipped) : p'.status u = .skipped := by
  cases h.cases hforest hp hu with
  | task _ before _ =>
    rw [hs] at before
    cases before
  | chosen _ _ _ before _ =>
    rw [hs] at before
    cases before
  | behind _ _ after => exact after
  | other _ _ _ after => exact after.trans hs

theorem CompleteStep.not_failed (hforest : forest.WellFormed) (hp : ForestInvariant forest p) {task : α}
    {labels : List β} (h : CompleteStep forest task labels p p') {v : α} (hv : v ∈ forest.tasks) :
    p'.status v ≠ .failed ∧ p'.status v ≠ .cancelled := by
  cases h.cases hforest hp hv with
  | task _ _ after => simp [after]
  | chosen _ _ _ _ after => simp [after]
  | behind _ _ after => simp [after]
  | other _ _ _ after =>
    rw [after]
    exact (hp.active h.before).2 v hv

theorem CompleteStep.blocked_iff (hforest : forest.WellFormed) (hp : ForestInvariant forest p) {task : α}
    {labels : List β} (h : CompleteStep forest task labels p p') {v : α} (hv : v ∈ forest.tasks) :
    p'.status v = .blocked ↔
      ∃ u label, forest.parent v = some (u, label) ∧ (p'.status u).pending = true := by
  cases h.cases hforest hp hv with
  | task heq before after =>
    rw [after]
    refine ⟨nofun, fun hh => ?_⟩
    obtain ⟨u, label, hparent, hu⟩ := hh
    have hsucceeded := (hp.begun v hv (by rw [before]; rfl) u label hparent).1
    rw [(h.succeeded_kept hforest hp (hforest.mem u v ⟨label, hparent⟩).1 hsucceeded).1] at hu
    cases hu
  | chosen label hparent _ _ after =>
    rw [after]
    refine ⟨nofun, fun hh => ?_⟩
    obtain ⟨u, label', hparent', hu⟩ := hh
    have hsame := TaskForest.follows_unique ⟨label', hparent'⟩ ⟨label, hparent⟩
    rw [hsame, h.task_status] at hu
    cases hu
  | behind hbehind _ after =>
    rw [after]
    refine ⟨nofun, fun hh => ?_⟩
    obtain ⟨u, label, hparent, hu⟩ := hh
    rcases hbehind.parent hparent with ⟨hsame, _⟩ | hu'
    · rw [hsame, h.task_status] at hu
      cases hu
    · have hmem := (hforest.mem u v ⟨label, hparent⟩).1
      have hpending : (p.status task).pending = true := by
        rw [h.running]
        rfl
      rw [h.behind u hmem hu' (hp.blocked_behind hforest hpending hu'.transGen)] at hu
      cases hu
  | other hne hunchosen hnot after =>
    rw [after, hp.blocked v hv]
    refine exists_congr fun u => exists_congr fun label => and_congr_right fun hparent => ?_
    cases h.cases hforest hp (hforest.mem u v ⟨label, hparent⟩).1 with
    | task heq _ _ => exact absurd (heq ▸ hparent) (hunchosen label)
    | chosen _ _ _ before after => simp [before, after, TaskStatus.pending]
    | behind hbehind _ _ => exact absurd (hbehind.trans ⟨label, hparent⟩) hnot
    | other _ _ _ after => rw [after]

theorem CompleteStep.invariant (hforest : forest.WellFormed) (hp : ForestInvariant forest p) {task : α}
    {labels : List β} (h : CompleteStep forest task labels p p') : ForestInvariant forest p' := by
  refine ⟨fun v hv => h.blocked_iff hforest hp hv, ?_, ?_, ?_, ?_, ?_⟩
  · intro v hv hbegun u label hparent
    have hmem := (hforest.mem u v ⟨label, hparent⟩).1
    -- a task begun before keeps its succeeded predecessor
    have hkeep : (p.status v).begun = true →
        p'.status u = .succeeded ∧ ∃ labels, p'.chosen u = some labels ∧ label ∈ labels := by
      intro hbefore
      obtain ⟨hsucceeded, hlabels⟩ := hp.begun v hv hbefore u label hparent
      obtain ⟨hstatus, hchosen⟩ := h.succeeded_kept hforest hp hmem hsucceeded
      exact ⟨hstatus, hchosen ▸ hlabels⟩
    cases h.cases hforest hp hv with
    | task heq before _ =>
      apply hkeep
      rw [before]
      rfl
    | chosen label' hparent' hlabel _ _ =>
      rw [hparent] at hparent'
      simp only [Option.some.injEq, Prod.mk.injEq] at hparent'
      obtain ⟨hu, hl⟩ := hparent'
      subst hu hl
      exact ⟨h.task_status, labels, h.chosen_task, hlabel⟩
    | behind _ _ after =>
      rw [after] at hbegun
      cases hbegun
    | other _ _ _ after =>
      rw [after] at hbegun
      exact hkeep hbegun
  · intro v hv hskipped
    cases h.cases hforest hp hv with
    | task _ _ after =>
      rw [after] at hskipped
      cases hskipped
    | chosen _ _ _ _ after =>
      rw [after] at hskipped
      cases hskipped
    | behind hbehind before _ =>
      obtain ⟨u, label, hparent, _⟩ := (hp.blocked v hv).mp before
      refine ⟨u, label, hparent, ?_⟩
      rcases hbehind.parent hparent with ⟨hsame, hlabel⟩ | hu
      · rw [hsame]
        exact Or.inr ⟨h.task_status, labels, h.chosen_task, hlabel⟩
      · have hpending : (p.status task).pending = true := by
          rw [h.running]
          rfl
        have hblocked := hp.blocked_behind hforest hpending hu.transGen
        exact Or.inl (h.behind u (hforest.mem u v ⟨label, hparent⟩).1 hu hblocked)
    | other _ _ _ after =>
      rw [after] at hskipped
      obtain ⟨u, label, hparent, hu⟩ := hp.skipped v hv hskipped
      have hmem := (hforest.mem u v ⟨label, hparent⟩).1
      refine ⟨u, label, hparent, ?_⟩
      rcases hu with hu | ⟨hu, hlabels⟩
      · exact Or.inl (h.skipped_kept hforest hp hmem hu)
      · obtain ⟨hstatus, hchosen⟩ := h.succeeded_kept hforest hp hmem hu
        exact Or.inr ⟨hstatus, hchosen ▸ hlabels⟩
  · intro houtcome
    rcases h.after with ⟨_, hpending⟩ | ⟨hsucceeded, _⟩
    · exact ⟨hpending, fun v hv => h.not_failed hforest hp hv⟩
    · rw [hsucceeded] at houtcome
      cases houtcome
  · intro houtcome v hv
    rcases h.after with ⟨hactive, _⟩ | ⟨_, hdone⟩
    · rw [hactive] at houtcome
      cases houtcome
    · have hnot := hdone v hv
      have hfailed := h.not_failed hforest hp hv
      cases hs : p'.status v with
      | succeeded => exact Or.inl rfl
      | skipped => exact Or.inr rfl
      | failed => exact absurd hs hfailed.1
      | cancelled => exact absurd hs hfailed.2
      | blocked => simp [hs, TaskStatus.pending] at hnot
      | ready => simp [hs, TaskStatus.pending] at hnot
      | running => simp [hs, TaskStatus.pending] at hnot
  · intro houtcome
    rcases h.after with ⟨hactive, _⟩ | ⟨hsucceeded, _⟩
    · rw [hactive] at houtcome
      cases houtcome
    · rw [hsucceeded] at houtcome
      cases houtcome

theorem ForestInvariant.outcome_of_running (hp : ForestInvariant forest p) {v : α} (hv : v ∈ forest.tasks)
    (hrunning : p.status v = .running) : p.outcome = .active := by
  cases houtcome : p.outcome with
  | active => rfl
  | succeeded =>
    rcases hp.succeeded houtcome v hv with hs | hs
    · rw [hrunning] at hs
      cases hs
    · rw [hrunning] at hs
      cases hs
  | failed =>
    obtain ⟨w, _, hfailed, hrest⟩ := hp.failed houtcome
    have hne : v ≠ w := by
      intro heq
      rw [← heq, hrunning] at hfailed
      cases hfailed
    have hs := hrest v hv hne
    simp [hrunning] at hs

theorem FailStep.invariant (hforest : forest.WellFormed) (hp : ForestInvariant forest p) {task : α}
    (h : FailStep forest task p p') : ForestInvariant forest p' := by
  have hactive := hp.active (hp.outcome_of_running h.mem h.running)
  have hdone : ∀ v ∈ forest.tasks, (p'.status v).pending = false := by
    intro v hv
    by_cases heq : v = task
    · rw [heq, h.task_status]
      rfl
    · rw [h.other v hv heq]
      cases hs : p.status v <;> rfl
  have hkept : ∀ v ∈ forest.tasks, ∀ s : TaskStatus, p.status v = s → s.pending = false →
      p'.status v = s := by
    intro v hv s hs hpending
    have hne : v ≠ task := by
      intro heq
      rw [heq, h.running] at hs
      rw [← hs] at hpending
      cases hpending
    rw [h.other v hv hne, hs, hpending]
    rfl
  refine ⟨?_, ?_, ?_, ?_, ?_, ?_⟩
  · intro v hv
    constructor
    · intro hblocked
      have hh := hdone v hv
      rw [hblocked] at hh
      cases hh
    · intro hh
      obtain ⟨u, label, hparent, hu⟩ := hh
      rw [hdone u (hforest.mem u v ⟨label, hparent⟩).1] at hu
      cases hu
  · intro v hv hbegun u label hparent
    have hbefore : (p.status v).begun = true := by
      by_cases heq : v = task
      · rw [heq, h.running]
        rfl
      · rw [h.other v hv heq] at hbegun
        cases hs : p.status v <;> simp_all [TaskStatus.begun, TaskStatus.pending]
    obtain ⟨hsucceeded, hlabels⟩ := hp.begun v hv hbefore u label hparent
    rw [h.chosen]
    exact ⟨hkept u (hforest.mem u v ⟨label, hparent⟩).1 _ hsucceeded rfl, hlabels⟩
  · intro v hv hskipped
    have hbefore : p.status v = .skipped := by
      by_cases heq : v = task
      · rw [heq, h.task_status] at hskipped
        cases hskipped
      · rw [h.other v hv heq] at hskipped
        cases hs : p.status v <;> simp_all [TaskStatus.pending]
    obtain ⟨u, label, hparent, hu⟩ := hp.skipped v hv hbefore
    have hmem := (hforest.mem u v ⟨label, hparent⟩).1
    refine ⟨u, label, hparent, ?_⟩
    rw [h.chosen]
    rcases hu with hu | ⟨hu, hlabels⟩
    · exact Or.inl (hkept u hmem _ hu rfl)
    · exact Or.inr ⟨hkept u hmem _ hu rfl, hlabels⟩
  · intro houtcome
    rw [h.outcome] at houtcome
    cases houtcome
  · intro houtcome
    rw [h.outcome] at houtcome
    cases houtcome
  · intro _
    refine ⟨task, h.mem, h.task_status, fun w hw hne => ?_⟩
    rw [h.other w hw hne]
    obtain ⟨hfailed, hcancelled⟩ := hactive.2 w hw
    cases hs : p.status w <;> simp_all [TaskStatus.pending]

theorem ForestInvariant.ended_iff (hp : ForestInvariant forest p) :
    p.outcome ≠ .active ↔ ∀ v ∈ forest.tasks, (p.status v).pending = false := by
  constructor
  · intro hended v hv
    cases houtcome : p.outcome with
    | active => exact absurd houtcome hended
    | succeeded =>
      rcases hp.succeeded houtcome v hv with hs | hs
      · rw [hs]
        rfl
      · rw [hs]
        rfl
    | failed =>
      obtain ⟨w, _, hfailed, hrest⟩ := hp.failed houtcome
      by_cases heq : v = w
      · rw [heq, hfailed]
        rfl
      · rcases hrest v hv heq with hs | hs | hs
        · rw [hs]
          rfl
        · rw [hs]
          rfl
        · rw [hs]
          rfl
  · intro hdone hactive
    obtain ⟨⟨v, hv, hpending⟩, _⟩ := hp.active hactive
    rw [hdone v hv] at hpending
    cases hpending

theorem ForestInvariant.not_stuck (hforest : forest.WellFormed) (hp : ForestInvariant forest p)
    (hactive : p.outcome = .active) : ∃ v ∈ forest.tasks, (p.status v).active = true := by
  obtain ⟨⟨first, hfirst, hpending⟩, _⟩ := hp.active hactive
  let pendings := forest.tasks.filter fun v => (p.status v).pending
  have hne : pendings ≠ [] := List.ne_nil_of_mem (List.mem_filter.mpr ⟨hfirst, hpending⟩)
  obtain ⟨v, hv, hsource⟩ := hforest.acyclic.exists_source hne
  obtain ⟨hmem, hv⟩ := List.mem_filter.mp hv
  refine ⟨v, hmem, ?_⟩
  cases hs : p.status v with
  | blocked =>
    obtain ⟨u, label, hparent, hu⟩ := (hp.blocked v hmem).mp hs
    have humem := (hforest.mem u v ⟨label, hparent⟩).1
    exact absurd ⟨label, hparent⟩ (hsource u (List.mem_filter.mpr ⟨humem, hu⟩))
  | ready => rfl
  | running => rfl
  | succeeded => simp [hs, TaskStatus.pending] at hv
  | failed => simp [hs, TaskStatus.pending] at hv
  | skipped => simp [hs, TaskStatus.pending] at hv
  | cancelled => simp [hs, TaskStatus.pending] at hv

end Invariant

end Forest

end ByokGrid
