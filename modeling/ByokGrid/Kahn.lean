import ByokGrid.Records
import Mathlib.Data.List.Perm.Subperm
import Mathlib.Data.List.Sort
import Mathlib.Data.List.Count
import Mathlib.Logic.Relation
import Mathlib.Data.Fintype.EquivFin
import Mathlib.Data.Fintype.Card
import Mathlib.Order.WellFounded

/-! Kahn's algorithm with an arbitrary discipline for the ready vertices. It
lists every vertex exactly when the graph is acyclic, and a sorted discipline
gives the lexicographically least topological order. -/

namespace ByokGrid

section TopologicalOrder

variable {α : Type}

def PrecededBy (edge : α → α → Prop) (order : List α) : Prop :=
  ∀ before v after, order = before ++ v :: after → ∀ u, edge u v → u ∈ before

structure TopologicalOrder (vertices : List α) (edge : α → α → Prop) (order : List α) : Prop where
  perm : order.Perm vertices
  preceded : PrecededBy edge order

def Acyclic (edge : α → α → Prop) : Prop :=
  ∀ v, ¬ Relation.TransGen edge v v

theorem Acyclic.mono {edge edge' : α → α → Prop} (h : Acyclic edge) (hsub : ∀ u v, edge' u v → edge u v) :
    Acyclic edge' :=
  fun v hcycle => h v (Relation.TransGen.mono hsub v v hcycle)

theorem PrecededBy.nil (edge : α → α → Prop) : PrecededBy edge [] := by
  intro before v after h
  simp at h

theorem PrecededBy.mono {edge edge' : α → α → Prop} {order : List α}
    (h : PrecededBy edge order) (hsub : ∀ u v, edge' u v → edge u v) : PrecededBy edge' order :=
  fun pre v post heq u hedge => h pre v post heq u (hsub u v hedge)

theorem PrecededBy.append_singleton {edge : α → α → Prop} {order : List α} {v : α}
    (h : PrecededBy edge order) (hv : ∀ u, edge u v → u ∈ order) : PrecededBy edge (order ++ [v]) := by
  intro before w after heq u hu
  rcases List.eq_nil_or_concat after with rfl | ⟨after', z, rfl⟩
  · obtain ⟨rfl, hw⟩ := List.append_inj' heq rfl
    simp only [List.cons.injEq, and_true] at hw
    subst hw
    exact hv u hu
  · have heq' : order ++ [v] = (before ++ w :: after') ++ [z] := by simpa using heq
    obtain ⟨rfl, _⟩ := List.append_inj' heq' rfl
    exact h before w after' rfl u hu

theorem PrecededBy.transGen {edge : α → α → Prop} {order before after : List α} {u v : α}
    (h : PrecededBy edge order) (huv : Relation.TransGen edge u v) (heq : order = before ++ v :: after) :
    u ∈ before := by
  induction huv generalizing before after with
  | single hedge => exact h before _ after heq u hedge
  | @tail w v _ hedge ih =>
    have hw := h before v after heq w hedge
    obtain ⟨first, second, rfl⟩ := List.append_of_mem hw
    have hsplit : order = first ++ w :: (second ++ v :: after) := by simpa using heq
    have hu : u ∈ first := ih hsplit
    simp [hu]

theorem PrecededBy.acyclic {edge : α → α → Prop} {order : List α} (h : PrecededBy edge order)
    (hnd : order.Nodup) (hmem : ∀ u v, edge u v → v ∈ order) : Acyclic edge := by
  intro v hcycle
  obtain ⟨u, _, hedge⟩ := Relation.TransGen.tail'_iff.mp hcycle
  obtain ⟨before, after, rfl⟩ := List.append_of_mem (hmem u v hedge)
  have hv := h.transGen hcycle rfl
  have hdis := List.disjoint_of_nodup_append hnd
  exact hdis hv List.mem_cons_self

theorem TopologicalOrder.acyclic {vertices order : List α} {edge : α → α → Prop}
    (h : TopologicalOrder vertices edge order) (hnd : vertices.Nodup)
    (hclosed : ∀ u v, edge u v → v ∈ vertices) : Acyclic edge :=
  h.preceded.acyclic (h.perm.nodup_iff.mpr hnd) fun u v hedge => h.perm.mem_iff.mpr (hclosed u v hedge)

theorem Acyclic.exists_source {edge : α → α → Prop} (h : Acyclic edge) {vertices : List α}
    (hne : vertices ≠ []) : ∃ v ∈ vertices, ∀ u ∈ vertices, ¬ edge u v := by
  let below : {v // v ∈ vertices} → {v // v ∈ vertices} → Prop :=
    fun a b => Relation.TransGen edge a.1 b.1
  have htrans : IsTrans _ below := ⟨fun _ _ _ => Relation.TransGen.trans⟩
  have hirrefl : Std.Irrefl below := ⟨fun a => h a.1⟩
  have hfinite : Finite {v // v ∈ vertices} := by
    classical
    exact Finite.of_injective
      (fun v : {v // v ∈ vertices} =>
        (⟨vertices.idxOf v.1, List.idxOf_lt_length_iff.mpr v.2⟩ : Fin vertices.length))
      (fun a b hab => Subtype.ext ((List.idxOf_inj a.2).mp (congrArg Fin.val hab)))
  have hwf : WellFounded below := Finite.wellFounded_of_trans_of_irrefl below
  obtain ⟨first, hfirst⟩ := List.exists_mem_of_ne_nil vertices hne
  obtain ⟨source, _, hmin⟩ := hwf.has_min Set.univ ⟨⟨first, hfirst⟩, trivial⟩
  exact ⟨source.1, source.2, fun u hu hedge => hmin ⟨u, hu⟩ trivial (Relation.TransGen.single hedge)⟩

end TopologicalOrder

section Lexicographic

variable {α : Type} [LinearOrder α]

def LexLE (xs ys : List α) : Prop :=
  xs = ys ∨ List.Lex (· < ·) xs ys

theorem LexLE.cons {x y : α} {xs ys : List α} (hle : x ≤ y) (h : x = y → LexLE xs ys) :
    LexLE (x :: xs) (y :: ys) := by
  rcases hle.lt_or_eq with hlt | rfl
  · exact Or.inr (List.Lex.rel hlt)
  · rcases h rfl with rfl | hlex
    · exact Or.inl rfl
    · exact Or.inr (List.Lex.cons hlex)

end Lexicographic

/-- How a loop keeps its ready vertices: what it takes out next, where it puts
a vertex that has become ready, and what it does before the next round. -/
structure ReadyList (α : Type) where
  pop : List α → Option (α × List α)
  push : List α → α → List α
  settle : List α → List α
  pop_none : ∀ l, pop l = none → l = []
  pop_perm : ∀ l v rest, pop l = some (v, rest) → l.Perm (v :: rest)
  push_perm : ∀ l v, (push l v).Perm (v :: l)
  settle_perm : ∀ l, (settle l).Perm l

section Loop

variable {α : Type} [DecidableEq α]

def release (push : List α → α → List α) : List α → (α → Int) → List α → (α → Int) × List α
  | [], remaining, ready => (remaining, ready)
  | target :: targets, remaining, ready =>
    let next := remaining target - 1
    release push targets (Function.update remaining target next)
      (if next = 0 then push ready target else ready)

def kahnLoop (d : ReadyList α) (targets : α → List α) :
    Nat → (α → Int) → List α → List α → List α
  | 0, _, _, ordered => ordered
  | fuel + 1, remaining, ready, ordered =>
    match d.pop ready with
    | none => ordered
    | some (v, rest) =>
      let released := release d.push (targets v) remaining rest
      kahnLoop d targets fuel released.1 (d.settle released.2) (ordered ++ [v])

theorem kahnLoop_prefix (d : ReadyList α) (targets : α → List α) (fuel : Nat) (remaining : α → Int)
    (ready ordered : List α) :
    ∃ rest, kahnLoop d targets fuel remaining ready ordered = ordered ++ rest := by
  induction fuel generalizing remaining ready ordered with
  | zero => exact ⟨[], by simp [kahnLoop]⟩
  | succ fuel ih =>
    unfold kahnLoop
    cases d.pop ready with
    | none => exact ⟨[], by simp⟩
    | some popped =>
      obtain ⟨rest, hrest⟩ := ih (release d.push (targets popped.1) remaining popped.2).1
        (d.settle (release d.push (targets popped.1) remaining popped.2).2) (ordered ++ [popped.1])
      exact ⟨popped.1 :: rest, by simpa using hrest⟩

theorem release_remaining (push : List α → α → List α) (targets : List α) (remaining : α → Int)
    (ready : List α) (v : α) :
    (release push targets remaining ready).1 v = remaining v - targets.count v := by
  induction targets generalizing remaining ready with
  | nil => simp [release]
  | cons target targets ih =>
    simp only [release, ih]
    by_cases hv : v = target
    · subst hv
      simp only [Function.update_self, List.count_cons_self]
      omega
    · simp [Function.update_of_ne hv, List.count_cons_of_ne (Ne.symm hv)]

theorem release_ready {push : List α → α → List α} (hpush : ∀ l v, (push l v).Perm (v :: l))
    (targets : List α) (remaining : α → Int) (ready : List α)
    (hcount : ∀ v ∈ targets, (targets.count v : Int) ≤ remaining v) :
    ∃ fresh : List α, (release push targets remaining ready).2.Perm (fresh ++ ready) ∧ fresh.Nodup ∧
      ∀ v, v ∈ fresh ↔ v ∈ targets ∧ remaining v = targets.count v := by
  induction targets generalizing remaining ready with
  | nil => exact ⟨[], by simp [release], List.nodup_nil, by simp⟩
  | cons target targets ih =>
    have htarget := hcount target List.mem_cons_self
    rw [List.count_cons_self] at htarget
    have hrest : ∀ v ∈ targets,
        (targets.count v : Int) ≤ Function.update remaining target (remaining target - 1) v := by
      intro v hv
      have hle := hcount v (List.mem_cons_of_mem _ hv)
      by_cases he : v = target
      · subst he
        rw [Function.update_self]
        omega
      · rw [Function.update_of_ne he]
        rwa [List.count_cons_of_ne (Ne.symm he)] at hle
    obtain ⟨fresh, hperm, hnd, hmem⟩ := ih (Function.update remaining target (remaining target - 1))
      (if remaining target - 1 = 0 then push ready target else ready) hrest
    simp only [release]
    by_cases hzero : remaining target - 1 = 0
    · rw [if_pos hzero] at hperm ⊢
      have hnone : target ∉ targets := by
        intro hin
        have := List.count_pos_iff.mpr hin
        omega
      have hcount0 : targets.count target = 0 := List.count_eq_zero.mpr hnone
      have hfresh : target ∉ fresh := fun hin => hnone ((hmem target).mp hin).1
      refine ⟨target :: fresh, ?_, List.nodup_cons.mpr ⟨hfresh, hnd⟩, fun v => ?_⟩
      · refine hperm.trans ?_
        refine ((hpush ready target).append_left fresh).trans ?_
        exact List.perm_middle
      · by_cases he : v = target
        · subst he
          have : remaining v = 1 := by omega
          simp [hcount0, this]
        · simp only [List.mem_cons, he, false_or, hmem v, Function.update_of_ne he,
            List.count_cons_of_ne (Ne.symm he)]
    · rw [if_neg hzero] at hperm ⊢
      refine ⟨fresh, hperm, hnd, fun v => ?_⟩
      rw [hmem v]
      by_cases he : v = target
      · subst he
        simp only [Function.update_self, List.mem_cons, true_or, true_and, List.count_cons_self]
        constructor
        · rintro ⟨_, heq⟩
          omega
        · intro heq
          have hpos : 0 < targets.count v := by omega
          exact ⟨List.count_pos_iff.mp hpos, by omega⟩
      · simp only [List.mem_cons, he, false_or, Function.update_of_ne he,
          List.count_cons_of_ne (Ne.symm he)]

def unordered (vertices ordered : List α) : List α :=
  vertices.filter (· ∉ ordered)

def graphEdge (vertices : List α) (targets : α → List α) (u v : α) : Prop :=
  u ∈ vertices ∧ v ∈ targets u

theorem unordered_perm {vertices ordered : List α} (hnd : vertices.Nodup) {v : α} (hv : v ∈ vertices)
    (hfresh : v ∉ ordered) :
    (unordered vertices ordered).Perm (v :: unordered vertices (ordered ++ [v])) := by
  have hnotin : v ∉ unordered vertices (ordered ++ [v]) := by simp [unordered]
  refine (List.perm_ext_iff_of_nodup (hnd.filter _)
    (List.nodup_cons.mpr ⟨hnotin, hnd.filter _⟩)).mpr fun w => ?_
  simp only [List.mem_filter, decide_eq_true_eq, List.mem_cons, unordered, List.mem_append,
    List.not_mem_nil, or_false, not_or]
  by_cases hw : w = v
  · subst hw
    simp [hv, hfresh]
  · simp [hw]

structure KahnInvariant (vertices : List α) (targets : α → List α) (remaining : α → Int)
    (ready ordered : List α) : Prop where
  nodup : (ordered ++ ready).Nodup
  subset : ∀ v ∈ ordered ++ ready, v ∈ vertices
  balance : ∀ v ∈ vertices, remaining v = ((unordered vertices ordered).flatMap targets).count v
  exhausted : ∀ v ∈ vertices, v ∈ ordered ++ ready ↔ remaining v = 0
  preceded : PrecededBy (graphEdge vertices targets) ordered

section Step

variable {vertices : List α} {targets : α → List α} {remaining : α → Int} {ready ordered : List α}

theorem KahnInvariant.ready_perm {ready' : List α}
    (h : KahnInvariant vertices targets remaining ready ordered) (hperm : ready'.Perm ready) :
    KahnInvariant vertices targets remaining ready' ordered where
  nodup := ((hperm.append_left ordered).nodup_iff).mpr h.nodup
  subset v hv := h.subset v ((hperm.append_left ordered).mem_iff.mp hv)
  balance := h.balance
  exhausted v hv := ((hperm.append_left ordered).mem_iff).trans (h.exhausted v hv)
  preceded := h.preceded

theorem KahnInvariant.predecessor_mem (h : KahnInvariant vertices targets remaining ready ordered)
    {u v : α} (hv : v ∈ vertices) (hzero : remaining v = 0) (hedge : graphEdge vertices targets u v) :
    u ∈ ordered := by
  by_contra hu
  have hbalance := h.balance v hv
  rw [hzero] at hbalance
  have hmem : v ∈ (unordered vertices ordered).flatMap targets := by
    refine List.mem_flatMap.mpr ⟨u, ?_, hedge.2⟩
    simp [unordered, hedge.1, hu]
  have hpos := List.count_pos_iff.mpr hmem
  omega

theorem KahnInvariant.ready_of_preceded (h : KahnInvariant vertices targets remaining ready ordered)
    {v : α} (hv : v ∈ vertices) (hfresh : v ∉ ordered)
    (hpre : ∀ u, graphEdge vertices targets u v → u ∈ ordered) : v ∈ ready := by
  have hzero : remaining v = 0 := by
    rw [h.balance v hv]
    have : v ∉ (unordered vertices ordered).flatMap targets := by
      intro hmem
      obtain ⟨u, hu, hvu⟩ := List.mem_flatMap.mp hmem
      simp only [unordered, List.mem_filter, decide_eq_true_eq] at hu
      exact hu.2 (hpre u ⟨hu.1, hvu⟩)
    simp [List.count_eq_zero.mpr this]
  have hmem := (h.exhausted v hv).mpr hzero
  exact (List.mem_append.mp hmem).resolve_left hfresh

theorem KahnInvariant.step (d : ReadyList α) (hnd : vertices.Nodup)
    (hclosed : ∀ u ∈ vertices, ∀ v ∈ targets u, v ∈ vertices)
    (h : KahnInvariant vertices targets remaining ready ordered) {v : α} {rest : List α}
    (hpop : d.pop ready = some (v, rest)) :
    KahnInvariant vertices targets (release d.push (targets v) remaining rest).1
      (d.settle (release d.push (targets v) remaining rest).2) (ordered ++ [v]) := by
  refine KahnInvariant.ready_perm ?_ (d.settle_perm _)
  have h := h.ready_perm (d.pop_perm _ _ _ hpop).symm
  have hv : v ∈ vertices := h.subset v (by simp)
  have hvzero : remaining v = 0 := (h.exhausted v hv).mp (by simp)
  have hsplit := List.nodup_append.mp h.nodup
  have hfresh : v ∉ ordered := fun hin => hsplit.2.2 v hin v List.mem_cons_self rfl
  have hperm := unordered_perm hnd hv hfresh
  have hcount : ∀ w, ((unordered vertices ordered).flatMap targets).count w =
      (targets v).count w + ((unordered vertices (ordered ++ [v])).flatMap targets).count w := by
    intro w
    rw [(hperm.flatMap_right targets).count_eq, List.flatMap_cons, List.count_append]
  have hle : ∀ w ∈ targets v, ((targets v).count w : Int) ≤ remaining w := by
    intro w hw
    rw [h.balance w (hclosed v hv w hw), hcount w]
    omega
  obtain ⟨fresh, hreleased, hfreshnd, hmem⟩ := release_ready d.push_perm (targets v) remaining rest hle
  have hnew : ∀ w ∈ fresh, w ∈ vertices ∧ w ∉ ordered ++ v :: rest := by
    intro w hw
    obtain ⟨hin, heq⟩ := (hmem w).mp hw
    have hwv := hclosed v hv w hin
    refine ⟨hwv, fun hold => ?_⟩
    have hzero := (h.exhausted w hwv).mp hold
    have hpos := List.count_pos_iff.mpr hin
    omega
  refine KahnInvariant.ready_perm ?_ hreleased
  have hshape : ((ordered ++ [v]) ++ (fresh ++ rest)).Perm (fresh ++ (ordered ++ v :: rest)) := by
    have : ((ordered ++ [v]) ++ (fresh ++ rest)) = (ordered ++ [v]) ++ fresh ++ rest := by simp
    rw [this]
    refine (List.perm_append_comm.append_right rest).trans ?_
    simp
  refine ⟨?_, ?_, ?_, ?_, ?_⟩
  · refine hshape.nodup_iff.mpr (List.nodup_append.mpr ⟨hfreshnd, h.nodup, ?_⟩)
    rintro a ha b hb rfl
    exact (hnew a ha).2 hb
  · intro w hw
    rcases List.mem_append.mp (hshape.mem_iff.mp hw) with hw | hw
    · exact (hnew w hw).1
    · exact h.subset w hw
  · intro w hw
    rw [release_remaining, h.balance w hw, hcount w]
    omega
  · intro w hw
    rw [hshape.mem_iff, List.mem_append, h.exhausted w hw, hmem w, release_remaining]
    have hb := h.balance w hw
    have hc := hcount w
    constructor
    · rintro (⟨_, heq⟩ | hzero) <;> omega
    · intro hzero
      by_cases hin : w ∈ targets v
      · exact Or.inl ⟨hin, by omega⟩
      · rw [List.count_eq_zero.mpr hin] at hzero
        exact Or.inr (by omega)
  · exact h.preceded.append_singleton fun u hedge => h.predecessor_mem hv hvzero hedge

theorem KahnInvariant.length_le
    (h : KahnInvariant vertices targets remaining ready ordered) :
    ordered.length + ready.length ≤ vertices.length := by
  have hsub : (ordered ++ ready).Subperm vertices := List.subperm_of_subset h.nodup h.subset
  simpa using hsub.length_le

theorem kahnLoop_spec (d : ReadyList α) (hnd : vertices.Nodup)
    (hclosed : ∀ u ∈ vertices, ∀ v ∈ targets u, v ∈ vertices) {fuel : Nat}
    (h : KahnInvariant vertices targets remaining ready ordered)
    (hfuel : vertices.length ≤ fuel + ordered.length) :
    ∃ remaining', KahnInvariant vertices targets remaining' []
      (kahnLoop d targets fuel remaining ready ordered) := by
  induction fuel generalizing remaining ready ordered with
  | zero =>
    have hle := h.length_le
    have hempty : ready = [] := List.eq_nil_of_length_eq_zero (by omega)
    subst hempty
    exact ⟨remaining, h⟩
  | succ fuel ih =>
    unfold kahnLoop
    cases hpop : d.pop ready with
    | none =>
      have hempty := d.pop_none _ hpop
      subst hempty
      exact ⟨remaining, h⟩
    | some popped =>
      obtain ⟨v, rest⟩ := popped
      refine ih (h.step d hnd hclosed hpop) ?_
      simp only [List.length_append, List.length_singleton]
      omega

end Step

section Result

variable {vertices : List α} {targets : α → List α} {remaining : α → Int} {ordered : List α}

theorem KahnInvariant.topologicalOrder
    (h : KahnInvariant vertices targets remaining [] ordered)
    (hlength : ordered.length = vertices.length) :
    TopologicalOrder vertices (graphEdge vertices targets) ordered := by
  have hnodup : ordered.Nodup := by simpa using h.nodup
  have hsub : ordered.Subperm vertices :=
    List.subperm_of_subset hnodup fun v hv => h.subset v (by simpa using hv)
  exact ⟨hsub.perm_of_length_le (by omega), h.preceded⟩

theorem KahnInvariant.length_of_acyclic
    (h : KahnInvariant vertices targets remaining [] ordered) (hnd : vertices.Nodup)
    (hacyclic : Acyclic (graphEdge vertices targets)) : ordered.length = vertices.length := by
  have hnone : unordered vertices ordered = [] := by
    by_contra hne
    obtain ⟨v, hv, hsource⟩ := hacyclic.exists_source hne
    simp only [unordered, List.mem_filter, decide_eq_true_eq] at hv hsource
    have hready := h.ready_of_preceded hv.1 hv.2 fun u hedge => by
      by_contra hu
      exact hsource u ⟨hedge.1, hu⟩ hedge
    simp at hready
  have hall : ∀ v ∈ vertices, v ∈ ordered := by
    intro v hv
    by_contra hfresh
    have hmem : v ∈ unordered vertices ordered := by simp [unordered, hv, hfresh]
    rw [hnone] at hmem
    cases hmem
  have hle : vertices.length ≤ ordered.length := (List.subperm_of_subset hnd hall).length_le
  have hge := h.length_le
  simp only [List.length_nil, Nat.add_zero] at hge
  omega

theorem KahnInvariant.initial {ready : List α} (hnd : vertices.Nodup)
    (hremaining : ∀ v ∈ vertices, remaining v = (vertices.flatMap targets).count v)
    (hready : ready.Perm (vertices.filter fun v => remaining v = 0)) :
    KahnInvariant vertices targets remaining ready [] where
  nodup := by simpa using hready.nodup_iff.mpr (hnd.filter _)
  subset v hv := by
    have hmem := hready.mem_iff.mp (by simpa using hv)
    exact (List.mem_filter.mp hmem).1
  balance v hv := by simpa [unordered] using hremaining v hv
  exhausted v hv := by simp [hready.mem_iff, hv]
  preceded := PrecededBy.nil _

end Result

section EdgeList

theorem count_flatMap_edges {ε : Type} (edges : List ε) (source target : ε → α) {vertices : List α}
    (hnd : vertices.Nodup) (v : α) :
    (vertices.flatMap fun u => (edges.filter fun e => source e = u).map target).count v =
      (edges.filter fun e => target e = v ∧ source e ∈ vertices).length := by
  have hgroups := (flatMap_filter_perm source edges hnd).map target
  rw [List.map_flatMap] at hgroups
  rw [hgroups.count_eq, List.count, List.countP_map, List.countP_filter, List.countP_eq_length_filter]
  congr 1
  refine List.filter_congr fun e _ => ?_
  by_cases h : target e = v <;> simp [h]

theorem count_flatMap_nodup {targets : α → List α} (hnd : ∀ u, (targets u).Nodup) (vertices : List α)
    (v : α) : (vertices.flatMap targets).count v = (vertices.filter fun u => v ∈ targets u).length := by
  induction vertices with
  | nil => rfl
  | cons u vertices ih =>
    rw [List.flatMap_cons, List.count_append, ih]
    by_cases hv : v ∈ targets u
    · simp [hv, List.count_eq_one_of_mem (hnd u) hv, Nat.add_comm]
    · simp [hv, List.count_eq_zero.mpr hv]

end EdgeList

section Least

variable [LinearOrder α]

structure ReadyList.Sorted (d : ReadyList α) : Prop where
  pop_cons : ∀ v rest, d.pop (v :: rest) = some (v, rest)
  push_sorted : ∀ l v, l.Pairwise (· ≤ ·) → (d.push l v).Pairwise (· ≤ ·)
  settle_sorted : ∀ l, l.Pairwise (· ≤ ·) → (d.settle l).Pairwise (· ≤ ·)

theorem release_sorted {d : ReadyList α} (hd : d.Sorted) (targets : List α) (remaining : α → Int)
    {ready : List α} (h : ready.Pairwise (· ≤ ·)) :
    (release d.push targets remaining ready).2.Pairwise (· ≤ ·) := by
  induction targets generalizing remaining ready with
  | nil => exact h
  | cons target targets ih =>
    simp only [release]
    split
    · exact ih _ (hd.push_sorted _ _ h)
    · exact ih _ h

theorem kahnLoop_least {d : ReadyList α} (hd : d.Sorted) {vertices : List α} {targets : α → List α}
    (hnd : vertices.Nodup) (hclosed : ∀ u ∈ vertices, ∀ v ∈ targets u, v ∈ vertices) {fuel : Nat}
    {remaining : α → Int} {ready ordered suffix : List α}
    (h : KahnInvariant vertices targets remaining ready ordered) (hsorted : ready.Pairwise (· ≤ ·))
    (hfuel : vertices.length ≤ fuel + ordered.length)
    (hsuffix : TopologicalOrder vertices (graphEdge vertices targets) (ordered ++ suffix)) :
    ∃ rest, kahnLoop d targets fuel remaining ready ordered = ordered ++ rest ∧ LexLE rest suffix := by
  induction fuel generalizing remaining ready ordered suffix with
  | zero =>
    have hlength := hsuffix.perm.length_eq
    simp only [List.length_append] at hlength
    have hempty : suffix = [] := List.eq_nil_of_length_eq_zero (by omega)
    exact ⟨[], by simp [kahnLoop], Or.inl hempty.symm⟩
  | succ fuel ih =>
    have hsuffixnd := hsuffix.perm.nodup_iff.mpr hnd
    cases suffix with
    | nil =>
      have hready : ready = [] := by
        cases ready with
        | nil => rfl
        | cons v rest =>
          have hv := hsuffix.perm.mem_iff.mpr (h.subset v (by simp))
          have hdis := (List.nodup_append.mp h.nodup).2.2 v (by simpa using hv) v List.mem_cons_self
          exact absurd rfl hdis
      subst hready
      refine ⟨[], ?_, Or.inl rfl⟩
      unfold kahnLoop
      cases hpop : d.pop [] with
      | none => simp
      | some popped =>
        have := (d.pop_perm _ popped.1 popped.2 hpop).length_eq
        simp at this
    | cons y suffix =>
      have hy : y ∈ vertices := hsuffix.perm.mem_iff.mp (by simp)
      have hyfresh : y ∉ ordered := fun hin =>
        (List.nodup_append.mp hsuffixnd).2.2 y hin y List.mem_cons_self rfl
      have hyready := h.ready_of_preceded hy hyfresh (hsuffix.preceded ordered y suffix rfl)
      cases ready with
      | nil => cases hyready
      | cons x rest =>
        have hle : x ≤ y := by
          rcases List.mem_cons.mp hyready with rfl | hin
          · exact le_refl _
          · exact (List.pairwise_cons.mp hsorted).1 y hin
        have hpop := hd.pop_cons x rest
        unfold kahnLoop
        simp only [hpop]
        have hnext := h.step d hnd hclosed hpop
        have hnextsorted := hd.settle_sorted _
          (release_sorted hd (targets x) remaining (List.pairwise_cons.mp hsorted).2)
        have hnextfuel : vertices.length ≤ fuel + (ordered ++ [x]).length := by
          simp only [List.length_append, List.length_singleton]
          omega
        by_cases hxy : x = y
        · subst hxy
          obtain ⟨tail, htail, hlex⟩ := ih hnext hnextsorted hnextfuel
            (by simpa using hsuffix)
          exact ⟨x :: tail, by simpa using htail, LexLE.cons hle fun _ => hlex⟩
        · obtain ⟨tail, htail⟩ := kahnLoop_prefix d targets fuel
            (release d.push (targets x) remaining rest).1
            (d.settle (release d.push (targets x) remaining rest).2) (ordered ++ [x])
          exact ⟨x :: tail, by simpa using htail, LexLE.cons hle fun he => absurd he hxy⟩

end Least

end Loop

end ByokGrid
