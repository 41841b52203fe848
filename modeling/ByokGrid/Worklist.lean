import ByokGrid.Kahn

/-! Lists of pending vertices used as queues and stacks, and the search which
visits each vertex once when it is taken out. -/

namespace ByokGrid

section Pop

variable {α : Type}

/-- `shift()`. -/
def popFirst : List α → Option (α × List α)
  | [] => none
  | v :: rest => some (v, rest)

/-- `pop()`. -/
def popLast (l : List α) : Option (α × List α) :=
  l.getLast?.map fun v => (v, l.dropLast)

structure TakesOne (pop : List α → Option (α × List α)) : Prop where
  none : ∀ l, pop l = none → l = []
  perm : ∀ l v rest, pop l = some (v, rest) → l.Perm (v :: rest)

theorem popFirst_none : ∀ l : List α, popFirst l = none → l = []
  | [], _ => rfl
  | _ :: _, h => nomatch h

theorem popFirst_perm : ∀ (l : List α) (v : α) (rest : List α), popFirst l = some (v, rest) → l.Perm (v :: rest)
  | [], _, _, h => nomatch h
  | _ :: _, _, _, h => by
    cases h
    exact List.Perm.refl _

theorem popFirst_takesOne : TakesOne (popFirst : List α → Option (α × List α)) :=
  ⟨popFirst_none, popFirst_perm⟩

theorem popLast_none (l : List α) (h : popLast l = none) : l = [] :=
  List.getLast?_eq_none_iff.mp (Option.map_eq_none_iff.mp h)

theorem popLast_perm (l : List α) (v : α) (rest : List α) (h : popLast l = some (v, rest)) :
    l.Perm (v :: rest) := by
  obtain ⟨last, hlast, heq⟩ := Option.map_eq_some_iff.mp h
  cases heq
  have hl := List.dropLast_append_getLast? v hlast
  rw [← hl, List.dropLast_concat]
  exact List.perm_append_singleton v _

theorem popLast_takesOne : TakesOne (popLast : List α → Option (α × List α)) :=
  ⟨popLast_none, popLast_perm⟩

theorem perm_push (l : List α) (v : α) : (l ++ [v]).Perm (v :: l) :=
  List.perm_append_singleton v l

end Pop

section Explore

variable {α : Type} [DecidableEq α]

/-- A vertex taken out is dropped when it was seen; otherwise it is seen, and
its successors are pending. -/
def exploreLoop (pop : List α → Option (α × List α)) (next : α → List α) : Nat → List α → List α → List α
  | 0, _, seen => seen
  | fuel + 1, pending, seen =>
    match pop pending with
    | none => seen
    | some (v, rest) =>
      if v ∈ seen then exploreLoop pop next fuel rest seen
      else exploreLoop pop next fuel (rest ++ next v) (seen ++ [v])

structure ExploreInvariant (next : α → List α) (start pending seen : List α) : Prop where
  nodup : seen.Nodup
  sound : ∀ v ∈ pending ++ seen, ∃ u ∈ start, Relation.ReflTransGen (fun a b => b ∈ next a) u v
  start_mem : ∀ v ∈ start, v ∈ pending ++ seen
  closed : ∀ u ∈ seen, ∀ v ∈ next u, v ∈ pending ++ seen

omit [DecidableEq α] in
theorem ExploreInvariant.initial (next : α → List α) (start : List α) :
    ExploreInvariant next start start [] where
  nodup := List.nodup_nil
  sound v hv := ⟨v, by simpa using hv, Relation.ReflTransGen.refl⟩
  start_mem v hv := by simpa using hv
  closed u hu := by cases hu

section Step

variable {next : α → List α} {start pending seen rest : List α} {v : α}

omit [DecidableEq α] in
theorem ExploreInvariant.drop (h : ExploreInvariant next start pending seen) (hpop : pending.Perm (v :: rest))
    (hv : v ∈ seen) : ExploreInvariant next start rest seen := by
  have hmem : ∀ w, w ∈ pending ++ seen ↔ w ∈ rest ++ seen := by
    intro w
    rw [List.mem_append, List.mem_append, hpop.mem_iff, List.mem_cons]
    constructor
    · intro hh
      rcases hh with (hw | hw) | hw
      · exact Or.inr (hw ▸ hv)
      · exact Or.inl hw
      · exact Or.inr hw
    · intro hh
      rcases hh with hw | hw
      · exact Or.inl (Or.inr hw)
      · exact Or.inr hw
  exact ⟨h.nodup, fun w hw => h.sound w ((hmem w).mpr hw), fun w hw => (hmem w).mp (h.start_mem w hw),
    fun u hu w hw => (hmem w).mp (h.closed u hu w hw)⟩

omit [DecidableEq α] in
theorem ExploreInvariant.visit (h : ExploreInvariant next start pending seen)
    (hpop : pending.Perm (v :: rest)) (hv : v ∉ seen) :
    ExploreInvariant next start (rest ++ next v) (seen ++ [v]) := by
  have hold : ∀ w ∈ pending ++ seen, w ∈ (rest ++ next v) ++ (seen ++ [v]) := by
    intro w hw
    rcases List.mem_append.mp hw with hw | hw
    · rcases List.mem_cons.mp (hpop.mem_iff.mp hw) with hw | hw
      · simp [hw]
      · simp [hw]
    · simp [hw]
  obtain ⟨u, hu, hpath⟩ := h.sound v (List.mem_append_left _ (hpop.mem_iff.mpr List.mem_cons_self))
  refine ⟨?_, ?_, fun w hw => hold w (h.start_mem w hw), ?_⟩
  · rw [List.nodup_append]
    refine ⟨h.nodup, List.nodup_singleton v, ?_⟩
    intro a ha b hb heq
    rw [List.mem_singleton.mp hb] at heq
    exact hv (heq ▸ ha)
  · intro w hw
    simp only [List.mem_append, List.mem_singleton] at hw
    rcases hw with (hw | hw) | (hw | hw)
    · exact h.sound w (List.mem_append_left _ (hpop.mem_iff.mpr (List.mem_cons_of_mem _ hw)))
    · exact ⟨u, hu, hpath.tail hw⟩
    · exact h.sound w (List.mem_append_right _ hw)
    · exact ⟨u, hu, hw ▸ hpath⟩
  · intro w hw x hx
    rcases List.mem_append.mp hw with hw | hw
    · exact hold x (h.closed w hw x hx)
    · rw [List.mem_singleton.mp hw] at hx
      simp [hx]

end Step

section Result

variable {pop : List α → Option (α × List α)} {next : α → List α} {start vertices : List α}

theorem exploreLoop_invariant (hpop : TakesOne pop) (hnd : vertices.Nodup)
    (hoff : ∀ v, v ∉ vertices → next v = []) {fuel : Nat} {pending seen : List α}
    (h : ExploreInvariant next start pending seen)
    (hfuel : pending.length + ((unordered vertices seen).flatMap next).length ≤ fuel) :
    ExploreInvariant next start [] (exploreLoop pop next fuel pending seen) := by
  induction fuel generalizing pending seen with
  | zero =>
    have hempty : pending = [] := List.eq_nil_of_length_eq_zero (by omega)
    subst hempty
    exact h
  | succ fuel ih =>
    unfold exploreLoop
    cases htake : pop pending with
    | none =>
      have hempty := hpop.none _ htake
      subst hempty
      exact h
    | some taken =>
      obtain ⟨v, rest⟩ := taken
      have hperm := hpop.perm _ _ _ htake
      have hlength := hperm.length_eq
      simp only [List.length_cons] at hlength
      simp only
      by_cases hv : v ∈ seen
      · rw [if_pos hv]
        exact ih (h.drop hperm hv) (by omega)
      · rw [if_neg hv]
        refine ih (h.visit hperm hv) ?_
        rw [List.length_append]
        by_cases hmem : v ∈ vertices
        · have hcost := ((unordered_perm hnd hmem hv).flatMap_right next).length_eq
          rw [List.flatMap_cons, List.length_append] at hcost
          omega
        · have hsame : unordered vertices (seen ++ [v]) = unordered vertices seen := by
            refine List.filter_congr fun w hw => ?_
            have hne : w ≠ v := fun heq => hmem (heq ▸ hw)
            simp [hne]
          rw [hoff v hmem, hsame, List.length_nil]
          omega

theorem nodup_exploreLoop (hpop : TakesOne pop) (hnd : vertices.Nodup)
    (hoff : ∀ v, v ∉ vertices → next v = []) {fuel : Nat}
    (hfuel : start.length + (vertices.flatMap next).length ≤ fuel) :
    (exploreLoop pop next fuel start []).Nodup :=
  (exploreLoop_invariant hpop hnd hoff (ExploreInvariant.initial next start)
    (by simpa [unordered] using hfuel)).nodup

theorem mem_exploreLoop (hpop : TakesOne pop) (hnd : vertices.Nodup)
    (hoff : ∀ v, v ∉ vertices → next v = []) {fuel : Nat}
    (hfuel : start.length + (vertices.flatMap next).length ≤ fuel) {v : α} :
    v ∈ exploreLoop pop next fuel start [] ↔
      ∃ u ∈ start, Relation.ReflTransGen (fun a b => b ∈ next a) u v := by
  have h := exploreLoop_invariant hpop hnd hoff (ExploreInvariant.initial next start)
    (by simpa [unordered] using hfuel)
  constructor
  · intro hv
    exact h.sound v (by simpa using hv)
  · intro hreach
    obtain ⟨u, hu, hpath⟩ := hreach
    induction hpath with
    | refl => simpa using h.start_mem u hu
    | tail _ hedge ih => simpa using h.closed _ ih _ hedge

end Result

end Explore

end ByokGrid
