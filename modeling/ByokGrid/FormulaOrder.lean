import ByokGrid.FormulaRecompute

/-! The order in which affected formula columns are recomputed: a topological
order of what the changed columns reach, found exactly when that part of the
dependency graph is acyclic. -/

namespace ByokGrid

variable (dependencies : List ColumnDependency)

theorem mem_dependents {id columnId : String} :
    columnId ∈ dependents dependencies id ↔
      ∃ d ∈ dependencies, d.dependsOnColumnId = id ∧ d.columnId = columnId := by
  simp [dependents, and_assoc]

def Affects (u v : String) : Prop := v ∈ dependents dependencies u

theorem dependents_bounded (u v : String) (h : v ∈ dependents dependencies u) :
    v ∈ dependencies.map ColumnDependency.columnId := by
  obtain ⟨d, hd, _, rfl⟩ := (mem_dependents dependencies).mp h
  exact List.mem_map_of_mem hd

theorem nodup_reachableColumns (changed : List String) : (reachableColumns dependencies changed).Nodup :=
  nodup_closure (dependents_bounded dependencies) (by simp)

theorem mem_reachableColumns {changed : List String} {v : String} :
    v ∈ reachableColumns dependencies changed ↔
      ∃ u ∈ changed, Relation.TransGen (Affects dependencies) u v :=
  mem_closure (dependents_bounded dependencies) (by simp)

theorem reachableColumns_closed {changed : List String} {u v : String}
    (hu : u ∈ changed ∨ u ∈ reachableColumns dependencies changed) (h : v ∈ dependents dependencies u) :
    v ∈ reachableColumns dependencies changed := by
  rcases hu with hu | hu
  · exact (mem_reachableColumns dependencies).mpr ⟨u, hu, Relation.TransGen.single h⟩
  · obtain ⟨start, hstart, hpath⟩ := (mem_reachableColumns dependencies).mp hu
    exact (mem_reachableColumns dependencies).mpr ⟨start, hstart, hpath.tail h⟩

/-- The dependencies between reachable columns, as edges from a column to the
columns computed from it. -/
abbrev reachableEdge (reachable : List String) : String → String → Prop :=
  graphEdge reachable (reachableDependents dependencies reachable)

theorem reachableEdge_iff {reachable : List String} {u v : String} :
    reachableEdge dependencies reachable u v ↔
      u ∈ reachable ∧ v ∈ reachable ∧ v ∈ dependents dependencies u := by
  simp only [reachableEdge, graphEdge, reachableDependents, List.mem_filter, decide_eq_true_eq]
  constructor
  · rintro ⟨hu, hv, hreach⟩
    exact ⟨hu, hreach, hv⟩
  · rintro ⟨hu, hreach, hv⟩
    exact ⟨hu, hv, hreach⟩

theorem indegree_eq_count {reachable : List String} (hnd : reachable.Nodup) {v : String}
    (hv : v ∈ reachable) :
    indegree dependencies reachable v =
      ((reachable.flatMap (reachableDependents dependencies reachable)).count v : Int) := by
  have hfilter : reachable.flatMap (reachableDependents dependencies reachable) =
      (reachable.flatMap (dependents dependencies)).filter (· ∈ reachable) := by
    rw [List.filter_flatMap]
    rfl
  have hcount : (reachable.flatMap (dependents dependencies)).count v = _ :=
    count_flatMap_edges dependencies ColumnDependency.dependsOnColumnId ColumnDependency.columnId hnd v
  rw [hfilter, List.count_filter (by simpa using hv), hcount]
  unfold indegree
  congr 3
  funext d
  by_cases hd : d.columnId = v <;> simp [hd, hv]

section Order

variable {reachable : List String} (hnd : reachable.Nodup)

include hnd

theorem orderReachable_invariant :
    ∃ remaining, KahnInvariant reachable (reachableDependents dependencies reachable) remaining []
      (orderReachable dependencies reachable) := by
  have hinitial : KahnInvariant reachable (reachableDependents dependencies reachable)
      (indegree dependencies reachable)
      (sortStrings (reachable.filter fun id => indegree dependencies reachable id = 0)) [] :=
    KahnInvariant.initial hnd (fun v hv => indegree_eq_count dependencies hnd hv) (sortStrings_perm _)
  refine kahnLoop_spec sortedBatch hnd ?_ hinitial (by simp)
  intro u _ v hv
  simpa using (List.mem_filter.mp hv).2

theorem orderReachable_length_iff :
    (orderReachable dependencies reachable).length = reachable.length ↔
      Acyclic (reachableEdge dependencies reachable) := by
  obtain ⟨remaining, hfinal⟩ := orderReachable_invariant dependencies hnd
  constructor
  · intro hlength
    refine (hfinal.topologicalOrder hlength).acyclic hnd fun u v hedge => ?_
    exact ((reachableEdge_iff dependencies).mp hedge).2.1
  · exact fun hacyclic => hfinal.length_of_acyclic hnd hacyclic

theorem orderReachable_topological (hacyclic : Acyclic (reachableEdge dependencies reachable)) :
    TopologicalOrder reachable (reachableEdge dependencies reachable)
      (orderReachable dependencies reachable) := by
  obtain ⟨remaining, hfinal⟩ := orderReachable_invariant dependencies hnd
  exact hfinal.topologicalOrder ((orderReachable_length_iff dependencies hnd).mpr hacyclic)

end Order

end ByokGrid
