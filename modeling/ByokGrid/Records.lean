import Mathlib.Data.List.Nodup
import Mathlib.Data.List.Sort

/-! Keyed tables: a list of records whose keys are distinct, with the
insertions, guarded updates and lookups of a relational store. -/

namespace ByokGrid

section Distinct

variable {α : Type} [DecidableEq α]

def distinct (xs : List α) : List α :=
  xs.foldl (fun seen x => if x ∈ seen then seen else seen ++ [x]) []

theorem foldl_distinct_spec (xs seen : List α) (hseen : seen.Nodup) :
    (xs.foldl (fun seen x => if x ∈ seen then seen else seen ++ [x]) seen).Nodup ∧
    ∀ y, y ∈ xs.foldl (fun seen x => if x ∈ seen then seen else seen ++ [x]) seen ↔ y ∈ seen ∨ y ∈ xs := by
  induction xs generalizing seen with
  | nil => simp [hseen]
  | cons x xs ih =>
    simp only [List.foldl_cons]
    by_cases hx : x ∈ seen
    · obtain ⟨hnd, hmem⟩ := ih seen hseen
      simp only [if_pos hx]
      refine ⟨hnd, fun y => ?_⟩
      rw [hmem y, List.mem_cons]
      constructor
      · rintro (h | h)
        · exact Or.inl h
        · exact Or.inr (Or.inr h)
      · rintro (h | rfl | h)
        · exact Or.inl h
        · exact Or.inl hx
        · exact Or.inr h
    · have hnext : (seen ++ [x]).Nodup := by
        rw [List.nodup_append]
        refine ⟨hseen, List.nodup_singleton x, ?_⟩
        rintro a ha b hb rfl
        exact hx (by simpa [← List.mem_singleton.mp hb] using ha)
      obtain ⟨hnd, hmem⟩ := ih (seen ++ [x]) hnext
      simp only [if_neg hx]
      refine ⟨hnd, fun y => ?_⟩
      rw [hmem y]
      simp [or_assoc]

theorem nodup_distinct (xs : List α) : (distinct xs).Nodup :=
  (foldl_distinct_spec xs [] List.nodup_nil).1

@[simp] theorem mem_distinct {xs : List α} {y : α} : y ∈ distinct xs ↔ y ∈ xs := by
  have h := (foldl_distinct_spec xs [] List.nodup_nil).2 y
  rw [distinct, h]
  simp

theorem length_distinct {xs ys : List α} (hnd : ys.Nodup) (h : ∀ x, x ∈ xs ↔ x ∈ ys) :
    (distinct xs).length = ys.length := by
  have hperm : (distinct xs).Perm ys :=
    (List.perm_ext_iff_of_nodup (nodup_distinct xs) hnd).mpr fun x => by simp [h]
  exact hperm.length_eq

theorem flatMap_filter_perm {ε : Type} (f : ε → α) (xs : List ε) {keys : List α} (hnd : keys.Nodup) :
    (keys.flatMap fun k => xs.filter fun x => f x = k).Perm (xs.filter fun x => f x ∈ keys) := by
  induction keys with
  | nil => simp
  | cons key keys ih =>
    obtain ⟨hfresh, hkeys⟩ := List.nodup_cons.mp hnd
    rw [List.flatMap_cons]
    have hsplit := List.filter_append_perm (fun x => decide (f x = key))
      (xs.filter fun x => f x ∈ key :: keys)
    rw [List.filter_filter, List.filter_filter] at hsplit
    have hkey : (xs.filter fun x => decide (f x = key) && decide (f x ∈ key :: keys)) =
        xs.filter fun x => f x = key := by
      refine List.filter_congr fun x _ => ?_
      by_cases h : f x = key <;> simp [h]
    have hrest : (xs.filter fun x => !decide (f x = key) && decide (f x ∈ key :: keys)) =
        xs.filter fun x => f x ∈ keys := by
      refine List.filter_congr fun x _ => ?_
      by_cases h : f x = key
      · simp [h, hfresh]
      · simp [h]
    rw [hkey, hrest] at hsplit
    exact ((ih hkeys).append_left _).trans hsplit

end Distinct

class Keyed (α : Type) (κ : outParam Type) where
  key : α → κ

structure Table (α : Type) {κ : Type} [Keyed α κ] where
  records : List α
  nodup : (records.map Keyed.key).Nodup

structure KeepsKey {α κ : Type} [Keyed α κ] (f : α → α) : Prop where
  key : ∀ x, Keyed.key (f x) = Keyed.key x

namespace Table

variable {α κ : Type} [Keyed α κ]

instance : Membership α (Table α) := ⟨fun t x => x ∈ t.records⟩

theorem mem_def {t : Table α} {x : α} : x ∈ t ↔ x ∈ t.records := Iff.rfl

def empty : Table α := ⟨[], List.nodup_nil⟩

def singleton (x : α) : Table α := ⟨[x], List.nodup_singleton _⟩

theorem not_mem_empty {x : α} : x ∉ (empty : Table α) :=
  List.not_mem_nil

theorem eq_of_key {t : Table α} {x y : α} (hx : x ∈ t) (hy : y ∈ t)
    (h : Keyed.key x = Keyed.key y) : x = y :=
  List.inj_on_of_nodup_map t.nodup hx hy h

section Modify

variable (t : Table α) (p : α → Bool) (f : α → α) (hf : KeepsKey f)

/-- `update … set f where p`. -/
def modify : Table α where
  records := t.records.map fun x => if p x then f x else x
  nodup := by
    have h : (t.records.map fun x => if p x then f x else x).map Keyed.key = t.records.map Keyed.key := by
      rw [List.map_map]
      apply List.map_congr_left
      intro x _
      by_cases hp : p x = true
      · simp [hp, hf.key]
      · simp [hp]
    rw [h]
    exact t.nodup

end Modify

theorem mem_modify {t : Table α} {p : α → Bool} {f : α → α} (hf : KeepsKey f) {x : α} :
    x ∈ t.modify p f hf ↔ ∃ y ∈ t, x = if p y then f y else y := by
  simp only [mem_def, modify, List.mem_map, eq_comm]

theorem forall_mem_modify {t : Table α} {p : α → Bool} {f : α → α} (hf : KeepsKey f) {P : α → Prop}
    (hold : ∀ x ∈ t, P x) (hnew : ∀ x ∈ t, P (f x)) : ∀ x ∈ t.modify p f hf, P x := by
  intro x hx
  obtain ⟨y, hy, rfl⟩ := (mem_modify hf).mp hx
  split
  · exact hnew y hy
  · exact hold y hy

theorem modify_eq_self {t : Table α} {p : α → Bool} {f : α → α} (hf : KeepsKey f)
    (h : ∀ x ∈ t, p x = true → f x = x) : t.modify p f hf = t := by
  obtain ⟨records, nodup⟩ := t
  have hrecords : (records.map fun x => if p x then f x else x) = records := by
    conv_rhs => rw [← List.map_id records]
    apply List.map_congr_left
    intro x hx
    by_cases hp : p x = true
    · rw [if_pos hp, h x hx hp]
      rfl
    · rw [if_neg hp]
      rfl
  simp only [modify, hrecords]

theorem modify_congr {t : Table α} {p q : α → Bool} {f : α → α} (hf : KeepsKey f) (h : ∀ x ∈ t, p x = q x) :
    t.modify p f hf = t.modify q f hf := by
  have hrecords : (t.records.map fun x => if p x then f x else x) = t.records.map fun x => if q x then f x else x := by
    apply List.map_congr_left
    intro x hx
    rw [h x hx]
  simp only [modify, hrecords]

theorem filter_modify {t : Table α} {p q : α → Bool} {f : α → α} (hf : KeepsKey f) (hq : ∀ x, q (f x) = q x) :
    (t.modify p f hf).records.filter q = (t.records.filter q).map fun x => if p x then f x else x := by
  have hsame : (q ∘ fun x => if p x then f x else x) = q := by
    funext x
    rw [Function.comp_apply]
    split
    · exact hq x
    · rfl
  rw [modify, List.filter_map, hsame]

theorem filter_modify_other {t : Table α} {p q : α → Bool} {f : α → α} (hf : KeepsKey f) (hq : ∀ x, q (f x) = q x)
    (hp : ∀ x, p x = true → q x = false) : (t.modify p f hf).records.filter q = t.records.filter q := by
  rw [filter_modify hf hq, ← List.map_id (t.records.filter q), List.map_map]
  apply List.map_congr_left
  intro x hx
  refine if_neg fun hpx => ?_
  rw [List.mem_filter, hp x hpx] at hx
  cases hx.2

theorem modify_one {t : Table α} {p : α → Bool} {f : α → α} (hf : KeepsKey f) {x : α} {before after : List α}
    (hrecords : t.records = before ++ x :: after) (hx : p x = true) (hp : ∀ y ∈ t, p y = true → y = x) :
    (t.modify p f hf).records = before ++ f x :: after := by
  have hnd : t.records.Nodup := List.Nodup.of_map _ t.nodup
  rw [hrecords] at hnd
  obtain ⟨_, htail, hdisjoint⟩ := List.nodup_append.mp hnd
  have hbefore : ∀ y ∈ before, (if p y then f y else y) = y := by
    intro y hy
    refine if_neg fun hpy => ?_
    exact hdisjoint y hy x List.mem_cons_self (hp y (by rw [mem_def, hrecords]; simp [hy]) hpy)
  have hafter : ∀ y ∈ after, (if p y then f y else y) = y := by
    intro y hy
    refine if_neg fun hpy => ?_
    have heq := hp y (by rw [mem_def, hrecords]; simp [hy]) hpy
    exact (List.nodup_cons.mp htail).1 (heq ▸ hy)
  show (t.records.map fun y => if p y then f y else y) = _
  rw [hrecords, List.map_append, List.map_cons, if_pos hx, List.map_congr_left hbefore, List.map_congr_left hafter,
    List.map_id', List.map_id']

/-- `delete` of the records without the property. -/
def filter (t : Table α) (p : α → Bool) : Table α where
  records := t.records.filter p
  nodup := t.nodup.sublist (List.filter_sublist.map Keyed.key)

@[simp] theorem mem_filter {t : Table α} {p : α → Bool} {x : α} : x ∈ t.filter p ↔ x ∈ t ∧ p x = true := by
  simp [mem_def, filter]

theorem pairwise_modify {R : α → α → Prop} {t : Table α} {p : α → Bool} {f : α → α} (hf : KeepsKey f)
    (h : ∀ x y, [x, y].Sublist t.records → R (if p x then f x else x) (if p y then f y else y)) :
    (t.modify p f hf).records.Pairwise R := by
  show (t.records.map fun x => if p x then f x else x).Pairwise R
  rw [List.pairwise_map, List.pairwise_iff_forall_sublist]
  intro x y hxy
  exact h x y hxy

variable [DecidableEq κ]

def get? (t : Table α) (k : κ) : Option α :=
  t.records.find? fun x => Keyed.key x = k

theorem get?_eq_some {t : Table α} {k : κ} {x : α} : t.get? k = some x ↔ x ∈ t ∧ Keyed.key x = k := by
  constructor
  · intro h
    exact ⟨List.mem_of_find?_eq_some h, by simpa using List.find?_some h⟩
  · rintro ⟨hx, rfl⟩
    cases hfind : t.get? (Keyed.key x) with
    | none =>
      have := List.find?_eq_none.mp hfind x hx
      simp at this
    | some y =>
      have hy : y ∈ t := List.mem_of_find?_eq_some hfind
      have hkey : Keyed.key y = Keyed.key x := by simpa using List.find?_some hfind
      rw [eq_of_key hy hx hkey]

theorem get?_eq_none {t : Table α} {k : κ} : t.get? k = none ↔ ∀ x ∈ t, Keyed.key x ≠ k := by
  simp [get?, mem_def]

theorem get?_modify (t : Table α) (p : α → Bool) (f : α → α) (hf : KeepsKey f)
    (k : κ) : (t.modify p f hf).get? k = (t.get? k).map fun x => if p x then f x else x := by
  have hkey : ∀ x, Keyed.key (if p x then f x else x) = Keyed.key x := by
    intro x
    by_cases hp : p x = true
    · simp [hp, hf.key]
    · simp [hp]
  simp only [get?, modify, List.find?_map, Function.comp_def, hkey]

theorem get?_modify_key {t : Table α} {p : α → Bool} {f : α → α} (hf : KeepsKey f) {k : κ} {x : α}
    (hx : t.get? k = some x) (hpx : p x = true) (hp : ∀ y, p y = true → Keyed.key y = k) (other : κ) :
    (t.modify p f hf).get? other = if other = k then some (f x) else t.get? other := by
  rw [get?_modify]
  by_cases hother : other = k
  · rw [if_pos hother, hother, hx, Option.map_some, if_pos hpx]
  · rw [if_neg hother]
    cases hfound : t.get? other with
    | none => rfl
    | some found =>
      have hkey : Keyed.key found = other := (get?_eq_some.mp hfound).2
      have hnot : ¬ p found = true := fun hpf => hother (hkey.symm.trans (hp found hpf))
      rw [Option.map_some, if_neg hnot]

theorem get?_filter_key {t : Table α} {p : α → Bool} {k : κ} (hp : ∀ x, Keyed.key x = k → p x = true) :
    (t.filter p).get? k = t.get? k := by
  simp only [get?, filter, List.find?_filter]
  congr 1
  funext x
  by_cases hkey : Keyed.key x = k
  · simp [hkey, hp x hkey]
  · simp [hkey]

/-- `insert`, refused when the key is taken. -/
def insert (t : Table α) (x : α) : Option (Table α) :=
  if h : Keyed.key x ∈ t.records.map Keyed.key then none
  else some
    { records := t.records ++ [x]
      nodup := by
        rw [List.map_append, List.nodup_append]
        refine ⟨t.nodup, List.nodup_singleton _, ?_⟩
        rintro a ha b hb rfl
        simp only [List.map_cons, List.map_nil, List.mem_singleton] at hb
        exact h (hb ▸ ha) }

theorem insert_eq_some {t t' : Table α} {x : α} (h : t.insert x = some t') :
    t'.records = t.records ++ [x] ∧ t.get? (Keyed.key x) = none := by
  unfold insert at h
  split at h
  · cases h
  · rename_i hfresh
    cases h
    refine ⟨rfl, get?_eq_none.mpr fun y hy heq => hfresh ?_⟩
    exact List.mem_map.mpr ⟨y, hy, heq⟩

theorem insert_eq_none {t : Table α} {x : α} : t.insert x = none ↔ (t.get? (Keyed.key x)).isSome := by
  constructor
  · intro h
    rw [← Option.not_isNone, Bool.not_eq_true', ← Bool.not_eq_true, Option.isNone_iff_eq_none, get?_eq_none]
    intro hfresh
    unfold insert at h
    split at h
    · rename_i htaken
      obtain ⟨y, hy, heq⟩ := List.mem_map.mp htaken
      exact hfresh y hy heq
    · cases h
  · intro h
    cases hinsert : t.insert x with
    | none => rfl
    | some t' =>
      rw [(insert_eq_some hinsert).2] at h
      cases h

theorem mem_insert {t t' : Table α} {x y : α} (h : t.insert x = some t') : y ∈ t' ↔ y ∈ t ∨ y = x := by
  simp [mem_def, (insert_eq_some h).1]

theorem get?_insert {t t' : Table α} {x : α} (h : t.insert x = some t') (k : κ) :
    t'.get? k = if k = Keyed.key x then some x else t.get? k := by
  obtain ⟨hrecords, hfresh⟩ := insert_eq_some h
  simp only [get?, hrecords, List.find?_append]
  by_cases hk : k = Keyed.key x
  · subst hk
    simp only [get?] at hfresh
    simp [hfresh]
  · have hk' : ¬ Keyed.key x = k := fun he => hk he.symm
    simp [hk, hk']

section Mapped

variable {β : Type} [Keyed β κ] {t : Table α} {u : Table β} {g : α → β}

theorem get?_modify_map {p : α → Bool} {q : β → Bool} {f : α → α} {e : β → β} (hf : KeepsKey f) (he : KeepsKey e)
    (h : ∀ k, u.get? k = (t.get? k).map g) (hp : ∀ x, q (g x) = p x) (hg : ∀ x, g (f x) = e (g x)) (k : κ) :
    (u.modify q e he).get? k = ((t.modify p f hf).get? k).map g := by
  rw [get?_modify, get?_modify, h]
  cases t.get? k with
  | none => rfl
  | some x =>
    by_cases hx : p x = true
    · simp [hp, hx, hg]
    · simp [hp, hx]

theorem get?_insert_map {t' : Table α} {u' : Table β} {x : α} (h : ∀ k, u.get? k = (t.get? k).map g)
    (hg : Keyed.key (g x) = Keyed.key x) (ht : t.insert x = some t') (hu : u.insert (g x) = some u') (k : κ) :
    u'.get? k = (t'.get? k).map g := by
  rw [get?_insert hu, get?_insert ht, h, hg]
  by_cases hk : k = Keyed.key x
  · simp [hk]
  · simp [hk]

end Mapped

/-- An `insert` of several records, refused as a whole. -/
def insertAll (t : Table α) : List α → Option (Table α)
  | [] => some t
  | x :: xs => (t.insert x).bind fun next => next.insertAll xs

theorem get?_insertAll {t t' : Table α} {xs : List α} (h : t.insertAll xs = some t') (k : κ) :
    t'.get? k = (t.get? k).or (xs.find? fun x => Keyed.key x = k) := by
  induction xs generalizing t with
  | nil =>
    cases h
    simp
  | cons x xs ih =>
    obtain ⟨next, hnext, hrest⟩ := Option.bind_eq_some_iff.mp h
    rw [ih hrest, get?_insert hnext]
    by_cases hk : k = Keyed.key x
    · have hfresh := (insert_eq_some hnext).2
      subst hk
      simp [hfresh]
    · simp [hk, Ne.symm hk]

theorem mem_insertAll {t t' : Table α} {xs : List α} (h : t.insertAll xs = some t') {y : α} :
    y ∈ t' ↔ y ∈ t ∨ y ∈ xs := by
  induction xs generalizing t with
  | nil =>
    cases h
    simp
  | cons x xs ih =>
    obtain ⟨next, hnext, hrest⟩ := Option.bind_eq_some_iff.mp h
    rw [ih hrest, mem_insert hnext, List.mem_cons, or_assoc]

theorem insertAll_records {t t' : Table α} {xs : List α} (h : t.insertAll xs = some t') :
    t'.records = t.records ++ xs := by
  induction xs generalizing t with
  | nil =>
    cases h
    rw [List.append_nil]
  | cons x xs ih =>
    obtain ⟨next, hnext, hrest⟩ := Option.bind_eq_some_iff.mp h
    rw [ih hrest, (insert_eq_some hnext).1, List.append_assoc]
    rfl

theorem get?_of_mem {t : Table α} {x : α} (h : x ∈ t) : t.get? (Keyed.key x) = some x :=
  get?_eq_some.mpr ⟨h, rfl⟩

section Selection

variable {t : Table α} {p : α → Bool} {r : α → α → Prop} [DecidableRel r] {limit : Nat}

omit [DecidableEq κ] in
theorem mem_selection {x : α} (h : x ∈ ((t.records.filter p).insertionSort r).take limit) :
    x ∈ t ∧ p x = true := by
  have hsorted := List.mem_of_mem_take h
  rw [List.mem_insertionSort, List.mem_filter] at hsorted
  exact hsorted

omit [DecidableEq κ] in
theorem nodup_selection : ((((t.records.filter p).insertionSort r).take limit).map Keyed.key).Nodup := by
  have hsorted : (((t.records.filter p).insertionSort r).map Keyed.key).Nodup := by
    have hperm := (List.perm_insertionSort r (t.records.filter p)).map Keyed.key
    rw [hperm.nodup_iff]
    exact t.nodup.sublist (List.filter_sublist.map Keyed.key)
  exact hsorted.sublist ((List.take_sublist limit _).map Keyed.key)

theorem modify_selected {selected : List α} {q : α → Bool} {f : α → α} (hf : KeepsKey f)
    (hselected : ∀ x ∈ selected, x ∈ t ∧ p x = true)
    (hq : ∀ x, q x = decide (Keyed.key x ∈ selected.map Keyed.key)) :
    t.modify (fun x => q x && p x) f hf = t.modify q f hf := by
  apply modify_congr
  intro x hx
  rw [hq]
  by_cases hmem : Keyed.key x ∈ selected.map Keyed.key
  · obtain ⟨y, hy, hkey⟩ := List.mem_map.mp hmem
    obtain ⟨hyt, hyp⟩ := hselected y hy
    rw [eq_of_key hyt hx hkey] at hyp
    rw [hyp, Bool.and_true]
  · rw [decide_eq_false hmem, Bool.false_and]

end Selection

end Table

theorem find?_modify {α κ : Type} [Keyed α κ] {t : Table α} {p q : α → Bool} {f : α → α} (hf : KeepsKey f)
    (hq : ∀ x, q (f x) = q x) :
    (t.modify p f hf).records.find? q = (t.records.find? q).map fun x => if p x then f x else x := by
  have hsame : (q ∘ fun x => if p x then f x else x) = q := by
    funext x
    rw [Function.comp_apply]
    split
    · exact hq x
    · rfl
  rw [Table.modify, List.find?_map, hsame]

theorem insert_isSome {α κ : Type} [Keyed α κ] [DecidableEq κ] {t : Table α} {x : α} (h : t.get? (Keyed.key x) = none) :
    ∃ t', t.insert x = some t' := by
  cases hinsert : t.insert x with
  | some t' => exact ⟨t', rfl⟩
  | none =>
    unfold Table.insert at hinsert
    split at hinsert
    · rename_i hmem
      obtain ⟨y, hy, hkey⟩ := List.mem_map.mp hmem
      exact absurd hkey (Table.get?_eq_none.mp h y hy)
    · cases hinsert

end ByokGrid
