import ByokGrid.JsonMembers

/-! JSON values up to the order of their members: what a stable sort of the members by a
comparison of their keys keeps of that order. -/

namespace ByokGrid

section Stable

variable {α κ : Type} (before : κ → κ → Prop) [DecidableRel before] (key : α → κ)

def Tied (k l : κ) : Prop :=
  before k l ∧ before l k

instance : DecidableRel (Tied before) :=
  fun k l => inferInstanceAs (Decidable (before k l ∧ before l k))

def sortBy (xs : List α) : List α :=
  xs.insertionSort fun x y => before (key x) (key y)

def tiedWith (k : κ) (xs : List α) : List α :=
  xs.filter fun x => Tied before k (key x)

variable {before key}

theorem sortBy_perm (xs : List α) : (sortBy before key xs).Perm xs :=
  List.perm_insertionSort _ xs

variable [Std.Total before] [IsTrans κ before]

omit [DecidableRel before] [IsTrans κ before] in
theorem before_refl (k : κ) : before k k :=
  (Std.Total.total (r := before) k k).elim id id

omit [DecidableRel before] [Std.Total before] in
theorem Tied.trans {j k l : κ} (h : Tied before j k) (h' : Tied before k l) : Tied before j l :=
  ⟨IsTrans.trans _ _ _ h.1 h'.1, IsTrans.trans _ _ _ h'.2 h.2⟩

theorem sortBy_sorted (xs : List α) : (sortBy before key xs).Pairwise fun x y => before (key x) (key y) := by
  have : Std.Total fun x y : α => before (key x) (key y) := ⟨fun x y => Std.Total.total (key x) (key y)⟩
  have : IsTrans α fun x y => before (key x) (key y) := ⟨fun _ _ _ => IsTrans.trans _ _ _⟩
  exact List.pairwise_insertionSort _ xs

omit [Std.Total before] in
theorem tiedWith_sortBy (k : κ) (xs : List α) : tiedWith before key k (sortBy before key xs) = tiedWith before key k xs := by
  have hpairs : (tiedWith before key k xs).Pairwise fun x y => before (key x) (key y) := by
    refine List.pairwise_of_forall_mem_list fun x hx y hy => ?_
    have hfirst : Tied before k (key x) := of_decide_eq_true (List.mem_filter.mp hx).2
    have hsecond : Tied before k (key y) := of_decide_eq_true (List.mem_filter.mp hy).2
    exact IsTrans.trans _ _ _ hfirst.2 hsecond.1
  have hsublist := (List.sublist_insertionSort hpairs List.filter_sublist).filter fun x => Tied before k (key x)
  rw [tiedWith, List.filter_filter] at hsublist
  simp only [Bool.and_self] at hsublist
  refine (hsublist.eq_of_length ?_).symm
  exact ((sortBy_perm xs).filter _).length_eq.symm

omit [IsTrans κ before] in
theorem eq_of_tiedWith {xs ys : List α} (hx : xs.Pairwise fun x y => before (key x) (key y))
    (hy : ys.Pairwise fun x y => before (key x) (key y)) (h : ∀ k, tiedWith before key k xs = tiedWith before key k ys) :
    xs = ys := by
  have hmem : ∀ zs : List α, ∀ z, z ∈ tiedWith before key (key z) zs ↔ z ∈ zs := by
    intro zs z
    rw [tiedWith, List.mem_filter]
    exact and_iff_left (decide_eq_true ⟨before_refl _, before_refl _⟩)
  induction xs generalizing ys with
  | nil =>
    cases ys with
    | nil => rfl
    | cons y ys =>
      have hin := (hmem (y :: ys) y).mpr List.mem_cons_self
      rw [← h] at hin
      cases hin
  | cons x xs ih =>
    cases ys with
    | nil =>
      have hin := (hmem (x :: xs) x).mpr List.mem_cons_self
      rw [h] at hin
      cases hin
    | cons y ys =>
      obtain ⟨hfirst, hrest⟩ := List.pairwise_cons.mp hx
      obtain ⟨hfirst', hrest'⟩ := List.pairwise_cons.mp hy
      have hxy : before (key x) (key y) := by
        have hin := (hmem (x :: xs) y).mp (h (key y) ▸ (hmem (y :: ys) y).mpr List.mem_cons_self)
        rcases List.mem_cons.mp hin with rfl | hin
        · exact before_refl _
        · exact hfirst y hin
      have hyx : before (key y) (key x) := by
        have hin := (hmem (y :: ys) x).mp (h (key x) ▸ (hmem (x :: xs) x).mpr List.mem_cons_self)
        rcases List.mem_cons.mp hin with rfl | hin
        · exact before_refl _
        · exact hfirst' x hin
      have hself : decide (Tied before (key x) (key x)) = true := decide_eq_true ⟨before_refl _, before_refl _⟩
      have hother : decide (Tied before (key x) (key y)) = true := decide_eq_true ⟨hxy, hyx⟩
      have hheads := h (key x)
      simp only [tiedWith, List.filter_cons, hself, hother, if_true] at hheads
      obtain ⟨rfl, _⟩ := List.cons.inj hheads
      refine congrArg (x :: ·) (ih hrest hrest' fun k => ?_)
      have htails := h k
      simp only [tiedWith, List.filter_cons] at htails ⊢
      split at htails
      · exact (List.cons.inj htails).2
      · exact htails

theorem sortBy_eq_iff {xs ys : List α} :
    sortBy before key xs = sortBy before key ys ↔ ∀ k, tiedWith before key k xs = tiedWith before key k ys := by
  constructor
  · intro h k
    rw [← tiedWith_sortBy, h, tiedWith_sortBy]
  · intro h
    refine eq_of_tiedWith (sortBy_sorted xs) (sortBy_sorted ys) fun k => ?_
    rw [tiedWith_sortBy, tiedWith_sortBy, h]

theorem sortBy_eq_of_perm {xs ys : List α} (hantisymm : ∀ k l, Tied before k l → k = l) (hdistinct : (xs.map key).Nodup)
    (h : xs.Perm ys) : sortBy before key xs = sortBy before key ys := by
  refine List.Perm.eq_of_pairwise (fun x y hx hy hxy hyx => ?_) (sortBy_sorted xs) (sortBy_sorted ys)
    (((sortBy_perm xs).trans h).trans (sortBy_perm ys).symm)
  have hx' := (sortBy_perm xs).mem_iff.mp hx
  have hy' := h.mem_iff.mpr ((sortBy_perm ys).mem_iff.mp hy)
  exact List.inj_on_of_nodup_map hdistinct hx' hy' (hantisymm _ _ ⟨hxy, hyx⟩)

end Stable

section Values

variable {σ ν : Type}

mutual

/-- Equal values, where `kept` says which orders of the keys of an object may stand for one another, and `same`
which numbers: every member of one object is a member of the other, and there are as many. -/
def JsonTree.Alike (kept : List σ → List σ → Prop) (same : ν → ν → Prop) : JsonTree σ ν → JsonTree σ ν → Prop
  | .null, .null => True
  | .boolean left, .boolean right => left = right
  | .number left, .number right => same left right
  | .string left, .string right => left = right
  | .array left, .array right => JsonTree.ItemsAlike kept same left right
  | .object left, .object right =>
    left.length = right.length ∧ kept (left.map Prod.fst) (right.map Prod.fst) ∧ JsonTree.MembersAlike kept same left right
  | _, _ => False

def JsonTree.ItemsAlike (kept : List σ → List σ → Prop) (same : ν → ν → Prop) :
    List (JsonTree σ ν) → List (JsonTree σ ν) → Prop
  | [], [] => True
  | left :: lefts, right :: rights => left.Alike kept same right ∧ JsonTree.ItemsAlike kept same lefts rights
  | _, _ => False

def JsonTree.MembersAlike (kept : List σ → List σ → Prop) (same : ν → ν → Prop) :
    List (σ × JsonTree σ ν) → List (σ × JsonTree σ ν) → Prop
  | [], _ => True
  | (key, value) :: fields, others =>
    (∃ other, (key, other) ∈ others ∧ value.Alike kept same other) ∧ JsonTree.MembersAlike kept same fields others

end

theorem membersAlike_iff {kept : List σ → List σ → Prop} {same : ν → ν → Prop} {fields others : List (σ × JsonTree σ ν)} :
    JsonTree.MembersAlike kept same fields others ↔
      ∀ field ∈ fields, ∃ other, (field.1, other) ∈ others ∧ field.2.Alike kept same other := by
  induction fields with
  | nil => simp [JsonTree.MembersAlike]
  | cons field fields ih => rw [JsonTree.MembersAlike, ih, List.forall_mem_cons]

theorem itemsAlike_iff {kept : List σ → List σ → Prop} {same : ν → ν → Prop} {items others : List (JsonTree σ ν)} :
    JsonTree.ItemsAlike kept same items others ↔ List.Forall₂ (JsonTree.Alike kept same) items others := by
  induction items generalizing others with
  | nil => cases others <;> simp [JsonTree.ItemsAlike]
  | cons item items ih => cases others <;> simp [JsonTree.ItemsAlike, ih]

variable (before : σ → σ → Prop) [DecidableRel before]

mutual

def JsonTree.sorted : JsonTree σ ν → JsonTree σ ν
  | .null => .null
  | .boolean value => .boolean value
  | .number value => .number value
  | .string value => .string value
  | .array items => .array (JsonTree.sortedItems items)
  | .object fields => .object (sortBy before Prod.fst (JsonTree.sortedMembers fields))

def JsonTree.sortedItems : List (JsonTree σ ν) → List (JsonTree σ ν)
  | [] => []
  | item :: items => item.sorted :: JsonTree.sortedItems items

def JsonTree.sortedMembers : List (σ × JsonTree σ ν) → List (σ × JsonTree σ ν)
  | [] => []
  | (key, value) :: fields => (key, value.sorted) :: JsonTree.sortedMembers fields

end

theorem sortedItems_eq (items : List (JsonTree σ ν)) : JsonTree.sortedItems before items = items.map (JsonTree.sorted before) := by
  induction items with
  | nil => rfl
  | cons item items ih => rw [JsonTree.sortedItems, ih, List.map_cons]

theorem sortedMembers_eq (fields : List (σ × JsonTree σ ν)) : JsonTree.sortedMembers before fields =
    fields.map fun field => (field.1, field.2.sorted before) := by
  induction fields with
  | nil => rfl
  | cons field fields ih => rw [JsonTree.sortedMembers, ih, List.map_cons]

theorem sorted_allNumbers {p : ν → Bool} {value : JsonTree σ ν} :
    (value.sorted before).allNumbers p = true ↔ value.allNumbers p = true := by
  induction value using JsonTree.inductOn with
  | null => exact Iff.rfl
  | boolean value => exact Iff.rfl
  | number value => exact Iff.rfl
  | string value => exact Iff.rfl
  | array items ih =>
    rw [JsonTree.sorted, JsonTree.allNumbers, JsonTree.allNumbers, treeItems_iff, treeItems_iff, sortedItems_eq, List.forall_mem_map]
    exact forall₂_congr ih
  | object fields ih =>
    rw [JsonTree.sorted, JsonTree.allNumbers, JsonTree.allNumbers, treeFields_iff, treeFields_iff, sortedMembers_eq]
    have hperm : (sortBy before Prod.fst (fields.map fun field => (field.1, field.2.sorted before))).Perm _ := sortBy_perm _
    simp only [hperm.mem_iff, List.forall_mem_map]
    exact forall₂_congr ih

theorem mapNumbers_id (value : JsonTree σ ν) : value.mapNumbers id = value := by
  induction value using JsonTree.inductOn with
  | null => rfl
  | boolean value => rfl
  | number value => rfl
  | string value => rfl
  | array items ih => rw [JsonTree.mapNumbers, treeMapItems_eq, List.map_congr_left ih, List.map_id']
  | object fields ih =>
    rw [JsonTree.mapNumbers, treeMapFields_eq, List.map_congr_left fun field hfield => by rw [ih field hfield], List.map_id']

def TiesKept (keys others : List σ) : Prop :=
  ∀ k, tiedWith before id k keys = tiedWith before id k others

variable {before}

theorem tiesKept_of_untied [Std.Total before] [IsTrans σ before] {keys others : List σ}
    (huntied : keys.Pairwise fun k l => ¬ Tied before k l) (hperm : keys.Perm others) : TiesKept before keys others := by
  intro k
  have htied : (tiedWith before id k keys).Perm (tiedWith before id k others) := hperm.filter _
  have hshort : (tiedWith before id k keys).length ≤ 1 := by
    have hpairs := huntied.sublist (List.filter_sublist (p := fun l => decide (Tied before k (id l))))
    change (tiedWith before id k keys).Pairwise _ at hpairs
    have hmem : ∀ l ∈ tiedWith before id k keys, Tied before k l := fun l hl => of_decide_eq_true (List.mem_filter.mp hl).2
    match hlist : tiedWith before id k keys with
    | [] => simp
    | [_] => simp
    | first :: second :: rest =>
      rw [hlist] at hpairs hmem
      have hfirst := hmem first List.mem_cons_self
      have hsecond := hmem second (List.mem_cons_of_mem _ List.mem_cons_self)
      have hnot := (List.pairwise_cons.mp hpairs).1 second List.mem_cons_self
      exact absurd (Tied.trans ⟨hfirst.2, hfirst.1⟩ hsecond) hnot
  match hlist : tiedWith before id k keys with
  | [] =>
    rw [hlist] at htied
    exact htied.nil_eq
  | [l] =>
    rw [hlist] at htied
    exact (List.perm_singleton.mp htied.symm).symm
  | first :: second :: rest =>
    rw [hlist] at hshort
    simp at hshort

theorem allKeys_imp₂ {p q r : List σ → Prop} (h : ∀ keys, p keys → q keys → r keys) {value : JsonTree σ ν}
    (hp : value.AllKeys p) (hq : value.AllKeys q) : value.AllKeys r := by
  induction value using JsonTree.inductOn with
  | null => trivial
  | boolean value => trivial
  | number value => trivial
  | string value => trivial
  | array items ih =>
    rw [JsonTree.AllKeys, itemsAllKeys_iff] at hp hq ⊢
    exact fun item hitem => ih item hitem (hp item hitem) (hq item hitem)
  | object fields ih =>
    rw [JsonTree.AllKeys, fieldsAllKeys_iff] at hp hq ⊢
    exact ⟨h _ hp.1 hq.1, fun field hfield => ih field hfield (hp.2 field hfield) (hq.2 field hfield)⟩

theorem allKeys_imp {p q : List σ → Prop} (h : ∀ keys, p keys → q keys) {value : JsonTree σ ν} (hp : value.AllKeys p) :
    value.AllKeys q :=
  allKeys_imp₂ (fun keys hkeys _ => h keys hkeys) hp hp

theorem length_orderedMembers {α : Type} (arrayIndex : σ → Option Nat) (fields : List (σ × α)) :
    (orderedMembers arrayIndex fields).length = fields.length := by
  have hsplit := List.length_eq_length_filter_add (l := fields) fun field => (arrayIndex field.1).isSome
  have hnone : (fields.filter fun field => (arrayIndex field.1).isNone) =
      fields.filter fun field => !(arrayIndex field.1).isSome :=
    List.filter_congr fun field _ => (Option.not_isSome (arrayIndex field.1)).symm
  rw [orderedMembers, List.length_append, List.length_insertionSort, hnone]
  exact hsplit.symm

theorem eq_of_keys {α : Type} {table xs ys : List (σ × α)} (hnd : (table.map Prod.fst).Nodup) (hxs : xs ⊆ table)
    (hys : ys ⊆ table) (h : xs.map Prod.fst = ys.map Prod.fst) : xs = ys := by
  induction xs generalizing ys with
  | nil => exact (List.map_eq_nil_iff.mp h.symm).symm
  | cons x xs ih =>
    cases ys with
    | nil => cases h
    | cons y ys =>
      obtain ⟨hkey, hkeys⟩ := List.cons.inj h
      have hxy : x = y := List.inj_on_of_nodup_map hnd (hxs List.mem_cons_self) (hys List.mem_cons_self) hkey
      have hrest := ih (List.subset_of_cons_subset hxs) (List.subset_of_cons_subset hys) hkeys
      rw [hxy, hrest]

theorem tiedWith_fst {α : Type} (k : σ) (xs : List (σ × α)) :
    (tiedWith before Prod.fst k xs).map Prod.fst = tiedWith before id k (xs.map Prod.fst) := by
  rw [tiedWith, tiedWith, List.filter_map]
  rfl

variable (before) (f : ν → ν)

def JsonTree.normal (value : JsonTree σ ν) : JsonTree σ ν :=
  (value.sorted before).mapNumbers f

def normalMembers (fields : List (σ × JsonTree σ ν)) : List (σ × JsonTree σ ν) :=
  fields.map fun field => (field.1, field.2.normal before f)

theorem normalMembers_fst (fields : List (σ × JsonTree σ ν)) : (normalMembers before f fields).map Prod.fst = fields.map Prod.fst := by
  rw [normalMembers, List.map_map]
  rfl

theorem normal_array (items : List (JsonTree σ ν)) : (JsonTree.array items).normal before f =
    .array (items.map (JsonTree.normal before f)) := by
  rw [JsonTree.normal, JsonTree.sorted, JsonTree.mapNumbers, treeMapItems_eq, sortedItems_eq, List.map_map]
  rfl

theorem normal_object (fields : List (σ × JsonTree σ ν)) : (JsonTree.object fields).normal before f =
    .object (sortBy before Prod.fst (normalMembers before f fields)) := by
  have hsort : (sortBy before Prod.fst (fields.map fun field => (field.1, field.2.sorted before))).map
      (fun field => (field.1, field.2.mapNumbers f)) = sortBy before Prod.fst (normalMembers before f fields) := by
    rw [sortBy, List.map_insertionSort _ (fun left right : σ × JsonTree σ ν => before left.1 right.1), List.map_map]
    · rfl
    · exact fun _ _ _ _ => Iff.rfl
  rw [JsonTree.normal, JsonTree.sorted, JsonTree.mapNumbers, treeMapFields_eq, sortedMembers_eq, hsort]

variable {before f} [Std.Total before] [IsTrans σ before]

theorem sortBy_normalMembers_iff {fields others : List (σ × JsonTree σ ν)} (hothers : (others.map Prod.fst).Nodup)
    (ih : ∀ field ∈ fields, ∀ other ∈ others, field.2.normal before f = other.2.normal before f ↔
      field.2.Alike (TiesKept before) (fun m n => f m = f n) other.2) :
    sortBy before Prod.fst (normalMembers before f fields) = sortBy before Prod.fst (normalMembers before f others) ↔
      fields.length = others.length ∧ TiesKept before (fields.map Prod.fst) (others.map Prod.fst) ∧
        JsonTree.MembersAlike (TiesKept before) (fun m n => f m = f n) fields others := by
  have hkeys : ∀ members : List (σ × JsonTree σ ν), ∀ k, (tiedWith before Prod.fst k (normalMembers before f members)).map Prod.fst =
      tiedWith before id k (members.map Prod.fst) := by
    intro members k
    rw [tiedWith_fst, normalMembers_fst]
  rw [membersAlike_iff, sortBy_eq_iff]
  constructor
  · intro h
    have hsorted : (sortBy before Prod.fst (normalMembers before f fields)).Perm _ := sortBy_perm _
    rw [sortBy_eq_iff.mpr h] at hsorted
    have hperm := hsorted.symm.trans (sortBy_perm (normalMembers before f others))
    refine ⟨?_, fun k => ?_, fun field hfield => ?_⟩
    · have hlength := hperm.length_eq
      rwa [normalMembers, normalMembers, List.length_map, List.length_map] at hlength
    · rw [← hkeys, ← hkeys, h]
    · obtain ⟨other, hother, heq⟩ := List.mem_map.mp (hperm.mem_iff.mp (List.mem_map_of_mem hfield))
      obtain ⟨hkey, hvalue⟩ := Prod.mk.inj heq
      exact ⟨other.2, hkey ▸ hother, (ih field hfield other hother).mp hvalue.symm⟩
  · intro ⟨_, hties, hmembers⟩ k
    have hnd : ((normalMembers before f others).map Prod.fst).Nodup := by
      rw [normalMembers_fst]
      exact hothers
    refine eq_of_keys hnd (fun entry hentry => ?_) (List.filter_subset_self _) ?_
    · obtain ⟨field, hfield, rfl⟩ := List.mem_map.mp (List.mem_filter.mp hentry).1
      obtain ⟨other, hother, hvalue⟩ := hmembers field hfield
      have hnormal := (ih field hfield (field.1, other) hother).mpr hvalue
      rw [hnormal]
      exact List.mem_map_of_mem hother
    · rw [hkeys, hkeys]
      exact hties k

theorem normal_eq_iff {value other : JsonTree σ ν} (hvalue : value.AllKeys List.Nodup) (hother : other.AllKeys List.Nodup) :
    value.normal before f = other.normal before f ↔ value.Alike (TiesKept before) (fun m n => f m = f n) other := by
  induction value using JsonTree.inductOn generalizing other with
  | null => cases other <;> simp [JsonTree.normal, JsonTree.sorted, JsonTree.mapNumbers, JsonTree.Alike]
  | boolean value => cases other <;> simp [JsonTree.normal, JsonTree.sorted, JsonTree.mapNumbers, JsonTree.Alike]
  | number value => cases other <;> simp [JsonTree.normal, JsonTree.sorted, JsonTree.mapNumbers, JsonTree.Alike]
  | string value => cases other <;> simp [JsonTree.normal, JsonTree.sorted, JsonTree.mapNumbers, JsonTree.Alike]
  | array items ih =>
    cases other with
    | array others =>
      rw [JsonTree.AllKeys, itemsAllKeys_iff] at hvalue hother
      rw [normal_array, normal_array, JsonTree.array.injEq, JsonTree.Alike, itemsAlike_iff]
      induction items generalizing others with
      | nil => cases others <;> simp
      | cons item items ihitems =>
        cases others with
        | nil => simp
        | cons next others =>
          rw [List.map_cons, List.map_cons, List.cons.injEq, List.forall₂_cons,
            ih item List.mem_cons_self (hvalue item List.mem_cons_self) (hother next List.mem_cons_self),
            ihitems (fun later hlater => ih later (List.mem_cons_of_mem _ hlater))
              (fun later hlater => hvalue later (List.mem_cons_of_mem _ hlater)) others
              fun later hlater => hother later (List.mem_cons_of_mem _ hlater)]
    | null | boolean _ | number _ | string _ | object _ =>
      simp [JsonTree.normal, JsonTree.sorted, JsonTree.mapNumbers, JsonTree.Alike]
  | object fields ih =>
    cases other with
    | object others =>
      rw [JsonTree.AllKeys, fieldsAllKeys_iff] at hvalue hother
      rw [normal_object, normal_object, JsonTree.object.injEq, JsonTree.Alike]
      exact sortBy_normalMembers_iff hother.1 fun field hfield next hnext =>
        ih field hfield (hvalue.2 field hfield) (hother.2 next hnext)
    | null | boolean _ | number _ | string _ | array _ =>
      simp [JsonTree.normal, JsonTree.sorted, JsonTree.mapNumbers, JsonTree.Alike]

theorem sorted_eq_of_alike {value other : JsonTree σ ν} (hvalue : value.AllKeys List.Nodup) (hother : other.AllKeys List.Nodup)
    (h : value.Alike (TiesKept before) (fun m n => m = n) other) : value.sorted before = other.sorted before := by
  have hnormal : value.normal before id = other.normal before id := (normal_eq_iff hvalue hother).mpr h
  rwa [JsonTree.normal, JsonTree.normal, mapNumbers_id, mapNumbers_id] at hnormal

omit [DecidableRel before] [Std.Total before] [IsTrans σ before] in
theorem keys_perm {kept : List σ → List σ → Prop} {same : ν → ν → Prop} {fields others : List (σ × JsonTree σ ν)}
    (hfields : (fields.map Prod.fst).Nodup) (hlength : fields.length = others.length)
    (hmembers : JsonTree.MembersAlike kept same fields others) : (fields.map Prod.fst).Perm (others.map Prod.fst) := by
  rw [membersAlike_iff] at hmembers
  refine (List.subperm_of_subset hfields fun key hkey => ?_).perm_of_length_le
    (by rw [List.length_map, List.length_map, hlength])
  obtain ⟨field, hfield, rfl⟩ := List.mem_map.mp hkey
  obtain ⟨other, hother, _⟩ := hmembers field hfield
  exact List.mem_map.mpr ⟨_, hother, rfl⟩

omit [DecidableRel before] [Std.Total before] [IsTrans σ before] in
theorem JsonTree.Alike.imp {kept kept' : List σ → List σ → Prop} {same : ν → ν → Prop} {p : List σ → Prop}
    (hnodup : ∀ keys, p keys → keys.Nodup)
    (hkept : ∀ keys others, p keys → keys.Perm others → kept keys others → kept' keys others)
    {value other : JsonTree σ ν} (hvalue : value.AllKeys p) (h : value.Alike kept same other) : value.Alike kept' same other := by
  induction value using JsonTree.inductOn generalizing other with
  | null => cases other <;> exact h
  | boolean value => cases other <;> exact h
  | number value => cases other <;> exact h
  | string value => cases other <;> exact h
  | array items ih =>
    cases other with
    | array others =>
      rw [JsonTree.AllKeys, itemsAllKeys_iff] at hvalue
      rw [JsonTree.Alike, itemsAlike_iff] at h ⊢
      induction h with
      | nil => exact .nil
      | cons hitem _ ihitems =>
        have hrest := ihitems (fun later hlater => ih later (List.mem_cons_of_mem _ hlater))
          fun later hlater => hvalue later (List.mem_cons_of_mem _ hlater)
        exact .cons (ih _ List.mem_cons_self (hvalue _ List.mem_cons_self) hitem) hrest
    | null | boolean _ | number _ | string _ | object _ => cases h
  | object fields ih =>
    cases other with
    | object others =>
      rw [JsonTree.AllKeys, fieldsAllKeys_iff] at hvalue
      obtain ⟨hlength, hkeys, hmembers⟩ := h
      have hperm := keys_perm (hnodup _ hvalue.1) hlength hmembers
      refine ⟨hlength, hkept _ _ hvalue.1 hperm hkeys, ?_⟩
      rw [membersAlike_iff] at hmembers ⊢
      intro field hfield
      obtain ⟨next, hnext, hsame⟩ := hmembers field hfield
      exact ⟨next, hnext, ih field hfield (hvalue.2 field hfield) hsame⟩
    | null | boolean _ | number _ | string _ | array _ => cases h

def anyOrder (_ _ : List σ) : Prop := True

theorem alike_anyOrder_iff {same : ν → ν → Prop} {value other : JsonTree σ ν}
    (hvalue : value.AllKeys fun keys => keys.Pairwise fun k l => ¬ Tied before k l) :
    value.Alike (TiesKept before) same other ↔ value.Alike anyOrder same other := by
  have hnodup : ∀ keys : List σ, (keys.Pairwise fun k l => ¬ Tied before k l) → keys.Nodup := by
    intro keys hkeys
    refine hkeys.imp fun {k l} hnot heq => hnot ?_
    rw [heq]
    exact ⟨before_refl l, before_refl l⟩
  exact ⟨fun h => h.imp hnodup (fun _ _ _ _ _ => trivial) hvalue,
    fun h => h.imp hnodup (fun _ _ huntied hperm _ => tiesKept_of_untied huntied hperm) hvalue⟩

omit [Std.Total before] [IsTrans σ before] in
theorem alike_withOwnMembers [DecidableEq σ] (arrayIndex : σ → Option Nat) {same : ν → ν → Prop} (hsame : ∀ n, same (f n) n)
    {value : JsonTree σ ν} (hvalue : value.AllKeys List.Nodup) :
    ((value.normal before f).withOwnMembers arrayIndex).Alike anyOrder same value := by
  induction value using JsonTree.inductOn with
  | null => trivial
  | boolean value => rfl
  | number value => exact hsame value
  | string value => rfl
  | array items ih =>
    rw [JsonTree.AllKeys, itemsAllKeys_iff] at hvalue
    rw [normal_array, JsonTree.withOwnMembers, itemsWithOwnMembers_eq, List.map_map, JsonTree.Alike, itemsAlike_iff,
      List.forall₂_map_left_iff, List.forall₂_same]
    exact fun item hitem => ih item hitem (hvalue item hitem)
  | object fields ih =>
    rw [JsonTree.AllKeys, fieldsAllKeys_iff] at hvalue
    have hkeys : ∀ members : List (σ × JsonTree σ ν),
        (members.map fun field => (field.1, field.2.withOwnMembers arrayIndex)).map Prod.fst = members.map Prod.fst := by
      intro members
      rw [List.map_map]
      rfl
    have hsorted : (sortBy before Prod.fst (normalMembers before f fields)).Perm _ := sortBy_perm _
    have hdistinct : ((sortBy before Prod.fst (normalMembers before f fields)).map Prod.fst).Nodup := by
      rw [(hsorted.map Prod.fst).nodup_iff, normalMembers_fst]
      exact hvalue.1
    rw [normal_object, JsonTree.withOwnMembers, fieldsWithOwnMembers_eq, lastMembers_eq_self (by rw [hkeys]; exact hdistinct)]
    refine ⟨?_, trivial, membersAlike_iff.mpr fun field hfield => ?_⟩
    · rw [length_orderedMembers, List.length_map, hsorted.length_eq, normalMembers, List.length_map]
    · obtain ⟨member, hmember, rfl⟩ := List.mem_map.mp ((mem_orderedMembers arrayIndex).mp hfield)
      obtain ⟨source, hsource, rfl⟩ := List.mem_map.mp (hsorted.mem_iff.mp hmember)
      exact ⟨source.2, hsource, ih source hsource (hvalue.2 source hsource)⟩

end Values

end ByokGrid
