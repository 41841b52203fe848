import ByokGrid.JsonTree

/-! The members which the objects of a JSON text keep: the last value under each key, the array
indices before the other keys. -/

namespace ByokGrid

section Members

variable {σ α : Type} [DecidableEq σ]

def lastMembers : List (σ × α) → List (σ × α)
  | [] => []
  | (key, value) :: fields =>
    (key, ((fields.reverse.find? fun field => field.1 = key).map Prod.snd).getD value) ::
      (lastMembers fields).filter fun field => field.1 ≠ key

theorem lastMembers_nodup (fields : List (σ × α)) : ((lastMembers fields).map Prod.fst).Nodup := by
  induction fields with
  | nil => exact List.nodup_nil
  | cons field fields ih =>
    obtain ⟨key, value⟩ := field
    rw [lastMembers, List.map_cons, List.nodup_cons]
    refine ⟨?_, ?_⟩
    · rintro hkey
      obtain ⟨field, hfield, hname⟩ := List.mem_map.mp hkey
      exact absurd hname (of_decide_eq_true (List.mem_filter.mp hfield).2)
    · exact ih.sublist (List.Sublist.map _ List.filter_sublist)

theorem mem_lastMembers {fields : List (σ × α)} {field : σ × α} (h : field ∈ lastMembers fields) :
    ∃ other ∈ fields, field.2 = other.2 := by
  induction fields with
  | nil => cases h
  | cons first fields ih =>
    obtain ⟨key, value⟩ := first
    rw [lastMembers, List.mem_cons] at h
    rcases h with rfl | h
    · cases hfind : fields.reverse.find? fun field => field.1 = key with
      | none => exact ⟨(key, value), List.mem_cons_self, rfl⟩
      | some found =>
        exact ⟨found, List.mem_cons_of_mem _ (List.mem_reverse.mp (List.mem_of_find?_eq_some hfind)), rfl⟩
    · obtain ⟨other, hother, hvalue⟩ := ih (List.mem_filter.mp h).1
      exact ⟨other, List.mem_cons_of_mem _ hother, hvalue⟩

theorem lastMembers_eq_self {fields : List (σ × α)} (h : (fields.map Prod.fst).Nodup) : lastMembers fields = fields := by
  induction fields with
  | nil => rfl
  | cons field fields ih =>
    obtain ⟨key, value⟩ := field
    obtain ⟨hkey, hlater⟩ := List.nodup_cons.mp h
    have habsent : ∀ field ∈ fields, field.1 ≠ key := by
      intro field hfield heq
      exact hkey (List.mem_map.mpr ⟨field, hfield, heq⟩)
    have hfind : (fields.reverse.find? fun field => field.1 = key) = none := by
      rw [List.find?_eq_none]
      intro field hfield
      simpa using habsent field (List.mem_reverse.mp hfield)
    rw [lastMembers, ih hlater, hfind, List.filter_eq_self.mpr fun field hfield => decide_eq_true (habsent field hfield)]
    rfl

end Members

section Order

variable {σ α : Type} (arrayIndex : σ → Option Nat)

def indexBefore (left right : σ × α) : Prop :=
  (arrayIndex left.1).getD 0 ≤ (arrayIndex right.1).getD 0

instance : DecidableRel (indexBefore (α := α) arrayIndex) :=
  fun left right => inferInstanceAs (Decidable ((arrayIndex left.1).getD 0 ≤ (arrayIndex right.1).getD 0))

instance : IsTrans (σ × α) (indexBefore arrayIndex) := ⟨fun _ _ _ => Nat.le_trans⟩

instance : Std.Total (indexBefore (σ := σ) (α := α) arrayIndex) := ⟨fun _ _ => Nat.le_total _ _⟩

def orderedMembers (fields : List (σ × α)) : List (σ × α) :=
  (fields.filter fun field => (arrayIndex field.1).isSome).insertionSort (indexBefore arrayIndex) ++
    fields.filter fun field => (arrayIndex field.1).isNone

def KeyBefore (left right : σ) : Prop :=
  match arrayIndex left, arrayIndex right with
  | some i, some j => i < j
  | some _, none => True
  | none, some _ => False
  | none, none => left ≠ right

theorem orderedMembers_pairwise (hindex : ∀ left right i, arrayIndex left = some i → arrayIndex right = some i → left = right)
    {fields : List (σ × α)} (h : (fields.map Prod.fst).Nodup) :
    ((orderedMembers arrayIndex fields).map Prod.fst).Pairwise (KeyBefore arrayIndex) := by
  have hsub : ∀ p : σ × α → Bool, (fields.filter p).Pairwise fun left right => left.1 ≠ right.1 :=
    fun p => (List.pairwise_map.mp h).sublist List.filter_sublist
  have hperm := List.perm_insertionSort (indexBefore arrayIndex) (fields.filter fun field => (arrayIndex field.1).isSome)
  have hsome : ∀ field ∈ (fields.filter fun field => (arrayIndex field.1).isSome).insertionSort (indexBefore arrayIndex),
      ∃ i, arrayIndex field.1 = some i :=
    fun field hfield => Option.isSome_iff_exists.mp (List.mem_filter.mp (hperm.mem_iff.mp hfield)).2
  have hnone : ∀ field ∈ fields.filter fun field => (arrayIndex field.1).isNone, arrayIndex field.1 = none :=
    fun field hfield => Option.isNone_iff_eq_none.mp (List.mem_filter.mp hfield).2
  rw [orderedMembers, List.pairwise_map, List.pairwise_append]
  refine ⟨?_, ?_, ?_⟩
  · have hdistinct := (hperm.pairwise_iff fun hne => Ne.symm hne).mpr (hsub fun field => (arrayIndex field.1).isSome)
    have hboth := (List.pairwise_insertionSort (indexBefore arrayIndex) _).and hdistinct
    refine hboth.imp_of_mem fun {left right} hleft hright hpair => ?_
    obtain ⟨i, hi⟩ := hsome left hleft
    obtain ⟨j, hj⟩ := hsome right hright
    have hle : i ≤ j := by simpa [indexBefore, hi, hj] using hpair.1
    have hne : i ≠ j := by
      rintro rfl
      exact hpair.2 (hindex _ _ i hi hj)
    simp only [KeyBefore, hi, hj]
    omega
  · refine (hsub fun field => (arrayIndex field.1).isNone).imp_of_mem fun {left right} hleft hright hne => ?_
    simp only [KeyBefore, hnone left hleft, hnone right hright]
    exact hne
  · intro left hleft right hright
    obtain ⟨i, hi⟩ := hsome left hleft
    simp only [KeyBefore, hi, hnone right hright]

theorem orderedMembers_eq_self {fields : List (σ × α)} (h : (fields.map Prod.fst).Pairwise (KeyBefore arrayIndex)) :
    orderedMembers arrayIndex fields = fields := by
  have hpairs := List.pairwise_map.mp h
  have hsorted : (fields.filter fun field => (arrayIndex field.1).isSome).Pairwise (indexBefore arrayIndex) := by
    refine (hpairs.sublist List.filter_sublist).imp_of_mem fun {left right} hleft hright hbefore => ?_
    obtain ⟨i, hi⟩ := Option.isSome_iff_exists.mp (List.mem_filter.mp hleft).2
    obtain ⟨j, hj⟩ := Option.isSome_iff_exists.mp (List.mem_filter.mp hright).2
    have hlt : i < j := by simpa [KeyBefore, hi, hj] using hbefore
    simp only [indexBefore, hi, hj, Option.getD_some]
    exact Nat.le_of_lt hlt
  rw [orderedMembers, hsorted.insertionSort_eq]
  clear hsorted h
  induction fields with
  | nil => rfl
  | cons field fields ih =>
    obtain ⟨hfirst, hlater⟩ := List.pairwise_cons.mp hpairs
    cases hi : arrayIndex field.1 with
    | some i => rw [List.filter_cons_of_pos (by simp [hi]), List.filter_cons_of_neg (by simp [hi]), List.cons_append, ih hlater]
    | none =>
      have hnone : ∀ later ∈ fields, arrayIndex later.1 = none := by
        intro later hmem
        have hbefore := hfirst later hmem
        cases hj : arrayIndex later.1 with
        | none => rfl
        | some j => simp [KeyBefore, hi, hj] at hbefore
      rw [List.filter_cons_of_neg (by simp [hi]), List.filter_cons_of_pos (by simp [hi]),
        List.filter_eq_nil_iff.mpr fun later hmem => by simp [hnone later hmem],
        List.filter_eq_self.mpr fun later hmem => by simp [hnone later hmem]]
      rfl

theorem mem_orderedMembers {fields : List (σ × α)} {field : σ × α} : field ∈ orderedMembers arrayIndex fields ↔ field ∈ fields := by
  rw [orderedMembers, List.mem_append, List.mem_insertionSort, List.mem_filter, List.mem_filter]
  cases arrayIndex field.1 <;> simp

theorem KeyBefore.ne {left right : σ} (h : KeyBefore arrayIndex left right) : left ≠ right := by
  rintro rfl
  cases hi : arrayIndex left with
  | none => simp [KeyBefore, hi] at h
  | some i => simp [KeyBefore, hi] at h

end Order

section Values

variable {σ ν : Type} [DecidableEq σ] (arrayIndex : σ → Option Nat)

mutual

/-- The objects `JSON.parse` makes of the members it reads. -/
def JsonTree.withOwnMembers : JsonTree σ ν → JsonTree σ ν
  | .null => .null
  | .boolean value => .boolean value
  | .number value => .number value
  | .string value => .string value
  | .array items => .array (JsonTree.itemsWithOwnMembers items)
  | .object fields => .object (orderedMembers arrayIndex (lastMembers (JsonTree.fieldsWithOwnMembers fields)))

def JsonTree.itemsWithOwnMembers : List (JsonTree σ ν) → List (JsonTree σ ν)
  | [] => []
  | item :: items => item.withOwnMembers :: JsonTree.itemsWithOwnMembers items

def JsonTree.fieldsWithOwnMembers : List (σ × JsonTree σ ν) → List (σ × JsonTree σ ν)
  | [] => []
  | (key, value) :: fields => (key, value.withOwnMembers) :: JsonTree.fieldsWithOwnMembers fields

end

variable (dropped : σ)

mutual

def JsonTree.withoutKey : JsonTree σ ν → JsonTree σ ν
  | .null => .null
  | .boolean value => .boolean value
  | .number value => .number value
  | .string value => .string value
  | .array items => .array (JsonTree.itemsWithoutKey items)
  | .object fields => .object ((JsonTree.fieldsWithoutKey fields).filter fun field => field.1 ≠ dropped)

def JsonTree.itemsWithoutKey : List (JsonTree σ ν) → List (JsonTree σ ν)
  | [] => []
  | item :: items => item.withoutKey :: JsonTree.itemsWithoutKey items

def JsonTree.fieldsWithoutKey : List (σ × JsonTree σ ν) → List (σ × JsonTree σ ν)
  | [] => []
  | (key, value) :: fields => (key, value.withoutKey) :: JsonTree.fieldsWithoutKey fields

end

mutual

def JsonTree.AllKeys (p : List σ → Prop) : JsonTree σ ν → Prop
  | .null | .boolean _ | .number _ | .string _ => True
  | .array items => JsonTree.ItemsAllKeys p items
  | .object fields => p (fields.map Prod.fst) ∧ JsonTree.FieldsAllKeys p fields

def JsonTree.ItemsAllKeys (p : List σ → Prop) : List (JsonTree σ ν) → Prop
  | [] => True
  | item :: items => item.AllKeys p ∧ JsonTree.ItemsAllKeys p items

def JsonTree.FieldsAllKeys (p : List σ → Prop) : List (σ × JsonTree σ ν) → Prop
  | [] => True
  | (_, value) :: fields => value.AllKeys p ∧ JsonTree.FieldsAllKeys p fields

end

theorem fieldsWithOwnMembers_eq (fields : List (σ × JsonTree σ ν)) : JsonTree.fieldsWithOwnMembers arrayIndex fields =
    fields.map fun field => (field.1, field.2.withOwnMembers arrayIndex) := by
  induction fields with
  | nil => rfl
  | cons field fields ih => rw [JsonTree.fieldsWithOwnMembers, ih]; rfl

theorem itemsWithOwnMembers_eq (items : List (JsonTree σ ν)) : JsonTree.itemsWithOwnMembers arrayIndex items =
    items.map fun item => item.withOwnMembers arrayIndex := by
  induction items with
  | nil => rfl
  | cons item items ih => rw [JsonTree.itemsWithOwnMembers, ih]; rfl

theorem fieldsWithoutKey_eq (fields : List (σ × JsonTree σ ν)) : JsonTree.fieldsWithoutKey dropped fields =
    fields.map fun field => (field.1, field.2.withoutKey dropped) := by
  induction fields with
  | nil => rfl
  | cons field fields ih => rw [JsonTree.fieldsWithoutKey, ih]; rfl

theorem itemsWithoutKey_eq (items : List (JsonTree σ ν)) : JsonTree.itemsWithoutKey dropped items =
    items.map fun item => item.withoutKey dropped := by
  induction items with
  | nil => rfl
  | cons item items ih => rw [JsonTree.itemsWithoutKey, ih]; rfl

omit [DecidableEq σ] in
theorem fieldsAllKeys_iff {p : List σ → Prop} {fields : List (σ × JsonTree σ ν)} :
    JsonTree.FieldsAllKeys p fields ↔ ∀ field ∈ fields, field.2.AllKeys p := by
  induction fields with
  | nil => simp [JsonTree.FieldsAllKeys]
  | cons field fields ih => simp [JsonTree.FieldsAllKeys, ih]

omit [DecidableEq σ] in
theorem itemsAllKeys_iff {p : List σ → Prop} {items : List (JsonTree σ ν)} :
    JsonTree.ItemsAllKeys p items ↔ ∀ item ∈ items, item.AllKeys p := by
  induction items with
  | nil => simp [JsonTree.ItemsAllKeys]
  | cons item items ih => simp [JsonTree.ItemsAllKeys, ih]

omit [DecidableEq σ] in
theorem treeMapFields_eq (f : ν → ν) (fields : List (σ × JsonTree σ ν)) : JsonTree.mapFields f fields =
    fields.map fun field => (field.1, field.2.mapNumbers f) := by
  induction fields with
  | nil => rfl
  | cons field fields ih => rw [JsonTree.mapFields, ih]; rfl

omit [DecidableEq σ] in
theorem treeMapItems_eq (f : ν → ν) (items : List (JsonTree σ ν)) : JsonTree.mapItems f items =
    items.map fun item => item.mapNumbers f := by
  induction items with
  | nil => rfl
  | cons item items ih => rw [JsonTree.mapItems, ih]; rfl

omit [DecidableEq σ] in
theorem treeFields_iff {p : ν → Bool} {fields : List (σ × JsonTree σ ν)} :
    JsonTree.allFields p fields = true ↔ ∀ field ∈ fields, field.2.allNumbers p = true := by
  induction fields with
  | nil => simp [JsonTree.allFields]
  | cons field fields ih => simp [JsonTree.allFields, ih]

omit [DecidableEq σ] in
theorem treeItems_iff {p : ν → Bool} {items : List (JsonTree σ ν)} :
    JsonTree.allItems p items = true ↔ ∀ item ∈ items, item.allNumbers p = true := by
  induction items with
  | nil => simp [JsonTree.allItems]
  | cons item items ih => simp [JsonTree.allItems, ih]

omit [DecidableEq σ] in
@[elab_as_elim]
theorem JsonTree.inductOn {motive : JsonTree σ ν → Prop} (value : JsonTree σ ν) (null : motive .null)
    (boolean : ∀ value, motive (.boolean value)) (number : ∀ value, motive (.number value))
    (string : ∀ value, motive (.string value)) (array : ∀ items, (∀ item ∈ items, motive item) → motive (.array items))
    (object : ∀ fields : List (σ × JsonTree σ ν), (∀ field ∈ fields, motive field.2) → motive (.object fields)) :
    motive value :=
  @JsonTree.rec σ ν motive (fun items => ∀ item ∈ items, motive item) (fun fields => ∀ field ∈ fields, motive field.2)
    (fun field => motive field.2) null boolean number string array object (fun _ h => nomatch h)
    (fun _ _ hitem hitems => List.forall_mem_cons.mpr ⟨hitem, hitems⟩) (fun _ h => nomatch h)
    (fun _ _ hfield hfields => List.forall_mem_cons.mpr ⟨hfield, hfields⟩) (fun _ _ h => h) value

/-- The keys of an object of `JSON.parse`, none of them dropped. -/
structure OwnKeys (keys : List σ) : Prop where
  ordered : keys.Pairwise (KeyBefore arrayIndex)
  kept : dropped ∉ keys

theorem withOwnMembers_allKeys (hindex : ∀ left right i, arrayIndex left = some i → arrayIndex right = some i → left = right)
    (value : JsonTree σ ν) : (value.withOwnMembers arrayIndex).AllKeys fun keys => keys.Pairwise (KeyBefore arrayIndex) := by
  induction value using JsonTree.inductOn with
  | null => trivial
  | boolean value => trivial
  | number value => trivial
  | string value => trivial
  | array items ih =>
    rw [JsonTree.withOwnMembers, JsonTree.AllKeys, itemsAllKeys_iff, itemsWithOwnMembers_eq]
    exact List.forall_mem_map.mpr ih
  | object fields ih =>
    rw [JsonTree.withOwnMembers, JsonTree.AllKeys, fieldsAllKeys_iff]
    refine ⟨orderedMembers_pairwise arrayIndex hindex (lastMembers_nodup _), fun field hfield => ?_⟩
    obtain ⟨other, hother, hvalue⟩ := mem_lastMembers ((mem_orderedMembers arrayIndex).mp hfield)
    rw [fieldsWithOwnMembers_eq] at hother
    obtain ⟨source, hsource, rfl⟩ := List.mem_map.mp hother
    rw [hvalue]
    exact ih source hsource

theorem withoutKey_allKeys (value : JsonTree σ ν) (h : value.AllKeys fun keys => keys.Pairwise (KeyBefore arrayIndex)) :
    (value.withoutKey dropped).AllKeys (OwnKeys arrayIndex dropped) := by
  induction value using JsonTree.inductOn with
  | null => trivial
  | boolean value => trivial
  | number value => trivial
  | string value => trivial
  | array items ih =>
    rw [JsonTree.AllKeys, itemsAllKeys_iff] at h
    rw [JsonTree.withoutKey, JsonTree.AllKeys, itemsAllKeys_iff, itemsWithoutKey_eq]
    exact List.forall_mem_map.mpr fun item hitem => ih item hitem (h item hitem)
  | object fields ih =>
    rw [JsonTree.AllKeys, fieldsAllKeys_iff] at h
    rw [JsonTree.withoutKey, JsonTree.AllKeys, fieldsAllKeys_iff, fieldsWithoutKey_eq]
    have hkeys : (fields.map fun field => (field.1, field.2.withoutKey dropped)).map Prod.fst = fields.map Prod.fst := by
      rw [List.map_map]
      rfl
    refine ⟨⟨?_, ?_⟩, fun field hfield => ?_⟩
    · exact (hkeys ▸ h.1).sublist (List.Sublist.map _ List.filter_sublist)
    · intro hkey
      obtain ⟨field, hfield, hname⟩ := List.mem_map.mp hkey
      exact absurd hname (of_decide_eq_true (List.mem_filter.mp hfield).2)
    · obtain ⟨source, hsource, rfl⟩ := List.mem_map.mp (List.mem_filter.mp hfield).1
      exact ih source hsource (h.2 source hsource)

theorem withOwnMembers_eq_self (value : JsonTree σ ν) (h : value.AllKeys (OwnKeys arrayIndex dropped)) :
    value.withOwnMembers arrayIndex = value := by
  induction value using JsonTree.inductOn with
  | null => rfl
  | boolean value => rfl
  | number value => rfl
  | string value => rfl
  | array items ih =>
    rw [JsonTree.AllKeys, itemsAllKeys_iff] at h
    rw [JsonTree.withOwnMembers, itemsWithOwnMembers_eq,
      List.map_congr_left fun item hitem => ih item hitem (h item hitem), List.map_id']
  | object fields ih =>
    rw [JsonTree.AllKeys, fieldsAllKeys_iff] at h
    have hfields : JsonTree.fieldsWithOwnMembers arrayIndex fields = fields := by
      rw [fieldsWithOwnMembers_eq]
      conv_rhs => rw [← List.map_id fields]
      exact List.map_congr_left fun field hfield => by rw [ih field hfield (h.2 field hfield)]; rfl
    rw [JsonTree.withOwnMembers, hfields, lastMembers_eq_self (h.1.ordered.imp (KeyBefore.ne arrayIndex)),
      orderedMembers_eq_self arrayIndex h.1.ordered]

theorem withoutKey_withoutKey (value : JsonTree σ ν) : (value.withoutKey dropped).withoutKey dropped = value.withoutKey dropped := by
  induction value using JsonTree.inductOn with
  | null => rfl
  | boolean value => rfl
  | number value => rfl
  | string value => rfl
  | array items ih =>
    rw [JsonTree.withoutKey, JsonTree.withoutKey, itemsWithoutKey_eq, itemsWithoutKey_eq, List.map_map]
    exact congrArg JsonTree.array (List.map_congr_left ih)
  | object fields ih =>
    have hkept : ∀ later : List (σ × JsonTree σ ν), (JsonTree.fieldsWithoutKey dropped later).filter (fun field => field.1 ≠ dropped) =
        (later.filter fun field => field.1 ≠ dropped).map fun field => (field.1, field.2.withoutKey dropped) := by
      intro later
      rw [fieldsWithoutKey_eq, List.filter_map]
      rfl
    have hfixed : ∀ field ∈ (fields.filter fun field => field.1 ≠ dropped).map fun field => (field.1, field.2.withoutKey dropped),
        decide (field.1 ≠ dropped) = true ∧ field.2.withoutKey dropped = field.2 := by
      rw [List.forall_mem_map]
      exact fun field hfield => ⟨(List.mem_filter.mp hfield).2, ih field (List.mem_filter.mp hfield).1⟩
    rw [JsonTree.withoutKey, JsonTree.withoutKey, hkept, hkept, List.filter_eq_self.mpr fun field hfield => (hfixed field hfield).1]
    refine congrArg JsonTree.object ?_
    conv_rhs => rw [← List.map_id (List.map _ _)]
    exact List.map_congr_left fun field hfield => by rw [(hfixed field hfield).2]; rfl

theorem withoutKey_eq_self (value : JsonTree σ ν) (h : value.AllKeys (OwnKeys arrayIndex dropped)) :
    value.withoutKey dropped = value := by
  induction value using JsonTree.inductOn with
  | null => rfl
  | boolean value => rfl
  | number value => rfl
  | string value => rfl
  | array items ih =>
    rw [JsonTree.AllKeys, itemsAllKeys_iff] at h
    rw [JsonTree.withoutKey, itemsWithoutKey_eq, List.map_congr_left fun item hitem => ih item hitem (h item hitem), List.map_id']
  | object fields ih =>
    rw [JsonTree.AllKeys, fieldsAllKeys_iff] at h
    have hfields : JsonTree.fieldsWithoutKey dropped fields = fields := by
      rw [fieldsWithoutKey_eq]
      conv_rhs => rw [← List.map_id fields]
      exact List.map_congr_left fun field hfield => by rw [ih field hfield (h.2 field hfield)]; rfl
    have hkept : ∀ field ∈ fields, decide (field.1 ≠ dropped) = true := by
      intro field hfield
      refine decide_eq_true fun heq => h.1.kept ?_
      rw [← heq]
      exact List.mem_map_of_mem hfield
    rw [JsonTree.withoutKey, hfields, List.filter_eq_self.mpr hkept]

omit [DecidableEq σ] in
theorem mapNumbers_allKeys {p : List σ → Prop} (f : ν → ν) (value : JsonTree σ ν) (h : value.AllKeys p) :
    (value.mapNumbers f).AllKeys p := by
  induction value using JsonTree.inductOn with
  | null => trivial
  | boolean value => trivial
  | number value => trivial
  | string value => trivial
  | array items ih =>
    rw [JsonTree.AllKeys, itemsAllKeys_iff] at h
    rw [JsonTree.mapNumbers, JsonTree.AllKeys, itemsAllKeys_iff, treeMapItems_eq]
    exact List.forall_mem_map.mpr fun item hitem => ih item hitem (h item hitem)
  | object fields ih =>
    rw [JsonTree.AllKeys, fieldsAllKeys_iff] at h
    rw [JsonTree.mapNumbers, JsonTree.AllKeys, fieldsAllKeys_iff, treeMapFields_eq]
    refine ⟨?_, List.forall_mem_map.mpr fun field hfield => ih field hfield (h.2 field hfield)⟩
    rw [List.map_map]
    exact h.1

omit [DecidableEq σ] in
theorem mapNumbers_allNumbers {p q : ν → Bool} {f : ν → ν} (hf : ∀ n, p n = true → q (f n) = true) (value : JsonTree σ ν)
    (h : value.allNumbers p = true) : (value.mapNumbers f).allNumbers q = true := by
  induction value using JsonTree.inductOn with
  | null => rfl
  | boolean value => rfl
  | number value => exact hf value h
  | string value => rfl
  | array items ih =>
    rw [JsonTree.allNumbers, treeItems_iff] at h
    rw [JsonTree.mapNumbers, JsonTree.allNumbers, treeItems_iff, treeMapItems_eq]
    exact List.forall_mem_map.mpr fun item hitem => ih item hitem (h item hitem)
  | object fields ih =>
    rw [JsonTree.allNumbers, treeFields_iff] at h
    rw [JsonTree.mapNumbers, JsonTree.allNumbers, treeFields_iff, treeMapFields_eq]
    exact List.forall_mem_map.mpr fun field hfield => ih field hfield (h field hfield)

omit [DecidableEq σ] in
theorem mapNumbers_congr {f g : ν → ν} (p : ν → Bool) (hfg : ∀ n, p n = true → f n = g n) (value : JsonTree σ ν)
    (h : value.allNumbers p = true) : value.mapNumbers f = value.mapNumbers g := by
  induction value using JsonTree.inductOn with
  | null => rfl
  | boolean value => rfl
  | number value => rw [JsonTree.mapNumbers, JsonTree.mapNumbers, hfg value h]
  | string value => rfl
  | array items ih =>
    rw [JsonTree.allNumbers, treeItems_iff] at h
    rw [JsonTree.mapNumbers, JsonTree.mapNumbers, treeMapItems_eq, treeMapItems_eq,
      List.map_congr_left fun item hitem => ih item hitem (h item hitem)]
  | object fields ih =>
    rw [JsonTree.allNumbers, treeFields_iff] at h
    rw [JsonTree.mapNumbers, JsonTree.mapNumbers, treeMapFields_eq, treeMapFields_eq,
      List.map_congr_left fun field hfield => by rw [ih field hfield (h field hfield)]]

end Values

end ByokGrid
