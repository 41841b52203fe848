import ByokGrid.SortedTexts
import ByokGrid.WorkspacePurge

/-! The canonical text of a workflow graph, and its digest. -/

namespace ByokGrid

/-- A value of the language as `JSON.stringify` takes it. -/
inductive JsValue (σ ν : Type) where
  | undefined
  | null
  | boolean (value : Bool)
  | number (value : ν)
  | string (value : σ)
  | array (items : List (JsValue σ ν))
  | object (fields : List (σ × JsValue σ ν))

def JsValue.isUndefined {σ ν : Type} : JsValue σ ν → Bool
  | .undefined => true
  | .null | .boolean _ | .number _ | .string _ | .array _ | .object _ => false

/-- `localeCompare`: a total preorder, in which canonically equivalent strings are equal. The canonical
form of an ASCII string is the string. -/
class LocaleRuntime where
  localeCompare : JsString → JsString → Ordering
  canonicalForm : JsString → JsString
  consistent : Std.TransCmp localeCompare
  equivalent : ∀ left right, localeCompare left right = .eq ↔ canonicalForm left = canonicalForm right
  ascii : ∀ text : String, (∀ c ∈ text.toList, c.toNat < 128) → canonicalForm (.ofString text) = .ofString text

def localeBefore [LocaleRuntime] (left right : JsString) : Prop :=
  LocaleRuntime.localeCompare left right ≠ .gt

instance [LocaleRuntime] : DecidableRel localeBefore :=
  fun left right => inferInstanceAs (Decidable (LocaleRuntime.localeCompare left right ≠ .gt))

section Texts

variable {ν : Type} [SourceRuntime ν] [LocaleRuntime]

mutual

/-- `canonicalJson`. -/
def JsValue.canonicalText : JsValue JsString ν → List Char
  | .undefined | .null => ['n', 'u', 'l', 'l']
  | .boolean value => JsonTree.text JsString.codec (numberText (ν := ν)) (.boolean value)
  | .number value => (numberText value).toList
  | .string value => quoteKey value
  | .array items => '[' :: ([','].intercalate (JsValue.canonicalItems items) ++ [']'])
  | .object fields =>
    let sorted := sortBy localeBefore Prod.fst (JsValue.canonicalFields fields)
    '\x7b' :: ([','].intercalate (sorted.map fun field => quoteKey field.1 ++ ':' :: field.2) ++ ['\x7d'])

def JsValue.canonicalItems : List (JsValue JsString ν) → List (List Char)
  | [] => []
  | item :: items => JsValue.canonicalText item :: JsValue.canonicalItems items

def JsValue.canonicalFields : List (JsString × JsValue JsString ν) → List (JsString × List Char)
  | [] => []
  | (key, value) :: fields =>
    if value.isUndefined then JsValue.canonicalFields fields else (key, JsValue.canonicalText value) :: JsValue.canonicalFields fields

end

def JsValue.canonicalJson (value : JsValue JsString ν) : String :=
  .ofList (JsValue.canonicalText value)

def JsValue.digestWorkflowGraph [DigestRuntime] (graph : JsValue JsString ν) : String :=
  DigestRuntime.sha256 (JsValue.canonicalJson graph)

end Texts

section Defined

variable {σ ν : Type}

mutual

/-- A member which is undefined is dropped, an item is `null`. -/
def JsValue.defined : JsValue σ ν → JsonTree σ ν
  | .undefined | .null => .null
  | .boolean value => .boolean value
  | .number value => .number value
  | .string value => .string value
  | .array items => .array (JsValue.definedItems items)
  | .object fields => .object (JsValue.definedFields fields)

def JsValue.definedItems : List (JsValue σ ν) → List (JsonTree σ ν)
  | [] => []
  | item :: items => item.defined :: JsValue.definedItems items

def JsValue.definedFields : List (σ × JsValue σ ν) → List (σ × JsonTree σ ν)
  | [] => []
  | (key, value) :: fields =>
    if value.isUndefined then JsValue.definedFields fields else (key, value.defined) :: JsValue.definedFields fields

end

end Defined

section Canonical

variable {ν : Type} [SourceRuntime ν] [LocaleRuntime]

mutual

theorem canonicalText_eq : ∀ value : JsValue JsString ν,
    JsValue.canonicalText value = (value.defined.sorted localeBefore).text JsString.codec numberText
  | .undefined | .null | .boolean _ | .number _ | .string _ => rfl
  | .array items => by
    rw [JsValue.canonicalText, JsValue.defined, JsonTree.sorted, JsonTree.text, itemsText_eq, canonicalItems_eq items]
  | .object fields => by
    rw [JsValue.canonicalText, JsValue.defined, JsonTree.sorted, JsonTree.text, fieldsText_eq, canonicalFields_eq fields, ← sortBy_map,
      List.map_map]
    rfl

theorem canonicalItems_eq : ∀ items : List (JsValue JsString ν), JsValue.canonicalItems items =
    (JsonTree.sortedItems localeBefore (JsValue.definedItems items)).map (JsonTree.text JsString.codec numberText)
  | [] => rfl
  | item :: items => by
    rw [JsValue.canonicalItems, JsValue.definedItems, JsonTree.sortedItems, List.map_cons, canonicalText_eq item, canonicalItems_eq items]

theorem canonicalFields_eq : ∀ fields : List (JsString × JsValue JsString ν), JsValue.canonicalFields fields =
    (JsonTree.sortedMembers localeBefore (JsValue.definedFields fields)).map fun field =>
      (field.1, field.2.text JsString.codec numberText)
  | [] => rfl
  | (key, value) :: fields => by
    rw [JsValue.canonicalFields, JsValue.definedFields]
    split
    · exact canonicalFields_eq fields
    · rw [JsonTree.sortedMembers, List.map_cons, canonicalText_eq value, canonicalFields_eq fields]

end

end Canonical

section Locale

variable [LocaleRuntime]

theorem localeCompare_swap (left right : JsString) :
    LocaleRuntime.localeCompare right left = (LocaleRuntime.localeCompare left right).swap :=
  have := LocaleRuntime.consistent
  Std.OrientedCmp.eq_swap

instance : Std.Total localeBefore where
  total left right := by
    rw [localeBefore, localeBefore, localeCompare_swap left right]
    cases LocaleRuntime.localeCompare left right <;> simp

instance : IsTrans JsString localeBefore where
  trans left middle right hfirst hsecond := by
    have := LocaleRuntime.consistent
    have hle := Std.TransCmp.isLE_trans (Ordering.ne_gt_iff_isLE.mp hfirst) (Ordering.ne_gt_iff_isLE.mp hsecond)
    exact Ordering.ne_gt_iff_isLE.mpr hle

theorem tied_localeBefore_iff {left right : JsString} :
    Tied localeBefore left right ↔ LocaleRuntime.canonicalForm left = LocaleRuntime.canonicalForm right := by
  rw [← LocaleRuntime.equivalent, Tied, localeBefore, localeBefore, localeCompare_swap left right]
  cases LocaleRuntime.localeCompare left right <;> simp

end Locale

structure ProperJson (ν : Type) [SourceRuntime ν] where
  value : JsValue JsString ν
  distinct : value.defined.AllKeys List.Nodup
  finite : value.defined.allNumbers SourceRuntime.isFinite = true

def workflowGraphKeys : List String :=
  ["edges", "nodes", "schemaVersion", "viewport", "id", "sourceHandle", "sourceNodeId", "targetHandle", "targetNodeId", "name",
    "position", "configuration", "kind", "x", "y", "zoom", "searchQuery", "tableId", "viewId", "columnId", "mode", "filterTree",
    "columnMappings", "sourceColumnId", "targetColumnId", "destinationId", "children", "combinator", "operator", "value"]

namespace ProperJson

variable {ν : Type} [ValueRuntime ν]

/-- The values are equal but for the order of members, and `kept` holds of the orders of the keys of their objects. -/
def EqualUpTo (kept : List JsString → List JsString → Prop) (first second : ProperJson ν) : Prop :=
  first.value.defined.Alike kept SameNumber second.value.defined

variable [LocaleRuntime]

def Untied (json : ProperJson ν) : Prop :=
  json.value.defined.AllKeys fun keys =>
    keys.Pairwise fun left right => LocaleRuntime.canonicalForm left ≠ LocaleRuntime.canonicalForm right

def IsGraph (json : ProperJson ν) : Prop :=
  json.value.defined.AllKeys fun keys => ∀ key ∈ keys, ∃ name ∈ workflowGraphKeys, key = .ofString name

theorem canonicalJson_eq_iff (first second : ProperJson ν) :
    first.value.canonicalJson = second.value.canonicalJson ↔ first.EqualUpTo (TiesKept localeBefore) second := by
  rw [JsValue.canonicalJson, JsValue.canonicalJson, String.ofList_inj, canonicalText_eq, canonicalText_eq]
  exact sortedText_eq_iff JsString.codec localeBefore first.finite second.finite first.distinct second.distinct

theorem Untied.canonicalJson_eq_iff {first : ProperJson ν} (h : first.Untied) (second : ProperJson ν) :
    first.value.canonicalJson = second.value.canonicalJson ↔ first.EqualUpTo anyOrder second := by
  rw [ProperJson.canonicalJson_eq_iff, EqualUpTo, EqualUpTo]
  refine alike_anyOrder_iff ?_
  simp only [tied_localeBefore_iff]
  exact h

end ProperJson

theorem workflowGraphKeys_ascii : ∀ name ∈ workflowGraphKeys, ∀ c ∈ name.toList, c.toNat < 128 := by
  have hall : (workflowGraphKeys.all fun name => name.toList.all fun c => c.toNat < 128) = true := by decide +kernel
  intro name hname c hc
  exact of_decide_eq_true (List.all_eq_true.mp (List.all_eq_true.mp hall name hname) c hc)

section Contract

variable {ν : Type} [ValueRuntime ν] [LocaleRuntime]

theorem ProperJson.IsGraph.untied {json : ProperJson ν} (h : json.IsGraph) : json.Untied := by
  refine allKeys_imp₂ (fun keys hdistinct hnames => ?_) json.distinct h
  refine List.Pairwise.imp_of_mem (fun {left right} hleft hright hne heq => hne ?_) hdistinct
  obtain ⟨leftName, hleftName, rfl⟩ := hnames left hleft
  obtain ⟨rightName, hrightName, rfl⟩ := hnames right hright
  rwa [LocaleRuntime.ascii _ (workflowGraphKeys_ascii _ hleftName),
    LocaleRuntime.ascii _ (workflowGraphKeys_ascii _ hrightName)] at heq

/-- Canonical texts are equal exactly for values which are equal up to the order of members and keep the order of
canonically equivalent keys; where there are none, and so for graphs and their digests, up to any order. -/
theorem canonicalJson_exact [DigestRuntime] (first second : ProperJson ν) :
    (first.value.canonicalJson = second.value.canonicalJson ↔ first.EqualUpTo (TiesKept localeBefore) second) ∧
    (first.value.canonicalJson = second.value.canonicalJson → first.EqualUpTo anyOrder second) ∧
    (first.Untied → (first.value.canonicalJson = second.value.canonicalJson ↔ first.EqualUpTo anyOrder second)) ∧
    (first.IsGraph → (first.value.digestWorkflowGraph = second.value.digestWorkflowGraph →
        first.value.canonicalJson = second.value.canonicalJson) →
      (first.value.digestWorkflowGraph = second.value.digestWorkflowGraph ↔ first.EqualUpTo anyOrder second)) := by
  have hany : first.value.canonicalJson = second.value.canonicalJson → first.EqualUpTo anyOrder second := fun h =>
    ((first.canonicalJson_eq_iff second).mp h).imp (fun _ => id) (fun _ _ _ _ _ => trivial) first.distinct
  refine ⟨first.canonicalJson_eq_iff second, hany, fun huntied => huntied.canonicalJson_eq_iff second,
    fun hgraph hcollision => ⟨fun h => hany (hcollision h), fun h => ?_⟩⟩
  rw [JsValue.digestWorkflowGraph, JsValue.digestWorkflowGraph, (hgraph.untied.canonicalJson_eq_iff second).mpr h]

end Contract

section Sample

def composedKey : JsString := .ofString "\u00E9"

def decomposedKey : JsString := .ofString "e\u0301"

def sampleForm (s : JsString) : JsString :=
  if s = decomposedKey then composedKey else s

theorem compare_units_eq {left right : JsString} : compare left.toUnits right.toUnits = .eq ↔ left = right := by
  rw [Std.LawfulEqCmp.compare_eq_iff_eq]
  constructor
  · intro h
    rw [← JsString.ofUnits_toUnits left, h, JsString.ofUnits_toUnits]
  · rintro rfl
    rfl

local instance sampleLocale : LocaleRuntime where
  localeCompare := compareOn fun s => (sampleForm s).toUnits
  canonicalForm := sampleForm
  consistent := inferInstance
  equivalent left right := compare_units_eq
  ascii text h := by
    refine if_neg fun heq => ?_
    have htext : text = "e\u0301" := by
      rw [← JsString.text_ofString text, heq, decomposedKey, JsString.text_ofString]
    rw [htext] at h
    exact absurd (h '\u0301' (by decide)) (by decide)

def accentedJson (fields : List (JsString × Bool)) : JsValue JsString CalendarInteger :=
  .object (fields.map fun field => (field.1, .boolean field.2))

def firstAccents : ProperJson CalendarInteger where
  value := accentedJson [(composedKey, true), (decomposedKey, false)]
  distinct := ⟨by decide, trivial, trivial, trivial⟩
  finite := rfl

def secondAccents : ProperJson CalendarInteger where
  value := accentedJson [(decomposedKey, false), (composedKey, true)]
  distinct := ⟨by decide, trivial, trivial, trivial⟩
  finite := rfl

/-- The object is written as its members stand. -/
theorem canonicalJson_accents : firstAccents.EqualUpTo anyOrder secondAccents ∧
    firstAccents.value.canonicalJson ≠ secondAccents.value.canonicalJson := by
  refine ⟨⟨rfl, trivial, ⟨_, List.mem_cons_of_mem _ List.mem_cons_self, rfl⟩, ⟨_, List.mem_cons_self, rfl⟩, trivial⟩, ?_⟩
  rw [JsValue.canonicalJson, JsValue.canonicalJson, Ne, String.ofList_inj]
  decide +kernel

end Sample

end ByokGrid
