import ByokGrid.EditRoundTrip
import ByokGrid.MemberOrder

/-! The JSON texts of values with sorted members. -/

namespace ByokGrid

def quoteKey (key : JsString) : List Char :=
  '"' :: (JsString.codec.quoted key ++ ['"'])

def numberText {ν : Type} [SourceRuntime ν] (value : ν) : String :=
  if SourceRuntime.isFinite value then SourceRuntime.numberToString value else "null"

section Joined

variable {σ ν : Type} {codec : StringCodec σ} {numberText : ν → String}

theorem itemsText_eq (items : List (JsonTree σ ν)) :
    JsonTree.itemsText codec numberText items = [','].intercalate (items.map (JsonTree.text codec numberText)) := by
  induction items with
  | nil => rfl
  | cons item items ih =>
    cases items with
    | nil => simp [JsonTree.itemsText, List.intercalate]
    | cons next items =>
      rw [JsonTree.itemsText, ih]
      simp [List.intercalate]

theorem fieldsText_eq (fields : List (σ × JsonTree σ ν)) : JsonTree.fieldsText codec numberText fields =
    [','].intercalate (fields.map fun field =>
      ('"' :: (codec.quoted field.1 ++ ['"'])) ++ ':' :: field.2.text codec numberText) := by
  induction fields with
  | nil => rfl
  | cons field fields ih =>
    obtain ⟨key, value⟩ := field
    cases fields with
    | nil => simp [JsonTree.fieldsText, List.intercalate]
    | cons next fields =>
      rw [JsonTree.fieldsText, ih]
      simp [List.intercalate]

theorem sortBy_map {α β κ : Type} (before : κ → κ → Prop) [DecidableRel before] (g : α → β) (xs : List (κ × α)) :
    (sortBy before Prod.fst xs).map (fun x => (x.1, g x.2)) = sortBy before Prod.fst (xs.map fun x => (x.1, g x.2)) := by
  rw [sortBy, List.map_insertionSort _ (fun left right : κ × β => before left.1 right.1)]
  · rfl
  · exact fun _ _ _ _ => Iff.rfl

end Joined

section Texts

variable {σ ν : Type} [ValueRuntime ν]

theorem text_numberText (codec : StringCodec σ) {value : JsonTree σ ν} (h : value.allNumbers SourceRuntime.isFinite = true) :
    value.text codec numberText = value.text codec SourceRuntime.numberToString := by
  induction value using JsonTree.inductOn with
  | null => rfl
  | boolean value => cases value <;> rfl
  | number value =>
    change SourceRuntime.isFinite value = true at h
    rw [JsonTree.text, JsonTree.text, numberText, if_pos h]
  | string value => rfl
  | array items ih =>
    rw [JsonTree.allNumbers, treeItems_iff] at h
    rw [JsonTree.text, JsonTree.text, itemsText_eq, itemsText_eq, List.map_congr_left fun item hitem => ih item hitem (h item hitem)]
  | object fields ih =>
    rw [JsonTree.allNumbers, treeFields_iff] at h
    rw [JsonTree.text, JsonTree.text, fieldsText_eq, fieldsText_eq,
      List.map_congr_left fun field hfield => by rw [ih field hfield (h field hfield)]]

theorem text_eq_iff (codec : StringCodec σ) {value other : JsonTree σ ν}
    (hvalue : value.allNumbers SourceRuntime.isFinite = true) (hother : other.allNumbers SourceRuntime.isFinite = true) :
    value.text codec numberText = other.text codec numberText ↔
      value.mapNumbers unsignedZero = other.mapNumbers unsignedZero := by
  rw [text_numberText codec hvalue, text_numberText codec hother]
  have hread : ∀ tree : JsonTree σ ν, tree.allNumbers SourceRuntime.isFinite = true →
      parseTree codec SourceRuntime.parseNumber (tree.text codec SourceRuntime.numberToString) =
        some (tree.mapNumbers unsignedZero) := by
    intro tree htree
    rw [parseTree_text numberToString_readable SourceRuntime.parseNumber htree]
    exact congrArg some (mapNumbers_congr SourceRuntime.isFinite SourceRuntime.parseNumber_numberToString tree htree)
  constructor
  · intro h
    have hparsed := hread value hvalue
    rw [h, hread other hother] at hparsed
    exact (Option.some.inj hparsed).symm
  · intro h
    rw [← text_unsignedZero codec value, h, text_unsignedZero codec other]

def SameNumber (m n : ν) : Prop :=
  unsignedZero m = unsignedZero n

theorem sortedText_eq_iff (codec : StringCodec σ) (before : σ → σ → Prop) [DecidableRel before] [Std.Total before] [IsTrans σ before]
    {value other : JsonTree σ ν} (hvalue : value.allNumbers SourceRuntime.isFinite = true)
    (hother : other.allNumbers SourceRuntime.isFinite = true) (hkeys : value.AllKeys List.Nodup)
    (hothers : other.AllKeys List.Nodup) :
    (value.sorted before).text codec numberText = (other.sorted before).text codec numberText ↔
      value.Alike (TiesKept before) SameNumber other := by
  rw [text_eq_iff codec ((sorted_allNumbers before).mpr hvalue) ((sorted_allNumbers before).mpr hother)]
  exact normal_eq_iff hkeys hothers

end Texts

end ByokGrid
