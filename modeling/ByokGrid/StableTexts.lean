import ByokGrid.AirbyteWriter
import ByokGrid.Envelopes
import ByokGrid.SortedTexts

/-! The normal form of Airbyte records, with strings in which half of a surrogate pair may stand alone. -/

namespace ByokGrid

theorem unitsLe_total (left right : List Nat) : unitsLe left right = true ∨ unitsLe right left = true := by
  induction left generalizing right with
  | nil => exact .inl (by simp [unitsLe])
  | cons a as ih =>
    cases right with
    | nil => exact .inr (by simp [unitsLe])
    | cons b bs =>
      have hrest := ih bs
      simp only [unitsLe, Bool.or_eq_true, Bool.and_eq_true, decide_eq_true_eq]
      rcases lt_trichotomy a b with hlt | rfl | hgt
      · exact .inl (.inl hlt)
      · exact hrest.imp (fun h => .inr ⟨rfl, h⟩) fun h => .inr ⟨rfl, h⟩
      · exact .inr (.inl hgt)

theorem unitsLe_trans {left middle right : List Nat} (hfirst : unitsLe left middle = true) (hsecond : unitsLe middle right = true) :
    unitsLe left right = true := by
  induction left generalizing middle right with
  | nil => simp [unitsLe]
  | cons a as ih =>
    cases middle with
    | nil => cases hfirst
    | cons b bs =>
      cases right with
      | nil => cases hsecond
      | cons c cs =>
        simp only [unitsLe, Bool.or_eq_true, Bool.and_eq_true, decide_eq_true_eq] at hfirst hsecond ⊢
        rcases hfirst with hab | ⟨rfl, has⟩
        · rcases hsecond with hbc | ⟨rfl, _⟩
          · exact .inl (hab.trans hbc)
          · exact .inl hab
        · exact hsecond.imp_right fun ⟨hac, hbs⟩ => ⟨hac, ih has hbs⟩

theorem unitsLe_antisymm {left right : List Nat} (hfirst : unitsLe left right = true) (hsecond : unitsLe right left = true) :
    left = right := by
  induction left generalizing right with
  | nil =>
    cases right with
    | nil => rfl
    | cons b bs => cases hsecond
  | cons a as ih =>
    cases right with
    | nil => cases hfirst
    | cons b bs =>
      simp only [unitsLe, Bool.or_eq_true, Bool.and_eq_true, decide_eq_true_eq] at hfirst hsecond
      have hab : a = b := by omega
      subst hab
      simp only [lt_irrefl, false_or, true_and] at hfirst hsecond
      rw [ih hfirst hsecond]

/-- The order of the default `sort`. -/
def unitsBefore (left right : JsString) : Prop :=
  unitsLe left.toUnits right.toUnits = true

instance : DecidableRel unitsBefore :=
  fun left right => inferInstanceAs (Decidable (unitsLe left.toUnits right.toUnits = true))

instance : Std.Total unitsBefore where
  total left right := unitsLe_total left.toUnits right.toUnits

instance : IsTrans JsString unitsBefore where
  trans _ _ _ := unitsLe_trans

theorem tied_unitsBefore {left right : JsString} (h : Tied unitsBefore left right) : left = right := by
  rw [← JsString.ofUnits_toUnits left, unitsLe_antisymm h.1 h.2, JsString.ofUnits_toUnits]

namespace JsonTree

section Texts

variable {ν : Type} [SourceRuntime ν]

mutual

/-- `stableStringify`. -/
def stableText : JsonTree JsString ν → List Char
  | .array items => '[' :: ([','].intercalate (stableItemTexts items) ++ [']'])
  | .object fields =>
    let sorted := sortBy unitsBefore Prod.fst (stableFieldTexts fields)
    '\x7b' :: ([','].intercalate (sorted.map fun field => quoteKey field.1 ++ ':' :: field.2) ++ ['\x7d'])
  | .null => text JsString.codec numberText (.null : JsonTree JsString ν)
  | .boolean value => text JsString.codec numberText (.boolean value : JsonTree JsString ν)
  | .number value => text JsString.codec numberText (.number value)
  | .string value => text JsString.codec numberText (.string value : JsonTree JsString ν)

def stableItemTexts : List (JsonTree JsString ν) → List (List Char)
  | [] => []
  | item :: items => item.stableText :: stableItemTexts items

def stableFieldTexts : List (JsString × JsonTree JsString ν) → List (JsString × List Char)
  | [] => []
  | (key, value) :: fields => (key, value.stableText) :: stableFieldTexts fields

end

def stableStringify (value : JsonTree JsString ν) : String :=
  .ofList value.stableText

variable (ν) in
/-- `JSON.parse`. -/
def parse (source : String) : Option (JsonTree JsString ν) :=
  (parseTree JsString.codec SourceRuntime.parseNumber source.toList).map (withOwnMembers arrayIndex)

end Texts

section Records

variable {ν : Type} [SourceRuntime ν] [IntegerNumbers ν]

mutual

def assertSafeNumbers : JsonTree JsString ν → String → Except AirbyteProtocolError Unit
  | .number value, path =>
    if !SourceRuntime.isFinite value then
      .error ⟨"Airbyte field “" ++ path ++ "” contains a non-finite number."⟩
    else if IntegerNumbers.isInteger value && !IntegerNumbers.isSafeInteger value then
      .error ⟨"Airbyte field “" ++ path ++
        "” contains an unsafe integer; emit it as a string to preserve precision."⟩
    else .ok ()
  | .array items, path => assertSafeItems 0 items path
  | .object fields, path => assertSafeFields fields path
  | .null, _ | .boolean _, _ | .string _, _ => .ok ()

def assertSafeItems : Nat → List (JsonTree JsString ν) → String → Except AirbyteProtocolError Unit
  | _, [], _ => .ok ()
  | index, item :: items, path => do
    assertSafeNumbers item (path ++ "[" ++ toString index ++ "]")
    assertSafeItems (index + 1) items path

def assertSafeFields : List (JsString × JsonTree JsString ν) → String → Except AirbyteProtocolError Unit
  | [], _ => .ok ()
  | (name, value) :: fields, path => do
    assertSafeNumbers value (path ++ "." ++ name.text)
    assertSafeFields fields path

end

def normalizedField : JsonTree JsString ν → JsonTree JsString ν
  | .array items => .string (.ofString (stableStringify (.array items)))
  | .object fields => .string (.ofString (stableStringify (.object fields)))
  | .null => .null
  | .boolean value => .boolean value
  | .number value => .number value
  | .string value => .string value

def normalizeFields : List (JsString × JsonTree JsString ν) →
    Except AirbyteProtocolError (List (JsString × JsonTree JsString ν))
  | [] => .ok []
  | (field, value) :: entries => do
    rejectIf (field.units = [] || 120 < field.units.length || field.toUnits.any isControlUnit)
      ⟨"An Airbyte record contains an invalid field name."⟩
    assertSafeNumbers value field.text
    let normalized ← normalizeFields entries
    return (field, normalizedField value) :: normalized

def fieldValue (fields : List (JsString × JsonTree JsString ν)) (name : JsString) : Option (JsonTree JsString ν) :=
  (fields.find? fun field => field.1 = name).map Prod.snd

def usableKey : Option (JsonTree JsString ν) → Bool
  | some (.string key) => key.trim.units ≠ []
  | some (.number key) => jsTrim (SourceRuntime.numberToString key) ≠ ""
  | some (.boolean _) => true
  | some .null | some (.array _) | some (.object _) | none => false

def normalizeRecord (data : List (JsString × JsonTree JsString ν)) (recordKeyField : JsString) :
    Except AirbyteProtocolError (List (JsString × JsonTree JsString ν)) := do
  rejectIf (data.length = 0 || maximumFields < data.length)
    ⟨"Airbyte records must contain between 1 and 100 fields."⟩
  let normalized ← normalizeFields data
  rejectIf (!usableKey (fieldValue normalized recordKeyField))
    ⟨"An Airbyte record has no usable “" ++ recordKeyField.text ++ "” key."⟩
  return normalized

def recordText (data : List (JsString × JsonTree JsString ν)) (recordKeyField : JsString) : Except AirbyteProtocolError String := do
  let normalized ← normalizeRecord data recordKeyField
  return stableStringify (.object normalized)

end Records

section Canonical

variable {ν : Type} [SourceRuntime ν]

mutual

theorem stableText_eq : ∀ value : JsonTree JsString ν,
    value.stableText = (value.sorted unitsBefore).text JsString.codec numberText
  | .null | .boolean _ | .number _ | .string _ => rfl
  | .array items => by
    rw [stableText, sorted, text, itemsText_eq, stableItemTexts_eq items]
  | .object fields => by
    rw [stableText, sorted, text, fieldsText_eq, stableFieldTexts_eq fields, ← sortBy_map, List.map_map]
    rfl

theorem stableItemTexts_eq : ∀ items : List (JsonTree JsString ν), stableItemTexts items =
    (sortedItems unitsBefore items).map (text JsString.codec numberText)
  | [] => rfl
  | item :: items => by rw [stableItemTexts, sortedItems, List.map_cons, stableText_eq item, stableItemTexts_eq items]

theorem stableFieldTexts_eq : ∀ fields : List (JsString × JsonTree JsString ν), stableFieldTexts fields =
    (sortedMembers unitsBefore fields).map fun field => (field.1, field.2.text JsString.codec numberText)
  | [] => rfl
  | (key, value) :: fields => by
    rw [stableFieldTexts, sortedMembers, List.map_cons, stableText_eq value, stableFieldTexts_eq fields]

end

end Canonical

section Equality

variable {ν : Type} [ValueRuntime ν] {value other : JsonTree JsString ν}

omit [ValueRuntime ν] in
theorem untied_of_distinct (h : value.AllKeys List.Nodup) :
    value.AllKeys fun keys => keys.Pairwise fun left right => ¬ Tied unitsBefore left right :=
  allKeys_imp (fun _ hdistinct => List.Pairwise.imp (fun {_ _} hne htied => hne (tied_unitsBefore htied)) hdistinct) h

theorem stableStringify_eq_iff (hvalue : value.allNumbers SourceRuntime.isFinite = true)
    (hother : other.allNumbers SourceRuntime.isFinite = true) (hkeys : value.AllKeys List.Nodup) (hothers : other.AllKeys List.Nodup) :
    stableStringify value = stableStringify other ↔ value.Alike anyOrder SameNumber other := by
  rw [stableStringify, stableStringify, String.ofList_inj, stableText_eq, stableText_eq,
    sortedText_eq_iff JsString.codec unitsBefore hvalue hother hkeys hothers, alike_anyOrder_iff (untied_of_distinct hkeys)]

theorem unsignedZero_idem (n : ν) : unsignedZero (unsignedZero n) = unsignedZero n := by
  unfold unsignedZero
  split_ifs <;> rfl

theorem parse_stableStringify (hvalue : value.allNumbers SourceRuntime.isFinite = true) (hkeys : value.AllKeys List.Nodup) :
    ∃ parsed, parse ν (stableStringify value) = some parsed ∧ parsed.Alike anyOrder SameNumber value := by
  have hsorted := (sorted_allNumbers unitsBefore).mpr hvalue
  have hnumbers : (value.sorted unitsBefore).mapNumbers (fun n => SourceRuntime.parseNumber (SourceRuntime.numberToString n)) =
      value.normal unitsBefore unsignedZero :=
    mapNumbers_congr SourceRuntime.isFinite SourceRuntime.parseNumber_numberToString _ hsorted
  have halike : ((value.normal unitsBefore unsignedZero).withOwnMembers arrayIndex).Alike anyOrder SameNumber value :=
    alike_withOwnMembers arrayIndex unsignedZero_idem hkeys
  refine ⟨_, ?_, halike⟩
  rw [parse, stableStringify, String.toList_ofList, stableText_eq, text_numberText JsString.codec hsorted,
    parseTree_text numberToString_readable SourceRuntime.parseNumber hsorted, hnumbers]
  rfl

end Equality

section Accepted

variable {ν : Type} [SourceRuntime ν] [IntegerNumbers ν]

def safeNumber (value : ν) : Bool :=
  SourceRuntime.isFinite value && !(IntegerNumbers.isInteger value && !IntegerNumbers.isSafeInteger value)

mutual

theorem assertSafeNumbers_eq_ok : ∀ (value : JsonTree JsString ν) (path : String),
    assertSafeNumbers value path = .ok () ↔ value.allNumbers safeNumber = true
  | .null, _ | .boolean _, _ | .string _, _ => by simp [assertSafeNumbers, allNumbers]
  | .number value, path => by
    rw [assertSafeNumbers, allNumbers, safeNumber]
    cases SourceRuntime.isFinite value with
    | false => simp
    | true => cases IntegerNumbers.isInteger value <;> cases IntegerNumbers.isSafeInteger value <;> simp
  | .array items, path => by rw [assertSafeNumbers, allNumbers, assertSafeItems_eq_ok 0 items path]
  | .object fields, path => by rw [assertSafeNumbers, allNumbers, assertSafeFields_eq_ok fields path]

theorem assertSafeItems_eq_ok : ∀ (index : Nat) (items : List (JsonTree JsString ν)) (path : String),
    assertSafeItems index items path = .ok () ↔ allItems safeNumber items = true
  | _, [], _ => by simp [assertSafeItems, allItems]
  | index, item :: items, path => by
    rw [assertSafeItems, allItems, Bool.and_eq_true, except_bind_eq_ok, ← assertSafeItems_eq_ok (index + 1) items path,
      ← assertSafeNumbers_eq_ok item]
    exact ⟨fun ⟨_, hitem, hitems⟩ => ⟨hitem, hitems⟩, fun ⟨hitem, hitems⟩ => ⟨(), hitem, hitems⟩⟩

theorem assertSafeFields_eq_ok : ∀ (fields : List (JsString × JsonTree JsString ν)) (path : String),
    assertSafeFields fields path = .ok () ↔ allFields safeNumber fields = true
  | [], _ => by simp [assertSafeFields, allFields]
  | (name, value) :: fields, path => by
    rw [assertSafeFields, allFields, Bool.and_eq_true, except_bind_eq_ok, ← assertSafeFields_eq_ok fields path,
      ← assertSafeNumbers_eq_ok value]
    exact ⟨fun ⟨_, hvalue, hfields⟩ => ⟨hvalue, hfields⟩, fun ⟨hvalue, hfields⟩ => ⟨(), hvalue, hfields⟩⟩

end

def acceptedField (field : JsString × JsonTree JsString ν) : Bool :=
  !(field.1.units = [] || 120 < field.1.units.length || field.1.toUnits.any isControlUnit) && field.2.allNumbers safeNumber

def normalizedFields (data : List (JsString × JsonTree JsString ν)) : List (JsString × JsonTree JsString ν) :=
  data.map fun field => (field.1, normalizedField field.2)

theorem normalizeFields_eq_ok {data normalized : List (JsString × JsonTree JsString ν)} :
    normalizeFields data = .ok normalized ↔ (∀ field ∈ data, acceptedField field = true) ∧ normalized = normalizedFields data := by
  induction data generalizing normalized with
  | nil =>
    constructor
    · intro h
      cases h
      exact ⟨fun _ hfield => (List.not_mem_nil hfield).elim, rfl⟩
    · rintro ⟨_, rfl⟩
      rfl
  | cons field data ih =>
    obtain ⟨name, value⟩ := field
    rw [List.forall_mem_cons]
    constructor
    · intro h
      obtain ⟨_, hname, h⟩ := except_bind_eq_ok.mp h
      obtain ⟨_, hsafe, h⟩ := except_bind_eq_ok.mp h
      obtain ⟨later, hlater, h⟩ := except_bind_eq_ok.mp h
      cases h
      obtain ⟨haccepted, rfl⟩ := ih.mp hlater
      refine ⟨⟨?_, haccepted⟩, rfl⟩
      rw [acceptedField, rejectIf_eq_ok.mp hname, (assertSafeNumbers_eq_ok value name.text).mp hsafe]
      rfl
    · intro ⟨⟨hfield, hlater⟩, hnormalized⟩
      obtain ⟨hname, hsafe⟩ := Bool.and_eq_true_iff.mp hfield
      rw [Bool.not_eq_true'] at hname
      refine except_bind_eq_ok.mpr ⟨(), rejectIf_eq_ok.mpr hname, ?_⟩
      refine except_bind_eq_ok.mpr ⟨(), (assertSafeNumbers_eq_ok value name.text).mpr hsafe, ?_⟩
      refine except_bind_eq_ok.mpr ⟨_, ih.mpr ⟨hlater, rfl⟩, ?_⟩
      rw [hnormalized]
      rfl

structure AcceptedRecord (data : List (JsString × JsonTree JsString ν)) (recordKeyField : JsString) : Prop where
  nonempty : data.length ≠ 0
  short : data.length ≤ maximumFields
  fields : ∀ field ∈ data, acceptedField field = true
  key : usableKey (fieldValue (normalizedFields data) recordKeyField) = true

theorem normalizeRecord_eq_ok {data normalized : List (JsString × JsonTree JsString ν)} {recordKeyField : JsString} :
    normalizeRecord data recordKeyField = .ok normalized ↔
      AcceptedRecord data recordKeyField ∧ normalized = normalizedFields data := by
  constructor
  · intro h
    obtain ⟨_, hlength, h⟩ := except_bind_eq_ok.mp h
    obtain ⟨fields, hfields, h⟩ := except_bind_eq_ok.mp h
    obtain ⟨_, hkey, h⟩ := except_bind_eq_ok.mp h
    cases h
    obtain ⟨haccepted, rfl⟩ := normalizeFields_eq_ok.mp hfields
    have hbounds := rejectIf_eq_ok.mp hlength
    simp only [Bool.or_eq_false_iff, decide_eq_false_iff_not, not_lt] at hbounds
    exact ⟨⟨hbounds.1, hbounds.2, haccepted, by simpa using rejectIf_eq_ok.mp hkey⟩, rfl⟩
  · rintro ⟨haccepted, rfl⟩
    refine except_bind_eq_ok.mpr ⟨(), rejectIf_eq_ok.mpr ?_, ?_⟩
    · simp [haccepted.nonempty, haccepted.short]
    refine except_bind_eq_ok.mpr ⟨_, normalizeFields_eq_ok.mpr ⟨haccepted.fields, rfl⟩, ?_⟩
    refine except_bind_eq_ok.mpr ⟨(), rejectIf_eq_ok.mpr ?_, rfl⟩
    rw [haccepted.key]
    rfl

omit [IntegerNumbers ν] in
theorem normalizedFields_fst (data : List (JsString × JsonTree JsString ν)) : (normalizedFields data).map Prod.fst = data.map Prod.fst := by
  rw [normalizedFields, List.map_map]
  rfl

omit [SourceRuntime ν] [IntegerNumbers ν] in
theorem fieldValue_eq_some {fields : List (JsString × JsonTree JsString ν)} (hdistinct : (fields.map Prod.fst).Nodup)
    {name : JsString} {value : JsonTree JsString ν} : fieldValue fields name = some value ↔ (name, value) ∈ fields := by
  rw [fieldValue, Option.map_eq_some_iff]
  constructor
  · rintro ⟨field, hfind, rfl⟩
    have hname : field.1 = name := by simpa using List.find?_some hfind
    exact hname ▸ List.mem_of_find?_eq_some hfind
  · intro hmem
    cases hfind : fields.find? fun field => field.1 = name with
    | none => exact absurd (decide_eq_true rfl) (List.find?_eq_none.mp hfind _ hmem)
    | some field =>
      have hname : field.1 = name := by simpa using List.find?_some hfind
      have heq := List.inj_on_of_nodup_map hdistinct (List.mem_of_find?_eq_some hfind) hmem hname
      exact ⟨field, rfl, congrArg Prod.snd heq⟩

omit [SourceRuntime ν] [IntegerNumbers ν] in
theorem fieldValue_perm {fields others : List (JsString × JsonTree JsString ν)} (hdistinct : (fields.map Prod.fst).Nodup)
    (h : fields.Perm others) (name : JsString) : fieldValue fields name = fieldValue others name := by
  have hothers : (others.map Prod.fst).Nodup := (h.map Prod.fst).nodup_iff.mp hdistinct
  refine Option.ext fun value => ?_
  rw [fieldValue_eq_some hdistinct, fieldValue_eq_some hothers, h.mem_iff]

end Accepted

section Resent

variable {ν : Type} [ValueRuntime ν] [IntegerNumbers ν]

abbrev Reordered (value other : JsonTree JsString ν) : Prop :=
  value.Alike anyOrder (fun m n => m = n) other

omit [ValueRuntime ν] [IntegerNumbers ν] in
theorem Reordered.sorted {value other : JsonTree JsString ν} (h : Reordered value other) (hvalue : value.AllKeys List.Nodup)
    (hother : other.AllKeys List.Nodup) : value.sorted unitsBefore = other.sorted unitsBefore :=
  sorted_eq_of_alike hvalue hother ((alike_anyOrder_iff (untied_of_distinct hvalue)).mpr h)

omit [IntegerNumbers ν] in
theorem Reordered.normalizedField {value other : JsonTree JsString ν} (h : Reordered value other) (hvalue : value.AllKeys List.Nodup)
    (hother : other.AllKeys List.Nodup) : normalizedField value = normalizedField other := by
  have htext : stableStringify value = stableStringify other := by
    rw [stableStringify, stableStringify, stableText_eq, stableText_eq, h.sorted hvalue hother]
  cases value with
  | array items =>
    cases other with
    | array others => rw [JsonTree.normalizedField, JsonTree.normalizedField, htext]
    | null | boolean _ | number _ | string _ | object _ => cases h
  | object fields =>
    cases other with
    | object others => rw [JsonTree.normalizedField, JsonTree.normalizedField, htext]
    | null | boolean _ | number _ | string _ | array _ => cases h
  | null => cases other <;> first | rfl | cases h
  | boolean value =>
    cases other with
    | boolean other => exact congrArg JsonTree.boolean h
    | null | number _ | string _ | array _ | object _ => cases h
  | number value =>
    cases other with
    | number other => exact congrArg JsonTree.number h
    | null | boolean _ | string _ | array _ | object _ => cases h
  | string value =>
    cases other with
    | string other => exact congrArg JsonTree.string h
    | null | boolean _ | number _ | array _ | object _ => cases h

variable {data others : List (JsString × JsonTree JsString ν)} {recordKeyField : JsString}

omit [IntegerNumbers ν] in
theorem normalizedFields_perm (hdata : (object data).AllKeys List.Nodup) (hothers : (object others).AllKeys List.Nodup)
    (h : Reordered (object data) (object others)) : (normalizedFields data).Perm (normalizedFields others) := by
  rw [AllKeys, fieldsAllKeys_iff] at hdata hothers
  obtain ⟨hlength, _, hmembers⟩ := h
  rw [membersAlike_iff] at hmembers
  have hdistinct : (normalizedFields data).Nodup := by
    refine List.Nodup.of_map Prod.fst ?_
    rw [normalizedFields_fst]
    exact hdata.1
  refine (List.subperm_of_subset hdistinct fun entry hentry => ?_).perm_of_length_le (by simp [normalizedFields, hlength])
  obtain ⟨field, hfield, rfl⟩ := List.mem_map.mp hentry
  obtain ⟨other, hother, hsame⟩ := hmembers field hfield
  refine List.mem_map.mpr ⟨_, hother, ?_⟩
  rw [Reordered.normalizedField hsame (hdata.2 field hfield) (hothers.2 _ hother)]

theorem AcceptedRecord.reordered (hdata : (object data).AllKeys List.Nodup) (hothers : (object others).AllKeys List.Nodup)
    (h : Reordered (object data) (object others)) (haccepted : AcceptedRecord data recordKeyField) :
    AcceptedRecord others recordKeyField := by
  have hperm := normalizedFields_perm hdata hothers h
  have hkey := haccepted.key
  have hdistinct : ((normalizedFields data).map Prod.fst).Nodup := by
    rw [normalizedFields_fst]
    exact hdata.1
  rw [fieldValue_perm hdistinct hperm] at hkey
  rw [AllKeys, fieldsAllKeys_iff] at hdata hothers
  obtain ⟨hlength, _, hmembers⟩ := h
  have hkeys := keys_perm hdata.1 hlength hmembers
  rw [membersAlike_iff] at hmembers
  refine ⟨hlength ▸ haccepted.nonempty, hlength ▸ haccepted.short, fun other hother => ?_, hkey⟩
  obtain ⟨field, hfield, hname⟩ := List.mem_map.mp (hkeys.mem_iff.mpr (List.mem_map_of_mem hother))
  obtain ⟨value, hvalue, hsame⟩ := hmembers field hfield
  have heq : (field.1, value) = other := List.inj_on_of_nodup_map hothers.1 hvalue hother hname
  have hsorted := Reordered.sorted hsame (hdata.2 field hfield) (hothers.2 _ hvalue)
  have hfields := haccepted.fields field hfield
  rw [← heq]
  rw [acceptedField, Bool.and_eq_true, ← sorted_allNumbers unitsBefore] at hfields ⊢
  exact ⟨hfields.1, hsorted ▸ hfields.2⟩

theorem recordText_reordered (hdata : (object data).AllKeys List.Nodup) (hothers : (object others).AllKeys List.Nodup)
    (h : Reordered (object data) (object others)) {line : String} (htext : recordText data recordKeyField = .ok line) :
    recordText others recordKeyField = .ok line := by
  obtain ⟨normalized, hnormalized, htext⟩ := except_bind_eq_ok.mp htext
  obtain ⟨haccepted, rfl⟩ := normalizeRecord_eq_ok.mp hnormalized
  refine except_bind_eq_ok.mpr ⟨_, normalizeRecord_eq_ok.mpr ⟨haccepted.reordered hdata hothers h, rfl⟩, ?_⟩
  have hperm := normalizedFields_perm hdata hothers h
  have hfields : ∀ fields : List (JsString × JsonTree JsString ν), stableFieldTexts fields =
      fields.map fun field => (field.1, field.2.stableText) := by
    intro fields
    induction fields with
    | nil => rfl
    | cons field fields ih => rw [stableFieldTexts, ih, List.map_cons]
  have hsort : sortBy unitsBefore Prod.fst (stableFieldTexts (normalizedFields data)) =
      sortBy unitsBefore Prod.fst (stableFieldTexts (normalizedFields others)) := by
    rw [hfields, hfields]
    refine sortBy_eq_of_perm (fun _ _ => tied_unitsBefore) ?_ (hperm.map _)
    rw [List.map_map]
    show ((normalizedFields data).map Prod.fst).Nodup
    rw [normalizedFields_fst]
    exact hdata.1
  rw [← htext, stableStringify, stableStringify, stableText, stableText, hsort]

theorem recordTexts_reordered {records resent : List (List (JsString × JsonTree JsString ν))} {lines : List String}
    (hrecords : ∀ data ∈ records, (object data).AllKeys List.Nodup) (hresent : ∀ data ∈ resent, (object data).AllKeys List.Nodup)
    (h : List.Forall₂ (fun data others => Reordered (object data) (object others)) records resent)
    (hlines : records.mapM (recordText · recordKeyField) = .ok lines) :
    resent.mapM (recordText · recordKeyField) = .ok lines := by
  induction h generalizing lines with
  | nil => exact hlines
  | @cons data others records resent hsame _ ih =>
    rw [List.mapM_cons] at hlines ⊢
    obtain ⟨line, hline, hlines⟩ := except_bind_eq_ok.mp hlines
    obtain ⟨later, hlater, hlines⟩ := except_bind_eq_ok.mp hlines
    obtain ⟨hdata, hrecords⟩ := List.forall_mem_cons.mp hrecords
    obtain ⟨hothers, hresent⟩ := List.forall_mem_cons.mp hresent
    refine except_bind_eq_ok.mpr ⟨line, recordText_reordered hdata hothers hsame hline, ?_⟩
    exact except_bind_eq_ok.mpr ⟨later, ih hrecords hresent hlater, hlines⟩

end Resent

end JsonTree

/-- A value of `JSON.parse`: objects have distinct keys, and numbers are finite. -/
structure JsonDocument (ν : Type) [SourceRuntime ν] where
  value : JsonTree JsString ν
  distinct : value.AllKeys List.Nodup
  finite : value.allNumbers SourceRuntime.isFinite = true

structure RecordData (ν : Type) where
  fields : List (JsString × JsonTree JsString ν)
  distinct : (JsonTree.object fields).AllKeys List.Nodup

section Contract

variable (ν : Type) [ValueRuntime ν] [IntegerNumbers ν]

/-- The canonical text of a value stands for it, and the normal form of a record for its fields in any order. -/
structure CanonicalRecords : Prop where
  texts : ∀ first second : JsonDocument ν,
    first.value.stableStringify = second.value.stableStringify ↔ first.value.Alike anyOrder SameNumber second.value
  read : ∀ document : JsonDocument ν, ∃ parsed, JsonTree.parse ν document.value.stableStringify = some parsed ∧
    parsed.Alike anyOrder SameNumber document.value
  normalized : ∀ (data : RecordData ν) (recordKeyField : JsString) (normalized : List (JsString × JsonTree JsString ν)),
    JsonTree.normalizeRecord data.fields recordKeyField = .ok normalized →
      List.Forall₂ (fun field entry => entry.1 = field.1 ∧
        match field.2 with
        | .array _ | .object _ => entry.2 = .string (.ofString field.2.stableStringify)
        | .null | .boolean _ | .number _ | .string _ => entry.2 = field.2) data.fields normalized
  resent : ∀ (records resent : List (RecordData ν)) (recordKeyField : JsString) (body : String),
    List.Forall₂ (fun data others => JsonTree.Reordered (.object data.fields) (.object others.fields)) records resent →
    (records.mapM fun data => JsonTree.recordText data.fields recordKeyField).map batchBody = .ok body →
    (resent.mapM fun data => JsonTree.recordText data.fields recordKeyField).map batchBody = .ok body

theorem airbyteRecords_canonical : CanonicalRecords ν where
  texts first second := JsonTree.stableStringify_eq_iff first.finite second.finite first.distinct second.distinct
  read document := JsonTree.parse_stableStringify document.finite document.distinct
  normalized data recordKeyField normalized h := by
    obtain ⟨_, rfl⟩ := JsonTree.normalizeRecord_eq_ok.mp h
    rw [JsonTree.normalizedFields, List.forall₂_map_right_iff, List.forall₂_same]
    rintro ⟨name, value⟩ _
    refine ⟨rfl, ?_⟩
    cases value <;> rfl
  resent records resent recordKeyField body h hbody := by
    obtain ⟨lines, hlines, rfl⟩ := except_map_eq_ok.mp hbody
    refine except_map_eq_ok.mpr ⟨lines, ?_, rfl⟩
    have hmap : ∀ sent : List (RecordData ν), (sent.mapM fun data => JsonTree.recordText data.fields recordKeyField) =
        (sent.map RecordData.fields).mapM (JsonTree.recordText · recordKeyField) := by
      intro sent
      rw [List.mapM_map]
      rfl
    rw [hmap] at hlines ⊢
    refine JsonTree.recordTexts_reordered (List.forall_mem_map.mpr fun data _ => data.distinct)
      (List.forall_mem_map.mpr fun data _ => data.distinct) ?_ hlines
    rwa [List.forall₂_map_left_iff, List.forall₂_map_right_iff]

end Contract

end ByokGrid
