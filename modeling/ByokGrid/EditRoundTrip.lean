import Mathlib.Algebra.Group.Action.Defs
import Mathlib.Algebra.Order.BigOperators.Group.List
import ByokGrid.CalendarValues

/-! The drafts and the texts of cell values are read back: which value comes back of which
value, for edits and for conversions to text and back. -/

namespace ByokGrid

section Values

variable {ν : Type} [ValueRuntime ν]

def SourceValue.Stored : SourceValue ν → Prop
  | .empty | .text _ | .boolean _ => True
  | .number value => SourceRuntime.isFinite value = true
  | .timestamp value => (readIsoDate value.chars).isSome = true
  | .json value => OwnJson value

/-- The value which comes back from its text: a zero without its sign, and the instant of a
timestamp in its canonical spelling. -/
def SourceValue.restored : SourceValue ν → SourceValue ν
  | .empty => .empty
  | .text value => .text value
  | .number value => .number (unsignedZero value)
  | .boolean value => .boolean value
  | .timestamp value =>
    match SourceRuntime.parseDate ν value with
    | some date => .timestamp (.ofString (SourceRuntime.toISOString ν date))
    | none => .timestamp value
  | .json value => .json (value.mapNumbers unsignedZero)

omit [ValueRuntime ν] in
theorem SourceValue.eq_empty {value : SourceValue ν} (h : value.type = .empty) : value = .empty := by
  cases value <;> first | rfl | cases h

omit [ValueRuntime ν] in
theorem SourceValue.eq_text {value : SourceValue ν} (h : value.type = .text) : ∃ text, value = .text text := by
  cases value <;> first | exact ⟨_, rfl⟩ | cases h

omit [ValueRuntime ν] in
theorem EditableInputValueType.type_injective {left right : EditableInputValueType} (h : left.type = right.type) : left = right := by
  cases left <;> cases right <;> first | rfl | cases h

omit [ValueRuntime ν] in
theorem EditableInputValueType.type_ne_empty (valueType : EditableInputValueType) : valueType.type ≠ .empty := by
  cases valueType <;> decide

theorem JsString.trim_ne_empty {s : JsString} {c : Char} (hc : c ∈ s.chars) (hvisible : isJsWhitespace c = false) :
    s.trim ≠ .ofString "" := by
  intro h
  have hunits : (trimChars s.chars).map charUnit = [] := congrArg JsString.units h
  have hblank := trimChars_eq_nil.mp (List.map_eq_nil_iff.mp hunits) c hc
  rw [hvisible] at hblank
  cases hblank

theorem number_visible_unit {c : Char} (h : c = '-' ∨ '0' ≤ c ∧ c ≤ '9') : isJsWhitespace c = false := by
  rcases h with rfl | ⟨hlow, hhigh⟩
  · decide
  · have hlow' : 48 ≤ c.toNat := UInt32.le_iff_toNat_le.mp hlow
    have hhigh' : c.toNat ≤ 57 := UInt32.le_iff_toNat_le.mp hhigh
    simp only [isJsWhitespace, Bool.or_eq_false_iff, Bool.and_eq_false_iff, decide_eq_false_iff_not, beq_eq_false_iff_ne]
    omega

theorem chars_numberText {n : ν} (h : SourceRuntime.isFinite n = true) :
    (JsString.ofString (SourceRuntime.numberToString n)).chars = (SourceRuntime.numberToString n).toList :=
  JsString.chars_ofString_basic (readNumber_basic (SourceRuntime.numberToString_reads n h))

theorem numberText_visible {n : ν} (h : SourceRuntime.isFinite n = true) :
    ∃ c ∈ (JsString.ofString (SourceRuntime.numberToString n)).chars, isJsWhitespace c = false := by
  obtain ⟨c, cs, htext, hc⟩ := readNumber_head (SourceRuntime.numberToString_reads n h)
  exact ⟨c, by rw [chars_numberText h, htext]; exact List.mem_cons_self, number_visible_unit hc⟩

theorem jsonText_visible {value : JsonTree JsString ν} (h : value.allNumbers SourceRuntime.isFinite = true) :
    ∃ c ∈ (stringifyTree value).chars, isJsWhitespace c = false := by
  rw [chars_stringifyTree h]
  cases value with
  | null => exact ⟨'n', List.mem_cons_self, by decide⟩
  | boolean value => cases value <;> exact ⟨_, List.mem_cons_self, by decide⟩
  | number value =>
    obtain ⟨c, hc, hvisible⟩ := numberText_visible h
    rw [chars_numberText h] at hc
    exact ⟨c, hc, hvisible⟩
  | string value => exact ⟨'"', List.mem_cons_self, by decide⟩
  | array items => exact ⟨'[', List.mem_cons_self, by decide⟩
  | object fields => exact ⟨'\x7b', List.mem_cons_self, by decide⟩

theorem readDigits_head {c : Char} {cs : List Char} {n : Nat} (h : readDigits (c :: cs) = some n) : isDecimalDigit c = true := by
  obtain ⟨hdigits, -⟩ := Option.ite_none_right_eq_some.mp h
  exact List.all_eq_true.mp hdigits c List.mem_cons_self

theorem readIsoSeconds_last {cs : List Char} {milliseconds : Nat} (h : readIsoSeconds cs = some milliseconds) :
    cs.getLast? = some 'Z' := by
  rw [readIsoSeconds.eq_def] at h
  split at h
  · rfl
  · rfl
  · split at h
    · obtain ⟨⟨-, hlength, hlast⟩, -⟩ := Option.ite_none_right_eq_some.mp h
      rw [List.getLast?_cons_cons, List.getLast?_cons_cons, List.getLast?_cons_cons, List.getLast?_cons, hlast]
      rfl
    · cases h
  · cases h

theorem readIsoDate_ends {cs : List Char} {milliseconds : Int} (h : readIsoDate cs = some milliseconds) :
    ∃ c rest, cs = c :: rest ∧ isDecimalDigit c = true ∧ cs.getLast? = some 'Z' := by
  rw [readIsoDate.eq_def] at h
  split at h
  · next y1 y2 y3 y4 m1 m2 d1 d2 h1 h2 n1 n2 rest =>
      simp only [Option.bind_eq_bind, Option.bind_eq_some_iff] at h
      obtain ⟨year, hyear, month, -, day, -, hour, -, minute, -, seconds, hseconds, -⟩ := h
      have hlast := readIsoSeconds_last hseconds
      refine ⟨y1, _, rfl, readDigits_head hyear, ?_⟩
      simp only [List.getLast?_cons, hlast]
      rfl
  · cases h

theorem isoDate_visible {cs : List Char} (h : (readIsoDate cs).isSome = true) : ∃ c ∈ cs, isJsWhitespace c = false := by
  obtain ⟨milliseconds, hdate⟩ := Option.isSome_iff_exists.mp h
  obtain ⟨c, rest, rfl, hdigit, -⟩ := readIsoDate_ends hdate
  have hbounds : '0' ≤ c ∧ c ≤ '9' := by simpa [isDecimalDigit] using hdigit
  exact ⟨c, List.mem_cons_self, number_visible_unit (.inr hbounds)⟩

theorem isoDate_trimmed {cs : List Char} (h : (readIsoDate cs).isSome = true) : Trimmed cs := by
  obtain ⟨milliseconds, hdate⟩ := Option.isSome_iff_exists.mp h
  obtain ⟨c, rest, rfl, hdigit, hlast⟩ := readIsoDate_ends hdate
  have hbounds : '0' ≤ c ∧ c ≤ '9' := by simpa [isDecimalDigit] using hdigit
  constructor
  · intro d hd
    cases hd
    exact number_visible_unit (.inr hbounds)
  · intro d hd
    rw [hlast] at hd
    cases hd
    decide

theorem isoDate_offset {cs : List Char} (h : (readIsoDate cs).isSome = true) : FormulaParser.hasOffset cs = true := by
  obtain ⟨milliseconds, hdate⟩ := Option.isSome_iff_exists.mp h
  obtain ⟨c, rest, -, -, hlast⟩ := readIsoDate_ends hdate
  rw [← List.head?_reverse, List.head?_eq_some_iff] at hlast
  obtain ⟨later, hlater⟩ := hlast
  rw [FormulaParser.hasOffset, hlater]
  rfl

theorem numberToString_unsignedZero (n : ν) :
    SourceRuntime.numberToString (unsignedZero n) = SourceRuntime.numberToString n := by
  rw [unsignedZero]
  split_ifs with hzero
  · exact (ValueRuntime.numberToString_zero n hzero).symm
  · rfl

omit [ValueRuntime ν] in
theorem itemsText_congr {σ : Type} {codec : StringCodec σ} {numberText : ν → String} {f : JsonTree σ ν → JsonTree σ ν}
    {items : List (JsonTree σ ν)} (h : ∀ item ∈ items, (f item).text codec numberText = item.text codec numberText) :
    JsonTree.itemsText codec numberText (items.map f) = JsonTree.itemsText codec numberText items := by
  induction items with
  | nil => rfl
  | cons item items ih =>
    obtain ⟨hitem, hlater⟩ := List.forall_mem_cons.mp h
    cases items with
    | nil => exact hitem
    | cons next items =>
      have hrest := ih hlater
      rw [List.map_cons] at hrest
      rw [List.map_cons, List.map_cons, JsonTree.itemsText, JsonTree.itemsText, hitem, hrest]

omit [ValueRuntime ν] in
theorem fieldsText_congr {σ : Type} {codec : StringCodec σ} {numberText : ν → String} {f : JsonTree σ ν → JsonTree σ ν}
    {fields : List (σ × JsonTree σ ν)} (h : ∀ field ∈ fields, (f field.2).text codec numberText = field.2.text codec numberText) :
    JsonTree.fieldsText codec numberText (fields.map fun field => (field.1, f field.2)) =
      JsonTree.fieldsText codec numberText fields := by
  induction fields with
  | nil => rfl
  | cons field fields ih =>
    obtain ⟨hfield, hlater⟩ := List.forall_mem_cons.mp h
    obtain ⟨key, value⟩ := field
    cases fields with
    | nil => rw [List.map_cons, List.map_nil, JsonTree.fieldsText, JsonTree.fieldsText, hfield]
    | cons next fields =>
      have hrest := ih hlater
      rw [List.map_cons] at hrest
      rw [List.map_cons, List.map_cons, JsonTree.fieldsText, JsonTree.fieldsText, hfield, hrest]

theorem text_unsignedZero {σ : Type} (codec : StringCodec σ) (value : JsonTree σ ν) :
    (value.mapNumbers unsignedZero).text codec SourceRuntime.numberToString = value.text codec SourceRuntime.numberToString := by
  induction value using JsonTree.inductOn with
  | null => rfl
  | boolean value => rfl
  | number value => rw [JsonTree.mapNumbers, JsonTree.text, JsonTree.text, numberToString_unsignedZero]
  | string value => rfl
  | array items ih =>
    rw [JsonTree.mapNumbers, JsonTree.text, JsonTree.text, treeMapItems_eq, itemsText_congr ih]
  | object fields ih =>
    rw [JsonTree.mapNumbers, JsonTree.text, JsonTree.text, treeMapFields_eq, fieldsText_congr ih]

theorem stringifyTree_unsignedZero (value : JsonTree JsString ν) : stringifyTree (value.mapNumbers unsignedZero) = stringifyTree value :=
  congrArg JsString.ofChars (text_unsignedZero JsString.unitCodec value)

omit [ValueRuntime ν] in
theorem byteLength_short {s : String} (h : s.toList.length ≤ 64) : (JsString.ofString s).byteLength ≤ MAXIMUM_EDITABLE_CELL_BYTES := by
  have hunit : ∀ c : Char, utf8Bytes c ≤ 4 := by
    intro c
    rw [utf8Bytes]
    split_ifs <;> omega
  have hsum : (s.toList.map utf8Bytes).sum ≤ s.toList.length * 4 := by
    have hbound := List.sum_le_card_nsmul (s.toList.map utf8Bytes) 4 (List.forall_mem_map.mpr fun c _ => hunit c)
    rwa [List.length_map, smul_eq_mul] at hbound
  have hlimit : s.toList.length * 4 ≤ MAXIMUM_EDITABLE_CELL_BYTES := by
    rw [MAXIMUM_EDITABLE_CELL_BYTES]
    omega
  rw [JsString.byteLength, JsString.text_ofString]
  exact hsum.trans hlimit

theorem byteLength_empty : (SourceValue.empty : SourceValue ν).byteLength ≤ MAXIMUM_EDITABLE_CELL_BYTES :=
  byteLength_short (by decide)

theorem byteLength_number {n : ν} (h : SourceRuntime.isFinite n = true) :
    (SourceValue.number n).byteLength ≤ MAXIMUM_EDITABLE_CELL_BYTES :=
  byteLength_short (ValueRuntime.numberToString_short n h)

theorem byteLength_date (date : TimeValue) :
    (SourceValue.timestamp (.ofString (SourceRuntime.toISOString ν date)) : SourceValue ν).byteLength ≤ MAXIMUM_EDITABLE_CELL_BYTES :=
  byteLength_short (ValueRuntime.toISOString_short date)

theorem byteLength_boolean (value : Bool) : (SourceValue.boolean value : SourceValue ν).byteLength ≤ MAXIMUM_EDITABLE_CELL_BYTES :=
  byteLength_short (by cases value <;> decide)

theorem readEditableCellValue_eq_some {value parsed : SourceValue ν} :
    readEditableCellValue value = some parsed ↔
      readCellValueSchema value = some parsed ∧ parsed.byteLength ≤ MAXIMUM_EDITABLE_CELL_BYTES := by
  rw [readEditableCellValue, Option.filter_eq_some_iff, decide_eq_true_eq]

theorem readCellValueSchema_type {value parsed : SourceValue ν} (h : readCellValueSchema value = some parsed) :
    parsed.type = value.type := by
  cases value with
  | empty => cases h; rfl
  | text value => cases h; rfl
  | boolean value => cases h; rfl
  | number value =>
    obtain ⟨-, hvalue⟩ := Option.ite_none_right_eq_some.mp h
    cases hvalue
    rfl
  | timestamp value =>
    obtain ⟨-, hvalue⟩ := Option.ite_none_right_eq_some.mp h
    cases hvalue
    rfl
  | json value =>
    obtain ⟨kept, -, rfl⟩ := Option.map_eq_some_iff.mp h
    rfl

theorem readCellValueSchema_stored {value : SourceValue ν} (h : value.Stored) : readCellValueSchema value = some value := by
  cases value with
  | empty => rfl
  | text value => rfl
  | boolean value => rfl
  | number value => exact if_pos h
  | timestamp value => exact if_pos h
  | json value => rw [readCellValueSchema, readJsonSchema_eq h]; rfl

theorem readEditableCellValue_stored {value : SourceValue ν} (h : value.Stored) (hsize : value.byteLength ≤ MAXIMUM_EDITABLE_CELL_BYTES) :
    readEditableCellValue value = some value :=
  readEditableCellValue_eq_some.mpr ⟨readCellValueSchema_stored h, hsize⟩

theorem validateConvertedValue_eq_ok {value result : SourceValue ν} (h : validateConvertedValue value = .ok result) :
    result.type = value.type ∧ result.byteLength ≤ MAXIMUM_EDITABLE_CELL_BYTES := by
  rw [validateConvertedValue] at h
  split at h
  · next parsed hparsed =>
      cases h
      obtain ⟨hschema, hsize⟩ := readEditableCellValue_eq_some.mp hparsed
      exact ⟨readCellValueSchema_type hschema, hsize⟩
  · cases h

theorem validateConvertedValue_stored (value : SourceValue ν) (h : value.Stored) (hsize : value.byteLength ≤ MAXIMUM_EDITABLE_CELL_BYTES) :
    validateConvertedValue value = .ok value := by
  rw [validateConvertedValue, readEditableCellValue_stored h hsize]

theorem parseDate_stored {value : JsString} (h : (readIsoDate value.chars).isSome = true) :
    ∃ date milliseconds, SourceRuntime.parseDate ν value = some date ∧ date.milliseconds = milliseconds ∧
      readIsoDate value.chars = some milliseconds := by
  obtain ⟨milliseconds, hread⟩ := Option.isSome_iff_exists.mp h
  obtain ⟨date, hdate, hmilliseconds⟩ := ValueRuntime.parseDate_iso (ν := ν) value milliseconds hread
  exact ⟨date, milliseconds, hdate, hmilliseconds, hread⟩

theorem restored_timestamp {value : JsString} {date : TimeValue} (h : SourceRuntime.parseDate ν value = some date) :
    (SourceValue.timestamp value : SourceValue ν).restored = .timestamp (.ofString (SourceRuntime.toISOString ν date)) := by
  rw [SourceValue.restored, h]

theorem SourceValue.restored_stored {value : SourceValue ν} (h : value.Stored) : value.restored.Stored := by
  cases value with
  | empty => trivial
  | text value => trivial
  | boolean value => trivial
  | number value => exact isFinite_unsignedZero h
  | json value => exact OwnJson.mapNumbers h
  | timestamp value =>
    obtain ⟨date, milliseconds, hdate, rfl, hread⟩ := parseDate_stored (ν := ν) h
    rw [restored_timestamp hdate]
    exact Option.isSome_iff_exists.mpr ⟨_, ValueRuntime.toISOString_iso value date hread⟩

theorem SourceValue.restored_type {value : SourceValue ν} (h : value.Stored) : value.restored.type = value.type := by
  cases value with
  | empty => rfl
  | text value => rfl
  | boolean value => rfl
  | number value => rfl
  | json value => rfl
  | timestamp value =>
    obtain ⟨date, milliseconds, hdate, -, -⟩ := parseDate_stored (ν := ν) h
    rw [restored_timestamp hdate]
    rfl

theorem SourceValue.restored_byteLength {value : SourceValue ν} (h : value.Stored)
    (hsize : value.byteLength ≤ MAXIMUM_EDITABLE_CELL_BYTES) : value.restored.byteLength ≤ MAXIMUM_EDITABLE_CELL_BYTES := by
  cases value with
  | empty => exact hsize
  | text value => exact hsize
  | boolean value => exact hsize
  | number value => exact byteLength_number (isFinite_unsignedZero h)
  | json value =>
    rw [SourceValue.restored, SourceValue.byteLength, valueText, stringifyTree_unsignedZero]
    exact hsize
  | timestamp value =>
    obtain ⟨date, milliseconds, hdate, -, -⟩ := parseDate_stored (ν := ν) h
    rw [restored_timestamp hdate]
    exact byteLength_date date

theorem SourceValue.restored_restored {value : SourceValue ν} (h : value.Stored) : value.restored.restored = value.restored := by
  have hzero : ∀ n : ν, unsignedZero (unsignedZero n) = unsignedZero n := by
    intro n
    rw [unsignedZero, unsignedZero]
    split_ifs <;> rfl
  cases value with
  | empty => rfl
  | text value => rfl
  | boolean value => rfl
  | number value => rw [SourceValue.restored, SourceValue.restored, hzero]
  | json value =>
    have := Classical.decEq ν
    have hfixed : (value.mapNumbers unsignedZero).mapNumbers unsignedZero = value.mapNumbers unsignedZero :=
      (JsonTree.mapNumbers_eq_self unsignedZero _).mpr
        (mapNumbers_allNumbers (fun n _ => by simpa using hzero n) value h.finite)
    rw [SourceValue.restored, SourceValue.restored, hfixed]
  | timestamp value =>
    obtain ⟨date, milliseconds, hdate, -, -⟩ := parseDate_stored (ν := ν) h
    rw [restored_timestamp hdate, restored_timestamp (SourceRuntime.parseDate_toISOString date)]

theorem restored_instant {value : JsString} (h : (readIsoDate value.chars).isSome = true) :
    ∃ canonical, (SourceValue.timestamp value : SourceValue ν).restored = .timestamp canonical ∧
      readIsoDate canonical.chars = readIsoDate value.chars := by
  obtain ⟨date, milliseconds, hdate, rfl, hread⟩ := parseDate_stored (ν := ν) h
  exact ⟨_, restored_timestamp hdate, (ValueRuntime.toISOString_iso value date hread).trans hread.symm⟩

theorem valueText_visible {value : SourceValue ν} (h : value.Stored) (hempty : value.type ≠ .empty) (htext : value.type ≠ .text) :
    ∃ c ∈ (valueText value).chars, isJsWhitespace c = false := by
  cases value with
  | empty => exact absurd rfl hempty
  | text value => exact absurd rfl htext
  | number value => exact numberText_visible h
  | boolean value => cases value <;> exact ⟨_, List.mem_cons_self, by decide⟩
  | timestamp value => exact isoDate_visible h
  | json value => exact jsonText_visible h.finite

def SourceValue.redrafted : SourceValue ν → SourceValue ν
  | .text value => if value = .ofString "" then .empty else .text value
  | value => value.restored

theorem draftCandidate_valueText {value : SourceValue ν} {valueType : EditableInputValueType} (h : value.Stored)
    (htype : value.type = valueType.type) : draftCandidate valueType (valueText value) = .ok value.restored := by
  cases value with
  | empty => exact absurd htype.symm valueType.type_ne_empty
  | text value =>
    obtain rfl : .text = valueType := EditableInputValueType.type_injective htype
    rfl
  | number value =>
    obtain rfl : .number = valueType := EditableInputValueType.type_injective htype
    have hnumber : ValueRuntime.toNumber (valueText (.number value)) = unsignedZero value :=
      ValueRuntime.toNumber_numberToString value h
    rw [draftCandidate]
    simp only [hnumber]
    rw [if_pos (isFinite_unsignedZero h), SourceValue.restored]
  | boolean value =>
    obtain rfl : .boolean = valueType := EditableInputValueType.type_injective htype
    cases value <;> rfl
  | timestamp value =>
    obtain rfl : .timestamp = valueType := EditableInputValueType.type_injective htype
    obtain ⟨date, milliseconds, hdate, -, -⟩ := parseDate_stored (ν := ν) h
    rw [draftCandidate, valueText, hdate, restored_timestamp hdate]
  | json value =>
    obtain rfl : .json = valueType := EditableInputValueType.type_injective htype
    have hread : (parseJsonTree (stringifyTree value)).bind readJsonSchema = some (value.mapNumbers unsignedZero) := by
      rw [parseJsonTree_stringify h, Option.bind_some, readJsonSchema_eq (OwnJson.mapNumbers h)]
    rw [draftCandidate, valueText, hread, SourceValue.restored]

theorem redrafted_of_ne_text {value : SourceValue ν} (h : value.type ≠ .text) : value.redrafted = value.restored := by
  cases value with
  | text value => exact absurd rfl h
  | empty => rfl
  | number value => rfl
  | boolean value => rfl
  | timestamp value => rfl
  | json value => rfl

theorem parseEditableCellDraft_empty (valueType : EditableInputValueType) :
    parseEditableCellDraft valueType (.ofString "") = .ok (.empty : SourceValue ν) := by
  have hsize : (JsString.ofString "").byteLength ≤ MAXIMUM_EDITABLE_CELL_BYTES := by decide
  rw [parseEditableCellDraft, if_neg (not_lt.mpr hsize), if_pos (.inl rfl)]

theorem parseEditableCellDraft_candidate {valueType : EditableInputValueType} {draft : JsString} {candidate value : SourceValue ν}
    (hsize : draft.byteLength ≤ MAXIMUM_EDITABLE_CELL_BYTES) (hdraft : draft ≠ .ofString "")
    (hvisible : valueType ≠ .text → draft.trim ≠ .ofString "") (hcandidate : draftCandidate valueType draft = .ok candidate)
    (hread : readEditableCellValue candidate = some value) : parseEditableCellDraft valueType draft = .ok value := by
  rw [parseEditableCellDraft, if_neg (not_lt.mpr hsize), if_neg (not_or.mpr ⟨hdraft, fun hboth => hvisible hboth.1 hboth.2⟩),
    hcandidate]
  simp only [bind, Except.bind, hread]

theorem parseEditableCellDraft_valueText {value : SourceValue ν} {valueType : EditableInputValueType} (h : value.Stored)
    (hsize : value.byteLength ≤ MAXIMUM_EDITABLE_CELL_BYTES) (htype : value.type = .empty ∨ value.type = valueType.type) :
    parseEditableCellDraft valueType (formatEditableCellDraft value) = .ok value.redrafted := by
  rcases htype with hempty | htype
  · obtain rfl := SourceValue.eq_empty hempty
    exact parseEditableCellDraft_empty valueType
  have hcandidate := draftCandidate_valueText h htype
  have hread := readEditableCellValue_stored (SourceValue.restored_stored h) (SourceValue.restored_byteLength h hsize)
  by_cases htext : value.type = .text
  · obtain ⟨text, rfl⟩ := SourceValue.eq_text htext
    obtain rfl : .text = valueType := EditableInputValueType.type_injective htype
    by_cases hblank : text = .ofString ""
    · rw [SourceValue.redrafted, if_pos hblank, hblank]
      exact parseEditableCellDraft_empty .text
    · rw [SourceValue.redrafted, if_neg hblank]
      exact parseEditableCellDraft_candidate hsize hblank (absurd rfl) hcandidate hread
  · obtain ⟨c, hc, hvisible⟩ := valueText_visible h (htype ▸ valueType.type_ne_empty) htext
    have hdraft : valueText value ≠ .ofString "" := by
      intro hblank
      rw [hblank] at hc
      exact nomatch hc
    rw [redrafted_of_ne_text htext]
    exact parseEditableCellDraft_candidate hsize hdraft (fun _ => JsString.trim_ne_empty hc hvisible) hcandidate hread

theorem SourceValue.redrafted_spec {value : SourceValue ν} {valueType : EditableInputValueType} (h : value.Stored)
    (hsize : value.byteLength ≤ MAXIMUM_EDITABLE_CELL_BYTES) (htype : value.type = .empty ∨ value.type = valueType.type) :
    value.redrafted.Stored ∧ value.redrafted.byteLength ≤ MAXIMUM_EDITABLE_CELL_BYTES ∧
      (value.redrafted.type = .empty ∨ value.redrafted.type = valueType.type) ∧
      value.redrafted.redrafted = value.redrafted := by
  by_cases htext : value.type = .text
  · obtain ⟨text, rfl⟩ := SourceValue.eq_text htext
    rw [SourceValue.redrafted]
    split_ifs with hblank
    · exact ⟨trivial, byteLength_empty, .inl rfl, rfl⟩
    · exact ⟨trivial, hsize, htype, if_neg hblank⟩
  · have hsame := SourceValue.restored_type h
    rw [redrafted_of_ne_text htext]
    exact ⟨restored_stored h, restored_byteLength h hsize, by rwa [hsame],
      (redrafted_of_ne_text (by rwa [hsame])).trans (restored_restored h)⟩

/-- The unchanged draft of a stored value saves the value again, an empty text as an empty cell,
a zero without its sign and a timestamp as the canonical text of its instant; the draft of what
was saved saves just that. -/
theorem editDraft_roundTrip {value : SourceValue ν} {valueType : EditableInputValueType} (h : value.Stored)
    (hsize : value.byteLength ≤ MAXIMUM_EDITABLE_CELL_BYTES) (htype : value.type = .empty ∨ value.type = valueType.type) :
    parseEditableCellDraft valueType (formatEditableCellDraft value) = .ok value.redrafted ∧
      parseEditableCellDraft valueType (formatEditableCellDraft value.redrafted) = .ok value.redrafted ∧
      ∀ text, value = .timestamp text → ∃ canonical, value.redrafted = .timestamp canonical ∧
        readIsoDate canonical.chars = readIsoDate text.chars := by
  obtain ⟨hstored, hshort, hkind, hagain⟩ := SourceValue.redrafted_spec h hsize htype
  have hsecond := parseEditableCellDraft_valueText hstored hshort hkind
  rw [hagain] at hsecond
  refine ⟨parseEditableCellDraft_valueText h hsize htype, hsecond, ?_⟩
  rintro text rfl
  exact restored_instant h

end Values

def plainDate : SourceValue CalendarInteger :=
  .timestamp (.ofString "2026-01-01T00:00:00Z")

def canonicalDate : SourceValue CalendarInteger :=
  .timestamp (.ofString "2026-01-01T00:00:00.000Z")

theorem canonicalDate_ne : canonicalDate ≠ plainDate := by
  intro heq
  have hunits := congrArg JsString.units (SourceValue.timestamp.inj heq)
  exact absurd hunits (by decide)

theorem editDraft_roundTrip_date :
    parseEditableCellDraft .timestamp (formatEditableCellDraft canonicalDate) = .ok canonicalDate := by
  have hdate : canonicalDate.Stored := by
    rw [canonicalDate, SourceValue.Stored]
    decide
  have hsize : canonicalDate.byteLength ≤ MAXIMUM_EDITABLE_CELL_BYTES := by decide
  exact (editDraft_roundTrip hdate hsize (.inr rfl)).1

/-- The draft of an empty text and the draft of a date without its milliseconds save another value. -/
theorem editDraft_changes :
    parseEditableCellDraft .text (formatEditableCellDraft (.text (.ofString "") : SourceValue CalendarInteger)) =
        .ok (.empty : SourceValue CalendarInteger) ∧
      parseEditableCellDraft .timestamp (formatEditableCellDraft plainDate) = .ok canonicalDate ∧ canonicalDate ≠ plainDate :=
  ⟨rfl, rfl, canonicalDate_ne⟩

section Conversion

variable {ν : Type} [ValueRuntime ν]

theorem convertTextValue_spec {value : JsString} {targetType : EditableInputValueType} {result : SourceValue ν}
    (h : convertTextValue value targetType = .ok result) (htarget : targetType ≠ .text) :
    result.type = targetType.type ∧ result.byteLength ≤ MAXIMUM_EDITABLE_CELL_BYTES := by
  rw [convertTextValue.eq_def] at h
  split at h
  · dsimp only at h
    split_ifs at h with hblank hfinite
    cases h
    exact ⟨rfl, byteLength_number hfinite⟩
  · split_ifs at h with htrue hfalse
    · cases h
      exact ⟨rfl, byteLength_boolean true⟩
    · cases h
      exact ⟨rfl, byteLength_boolean false⟩
  · split_ifs at h with hoffset
    split at h
    · next date _ =>
        cases h
        exact ⟨rfl, byteLength_date date⟩
    · cases h
  · split at h
    · exact validateConvertedValue_eq_ok h
    · cases h
  · exact absurd rfl htarget

theorem convertJsonValue_spec {value : JsonTree JsString ν} {targetType : EditableInputValueType} {result : SourceValue ν}
    (h : convertJsonValue value targetType = .ok result) (htarget : targetType ≠ .text) :
    result.type = targetType.type ∧ result.byteLength ≤ MAXIMUM_EDITABLE_CELL_BYTES := by
  rw [convertJsonValue.eq_def] at h
  split at h
  · exact convertTextValue_spec h htarget
  · exact validateConvertedValue_eq_ok h
  · cases h
    exact ⟨rfl, byteLength_boolean _⟩
  · cases h

theorem convertColumnCellValue_same {source : SourceValue ν} {targetType : EditableInputValueType}
    (h : source.type = .empty ∨ source.type = targetType.type) : convertColumnCellValue source targetType = .ok source :=
  if_pos h

theorem convertColumnCellValue_other {source result : SourceValue ν} {targetType : EditableInputValueType}
    (h : ¬ (source.type = .empty ∨ source.type = targetType.type)) (hconvert : convertColumnCellValue source targetType = .ok result) :
    result.type = targetType.type ∧ result.byteLength ≤ MAXIMUM_EDITABLE_CELL_BYTES := by
  rw [convertColumnCellValue.eq_def, if_neg h] at hconvert
  split at hconvert
  · exact validateConvertedValue_eq_ok hconvert
  · exact convertTextValue_spec hconvert (by decide)
  · exact validateConvertedValue_eq_ok hconvert
  · next hnotText _ => exact convertJsonValue_spec hconvert hnotText
  · next hnotText _ => exact convertTextValue_spec hconvert hnotText
  · cases hconvert

theorem convertTextValue_valueText {value : SourceValue ν} {valueType : EditableInputValueType} (h : value.Stored)
    (hsize : value.byteLength ≤ MAXIMUM_EDITABLE_CELL_BYTES) (htype : value.type = valueType.type) :
    convertTextValue (valueText value) valueType = .ok value.restored := by
  cases value with
  | empty => exact absurd htype.symm valueType.type_ne_empty
  | text value =>
    obtain rfl : .text = valueType := EditableInputValueType.type_injective htype
    rfl
  | number value =>
    obtain rfl : .number = valueType := EditableInputValueType.type_injective htype
    have hnumber : ValueRuntime.toNumber (valueText (.number value)) = unsignedZero value :=
      ValueRuntime.toNumber_numberToString value h
    obtain ⟨c, hc, hvisible⟩ := numberText_visible h
    have htrim : (valueText (.number value)).trim ≠ .ofString "" := JsString.trim_ne_empty hc hvisible
    rw [convertTextValue, if_neg htrim]
    simp only [hnumber]
    rw [if_pos (isFinite_unsignedZero h), SourceValue.restored]
  | boolean value =>
    obtain rfl : .boolean = valueType := EditableInputValueType.type_injective htype
    cases value <;> rfl
  | timestamp value =>
    obtain rfl : .timestamp = valueType := EditableInputValueType.type_injective htype
    obtain ⟨date, milliseconds, hdate, -, -⟩ := parseDate_stored (ν := ν) h
    have htrim : value.trim = value := by
      rw [JsString.trim, trimChars_of_trimmed (isoDate_trimmed h), JsString.ofChars_chars]
    rw [convertTextValue, valueText, htrim, hasUtcOffset, if_pos (isoDate_offset h), hdate, restored_timestamp hdate]
  | json value =>
    obtain rfl : .json = valueType := EditableInputValueType.type_injective htype
    have hvalid := validateConvertedValue_stored _ (SourceValue.restored_stored h) (SourceValue.restored_byteLength h hsize)
    rw [SourceValue.restored] at hvalid
    rw [convertTextValue, valueText, parseJsonTree_stringify h, SourceValue.restored]
    exact hvalid

theorem convertColumnCellValue_text {source : SourceValue ν} (hempty : source.type ≠ .empty)
    (hsize : source.byteLength ≤ MAXIMUM_EDITABLE_CELL_BYTES) :
    convertColumnCellValue source .text = .ok (.text (valueText source)) := by
  by_cases htext : source.type = .text
  · obtain ⟨text, rfl⟩ := SourceValue.eq_text htext
    rfl
  · have hother : ¬ (source.type = .empty ∨ source.type = EditableInputValueType.text.type) := not_or.mpr ⟨hempty, htext⟩
    rw [convertColumnCellValue, if_neg hother]
    exact validateConvertedValue_stored (.text (valueText source)) trivial hsize

theorem convertColumnCellValue_ofText (text : JsString) {valueType : EditableInputValueType} (h : valueType ≠ .text) :
    convertColumnCellValue (.text text : SourceValue ν) valueType = convertTextValue text valueType := by
  cases valueType with
  | text => exact absurd rfl h
  | number => rfl
  | boolean => rfl
  | timestamp => rfl
  | json => rfl

/-- A stored value within the limit is converted to text and back to itself, a zero without its
sign and a timestamp in the canonical text of its instant. What a conversion gives is of the
target type and within the limit, an empty value and a value of the target type being given
back as they are. -/
theorem columnConversion_roundTrip :
    (∀ (value : SourceValue ν) (valueType : EditableInputValueType), value.Stored → value.byteLength ≤ MAXIMUM_EDITABLE_CELL_BYTES →
      value.type = valueType.type → valueType ≠ .text → ∃ text, convertColumnCellValue value .text = .ok (.text text) ∧
        convertColumnCellValue (.text text) valueType = .ok value.restored ∧ value.restored.restored = value.restored ∧
        ∀ date, value = .timestamp date → ∃ canonical, value.restored = .timestamp canonical ∧
          readIsoDate canonical.chars = readIsoDate date.chars) ∧
    (∀ (value result : SourceValue ν) (targetType : EditableInputValueType), convertColumnCellValue value targetType = .ok result →
      (result.type = .empty ∨ result.type = targetType.type) ∧
      (value.byteLength ≤ MAXIMUM_EDITABLE_CELL_BYTES ∨ value.type ≠ targetType.type →
        result.byteLength ≤ MAXIMUM_EDITABLE_CELL_BYTES)) ∧
    (∀ (result : SourceValue ν) (targetType : EditableInputValueType),
      convertColumnCellValue .empty targetType = .ok result ↔ result = .empty) := by
  refine ⟨fun value valueType h hsize htype htext => ?_, fun value result targetType hconvert => ?_, fun result targetType => ?_⟩
  · refine ⟨valueText value, convertColumnCellValue_text (htype ▸ valueType.type_ne_empty) hsize, ?_, SourceValue.restored_restored h, ?_⟩
    · rw [convertColumnCellValue_ofText _ htext]
      exact convertTextValue_valueText h hsize htype
    · rintro date rfl
      exact restored_instant h
  · by_cases hsame : value.type = .empty ∨ value.type = targetType.type
    · rw [convertColumnCellValue_same hsame] at hconvert
      cases hconvert
      refine ⟨hsame, fun hsize => ?_⟩
      rcases hsame with hempty | hsame
      · obtain rfl := SourceValue.eq_empty hempty
        exact byteLength_empty
      · exact hsize.resolve_right (not_not_intro hsame)
    · obtain ⟨htype, hsize⟩ := convertColumnCellValue_other hsame hconvert
      exact ⟨.inr htype, fun _ => hsize⟩
  · rw [convertColumnCellValue_same (.inl rfl), Except.ok.injEq]
    exact eq_comm

end Conversion

theorem columnConversion_roundTrip_boolean :
    ∃ text, convertColumnCellValue (.boolean true : SourceValue CalendarInteger) .text = .ok (.text text) ∧
      convertColumnCellValue (.text text : SourceValue CalendarInteger) .boolean = .ok (.boolean true) := by
  obtain ⟨text, htext, hback, -⟩ :=
    (columnConversion_roundTrip (ν := CalendarInteger)).1 (.boolean true) .boolean trivial (by decide) rfl (by decide)
  exact ⟨text, htext, hback⟩

def longText : JsString :=
  .ofString (String.ofList (List.replicate 262145 'a'))

/-- A date without its milliseconds comes back with them, and a text above the limit stays. -/
theorem columnConversion_changes :
    (∃ text, convertColumnCellValue plainDate .text = .ok (.text text) ∧
      convertColumnCellValue (.text text) .timestamp = .ok canonicalDate ∧ canonicalDate ≠ plainDate) ∧
    ∃ value result : SourceValue CalendarInteger, convertColumnCellValue value .text = .ok result ∧
      MAXIMUM_EDITABLE_CELL_BYTES < result.byteLength := by
  constructor
  · exact ⟨.ofString "2026-01-01T00:00:00Z", rfl, rfl, canonicalDate_ne⟩
  · refine ⟨.text longText, .text longText, rfl, ?_⟩
    rw [SourceValue.byteLength, valueText, longText, JsString.byteLength, JsString.text_ofString, utf8ByteLength,
      String.toList_ofList, List.map_replicate, List.sum_replicate]
    decide

end ByokGrid
