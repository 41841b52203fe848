import ByokGrid.AirbyteCheckpoints
import ByokGrid.IntegerTexts
import ByokGrid.SourceNormalization

/-! The batches of the destination before the normalization of the server: the body of a
batch is read back as its records, so the server takes it exactly when they fit together. -/

namespace ByokGrid

section OwnNames

variable {α ν : Type}

theorem distinct_of_nodup [DecidableEq α] {xs : List α} (h : xs.Nodup) : distinct xs = xs := by
  have hfold : ∀ seen rest : List α, (seen ++ rest).Nodup →
      rest.foldl (fun seen x => if x ∈ seen then seen else seen ++ [x]) seen = seen ++ rest := by
    intro seen rest
    induction rest generalizing seen with
    | nil => exact fun _ => (List.append_nil seen).symm
    | cons x rest ih =>
      intro hnodup
      have hfresh : x ∉ seen := fun hmem => (List.nodup_append.mp hnodup).2.2 x hmem x List.mem_cons_self rfl
      rw [List.foldl_cons, if_neg hfresh, ih (seen ++ [x]) (by simpa using hnodup), List.append_assoc]
      rfl
  exact hfold [] xs h

theorem mem_lastFields {fields : List (String × α)} {field : String × α} (h : field ∈ lastFields fields) :
    field ∈ fields := by
  obtain ⟨name, _, hfield⟩ := List.mem_filterMap.mp h
  obtain ⟨found, hfound, rfl⟩ := Option.map_eq_some_iff.mp hfield
  have hname : found.1 = name := by simpa using List.find?_some hfound
  rw [← hname]
  exact List.mem_reverse.mp (List.mem_of_find?_eq_some hfound)

theorem lastFields_names (fields : List (String × α)) : (lastFields fields).map Prod.fst = distinct (fields.map Prod.fst) := by
  rw [lastFields, List.map_filterMap]
  refine Eq.trans (List.filterMap_congr fun name hname => ?_) List.filterMap_some
  obtain ⟨field, hfield, rfl⟩ := List.mem_map.mp (mem_distinct.mp hname)
  have hsome : (fields.reverse.find? fun other => other.1 = field.1).isSome = true := by
    rw [List.find?_isSome]
    exact ⟨field, List.mem_reverse.mpr hfield, decide_eq_true rfl⟩
  obtain ⟨found, hfound⟩ := Option.isSome_iff_exists.mp hsome
  rw [hfound]
  rfl

theorem lastFields_of_nodup {fields : List (String × α)} (h : (fields.map Prod.fst).Nodup) : lastFields fields = fields := by
  rw [lastFields, distinct_of_nodup h, List.filterMap_map]
  refine Eq.trans (List.filterMap_congr fun field hfield => ?_) List.filterMap_some
  have hnodup : (fields.reverse.map Prod.fst).Nodup := by
    rw [List.map_reverse]
    exact List.nodup_reverse.mpr h
  simp only [Function.comp_apply, find?_eq_of_mem hnodup (List.mem_reverse.mpr hfield), Option.map_some]

inductive Json.OwnNames : Json ν → Prop
  | null : OwnNames .null
  | boolean (value : Bool) : OwnNames (.boolean value)
  | number (value : ν) : OwnNames (.number value)
  | string (value : String) : OwnNames (.string value)
  | array {items : List (Json ν)} (h : ∀ item ∈ items, item.OwnNames) : OwnNames (.array items)
  | object {fields : List (String × Json ν)} (names : (fields.map Prod.fst).Nodup)
    (h : ∀ field ∈ fields, field.2.OwnNames) : OwnNames (.object fields)

mutual

theorem withLastFields_ownNames : ∀ value : Json ν, value.withLastFields.OwnNames
  | .null => .null
  | .boolean value => .boolean value
  | .number value => .number value
  | .string value => .string value
  | .array items => .array (itemsWithLastFields_ownNames items)
  | .object fields => by
    refine .object ?_ fun field hfield => fieldsWithLastFields_ownNames fields field (mem_lastFields hfield)
    rw [lastFields_names]
    exact nodup_distinct _

theorem itemsWithLastFields_ownNames : ∀ (items : List (Json ν)), ∀ item ∈ Json.itemsWithLastFields items, item.OwnNames
  | [], _, h => nomatch h
  | first :: items, item, h => by
    rcases List.mem_cons.mp h with rfl | hlater
    · exact withLastFields_ownNames first
    · exact itemsWithLastFields_ownNames items item hlater

theorem fieldsWithLastFields_ownNames :
    ∀ (fields : List (String × Json ν)), ∀ field ∈ Json.fieldsWithLastFields fields, field.2.OwnNames
  | [], _, h => nomatch h
  | (name, value) :: fields, field, h => by
    rcases List.mem_cons.mp h with rfl | hlater
    · exact withLastFields_ownNames value
    · exact fieldsWithLastFields_ownNames fields field hlater

end

theorem Json.OwnNames.property {fields : List (String × Json ν)} (h : (Json.object fields).OwnNames) {name : String}
    {value : Json ν} (hvalue : property? fields name = some value) : value.OwnNames := by
  obtain ⟨field, hfield, rfl⟩ := Option.map_eq_some_iff.mp hvalue
  cases h with
  | object _ h => exact h field (List.mem_of_find?_eq_some hfield)

theorem parseRecordMessage_data {value : Option (Json ν)} {message : AirbyteRecordMessage ν}
    (h : parseRecordMessage value = .ok message) :
    ∃ record, value = some (.object record) ∧ property? record "data" = some (.object message.data) := by
  unfold parseRecordMessage at h
  split at h
  · rename_i record
    split at h
    · rename_i data hstream hnamespace hdata
      split at h
      · cases h
      · cases h
        exact ⟨record, rfl, hdata⟩
    · cases h
  · cases h

section Lines

variable [JsRuntime ν] [IntegerNumbers ν]

theorem readLine_record {line : String} {message : AirbyteRecordMessage ν} (h : readLine line = .ok (.record message)) :
    ∃ fields, (parseJson IntegerNumbers.parseNumber line).map Json.withLastFields = some (.object fields) ∧
      parseRecordMessage (property? fields "record") = .ok message := by
  unfold readLine at h
  split at h
  · cases h
  · split at h
    · cases h
    · split at h
      · cases h
      · rename_i fields hparse
        refine ⟨fields, hparse, ?_⟩
        split at h
        · obtain ⟨record, hrecord, heq⟩ := except_map_eq_ok.mp h
          cases heq
          exact hrecord
        · split at h <;> cases h
        · cases h
        · cases h
        · cases h
        · cases h
      · cases h

theorem readLine_names {line : String} {message : AirbyteRecordMessage ν} (h : readLine line = .ok (.record message)) :
    (message.data.map Prod.fst).Nodup := by
  obtain ⟨fields, hparse, hmessage⟩ := readLine_record h
  obtain ⟨record, hrecord, hdata⟩ := parseRecordMessage_data hmessage
  obtain ⟨value, _, hvalue⟩ := Option.map_eq_some_iff.mp hparse
  have hown : (Json.object fields).OwnNames := hvalue ▸ withLastFields_ownNames value
  cases (hown.property hrecord).property hdata with
  | object names _ => exact names

end Lines

end OwnNames

section Rows

variable {ν : Type} [JsRuntime ν]

structure WriterRow (recordKeyField : String) (row : List (String × Json ν)) : Prop where
  names : (row.map Prod.fst).Nodup
  valid : ∀ entry ∈ row, entry.1 ≠ "" ∧ utf16Length entry.1 ≤ 120 ∧ entry.1.toList.any isControlCharacter = false
  scalar : ∀ entry ∈ row, (scalarText entry.2).isSome = true
  key : usableKey (property? row recordKeyField) = true

variable [IntegerNumbers ν] {recordKeyField : String}

theorem normalizeFields_spec {data row : List (String × Json ν)} (h : normalizeFields data = .ok row) :
    row.map Prod.fst = data.map Prod.fst ∧
    ∀ entry ∈ row, (entry.1 ≠ "" ∧ utf16Length entry.1 ≤ 120 ∧ entry.1.toList.any isControlCharacter = false) ∧
      (scalarText entry.2).isSome = true := by
  induction data generalizing row with
  | nil =>
    cases h
    exact ⟨rfl, fun _ h => nomatch h⟩
  | cons entry data ih =>
    obtain ⟨field, value⟩ := entry
    simp only [normalizeFields, except_bind_eq_ok, rejectIf_eq_ok, Bool.or_eq_false_iff, decide_eq_false_iff_not, not_lt,
      pure, Except.pure, Except.ok.injEq] at h
    obtain ⟨_, ⟨⟨hne, hlength⟩, hcontrol⟩, _, hnumbers, rest, hrest, rfl⟩ := h
    obtain ⟨hnames, hentries⟩ := ih hrest
    refine ⟨by simp [hnames], List.forall_mem_cons.mpr ⟨⟨⟨hne, hlength, hcontrol⟩, ?_⟩, hentries⟩⟩
    cases value with
    | number value =>
      have hfinite : JsRuntime.isFinite value = true := by
        cases hfinite : JsRuntime.isFinite value with
        | true => rfl
        | false => simp [assertSafeNumbers, hfinite] at hnumbers
      simp [scalarText, hfinite]
    | _ => rfl

theorem normalizeRecord_row {data row : List (String × Json ν)} (hnames : (data.map Prod.fst).Nodup)
    (h : normalizeRecord data recordKeyField = .ok row) : WriterRow recordKeyField row := by
  simp only [normalizeRecord, except_bind_eq_ok, rejectIf_eq_ok, Bool.not_eq_false', pure, Except.pure, Except.ok.injEq] at h
  obtain ⟨_, _, row', hfields, _, hkey, rfl⟩ := h
  obtain ⟨hsame, hentries⟩ := normalizeFields_spec hfields
  exact ⟨hsame ▸ hnames, fun entry hentry => (hentries entry hentry).1, fun entry hentry => (hentries entry hentry).2, hkey⟩

theorem isSourceFieldName_iff {name : String} (hlength : utf16Length name ≤ 120)
    (hcontrol : name.toList.any isControlCharacter = false) : isSourceFieldName name = true ↔ jsTrim name ≠ "" := by
  have hshort := (utf16Length_jsTrim_le name).trans hlength
  have hclean : (jsTrim name).toList.any isControlCharacter = false := by
    rw [List.any_eq_false] at hcontrol ⊢
    exact fun c hc => hcontrol c ((jsTrim_sublist name).subset hc)
  by_cases hblank : jsTrim name = ""
  · simp [isSourceFieldName, parseShortText, hblank, utf16Length]
  · simp [isSourceFieldName, parseShortText, hblank, utf16Length_pos hblank, hshort, hclean]

end Rows

/-- The texts of finite numbers, as the language writes and reads them. -/
class NumberTexts (ν : Type) [JsRuntime ν] [IntegerNumbers ν] : Prop where
  reads : ∀ n : ν, JsRuntime.isFinite n = true → ∀ rest, Delimited rest →
    readNumber ((JsRuntime.numberToString n).toList ++ rest) = some (JsRuntime.numberToString n, rest)
  finite : ∀ n : ν, JsRuntime.isFinite n = true → JsRuntime.isFinite (reread IntegerNumbers.parseNumber n) = true
  text : ∀ n : ν, JsRuntime.isFinite n = true →
    JsRuntime.numberToString (reread IntegerNumbers.parseNumber n) = JsRuntime.numberToString n

section Texts

variable {ν : Type} [JsRuntime ν]

def sortedFields (row : List (String × Json ν)) : List (String × Json ν) :=
  row.insertionSort fun left right => codeUnitsLe left.1 right.1

omit [JsRuntime ν] in
theorem sortedFields_perm (row : List (String × Json ν)) : (sortedFields row).Perm row :=
  List.perm_insertionSort _ row

theorem stableFields_eq (fields : List (String × Json ν)) :
    stableFields fields = fields.map fun field => (field.1, stableStringify field.2) := by
  induction fields with
  | nil => rfl
  | cons field fields ih => simp [stableFields, ih]

theorem stringifyFields_eq (fields : List (String × Json ν)) :
    Json.stringifyFields fields = fields.map fun field => jsonQuote field.1 ++ ":" ++ field.2.stringify := by
  induction fields with
  | nil => simp [Json.stringifyFields]
  | cons field fields ih => simp [Json.stringifyFields, ih]

theorem stringifyItems_eq (items : List (Json ν)) : Json.stringifyItems items = items.map Json.stringify := by
  induction items with
  | nil => simp [Json.stringifyItems]
  | cons item items ih => simp [Json.stringifyItems, ih]

theorem stableStringify_scalar {value : Json ν} (h : (scalarText value).isSome = true) :
    stableStringify value = value.stringify := by
  cases value with
  | array items => cases h
  | object fields => cases h
  | null => simp [stableStringify, Json.stringify]
  | boolean value => simp [stableStringify, Json.stringify]
  | number value => simp [stableStringify, Json.stringify]
  | string value => simp [stableStringify, Json.stringify]

theorem stableStringify_row {row : List (String × Json ν)} (h : ∀ entry ∈ row, (scalarText entry.2).isSome = true) :
    stableStringify (.object row) = (Json.object (sortedFields row)).stringify := by
  have hsort : (stableFields row).insertionSort (fun left right => codeUnitsLe left.1 right.1) =
      (sortedFields row).map fun field => (field.1, stableStringify field.2) := by
    rw [stableFields_eq, sortedFields, List.map_insertionSort _ (fun left right => codeUnitsLe left.1 right.1)]
    exact fun _ _ _ _ => Iff.rfl
  have hfields : ∀ field ∈ sortedFields row, jsonQuote field.1 ++ ":" ++ stableStringify field.2 =
      jsonQuote field.1 ++ ":" ++ field.2.stringify := by
    intro field hfield
    rw [stableStringify_scalar (h field ((sortedFields_perm row).mem_iff.mp hfield))]
  rw [stableStringify, Json.stringify, hsort, List.map_map, stringifyFields_eq]
  congr 3
  exact List.map_congr_left hfields

theorem batchBody_eq {rows : List (List (String × Json ν))}
    (h : ∀ row ∈ rows, ∀ entry ∈ row, (scalarText entry.2).isSome = true) :
    batchBody (rows.map fun row => stableStringify (.object row)) = (recordsEnvelope (rows.map sortedFields)).stringify := by
  have hrows : rows.map (fun row => stableStringify (.object row)) =
      Json.stringifyItems ((rows.map sortedFields).map .object) := by
    rw [stringifyItems_eq, List.map_map, List.map_map]
    exact List.map_congr_left fun row hrow => stableStringify_row (h row hrow)
  have hopen : "\x7b\"records\":[" = "\x7b" ++ (jsonQuote "records" ++ ":" ++ "[") := by decide
  have hclose : "]\x7d" = "]" ++ "\x7d" := by decide
  rw [batchBody, hrows, recordsEnvelope, Json.stringify, stringifyFields_eq, List.map_singleton, String.intercalate_singleton,
    Json.stringify, hopen, hclose]
  simp only [String.append_assoc]

omit [JsRuntime ν] in
theorem mapNumbers_envelope (f : ν → ν) (rows : List (List (String × Json ν))) :
    (recordsEnvelope rows).mapNumbers f = recordsEnvelope (rows.map (Json.mapFields f)) := by
  simp [recordsEnvelope, Json.mapNumbers, Json.mapFields, mapItems_eq]

theorem allNumbers_scalar {value : Json ν} (h : (scalarText value).isSome = true) :
    value.allNumbers JsRuntime.isFinite = true := by
  cases value with
  | number value =>
    cases hfinite : JsRuntime.isFinite value with
    | true => exact hfinite
    | false => simp [scalarText, hfinite] at h
  | array items => cases h
  | object fields => cases h
  | null => rfl
  | boolean value => rfl
  | string value => rfl

omit [JsRuntime ν] in
theorem allNumbers_envelope {p : ν → Bool} {rows : List (List (String × Json ν))}
    (h : ∀ row ∈ rows, ∀ entry ∈ row, entry.2.allNumbers p = true) : (recordsEnvelope rows).allNumbers p = true := by
  have hitems : Json.allItems p (rows.map .object) = true := by
    induction rows with
    | nil => rfl
    | cons row rows ih =>
      obtain ⟨hrow, hrows⟩ := List.forall_mem_cons.mp h
      rw [List.map_cons, Json.allItems, ih hrows, Bool.and_true]
      exact allFields_iff.mpr hrow
  simp [recordsEnvelope, Json.allNumbers, Json.allFields, hitems]

theorem withLastFields_scalar {value : Json ν} (h : (scalarText value).isSome = true) : value.withLastFields = value := by
  cases value with
  | array items => cases h
  | object fields => cases h
  | null => rfl
  | boolean value => rfl
  | string value => rfl
  | number value => rfl

theorem withLastFields_row {row : List (String × Json ν)} (hnames : (row.map Prod.fst).Nodup)
    (hscalar : ∀ entry ∈ row, (scalarText entry.2).isSome = true) : (Json.object row).withLastFields = .object row := by
  have hfields : Json.fieldsWithLastFields row = row := by
    clear hnames
    induction row with
    | nil => rfl
    | cons entry row ih =>
      obtain ⟨hentry, hrow⟩ := List.forall_mem_cons.mp hscalar
      rw [Json.fieldsWithLastFields, withLastFields_scalar hentry, ih hrow]
  rw [Json.withLastFields, hfields, lastFields_of_nodup hnames]

theorem withLastFields_envelope {rows : List (List (String × Json ν))} (hnames : ∀ row ∈ rows, (row.map Prod.fst).Nodup)
    (hscalar : ∀ row ∈ rows, ∀ entry ∈ row, (scalarText entry.2).isSome = true) :
    (recordsEnvelope rows).withLastFields = recordsEnvelope rows := by
  have hitems : Json.itemsWithLastFields (rows.map .object) = rows.map .object := by
    induction rows with
    | nil => rfl
    | cons row rows ih =>
      obtain ⟨hname, hnames⟩ := List.forall_mem_cons.mp hnames
      obtain ⟨hentry, hscalar⟩ := List.forall_mem_cons.mp hscalar
      rw [List.map_cons, Json.itemsWithLastFields, withLastFields_row hname hentry, ih hnames hscalar]
  simp only [recordsEnvelope, Json.withLastFields, Json.fieldsWithLastFields, hitems]
  exact congrArg _ (lastFields_of_nodup (List.nodup_singleton _))

variable [IntegerNumbers ν] [NumberTexts ν]

theorem NumberTexts.readable : ReadableNumbers (fun n : ν => JsRuntime.isFinite n) :=
  ⟨NumberTexts.reads⟩

theorem scalarText_reread {value : Json ν} (h : (scalarText value).isSome = true) :
    scalarText (value.mapNumbers (reread IntegerNumbers.parseNumber)) = scalarText value := by
  cases value with
  | number value =>
    have hfinite : JsRuntime.isFinite value = true := allNumbers_scalar h
    simp [Json.mapNumbers, scalarText, hfinite, NumberTexts.finite value hfinite, NumberTexts.text value hfinite]
  | array items => cases h
  | object fields => cases h
  | null => rfl
  | boolean value => rfl
  | string value => rfl

def receivedRow (row : List (String × Json ν)) : List (String × Json ν) :=
  Json.mapFields (reread IntegerNumbers.parseNumber) (sortedFields row)

theorem receivedRow_alike {row : List (String × Json ν)} (h : ∀ entry ∈ row, (scalarText entry.2).isSome = true) :
    Alike (receivedRow row) row := by
  refine ⟨?_⟩
  have htexts : entryTexts (receivedRow row) = entryTexts (sortedFields row) := by
    rw [receivedRow, mapFields_eq, entryTexts, entryTexts, List.map_map]
    refine List.map_congr_left fun entry hentry => ?_
    have hscalar := h entry ((sortedFields_perm row).mem_iff.mp hentry)
    simp only [Function.comp_apply, scalarText_reread hscalar]
  rw [htexts]
  exact (sortedFields_perm row).map _

theorem parse_batchBody {rows : List (List (String × Json ν))} (hnames : ∀ row ∈ rows, (row.map Prod.fst).Nodup)
    (hscalar : ∀ row ∈ rows, ∀ entry ∈ row, (scalarText entry.2).isSome = true) :
    (parseJson IntegerNumbers.parseNumber (batchBody (rows.map fun row => stableStringify (.object row)))).map
      Json.withLastFields = some (recordsEnvelope (rows.map receivedRow)) := by
  have hsorted : ∀ row ∈ rows.map sortedFields, ∀ entry ∈ row, entry.2.allNumbers JsRuntime.isFinite = true := by
    intro row hrow entry hentry
    obtain ⟨raw, hraw, rfl⟩ := List.mem_map.mp hrow
    exact allNumbers_scalar (hscalar raw hraw entry ((sortedFields_perm raw).mem_iff.mp hentry))
  rw [batchBody_eq hscalar, parseJson_readable NumberTexts.readable _ (allNumbers_envelope hsorted), Option.map_some,
    mapNumbers_envelope, List.map_map]
  congr 1
  refine withLastFields_envelope (fun row hrow => ?_) fun row hrow => ?_
  all_goals
    obtain ⟨raw, hraw, rfl⟩ := List.mem_map.mp hrow
    have halike := receivedRow_alike (hscalar raw hraw)
  · exact halike.names.nodup_iff.mpr (hnames raw hraw)
  · exact halike.scalar (hscalar raw hraw)

def ServerAccepts (ν : Type) [JsRuntime ν] [IntegerNumbers ν] (recordKeyField body : String) : Prop :=
  ∃ value batch, (parseJson (ν := ν) IntegerNumbers.parseNumber body).map Json.withLastFields = some value ∧
    normalizeIngestionEnvelope value recordKeyField = .ok batch

theorem serverAccepts_iff {recordKeyField : String} {rows : List (List (String × Json ν))}
    (hrows : ∀ row ∈ rows, WriterRow recordKeyField row) (hsome : 1 ≤ rows.length)
    (hlength : rows.length ≤ maximumIngestionRecords) :
    ServerAccepts ν recordKeyField (batchBody (rows.map fun row => stableStringify (.object row))) ↔
      BatchFits recordKeyField (rows.map schemaRecord) := by
  have hparse := parse_batchBody (fun row hrow => (hrows row hrow).names) fun row hrow => (hrows row hrow).scalar
  have halike : List.Forall₂ Alike ((rows.map receivedRow).map schemaRecord) (rows.map schemaRecord) := by
    rw [List.map_map, List.forall₂_map_left_iff, List.forall₂_map_right_iff, List.forall₂_same]
    exact fun row hrow => (receivedRow_alike (hrows row hrow).scalar).schemaRecord
  have haccepts := @normalizeIngestionEnvelope_accepts ν _ recordKeyField (rows.map receivedRow) (by simpa using hsome)
    (by simpa using hlength)
  constructor
  · rintro ⟨value, batch, hvalue, hbatch⟩
    obtain rfl := Option.some.inj (hparse.symm.trans hvalue)
    exact (haccepts.mp ⟨batch, hbatch⟩).alike halike
  · intro hfits
    obtain ⟨batch, hbatch⟩ := haccepts.mpr (hfits.alike (halike.flip.imp fun _ _ h => h.symm))
    exact ⟨_, batch, hparse, hbatch⟩

end Texts

section Contract

variable {ν : Type} [JsRuntime ν] {recordKeyField : String}

/-- The records of a batch fit together: no name is blank, no two names of a record are
one field of the server, each key is there and short enough, and across the batch the keys
differ and the fields are not too many. The server does not see the property `__proto__`. -/
structure BatchAgrees (recordKeyField : String) (rows : List (List (String × Json ν))) : Prop where
  names : ∀ row ∈ rows, ∀ entry ∈ row, jsTrim entry.1 ≠ ""
  spelling : ∀ row ∈ rows, (fieldNames (schemaRecord row)).Nodup
  keys : ∀ row ∈ rows, ∃ key, recordKey recordKeyField (schemaRecord row) = some key ∧
    utf16Length key ≤ maximumRecordKeyLength
  distinctKeys : (rows.map fun row => recordKey recordKeyField (schemaRecord row)).Nodup
  fields : (distinct (fieldNames (rows.map schemaRecord).flatten)).length ≤ maximumSourceFields

theorem entriesFit_iff {row : List (String × Json ν)} (h : WriterRow recordKeyField row) :
    (∀ entry ∈ schemaRecord row, entryFits entry = true) ↔ ∀ entry ∈ row, jsTrim entry.1 ≠ "" := by
  have hentry : ∀ entry ∈ row, (entryFits entry = true ↔ jsTrim entry.1 ≠ "") := by
    intro entry hmem
    obtain ⟨_, hlength, hcontrol⟩ := h.valid entry hmem
    rw [entryFits, h.scalar entry hmem, Bool.and_true, isSourceFieldName_iff hlength hcontrol]
  constructor
  · intro hall entry hmem
    by_cases hproto : entry.1 = "__proto__"
    · rw [hproto]
      decide
    · exact (hentry entry hmem).mp (hall entry (List.mem_filter.mpr ⟨hmem, decide_eq_true hproto⟩))
  · intro hall entry hmem
    have hraw := (List.mem_filter.mp hmem).1
    exact (hentry entry hraw).mpr (hall entry hraw)

theorem batchFits_iff {rows : List (List (String × Json ν))} (hrows : ∀ row ∈ rows, WriterRow recordKeyField row) :
    BatchFits recordKeyField (rows.map schemaRecord) ↔ BatchAgrees recordKeyField rows := by
  constructor
  · intro h
    have heach : ∀ row ∈ rows, RecordFits recordKeyField (schemaRecord row) := fun row hrow =>
      h.each _ (List.mem_map_of_mem hrow)
    refine ⟨fun row hrow => ?_, fun row hrow => (heach row hrow).spelling, fun row hrow => (heach row hrow).key, ?_, h.fields⟩
    · exact (entriesFit_iff (hrows row hrow)).mp (heach row hrow).entries
    · have hkeys := h.keys
      rwa [List.map_map] at hkeys
  · intro h
    refine ⟨fun record hrecord => ?_, ?_, h.fields⟩
    · obtain ⟨row, hrow, rfl⟩ := List.mem_map.mp hrecord
      exact ⟨(entriesFit_iff (hrows row hrow)).mpr (h.names row hrow), h.spelling row hrow, h.keys row hrow⟩
    · rw [List.map_map]
      exact h.distinctKeys

variable [IntegerNumbers ν]

theorem checkRecord_spec {writer : AirbyteDestinationWriter} {record : AirbyteRecordMessage ν} {checked : String × String}
    (h : writer.checkRecord ν record = .ok checked) :
    checked.1 = routeKey record.namespace_ record.stream ∧ ∃ capability row,
      entryOf writer.capabilityByRoute checked.1 = some capability ∧
      normalizeRecord record.data capability.recordKeyField = .ok row ∧ checked.2 = stableStringify (.object row) := by
  simp only [AirbyteDestinationWriter.checkRecord, except_bind_eq_ok] at h
  obtain ⟨_, _, h⟩ := h
  split at h
  · rename_i capability _ hcapability
    simp only [except_bind_eq_ok] at h
    obtain ⟨row, hrow, _, _, h⟩ := h
    cases h
    exact ⟨rfl, capability, row, hcapability, hrow, rfl⟩
  · cases h

structure FromLine (lines : List String) (key recordKeyField : String) (row : List (String × Json ν)) : Prop where
  line : ∃ line ∈ lines, ∃ message : AirbyteRecordMessage ν, readLine line = .ok (.record message) ∧
    routeKey message.namespace_ message.stream = key ∧ normalizeRecord message.data recordKeyField = .ok row

theorem FromLine.writerRow {lines : List String} {key : String} {row : List (String × Json ν)}
    (h : FromLine lines key recordKeyField row) : WriterRow recordKeyField row := by
  obtain ⟨line, _, message, hline, _, hrow⟩ := h.line
  exact normalizeRecord_row (readLine_names hline) hrow

theorem acceptedText_row {writer : AirbyteDestinationWriter} {lines : List String} {key text : String}
    (h : (key, text) ∈ lines.filterMap (writer.recordOf ν)) :
    ∃ (capability : EndpointCapability) (row : List (String × Json ν)),
      entryOf writer.capabilityByRoute key = some capability ∧ FromLine lines key capability.recordKeyField row ∧
      text = stableStringify (.object row) := by
  obtain ⟨line, hline, hrecord⟩ := List.mem_filterMap.mp h
  unfold AirbyteDestinationWriter.recordOf at hrecord
  split at hrecord
  · rename_i message hmessage
    cases hchecked : writer.checkRecord ν message with
    | error e =>
      rw [hchecked] at hrecord
      cases hrecord
    | ok checked =>
      obtain rfl : checked = (key, text) := by
        rw [hchecked] at hrecord
        exact Option.some.inj hrecord
      obtain ⟨hkey, capability, row, hcapability, hrow, htext⟩ := checkRecord_spec hchecked
      exact ⟨capability, row, hcapability, ⟨line, hline, message, hmessage, hkey.symm, hrow⟩, htext⟩
  · cases hrecord

theorem exists_map_of_forall {α β : Type} {p : α → Prop} {f : α → β} {ys : List β} (h : ∀ y ∈ ys, ∃ x, p x ∧ y = f x) :
    ∃ xs : List α, ys = xs.map f ∧ ∀ x ∈ xs, p x := by
  induction ys with
  | nil => exact ⟨[], rfl, fun _ h => nomatch h⟩
  | cons y ys ih =>
    obtain ⟨⟨x, hx, rfl⟩, hrest⟩ := List.forall_mem_cons.mp h
    obtain ⟨xs, rfl, hxs⟩ := ih hrest
    exact ⟨x :: xs, rfl, List.forall_mem_cons.mpr ⟨hx, hxs⟩⟩

variable [ConnectorRuntime ν]

theorem reached_safe [UrlRuntime] (writer : AirbyteDestinationWriter) (lines : List String) (outcomes : List FetchOutcome) (clock : List Int) :
    SafeHistory ν writer (reached (writer.write ν lines (WriterState.start outcomes clock))).history ∧
    ∃ passed rest, lines = passed ++ rest ∧
      Accepted ν writer passed (reached (writer.write ν lines (WriterState.start outcomes clock))).history := by
  have hwrite := @write_spec ν _ _ writer _ _ lines outcomes clock
  cases hrun : writer.write ν lines (WriterState.start outcomes clock) with
  | ok u s =>
    obtain ⟨hsafe, haccepted, _⟩ := hwrite.of_ok hrun
    exact ⟨hsafe, lines, [], (List.append_nil lines).symm, haccepted⟩
  | error e s =>
    obtain ⟨_, hsafe, passed, rest, hsplit, haccepted⟩ := hwrite.of_error hrun
    exact ⟨hsafe, passed, rest, hsplit, haccepted⟩

/-- A batch as the writer has cut it: the records of some lines of one route, as many as are allowed. -/
structure CutBatch (ν : Type) [JsRuntime ν] [IntegerNumbers ν] (writer : AirbyteDestinationWriter) (lines : List String)
    (submission : Submission) (capability : EndpointCapability) (rows : List (List (String × Json ν))) : Prop where
  endpoint : entryOf writer.capabilityByRoute submission.key = some capability
  lines : ∀ row ∈ rows, FromLine lines submission.key capability.recordKeyField row
  records : submission.records = rows.map fun row => stableStringify (.object row)
  body : submission.body = batchBody submission.records
  nonempty : rows ≠ []
  count : rows.length ≤ writer.config.batchMaximumRecords

theorem posted_cutBatch {writer : AirbyteDestinationWriter} {lines : List String} {history : List AirbyteEvent}
    (hsafe : SafeHistory ν writer history) (haccepted : Accepted ν writer lines history) {submission : Submission}
    (hposted : submission ∈ postedBatches history) :
    ∃ capability rows, CutBatch ν writer lines submission capability rows := by
  have hformed := hsafe.wellFormed submission hposted
  have haccepted : ∀ text ∈ submission.records, (submission.key, text) ∈ lines.filterMap (writer.recordOf ν) := by
    intro text htext
    have hbatched : text ∈ batchedFor submission.key (postedBatches history) :=
      List.mem_flatMap.mpr ⟨submission, List.mem_filter.mpr ⟨hposted, decide_eq_true rfl⟩, htext⟩
    obtain ⟨record, hrecord, hsame⟩ := List.mem_filterMap.mp ((hsafe.posted submission.key).subset hbatched)
    rw [haccepted.records] at hrecord
    split at hsame
    · rename_i hkey
      rw [← hkey, ← Option.some.inj hsame]
      exact hrecord
    · cases hsame
  obtain ⟨first, hfirst⟩ := List.exists_mem_of_ne_nil _ hformed.nonempty
  obtain ⟨capability, _, hcapability, _, _⟩ := acceptedText_row (haccepted first hfirst)
  obtain ⟨rows, hrecords, hrows⟩ := exists_map_of_forall (p := FromLine lines submission.key capability.recordKeyField)
    (f := fun row => stableStringify (.object row)) fun text htext => by
      obtain ⟨same, row, hsame, hrow, htext⟩ := acceptedText_row (haccepted text htext)
      obtain rfl := Option.some.inj (hcapability.symm.trans hsame)
      exact ⟨row, hrow, htext⟩
  refine ⟨capability, rows, hcapability, hrows, hrecords, hformed.body, ?_, ?_⟩
  · rintro rfl
    exact hformed.nonempty hrecords
  · have hcount := hformed.records
    rwa [hrecords, List.length_map] at hcount

end Contract

section Repeated

instance : NumberTexts SafeInteger where
  reads n h rest hrest := by
    obtain ⟨n, rfl⟩ := Option.isSome_iff_exists.mp h
    exact readNumber_int n hrest
  finite n h := by
    obtain ⟨n, rfl⟩ := Option.isSome_iff_exists.mp h
    exact congrArg Option.isSome (parse_toString n)
  text n h := by
    obtain ⟨n, rfl⟩ := Option.isSome_iff_exists.mp h
    exact congrArg JsRuntime.numberToString (parse_toString n)

local instance contactsUrls : UrlRuntime where
  parseUrl _ _ := none

local instance contactsRuntime : ConnectorRuntime SafeInteger where
  sha256 text := text
  requestUrl baseUrl _ _ := baseUrl
  hostname requestUrl := requestUrl

def contactsRoute : DestinationRoute where
  bearerToken := "bg_ingest_contacts"
  endpointUrl := "https://grid.example.com/api/ingest/contacts"
  namespace_ := none
  stream := "contacts"

def contactsWriter : AirbyteDestinationWriter where
  capabilityByRoute := [(routeKey none "contacts", ⟨"contacts", 5242880, 1000, "id"⟩)]
  catalogKeys := [routeKey none "contacts"]
  config :=
    { applicationTimeoutSeconds := 600
      batchMaximumBytes := 4194304
      batchMaximumRecords := 500
      routes := [contactsRoute]
      timeout := by decide
      bytes := by decide
      records := by decide }
  syncId := "sync"

/-- Two updates of one contact, as a stream with `append_dedup` has them. -/
def contactLines : List String :=
  ["\x7b\"type\":\"RECORD\",\"record\":\x7b\"stream\":\"contacts\",\"data\":\x7b\"id\":7,\"city\":\"Oslo\"\x7d\x7d\x7d",
    "\x7b\"type\":\"RECORD\",\"record\":\x7b\"stream\":\"contacts\",\"data\":\x7b\"id\":7,\"city\":\"Rome\"\x7d\x7d\x7d"]

def contactRows : List (List (String × Json SafeInteger)) :=
  [[("id", .number (some 7)), ("city", .string "Oslo")], [("id", .number (some 7)), ("city", .string "Rome")]]

def contactTexts : List String :=
  ["\x7b\"city\":\"Oslo\",\"id\":7\x7d", "\x7b\"city\":\"Rome\",\"id\":7\x7d"]

theorem contactTexts_eq : contactTexts = contactRows.map fun row => stableStringify (.object row) := by
  decide +kernel

theorem contacts_posted : (postedBatches (reached (contactsWriter.write SafeInteger contactLines
    (WriterState.start [] []))).history).map (fun submission => (submission.key, submission.records)) =
      [(routeKey none "contacts", contactTexts)] := by
  decide +kernel

theorem contacts_submission : ∃ submission ∈ postedBatches (reached (contactsWriter.write SafeInteger contactLines
      (WriterState.start [] []))).history,
    submission.key = routeKey none "contacts" ∧
      submission.body = batchBody (contactRows.map fun row => stableStringify (.object row)) := by
  have hmem := contacts_posted ▸ List.mem_singleton_self (routeKey none "contacts", contactTexts)
  obtain ⟨submission, hposted, heq⟩ := List.mem_map.mp hmem
  obtain ⟨hkey, hrecords⟩ := Prod.mk.inj heq
  have hbody := ((reached_safe contactsWriter contactLines [] []).1.wellFormed submission hposted).body
  exact ⟨submission, hposted, hkey, by rw [hbody, hrecords, contactTexts_eq]⟩

theorem contactRows_writer : ∀ row ∈ contactRows, WriterRow "id" row := by
  simp only [contactRows, List.forall_mem_cons, List.not_mem_nil, IsEmpty.forall_iff, implies_true, and_true]
  constructor
  all_goals exact ⟨by decide, by decide, by decide, by decide +kernel⟩

end Repeated

end ByokGrid
