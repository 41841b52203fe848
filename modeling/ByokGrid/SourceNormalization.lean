import ByokGrid.AirbyteRecords
import ByokGrid.ImportPolicy

/-! The normal form of a response with records: the union of its fields, each under its
first spelling, and the trimmed key of every record. -/

namespace ByokGrid

/-- `SourceResponseError`. The text of a schema issue is left out. -/
inductive SourceResponseError where
  | envelope
  | response (message : String)
  deriving DecidableEq

def maximumSourceFields : Nat := 100
def maximumRecordKeyLength : Nat := 500
def maximumIngestionRecords : Nat := 1000

/-- `sourceFieldNameSchema`. -/
def isSourceFieldName (field : String) : Bool :=
  (parseShortText field).any fun name => !name.toList.any isControlCharacter

def sourceRecordText (index : Nat) : String :=
  "Source record " ++ toString (index + 1)

structure KnownField where
  normalizedField : String
  field : String

/-- `canonicalFieldByNormalized.get`. -/
def canonicalField (known : List KnownField) (normalizedField : String) : Option String :=
  (known.find? fun field => field.normalizedField = normalizedField).map KnownField.field

def addField (known : List KnownField) (normalizedField field : String) : Except SourceResponseError (List KnownField) :=
  if (canonicalField known normalizedField).isSome then .ok known
  else if maximumSourceFields ≤ known.length then .error (.response "A source cannot expose more than 100 fields.")
  else .ok (known ++ [⟨normalizedField, field⟩])

/-- `normalizedValues[field] = value`: `__proto__` names no property of its own. -/
def assignValue (values : List (String × Option String)) (field : String) (value : Option String) :
    List (String × Option String) :=
  if field = "__proto__" then values else values ++ [(field, value)]

structure FieldScan where
  known : List KnownField
  recordFields : List String
  normalizedValues : List (String × Option String)

structure ResponseScan where
  known : List KnownField
  keys : List String

section Normalize

variable {ν : Type} [JsRuntime ν]

def scalarText : Json ν → Option (Option String)
  | .null => some none
  | .string value => some (some value)
  | .number value => if JsRuntime.isFinite value then some (some (JsRuntime.numberToString value)) else none
  | .boolean value => some (some (toString value))
  | .array _ | .object _ => none

def normalizeScalar (value : Json ν) (recordIndex : Nat) : Except SourceResponseError (Option String) :=
  match scalarText value with
  | some text => .ok text
  | none => .error (.response (sourceRecordText recordIndex ++ " contains a nested or unsupported value."))

def scanField (index : Nat) (scan : FieldScan) (entry : String × Json ν) : Except SourceResponseError FieldScan := do
  rejectIf (!isSourceFieldName entry.1) (.response (sourceRecordText index ++ " contains an invalid field name."))
  let normalizedField := normalizeHeader ν entry.1
  rejectIf (normalizedField ∈ scan.recordFields)
    (.response (sourceRecordText index ++ " repeats a field with different casing."))
  let known ← addField scan.known normalizedField entry.1
  let value ← normalizeScalar entry.2 index
  return ⟨known, scan.recordFields ++ [normalizedField],
    assignValue scan.normalizedValues ((canonicalField known normalizedField).getD entry.1) value⟩

def scanFields (index : Nat) (scan : FieldScan) : List (String × Json ν) → Except SourceResponseError FieldScan
  | [] => .ok scan
  | entry :: entries => do
    let scan ← scanField index scan entry
    scanFields index scan entries

def trimmedKey : Option (Option String) → Option String
  | some (some text) => if jsTrim text = "" then none else some (jsTrim text)
  | some none | none => none

def requireKey (recordKeyField : String) (index : Nat) (value : Option (Option String)) :
    Except SourceResponseError String :=
  match trimmedKey value with
  | some key => .ok key
  | none => .error (.response (sourceRecordText index ++ " has no usable " ++ recordKeyField ++ " key."))

def scanRecord (recordKeyField : String) (index : Nat) (scan : ResponseScan) (value : Json ν) :
    Except SourceResponseError (ResponseScan × NormalizedSourceRecord) :=
  match value with
  | .object entries => do
    let fields ← scanFields index ⟨scan.known, [], []⟩ entries
    let keyField := canonicalField fields.known (normalizeHeader ν recordKeyField)
    let key ← requireKey recordKeyField index (keyField.bind (property? fields.normalizedValues))
    rejectIf (maximumRecordKeyLength < utf16Length key) (.response "Source record keys cannot exceed 500 characters.")
    rejectIf (key ∈ scan.keys) (.response ("The source returned duplicate record key “" ++ key ++ "”."))
    return (⟨fields.known, scan.keys ++ [key]⟩, ⟨key, fields.normalizedValues⟩)
  | _ => .error (.response (sourceRecordText index ++ " is not an object."))

def scanRecords (recordKeyField : String) : Nat → ResponseScan → List (Json ν) →
    Except SourceResponseError (ResponseScan × List NormalizedSourceRecord)
  | _, scan, [] => .ok (scan, [])
  | index, scan, value :: values => do
    let scanned ← scanRecord recordKeyField index scan value
    let rest ← scanRecords recordKeyField (index + 1) scanned.1 values
    return (rest.1, scanned.2 :: rest.2)

/-- `resolveResponsePath` over the segments of the path which are left. -/
def resolveSegments (path : String) : List String → Json ν → Except SourceResponseError (Json ν)
  | [], value => .ok value
  | segment :: segments, .object fields =>
    match property? fields segment with
    | some value => resolveSegments path segments value
    | none => .error (.response ("The source response has no “" ++ path ++ "” record path."))
  | _ :: _, _ => .error (.response ("The source response has no “" ++ path ++ "” record path."))

def resolveRecordPath (body : Json ν) (path : String) : Except SourceResponseError (Json ν) :=
  if path = "" then .ok body else resolveSegments path (path.splitOn ".") body

def normalizeHttpJsonSourceResponse (body : Json ν) (maxRecords : Nat) (recordKeyField recordPath : String) :
    Except SourceResponseError NormalizedSourceBatch := do
  match ← resolveRecordPath body recordPath with
  | .array recordsValue =>
    rejectIf (maxRecords < recordsValue.length)
      (.response ("The source returned more than " ++ toString maxRecords ++ " records."))
    let scanned ← scanRecords recordKeyField 0 ⟨[], []⟩ recordsValue
    return ⟨scanned.1.known.map KnownField.field, scanned.2⟩
  | _ => .error (.response "The configured record path is not an array.")

/-- `z.record` leaves the property `__proto__` out. -/
def schemaRecord (fields : List (String × Json ν)) : List (String × Json ν) :=
  fields.filter fun field => field.1 ≠ "__proto__"

/-- The records of `ingestionEnvelopeSchema`: objects only. -/
def schemaRecords : List (Json ν) → Option (List (Json ν))
  | [] => some []
  | .object fields :: items => (schemaRecords items).map (.object (schemaRecord fields) :: ·)
  | _ :: _ => none

/-- `ingestionEnvelopeSchema`. -/
def parseEnvelope (body : Json ν) : Option (List (Json ν)) :=
  match body with
  | .object fields =>
    if fields.all fun field => field.1 = "records" then
      match property? fields "records" with
      | some (.array items) =>
        if 1 ≤ items.length ∧ items.length ≤ maximumIngestionRecords then schemaRecords items else none
      | _ => none
    else none
  | _ => none

def normalizeIngestionEnvelope (body : Json ν) (recordKeyField : String) :
    Except SourceResponseError NormalizedSourceBatch :=
  match parseEnvelope body with
  | some records => normalizeHttpJsonSourceResponse (.array records) maximumIngestionRecords recordKeyField ""
  | none => .error .envelope

end Normalize

section Fields

variable {ν : Type} [JsRuntime ν] {index : Nat}

def fieldNames (entries : List (String × Json ν)) : List String :=
  entries.map fun entry => normalizeHeader ν entry.1

@[simp] theorem fieldNames_nil : fieldNames ([] : List (String × Json ν)) = [] := rfl

@[simp] theorem fieldNames_cons (entry : String × Json ν) (entries : List (String × Json ν)) :
    fieldNames (entry :: entries) = normalizeHeader ν entry.1 :: fieldNames entries := rfl

@[simp] theorem fieldNames_append (entries others : List (String × Json ν)) :
    fieldNames (entries ++ others) = fieldNames entries ++ fieldNames others :=
  List.map_append

def entryFits (entry : String × Json ν) : Bool :=
  isSourceFieldName entry.1 && (scalarText entry.2).isSome

def knownWith (known : List KnownField) (normalizedField field : String) : List KnownField :=
  if (canonicalField known normalizedField).isSome then known else known ++ [⟨normalizedField, field⟩]

def knownAfter (known : List KnownField) : List (String × Json ν) → List KnownField
  | [] => known
  | entry :: entries => knownAfter (knownWith known (normalizeHeader ν entry.1) entry.1) entries

def assignedValues (known : List KnownField) (entries : List (String × Json ν)) : List (String × Option String) :=
  (entries.map fun entry => ((canonicalField known (normalizeHeader ν entry.1)).getD entry.1,
    (scalarText entry.2).getD none)).filter fun value => value.1 ≠ "__proto__"

theorem canonicalField_isSome {known : List KnownField} {name : String} :
    (canonicalField known name).isSome = true ↔ name ∈ known.map KnownField.normalizedField := by
  simp [canonicalField, List.find?_isSome, List.mem_map]

theorem canonicalField_knownWith (known : List KnownField) (name field : String) :
    (canonicalField (knownWith known name field) name).isSome = true := by
  by_cases h : (canonicalField known name).isSome = true
  · rw [knownWith, if_pos h]
    exact h
  · rw [knownWith, if_neg h, canonicalField_isSome]
    simp

theorem canonicalField_append {known : List KnownField} {name : String} (h : (canonicalField known name).isSome = true)
    (more : List KnownField) : canonicalField (known ++ more) name = canonicalField known name := by
  unfold canonicalField at h ⊢
  rw [Option.isSome_map] at h
  rw [List.find?_append, Option.or_of_isSome h]

theorem knownWith_extends (known : List KnownField) (name field : String) :
    ∃ more, knownWith known name field = known ++ more := by
  unfold knownWith
  split
  · exact ⟨[], (List.append_nil known).symm⟩
  · exact ⟨_, rfl⟩

theorem knownAfter_extends (known : List KnownField) (entries : List (String × Json ν)) :
    ∃ more, knownAfter known entries = known ++ more := by
  induction entries generalizing known with
  | nil => exact ⟨[], (List.append_nil known).symm⟩
  | cons entry entries ih =>
    obtain ⟨first, hfirst⟩ := knownWith_extends known (normalizeHeader ν entry.1) entry.1
    obtain ⟨more, hmore⟩ := ih (knownWith known (normalizeHeader ν entry.1) entry.1)
    exact ⟨first ++ more, by rw [knownAfter, hmore, hfirst, List.append_assoc]⟩

theorem canonicalField_knownAfter {known : List KnownField} {name : String} (h : (canonicalField known name).isSome = true)
    (entries : List (String × Json ν)) : canonicalField (knownAfter known entries) name = canonicalField known name := by
  obtain ⟨more, hmore⟩ := knownAfter_extends known entries
  rw [hmore, canonicalField_append h]

theorem length_le_knownAfter (known : List KnownField) (entries : List (String × Json ν)) :
    known.length ≤ (knownAfter known entries).length := by
  obtain ⟨more, hmore⟩ := knownAfter_extends known entries
  rw [hmore, List.length_append]
  exact Nat.le_add_right _ _

theorem knownAfter_append (known : List KnownField) (entries others : List (String × Json ν)) :
    knownAfter known (entries ++ others) = knownAfter (knownAfter known entries) others := by
  induction entries generalizing known with
  | nil => rfl
  | cons entry entries ih => exact ih _

theorem knownAfter_names (known : List KnownField) (entries : List (String × Json ν)) :
    (knownAfter known entries).map KnownField.normalizedField =
      (fieldNames entries).foldl (fun seen name => if name ∈ seen then seen else seen ++ [name])
        (known.map KnownField.normalizedField) := by
  induction entries generalizing known with
  | nil => rfl
  | cons entry entries ih =>
    rw [knownAfter, ih, fieldNames_cons, List.foldl_cons]
    congr 1
    by_cases h : (canonicalField known (normalizeHeader ν entry.1)).isSome = true
    · rw [knownWith, if_pos h, if_pos (canonicalField_isSome.mp h)]
    · rw [knownWith, if_neg h, if_neg (fun hmem => h (canonicalField_isSome.mpr hmem)), List.map_append]
      rfl

theorem length_knownAfter (entries : List (String × Json ν)) :
    (knownAfter [] entries).length = (distinct (fieldNames entries)).length := by
  rw [← List.length_map (f := KnownField.normalizedField), knownAfter_names]
  rfl

theorem addField_eq_ok {known known' : List KnownField} {name field : String} (hcount : known.length ≤ maximumSourceFields) :
    addField known name field = .ok known' ↔
      known' = knownWith known name field ∧ (knownWith known name field).length ≤ maximumSourceFields := by
  unfold addField knownWith
  by_cases hsome : (canonicalField known name).isSome = true
  · simp [hsome, hcount, eq_comm]
  · by_cases hfull : maximumSourceFields ≤ known.length
    · simp [hsome, hfull, Nat.lt_succ_of_le hfull]
    · simp [hsome, hfull, eq_comm, Nat.succ_le_of_lt (Nat.lt_of_not_le hfull)]

theorem normalizeScalar_eq_ok {value : Json ν} {text : Option String} :
    normalizeScalar value index = .ok text ↔ scalarText value = some text := by
  unfold normalizeScalar
  cases scalarText value with
  | none => simp
  | some found => simp

theorem assignValue_eq (known : List KnownField) (values : List (String × Option String)) (entry : String × Json ν) :
    assignValue values ((canonicalField known (normalizeHeader ν entry.1)).getD entry.1) ((scalarText entry.2).getD none) =
      values ++ assignedValues known [entry] := by
  unfold assignValue assignedValues
  split
  · rename_i hproto
    simp [hproto]
  · rename_i hproto
    simp [hproto]

theorem scanField_eq_ok {scan scan' : FieldScan} {entry : String × Json ν} (hcount : scan.known.length ≤ maximumSourceFields) :
    scanField index scan entry = .ok scan' ↔
      entryFits entry = true ∧ normalizeHeader ν entry.1 ∉ scan.recordFields ∧
      (knownWith scan.known (normalizeHeader ν entry.1) entry.1).length ≤ maximumSourceFields ∧
      scan' = ⟨knownWith scan.known (normalizeHeader ν entry.1) entry.1, scan.recordFields ++ [normalizeHeader ν entry.1],
        scan.normalizedValues ++ assignedValues (knownWith scan.known (normalizeHeader ν entry.1) entry.1) [entry]⟩ := by
  simp only [scanField, except_bind_eq_ok, rejectIf_eq_ok, addField_eq_ok hcount, normalizeScalar_eq_ok, pure, Except.pure,
    Except.ok.injEq, exists_and_left, exists_const, Bool.not_eq_false', decide_eq_false_iff_not, entryFits,
    Bool.and_eq_true, ← assignValue_eq]
  constructor
  · rintro ⟨hname, hfresh, _, ⟨rfl, hlength⟩, text, htext, rfl⟩
    exact ⟨⟨hname, by rw [htext]; rfl⟩, hfresh, hlength, by rw [htext]; rfl⟩
  · rintro ⟨⟨hname, hscalar⟩, hfresh, hlength, rfl⟩
    obtain ⟨text, htext⟩ := Option.isSome_iff_exists.mp hscalar
    exact ⟨hname, hfresh, _, ⟨rfl, hlength⟩, text, htext, by rw [htext]; rfl⟩

theorem assignedValues_append (known : List KnownField) (entries others : List (String × Json ν)) :
    assignedValues known (entries ++ others) = assignedValues known entries ++ assignedValues known others := by
  simp [assignedValues]

theorem assignedValues_congr {known known' : List KnownField} {entries : List (String × Json ν)}
    (h : ∀ name ∈ fieldNames entries, canonicalField known' name = canonicalField known name) :
    assignedValues known' entries = assignedValues known entries := by
  unfold assignedValues
  rw [List.map_congr_left]
  intro entry hmem
  rw [h _ (List.mem_map_of_mem hmem)]

theorem scanFields_spec {scan scan' : FieldScan} {entries : List (String × Json ν)}
    (hcount : scan.known.length ≤ maximumSourceFields) (h : scanFields index scan entries = .ok scan') :
    scan'.known = knownAfter scan.known entries ∧
      scan'.normalizedValues = scan.normalizedValues ++ assignedValues (knownAfter scan.known entries) entries := by
  induction entries generalizing scan with
  | nil =>
    obtain rfl : scan = scan' := by simpa [scanFields] using h
    exact ⟨rfl, (List.append_nil _).symm⟩
  | cons entry entries ih =>
    rw [scanFields, except_bind_eq_ok] at h
    obtain ⟨first, hfirst, hrest⟩ := h
    obtain ⟨_, _, hlength, rfl⟩ := (scanField_eq_ok hcount).mp hfirst
    obtain ⟨hknown, hvalues⟩ := ih hlength hrest
    have hkept : assignedValues (knownAfter (knownWith scan.known (normalizeHeader ν entry.1) entry.1) entries) [entry] =
        assignedValues (knownWith scan.known (normalizeHeader ν entry.1) entry.1) [entry] := by
      refine assignedValues_congr fun name hname => ?_
      rw [fieldNames_cons, fieldNames_nil, List.mem_singleton] at hname
      rw [hname]
      exact canonicalField_knownAfter (canonicalField_knownWith scan.known _ entry.1) entries
    refine ⟨hknown, ?_⟩
    rw [hvalues, List.append_assoc, knownAfter, ← hkept, ← assignedValues_append]
    rfl

theorem scanFields_accepts {scan : FieldScan} {entries : List (String × Json ν)}
    (hcount : scan.known.length ≤ maximumSourceFields) :
    (∃ scan', scanFields index scan entries = .ok scan') ↔
      (∀ entry ∈ entries, entryFits entry = true) ∧ (∀ name ∈ fieldNames entries, name ∉ scan.recordFields) ∧
      (fieldNames entries).Nodup ∧ (knownAfter scan.known entries).length ≤ maximumSourceFields := by
  induction entries generalizing scan with
  | nil => simp [scanFields, knownAfter, hcount]
  | cons entry entries ih =>
    simp only [scanFields, except_bind_eq_ok, scanField_eq_ok hcount, knownAfter, fieldNames_cons, List.forall_mem_cons,
      List.nodup_cons]
    constructor
    · rintro ⟨scan', _, ⟨hfits, hfresh, hlength, rfl⟩, hrest⟩
      obtain ⟨hentries, hnew, hnodup, hknown⟩ := (ih hlength).mp ⟨scan', hrest⟩
      refine ⟨⟨hfits, hentries⟩, ⟨hfresh, fun name hname hmem => ?_⟩, ⟨fun hmem => ?_, hnodup⟩, hknown⟩
      · exact hnew name hname (List.mem_append_left _ hmem)
      · exact hnew _ hmem (List.mem_append_right _ (List.mem_singleton_self _))
    · rintro ⟨⟨hfits, hentries⟩, ⟨hfresh, hnew⟩, ⟨hother, hnodup⟩, hknown⟩
      have hlength := (length_le_knownAfter (knownWith scan.known (normalizeHeader ν entry.1) entry.1) entries).trans hknown
      have hlater : ∀ name ∈ fieldNames entries, name ∉ scan.recordFields ++ [normalizeHeader ν entry.1] := by
        intro name hname hmem
        rcases List.mem_append.mp hmem with hold | hlast
        · exact hnew name hname hold
        · exact hother (List.mem_singleton.mp hlast ▸ hname)
      obtain ⟨scan', hrest⟩ := (@ih ⟨knownWith scan.known (normalizeHeader ν entry.1) entry.1, _, _⟩ hlength).mpr
        ⟨hentries, hlater, hnodup, hknown⟩
      exact ⟨scan', _, ⟨hfits, hfresh, hlength, rfl⟩, hrest⟩

theorem fieldNames_known (known : List KnownField) {entries : List (String × Json ν)} {name : String}
    (h : name ∈ fieldNames entries) : (canonicalField (knownAfter known entries) name).isSome = true := by
  induction entries generalizing known with
  | nil => cases h
  | cons entry entries ih =>
    rcases List.mem_cons.mp h with rfl | hlater
    · have hfirst := canonicalField_knownWith known (normalizeHeader ν entry.1) entry.1
      rw [knownAfter, canonicalField_knownAfter hfirst]
      exact hfirst
    · exact ih _ hlater

end Fields

/-- Each known field is the first spelling of its normalized name, and none is `__proto__`. -/
structure Spelled (ν : Type) [JsRuntime ν] (known : List KnownField) : Prop where
  normalized : ∀ field ∈ known, field.normalizedField = normalizeHeader ν field.field
  own : ∀ field ∈ known, field.field ≠ "__proto__"

section Records

variable {ν : Type} [JsRuntime ν] {index : Nat} {recordKeyField : String}

theorem Spelled.knownAfter {known : List KnownField} (h : Spelled ν known) {entries : List (String × Json ν)}
    (hown : ∀ entry ∈ entries, entry.1 ≠ "__proto__") : Spelled ν (knownAfter known entries) := by
  induction entries generalizing known with
  | nil => exact h
  | cons entry entries ih =>
    refine ih ?_ fun later hlater => hown later (List.mem_cons_of_mem _ hlater)
    unfold knownWith
    split
    · exact h
    · refine ⟨fun field hmem => ?_, fun field hmem => ?_⟩
      all_goals rcases List.mem_append.mp hmem with hold | hlast
      · exact h.normalized field hold
      · rw [List.mem_singleton.mp hlast]
      · exact h.own field hold
      · rw [List.mem_singleton.mp hlast]
        exact hown entry List.mem_cons_self

theorem Spelled.canonical {known : List KnownField} (h : Spelled ν known) {name field : String}
    (hfield : canonicalField known name = some field) : normalizeHeader ν field = name ∧ field ≠ "__proto__" := by
  obtain ⟨found, hfound, rfl⟩ := Option.map_eq_some_iff.mp hfield
  have hmem := List.mem_of_find?_eq_some hfound
  have hname : found.normalizedField = name := by simpa using List.find?_some hfound
  exact ⟨(h.normalized found hmem).symm.trans hname, h.own found hmem⟩

def keyScalar (recordKeyField : String) (entries : List (String × Json ν)) : Option (Option String) :=
  (entries.find? fun entry => normalizeHeader ν entry.1 = normalizeHeader ν recordKeyField).map fun entry =>
    (scalarText entry.2).getD none

def StoredUnder (known : List KnownField) (entries : List (String × Json ν)) : Prop :=
  ∀ entry ∈ entries, ∃ field, canonicalField known (normalizeHeader ν entry.1) = some field ∧
    normalizeHeader ν field = normalizeHeader ν entry.1 ∧ field ≠ "__proto__"

theorem property?_assignedValues {known : List KnownField} {keyField : String} {entries : List (String × Json ν)}
    (hstored : StoredUnder known entries)
    (hkey : canonicalField known (normalizeHeader ν recordKeyField) = some keyField)
    (hname : normalizeHeader ν keyField = normalizeHeader ν recordKeyField) :
    property? (assignedValues known entries) keyField = keyScalar recordKeyField entries := by
  induction entries with
  | nil => rfl
  | cons entry entries ih =>
    obtain ⟨field, hfield, hfieldName, hproto⟩ := hstored entry List.mem_cons_self
    have hlater := ih fun later hmem => hstored later (List.mem_cons_of_mem _ hmem)
    have hfirst : assignedValues known [entry] = [(field, (scalarText entry.2).getD none)] := by
      simp [assignedValues, hfield, hproto]
    rw [← List.singleton_append, assignedValues_append, hfirst, keyScalar]
    by_cases heq : normalizeHeader ν entry.1 = normalizeHeader ν recordKeyField
    · have hsame : field = keyField := by
        rw [heq, hkey] at hfield
        exact (Option.some.inj hfield).symm
      simp [property?, hsame, heq]
    · have hother : field ≠ keyField := by
        rintro rfl
        exact heq (hfieldName.symm.trans hname)
      simp only [property?, keyScalar] at hlater
      simp [property?, hother, heq, hlater]

theorem keyScalar_eq (recordKeyField : String) {known : List KnownField} {entries : List (String × Json ν)}
    (hspelled : Spelled ν (knownAfter known entries)) :
    (canonicalField (knownAfter known entries) (normalizeHeader ν recordKeyField)).bind
        (property? (assignedValues (knownAfter known entries) entries)) = keyScalar recordKeyField entries := by
  have hstored : StoredUnder (knownAfter known entries) entries := by
    intro entry hmem
    obtain ⟨field, hfield⟩ := Option.isSome_iff_exists.mp (fieldNames_known known (List.mem_map_of_mem hmem))
    exact ⟨field, hfield, hspelled.canonical hfield⟩
  cases hkey : canonicalField (knownAfter known entries) (normalizeHeader ν recordKeyField) with
  | none =>
    have hnone : entries.find? (fun entry => normalizeHeader ν entry.1 = normalizeHeader ν recordKeyField) = none := by
      rw [List.find?_eq_none]
      intro entry hmem heq
      obtain ⟨field, hfield, _⟩ := hstored entry hmem
      rw [of_decide_eq_true heq, hkey] at hfield
      cases hfield
    rw [keyScalar, hnone]
    rfl
  | some keyField => exact property?_assignedValues hstored hkey (hspelled.canonical hkey).1

theorem requireKey_eq_ok {value : Option (Option String)} {key : String} :
    requireKey recordKeyField index value = .ok key ↔ trimmedKey value = some key := by
  unfold requireKey
  cases trimmedKey value with
  | none => simp
  | some found => simp

def recordKey (recordKeyField : String) (entries : List (String × Json ν)) : Option String :=
  trimmedKey (keyScalar recordKeyField entries)

structure RecordFits (recordKeyField : String) (record : List (String × Json ν)) : Prop where
  entries : ∀ entry ∈ record, entryFits entry = true
  spelling : (fieldNames record).Nodup
  key : ∃ key, recordKey recordKeyField record = some key ∧ utf16Length key ≤ maximumRecordKeyLength

theorem scanRecord_accepts {scan scan' : ResponseScan} {record : List (String × Json ν)}
    (hcount : scan.known.length ≤ maximumSourceFields) (hspelled : Spelled ν scan.known)
    (hown : ∀ entry ∈ record, entry.1 ≠ "__proto__") :
    (∃ normalized, scanRecord recordKeyField index scan (.object record) = .ok (scan', normalized)) ↔
      RecordFits recordKeyField record ∧ (knownAfter scan.known record).length ≤ maximumSourceFields ∧
      ∃ key, recordKey recordKeyField record = some key ∧ key ∉ scan.keys ∧
        scan' = ⟨knownAfter scan.known record, scan.keys ++ [key]⟩ := by
  have haccepts := @scanFields_accepts ν _ index ⟨scan.known, [], []⟩ record hcount
  have hkey := keyScalar_eq recordKeyField (hspelled.knownAfter hown)
  have hvalue : ∀ {fields : FieldScan}, scanFields index ⟨scan.known, [], []⟩ record = .ok fields →
      fields.known = knownAfter scan.known record ∧
      trimmedKey ((canonicalField fields.known (normalizeHeader ν recordKeyField)).bind (property? fields.normalizedValues)) =
        recordKey recordKeyField record := by
    intro fields hfields
    obtain ⟨hknown, hvalues⟩ := scanFields_spec hcount hfields
    rw [List.nil_append] at hvalues
    exact ⟨hknown, by rw [hknown, hvalues, hkey, recordKey]⟩
  simp only [scanRecord, except_bind_eq_ok, requireKey_eq_ok, rejectIf_eq_ok, decide_eq_false_iff_not, not_lt,
    exists_and_left, exists_const, pure, Except.pure, Except.ok.injEq, Prod.mk.injEq]
  constructor
  · rintro ⟨normalized, fields, hfields, key, htext, hlength, hfresh, rfl, rfl⟩
    obtain ⟨hentries, _, hnodup, hknown⟩ := haccepts.mp ⟨fields, hfields⟩
    obtain ⟨hfieldsKnown, hrecordKey⟩ := hvalue hfields
    have hrecord := hrecordKey.symm.trans htext
    exact ⟨⟨hentries, hnodup, key, hrecord, hlength⟩, hknown, key, hrecord, hfresh, by rw [hfieldsKnown]⟩
  · rintro ⟨⟨hentries, hnodup, key, hrecord, hlength⟩, hknown, _, hsame, hfresh, rfl⟩
    obtain rfl := Option.some.inj (hrecord.symm.trans hsame)
    obtain ⟨fields, hfields⟩ := haccepts.mpr ⟨hentries, fun _ _ => List.not_mem_nil, hnodup, hknown⟩
    obtain ⟨hfieldsKnown, hrecordKey⟩ := hvalue hfields
    exact ⟨_, fields, hfields, key, hrecordKey.trans hrecord, hlength, hfresh, by rw [hfieldsKnown], rfl⟩

theorem scanRecords_accepts {scan : ResponseScan} {records : List (List (String × Json ν))}
    (hcount : scan.known.length ≤ maximumSourceFields) (hspelled : Spelled ν scan.known)
    (hown : ∀ record ∈ records, ∀ entry ∈ record, entry.1 ≠ "__proto__") :
    (∃ scanned, scanRecords recordKeyField index scan (records.map .object) = .ok scanned) ↔
      (∀ record ∈ records, RecordFits recordKeyField record) ∧ (records.map (recordKey recordKeyField)).Nodup ∧
      (∀ record ∈ records, ∀ key, recordKey recordKeyField record = some key → key ∉ scan.keys) ∧
      (knownAfter scan.known records.flatten).length ≤ maximumSourceFields := by
  induction records generalizing index scan with
  | nil => simp [scanRecords, knownAfter, hcount]
  | cons record records ih =>
    obtain ⟨hfirst, hlater⟩ := List.forall_mem_cons.mp hown
    have hscan := fun scan' => @scanRecord_accepts ν _ index recordKeyField scan scan' record hcount hspelled hfirst
    rw [List.flatten_cons, knownAfter_append]
    simp only [List.map_cons, scanRecords, except_bind_eq_ok, List.forall_mem_cons, List.nodup_cons]
    constructor
    · rintro ⟨_, ⟨scan', normalized⟩, hrecord, rest, hrest, _⟩
      obtain ⟨hfits, hknown, key, hkey, hfresh, rfl⟩ := (hscan scan').mp ⟨normalized, hrecord⟩
      obtain ⟨hothers, hnodup, hnew, hlength⟩ := (ih hknown (hspelled.knownAfter hfirst) hlater).mp ⟨rest, hrest⟩
      refine ⟨⟨hfits, hothers⟩, ⟨fun hmem => ?_, hnodup⟩, ⟨fun other hother => ?_, fun other hmem found hfound hold => ?_⟩, hlength⟩
      · obtain ⟨other, hother, hsame⟩ := List.mem_map.mp hmem
        exact hnew other hother key (hsame.trans hkey) (List.mem_append_right _ (List.mem_singleton_self key))
      · obtain rfl := Option.some.inj (hkey.symm.trans hother)
        exact hfresh
      · exact hnew other hmem found hfound (List.mem_append_left _ hold)
    · rintro ⟨⟨hfits, hothers⟩, ⟨hdistinct, hnodup⟩, ⟨hfresh, hnew⟩, hlength⟩
      obtain ⟨key, hkey, _⟩ := hfits.key
      have hknown := (length_le_knownAfter (knownAfter scan.known record) records.flatten).trans hlength
      obtain ⟨normalized, hrecord⟩ := (hscan _).mpr ⟨hfits, hknown, key, hkey, hfresh key hkey, rfl⟩
      have hunseen : ∀ other ∈ records, ∀ found, recordKey recordKeyField other = some found → found ∉ scan.keys ++ [key] := by
        intro other hmem found hfound hold
        rcases List.mem_append.mp hold with hseen | hlast
        · exact hnew other hmem found hfound hseen
        · obtain rfl := List.mem_singleton.mp hlast
          exact hdistinct (List.mem_map.mpr ⟨other, hmem, hfound.trans hkey.symm⟩)
      obtain ⟨rest, hrest⟩ := (@ih (index + 1) ⟨knownAfter scan.known record, scan.keys ++ [key]⟩ hknown
        (hspelled.knownAfter hfirst) hlater).mpr ⟨hothers, hnodup, hunseen, hlength⟩
      exact ⟨_, _, hrecord, rest, hrest, rfl⟩

structure BatchFits (recordKeyField : String) (records : List (List (String × Json ν))) : Prop where
  each : ∀ record ∈ records, RecordFits recordKeyField record
  keys : (records.map (recordKey recordKeyField)).Nodup
  fields : (distinct (fieldNames records.flatten)).length ≤ maximumSourceFields

theorem normalizeHttpJsonSourceResponse_accepts {maxRecords : Nat} {records : List (List (String × Json ν))}
    (hlength : records.length ≤ maxRecords) (hown : ∀ record ∈ records, ∀ entry ∈ record, entry.1 ≠ "__proto__") :
    (∃ batch, normalizeHttpJsonSourceResponse (.array (records.map .object)) maxRecords recordKeyField "" = .ok batch) ↔
      BatchFits recordKeyField records := by
  have hscan := @scanRecords_accepts ν _ 0 recordKeyField ⟨[], []⟩ records (Nat.zero_le _)
    ⟨(fun _ h => nomatch h), fun _ h => nomatch h⟩ hown
  simp only [length_knownAfter] at hscan
  have hpath : resolveRecordPath (.array (records.map .object)) "" = .ok (.array (records.map .object)) := rfl
  have hcount : ¬ maxRecords < (records.map Json.object).length := by simpa using hlength
  simp only [normalizeHttpJsonSourceResponse, hpath, bind, Except.bind, rejectIf, hcount, decide_false]
  constructor
  · rintro ⟨batch, h⟩
    cases hrun : scanRecords recordKeyField 0 ⟨[], []⟩ (records.map .object) with
    | error e => simp [hrun] at h
    | ok scanned =>
      obtain ⟨hrecords, hkeys, _, hfields⟩ := hscan.mp ⟨scanned, hrun⟩
      exact ⟨hrecords, hkeys, hfields⟩
  · rintro ⟨hrecords, hkeys, hfields⟩
    obtain ⟨scanned, hrun⟩ := hscan.mpr ⟨hrecords, hkeys, fun _ _ _ _ => List.not_mem_nil, hfields⟩
    exact ⟨_, by rw [hrun]; rfl⟩

omit [JsRuntime ν] in
theorem schemaRecords_objects (records : List (List (String × Json ν))) :
    schemaRecords (records.map .object) = some ((records.map schemaRecord).map .object) := by
  induction records with
  | nil => rfl
  | cons record records ih => simp [schemaRecords, ih]

def recordsEnvelope (records : List (List (String × Json ν))) : Json ν :=
  .object [("records", .array (records.map .object))]

theorem normalizeIngestionEnvelope_accepts {records : List (List (String × Json ν))} (hsome : 1 ≤ records.length)
    (hlength : records.length ≤ maximumIngestionRecords) :
    (∃ batch, normalizeIngestionEnvelope (recordsEnvelope records) recordKeyField = .ok batch) ↔
      BatchFits recordKeyField (records.map schemaRecord) := by
  have hparse : parseEnvelope (recordsEnvelope records) = some ((records.map schemaRecord).map .object) := by
    simp [parseEnvelope, recordsEnvelope, property?, hsome, hlength, schemaRecords_objects]
  rw [normalizeIngestionEnvelope, hparse]
  refine normalizeHttpJsonSourceResponse_accepts (by simpa using hlength) ?_
  intro record hrecord entry hentry
  obtain ⟨raw, _, rfl⟩ := List.mem_map.mp hrecord
  simpa using (List.mem_filter.mp hentry).2

end Records

section Alike

theorem find?_eq_of_mem {α β : Type} [DecidableEq β] {key : α → β} {xs : List α} (hnodup : (xs.map key).Nodup) {x : α}
    (hmem : x ∈ xs) : xs.find? (fun y => key y = key x) = some x := by
  induction xs with
  | nil => cases hmem
  | cons first xs ih =>
    rw [List.map_cons, List.nodup_cons] at hnodup
    rcases List.mem_cons.mp hmem with rfl | hlater
    · simp
    · have hne : key first ≠ key x := fun heq => hnodup.1 (heq ▸ List.mem_map_of_mem hlater)
      simp [hne, ih hnodup.2 hlater]

theorem find?_perm {α β : Type} [DecidableEq β] {key : α → β} {xs ys : List α} (h : xs.Perm ys)
    (hnodup : (xs.map key).Nodup) (k : β) : xs.find? (fun x => key x = k) = ys.find? fun y => key y = k := by
  cases hfind : xs.find? (fun x => key x = k) with
  | none =>
    rw [eq_comm, List.find?_eq_none]
    exact fun y hy => List.find?_eq_none.mp hfind y (h.mem_iff.mpr hy)
  | some x =>
    have hmem := h.mem_iff.mp (List.mem_of_find?_eq_some hfind)
    have hkey : key x = k := by simpa using List.find?_some hfind
    rw [← hkey, find?_eq_of_mem ((h.map key).nodup_iff.mp hnodup) hmem]

variable {ν : Type} [JsRuntime ν] {recordKeyField : String}

def entryTexts (record : List (String × Json ν)) : List (String × Option (Option String)) :=
  record.map fun entry => (entry.1, scalarText entry.2)

structure Alike (record other : List (String × Json ν)) : Prop where
  texts : (entryTexts record).Perm (entryTexts other)

theorem Alike.symm {record other : List (String × Json ν)} (h : Alike record other) : Alike other record :=
  ⟨h.texts.symm⟩

theorem entryTexts_schemaRecord (record : List (String × Json ν)) :
    entryTexts (schemaRecord record) = (entryTexts record).filter fun text => text.1 ≠ "__proto__" := by
  rw [entryTexts, schemaRecord, entryTexts, List.filter_map]
  rfl

theorem Alike.schemaRecord {record other : List (String × Json ν)} (h : Alike record other) :
    Alike (schemaRecord record) (schemaRecord other) := by
  refine ⟨?_⟩
  rw [entryTexts_schemaRecord, entryTexts_schemaRecord]
  exact h.texts.filter _

theorem Alike.names {record other : List (String × Json ν)} (h : Alike record other) :
    (record.map Prod.fst).Perm (other.map Prod.fst) := by
  have hnames := h.texts.map Prod.fst
  rwa [entryTexts, entryTexts, List.map_map, List.map_map] at hnames

theorem Alike.scalar {record other : List (String × Json ν)} (h : Alike record other)
    (hscalar : ∀ entry ∈ other, (scalarText entry.2).isSome = true) : ∀ entry ∈ record, (scalarText entry.2).isSome = true := by
  intro entry hentry
  have htext := h.texts.mem_iff.mp (List.mem_map_of_mem (f := fun entry => (entry.1, scalarText entry.2)) hentry)
  obtain ⟨same, hsame, heq⟩ := List.mem_map.mp htext
  rw [← (Prod.mk.inj heq).2]
  exact hscalar same hsame

theorem fieldNames_texts (record : List (String × Json ν)) :
    fieldNames record = (entryTexts record).map fun text => normalizeHeader ν text.1 := by
  rw [fieldNames, entryTexts, List.map_map]
  rfl

theorem Alike.fieldNames {record other : List (String × Json ν)} (h : Alike record other) :
    (fieldNames record).Perm (fieldNames other) := by
  rw [fieldNames_texts, fieldNames_texts]
  exact h.texts.map _

theorem keyScalar_texts (record : List (String × Json ν)) : keyScalar recordKeyField record =
    ((entryTexts record).find? fun text => normalizeHeader ν text.1 = normalizeHeader ν recordKeyField).map
      fun text => text.2.getD none := by
  rw [entryTexts, List.find?_map, Option.map_map]
  rfl

theorem Alike.recordKey {record other : List (String × Json ν)} (h : Alike record other)
    (hspelling : (ByokGrid.fieldNames record).Nodup) : recordKey recordKeyField record = recordKey recordKeyField other := by
  rw [fieldNames_texts] at hspelling
  rw [ByokGrid.recordKey, ByokGrid.recordKey, keyScalar_texts, keyScalar_texts, find?_perm h.texts hspelling]

theorem RecordFits.alike {record other : List (String × Json ν)} (h : RecordFits recordKeyField record)
    (halike : Alike record other) : RecordFits recordKeyField other := by
  obtain ⟨key, hkey, hlength⟩ := h.key
  refine ⟨fun entry hmem => ?_, halike.fieldNames.nodup_iff.mp h.spelling, key, ?_, hlength⟩
  · have htext := halike.texts.mem_iff.mpr (List.mem_map_of_mem (f := fun entry => (entry.1, scalarText entry.2)) hmem)
    obtain ⟨same, hsame, heq⟩ := List.mem_map.mp htext
    have hfits := h.entries same hsame
    rw [Prod.mk.injEq] at heq
    rwa [entryFits, heq.1, heq.2] at hfits
  · rw [← halike.recordKey h.spelling, hkey]

theorem BatchFits.alike {records others : List (List (String × Json ν))} (h : BatchFits recordKeyField records)
    (halike : List.Forall₂ Alike records others) : BatchFits recordKeyField others := by
  have hkeys : others.map (recordKey recordKeyField) = records.map (recordKey recordKeyField) := by
    have heach := h.each
    clear h
    induction halike with
    | nil => rfl
    | cons hfirst _ ih =>
      obtain ⟨hfits, hrest⟩ := List.forall_mem_cons.mp heach
      rw [List.map_cons, List.map_cons, ih hrest, hfirst.recordKey hfits.spelling]
  have hnames : (fieldNames records.flatten).Perm (fieldNames others.flatten) := by
    clear h hkeys
    induction halike with
    | nil => exact List.Perm.refl _
    | cons hfirst _ ih =>
      rw [List.flatten_cons, List.flatten_cons, fieldNames_append, fieldNames_append]
      exact hfirst.fieldNames.append ih
  refine ⟨?_, hkeys ▸ h.keys, ?_⟩
  · have heach := h.each
    clear h hkeys hnames
    induction halike with
    | nil => exact fun _ h => nomatch h
    | cons hfirst _ ih =>
      obtain ⟨hfits, hrest⟩ := List.forall_mem_cons.mp heach
      exact List.forall_mem_cons.mpr ⟨hfits.alike hfirst, ih hrest⟩
  · rw [length_distinct (nodup_distinct (fieldNames records.flatten)) fun name => ?_]
    · exact h.fields
    · rw [mem_distinct, hnames.mem_iff]

end Alike

end ByokGrid
