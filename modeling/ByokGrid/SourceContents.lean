import ByokGrid.Calendar
import ByokGrid.ContactPages

/-! What the normal forms of responses keep of their records: every field under its
canonical name, but for names which objects treat as their own. -/

namespace ByokGrid

section Spellings

variable {ν : Type} [JsRuntime ν]

def FirstSpelling (entries : List (String × Json ν)) (name : String) : Prop :=
  ∃ before entry after, entries = before ++ entry :: after ∧ entry.1 = name ∧
    normalizeHeader ν name ∉ fieldNames before

theorem mem_knownAfter {known : List KnownField} {entries : List (String × Json ν)} {name : String} :
    name ∈ (knownAfter known entries).map KnownField.field ↔ name ∈ known.map KnownField.field ∨
      ∃ before entry after, entries = before ++ entry :: after ∧ entry.1 = name ∧
        normalizeHeader ν name ∉ fieldNames before ∧ normalizeHeader ν name ∉ known.map KnownField.normalizedField := by
  induction entries generalizing known with
  | nil => simp [knownAfter]
  | cons entry entries ih =>
    rw [knownAfter, ih]
    by_cases hknown : (canonicalField known (normalizeHeader ν entry.1)).isSome = true
    · have hname := canonicalField_isSome.mp hknown
      rw [knownWith, if_pos hknown]
      refine or_congr_right ⟨?_, ?_⟩
      · rintro ⟨before, found, after, rfl, rfl, hbefore, hnew⟩
        refine ⟨entry :: before, found, after, rfl, rfl, ?_, hnew⟩
        rw [fieldNames_cons, List.mem_cons, not_or]
        exact ⟨fun heq => hnew (heq ▸ hname), hbefore⟩
      · rintro ⟨before, found, after, hsplit, rfl, hbefore, hnew⟩
        cases before with
        | nil =>
          obtain ⟨rfl, rfl⟩ := List.cons.inj hsplit
          exact absurd hname hnew
        | cons first before =>
          obtain ⟨rfl, rfl⟩ := List.cons.inj hsplit
          rw [fieldNames_cons, List.mem_cons, not_or] at hbefore
          exact ⟨before, found, after, rfl, rfl, hbefore.2, hnew⟩
    · rw [knownWith, if_neg hknown, List.map_append, List.map_append, List.mem_append]
      constructor
      · rintro ((hold | hfirst) | ⟨before, found, after, rfl, rfl, hbefore, hnew⟩)
        · exact .inl hold
        · obtain rfl := List.mem_singleton.mp hfirst
          exact .inr ⟨[], entry, entries, rfl, rfl, List.not_mem_nil, fun hmem => hknown (canonicalField_isSome.mpr hmem)⟩
        · rw [List.mem_append, not_or] at hnew
          refine .inr ⟨entry :: before, found, after, rfl, rfl, ?_, hnew.1⟩
          rw [fieldNames_cons, List.mem_cons, not_or]
          exact ⟨fun heq => hnew.2 (List.mem_singleton.mpr heq), hbefore⟩
      · rintro (hold | ⟨before, found, after, hsplit, rfl, hbefore, hnew⟩)
        · exact .inl (.inl hold)
        · cases before with
          | nil =>
            obtain ⟨rfl, rfl⟩ := List.cons.inj hsplit
            exact .inl (.inr (List.mem_singleton_self _))
          | cons first before =>
            obtain ⟨rfl, rfl⟩ := List.cons.inj hsplit
            rw [fieldNames_cons, List.mem_cons, not_or] at hbefore
            refine .inr ⟨before, found, after, rfl, rfl, hbefore.2, ?_⟩
            rw [List.mem_append, not_or]
            exact ⟨hnew, fun hmem => hbefore.1 (List.mem_singleton.mp hmem)⟩

theorem mem_fields_iff {entries : List (String × Json ν)} {name : String} :
    name ∈ (knownAfter [] entries).map KnownField.field ↔ FirstSpelling entries name := by
  rw [mem_knownAfter]
  simp [FirstSpelling]

theorem knownAfter_normalized {known : List KnownField} {entries : List (String × Json ν)}
    (h : ∀ field ∈ known, field.normalizedField = normalizeHeader ν field.field) :
    ∀ field ∈ knownAfter known entries, field.normalizedField = normalizeHeader ν field.field := by
  induction entries generalizing known with
  | nil => exact h
  | cons entry entries ih =>
    refine ih fun field hfield => ?_
    rw [knownWith] at hfield
    split at hfield
    · exact h field hfield
    · rcases List.mem_append.mp hfield with hold | hlast
      · exact h field hold
      · rw [List.mem_singleton.mp hlast]

theorem fields_normalized (entries : List (String × Json ν)) :
    ((knownAfter [] entries).map KnownField.field).map (normalizeHeader ν) =
      (knownAfter [] entries).map KnownField.normalizedField := by
  rw [List.map_map]
  refine List.map_congr_left fun field hfield => ?_
  exact (knownAfter_normalized (List.forall_mem_nil _) field hfield).symm

theorem fields_distinct (entries : List (String × Json ν)) :
    (((knownAfter [] entries).map KnownField.field).map (normalizeHeader ν)).Nodup := by
  rw [fields_normalized, knownAfter_names]
  exact nodup_distinct (fieldNames entries)

end Spellings

section Records

variable {ν : Type} [JsRuntime ν] {index : Nat} {recordKeyField : String}

structure RecordRead (known : List KnownField) (record : List (String × Json ν)) (normalized : NormalizedSourceRecord) :
    Prop where
  fits : ∀ entry ∈ record, entryFits entry = true
  names : (fieldNames record).Nodup
  values : normalized.values = assignedValues known record
  trimmed : jsTrim normalized.key = normalized.key
  visible : normalized.key ≠ ""
  short : utf16Length normalized.key ≤ maximumRecordKeyLength

theorem trimmedKey_spec {value : Option (Option String)} {key : String} (h : trimmedKey value = some key) :
    jsTrim key = key ∧ key ≠ "" := by
  match value with
  | some (some text) =>
    rw [trimmedKey] at h
    split_ifs at h with hblank
    cases h
    exact ⟨jsTrim_jsTrim text, hblank⟩
  | some none => cases h
  | none => cases h

theorem scanRecord_spec {scan scan' : ResponseScan} {value : Json ν} {normalized : NormalizedSourceRecord}
    (hcount : scan.known.length ≤ maximumSourceFields)
    (h : scanRecord recordKeyField index scan value = .ok (scan', normalized)) :
    ∃ record, value = .object record ∧ scan'.known = knownAfter scan.known record ∧
      scan'.known.length ≤ maximumSourceFields ∧ RecordRead scan'.known record normalized ∧
      normalized.key ∉ scan.keys ∧ scan'.keys = scan.keys ++ [normalized.key] := by
  cases value with
  | object record =>
    simp only [scanRecord, except_bind_eq_ok, requireKey_eq_ok, rejectIf_eq_ok, decide_eq_false_iff_not, not_lt,
      exists_and_left, exists_const, pure, Except.pure, Except.ok.injEq, Prod.mk.injEq] at h
    obtain ⟨fields, hfields, key, hkey, hlength, hfresh, rfl, rfl⟩ := h
    obtain ⟨hknown, hvalues⟩ := scanFields_spec hcount hfields
    obtain ⟨hfits, _, hnodup, hfew⟩ := (@scanFields_accepts ν _ index ⟨scan.known, [], []⟩ record hcount).mp ⟨fields, hfields⟩
    obtain ⟨htrimmed, hvisible⟩ := trimmedKey_spec hkey
    refine ⟨record, rfl, hknown, ?_, ⟨hfits, hnodup, ?_, htrimmed, hvisible, hlength⟩, hfresh, rfl⟩
    · rw [hknown]
      exact hfew
    · rw [hknown]
      exact hvalues
  | _ => cases h

theorem RecordRead.later {known : List KnownField} {record : List (String × Json ν)} {normalized : NormalizedSourceRecord}
    (h : RecordRead (knownAfter known record) record normalized) (entries : List (String × Json ν)) :
    RecordRead (knownAfter (knownAfter known record) entries) record normalized := by
  refine ⟨h.fits, h.names, h.values.trans ?_, h.trimmed, h.visible, h.short⟩
  refine (assignedValues_congr fun name hname => ?_).symm
  exact canonicalField_knownAfter (fieldNames_known known hname) entries

theorem scanRecords_spec {scan scan' : ResponseScan} {values : List (Json ν)} {normalized : List NormalizedSourceRecord}
    (hcount : scan.known.length ≤ maximumSourceFields)
    (h : scanRecords recordKeyField index scan values = .ok (scan', normalized)) :
    ∃ records : List (List (String × Json ν)), values = records.map .object ∧
      scan'.known = knownAfter scan.known records.flatten ∧ List.Forall₂ (RecordRead scan'.known) records normalized ∧
      (normalized.map NormalizedSourceRecord.key).Nodup ∧ ∀ record ∈ normalized, record.key ∉ scan.keys := by
  induction values generalizing index scan normalized with
  | nil =>
    cases h
    exact ⟨[], rfl, rfl, .nil, List.nodup_nil, List.forall_mem_nil _⟩
  | cons value values ih =>
    simp only [scanRecords, except_bind_eq_ok, pure, Except.pure, Except.ok.injEq, Prod.mk.injEq] at h
    obtain ⟨⟨first, record⟩, hfirst, ⟨last, rest⟩, hrest, rfl, rfl⟩ := h
    obtain ⟨entries, rfl, hknown, hlength, hread, hfresh, hkeys⟩ := scanRecord_spec hcount hfirst
    obtain ⟨records, rfl, hlast, hothers, hnodup, hnew⟩ := ih hlength hrest
    refine ⟨entries :: records, rfl, ?_, .cons ?_ hothers, ?_, ?_⟩
    · rw [List.flatten_cons, knownAfter_append, ← hknown]
      exact hlast
    · rw [hlast, hknown]
      rw [hknown] at hread
      exact hread.later records.flatten
    · rw [List.map_cons, List.nodup_cons]
      refine ⟨fun hmem => ?_, hnodup⟩
      obtain ⟨other, hother, hsame⟩ := List.mem_map.mp hmem
      exact hnew other hother (by rw [hkeys, hsame]; exact List.mem_append_right _ (List.mem_singleton_self _))
    · intro other hother
      rcases List.mem_cons.mp hother with rfl | hlater
      · exact hfresh
      · exact fun hmem => hnew other hlater (by rw [hkeys]; exact List.mem_append_left _ hmem)

end Records

section Contents

variable {ν : Type} [JsRuntime ν]

def ExactValues (fields : List String) (record : List (String × Json ν)) (values : List (String × Option String)) : Prop :=
  List.Forall₂ (fun entry value => value.1 ∈ fields ∧ normalizeHeader ν value.1 = normalizeHeader ν entry.1 ∧
    scalarText entry.2 = some value.2) record values

structure ExactBatch (records : List (List (String × Json ν))) (batch : NormalizedSourceBatch) : Prop where
  trimmed : ∀ record ∈ batch.records, jsTrim record.key = record.key
  visible : ∀ record ∈ batch.records, record.key ≠ ""
  short : ∀ record ∈ batch.records, utf16Length record.key ≤ maximumRecordKeyLength
  keys : (batch.records.map NormalizedSourceRecord.key).Nodup
  shortFields : ∀ field ∈ batch.fields, utf16Length field ≤ 120
  fields : (batch.fields.map (normalizeHeader ν)).Nodup
  values : List.Forall₂ (fun record normalized => ExactValues batch.fields record normalized.values) records batch.records

/-- No field is first spelled as the member which no object stores, or with too many blanks around its name. -/
def SpelledPlainly (entries : List (String × Json ν)) : Prop :=
  ∀ name, FirstSpelling entries name → name ≠ "__proto__" ∧ utf16Length name ≤ 120

theorem canonicalField_spec {known : List KnownField} {name field : String} (h : canonicalField known name = some field) :
    ∃ found ∈ known, found.normalizedField = name ∧ found.field = field := by
  obtain ⟨found, hfound, rfl⟩ := Option.map_eq_some_iff.mp h
  exact ⟨found, List.mem_of_find?_eq_some hfound, by simpa using List.find?_some hfound, rfl⟩

theorem canonicalName_spec {entries record : List (String × Json ν)} {entry : String × Json ν} (hentry : entry ∈ record)
    (hrecord : ∀ entry ∈ record, entry ∈ entries) :
    (canonicalField (knownAfter [] entries) (normalizeHeader ν entry.1)).getD entry.1 ∈
        (knownAfter [] entries).map KnownField.field ∧
      normalizeHeader ν ((canonicalField (knownAfter [] entries) (normalizeHeader ν entry.1)).getD entry.1) =
        normalizeHeader ν entry.1 := by
  have hname : normalizeHeader ν entry.1 ∈ fieldNames entries := List.mem_map_of_mem (hrecord entry hentry)
  obtain ⟨field, hfield⟩ := Option.isSome_iff_exists.mp (fieldNames_known [] hname)
  obtain ⟨found, hfound, hnormal, rfl⟩ := canonicalField_spec hfield
  rw [hfield, Option.getD_some]
  refine ⟨List.mem_map_of_mem hfound, ?_⟩
  rw [← hnormal]
  exact (knownAfter_normalized (List.forall_mem_nil _) found hfound).symm

theorem RecordRead.exact {entries record : List (String × Json ν)} {normalized : NormalizedSourceRecord}
    (h : RecordRead (knownAfter [] entries) record normalized) (hrecord : ∀ entry ∈ record, entry ∈ entries)
    (hplain : SpelledPlainly entries) :
    ExactValues ((knownAfter [] entries).map KnownField.field) record normalized.values := by
  have hown : normalized.values = record.map fun entry =>
      ((canonicalField (knownAfter [] entries) (normalizeHeader ν entry.1)).getD entry.1, (scalarText entry.2).getD none) := by
    rw [h.values, assignedValues, List.filter_eq_self]
    intro value hvalue
    obtain ⟨entry, hentry, rfl⟩ := List.mem_map.mp hvalue
    exact decide_eq_true (hplain _ (mem_fields_iff.mp (canonicalName_spec hentry hrecord).1)).1
  rw [hown, ExactValues, List.forall₂_map_right_iff, List.forall₂_same]
  intro entry hentry
  obtain ⟨hfield, hnormal⟩ := canonicalName_spec hentry hrecord
  have hscalar := (Bool.and_eq_true _ _ ▸ h.fits entry hentry : _ ∧ _).2
  obtain ⟨text, htext⟩ := Option.isSome_iff_exists.mp hscalar
  exact ⟨hfield, hnormal, by rw [htext, Option.getD_some]⟩

theorem RecordRead.not_mem_proto {known : List KnownField} {record : List (String × Json ν)}
    {normalized : NormalizedSourceRecord} (h : RecordRead known record normalized) {value : String × Option String}
    (hvalue : value ∈ normalized.values) : value.1 ≠ "__proto__" := by
  rw [h.values] at hvalue
  simpa using (List.mem_filter.mp hvalue).2

theorem forall₂_both {α β : Type} {R S : α → β → Prop} {xs : List α} {ys : List β} (h : List.Forall₂ R xs ys)
    (h' : List.Forall₂ S xs ys) : List.Forall₂ (fun x y => R x y ∧ S x y) xs ys := by
  induction h with
  | nil => exact .nil
  | cons hfirst _ ih =>
    obtain ⟨hsecond, hrest⟩ := List.forall₂_cons.mp h'
    exact .cons ⟨hfirst, hsecond⟩ (ih hrest)

theorem forall₂_left {α β : Type} {R : α → β → Prop} {xs : List α} {ys : List β} (h : List.Forall₂ R xs ys) {x : α}
    (hx : x ∈ xs) : ∃ y ∈ ys, R x y := by
  induction h with
  | nil => cases hx
  | cons hfirst _ ih =>
    rcases List.mem_cons.mp hx with rfl | hlater
    · exact ⟨_, List.mem_cons_self, hfirst⟩
    · obtain ⟨y, hy, hrelated⟩ := ih hlater
      exact ⟨y, List.mem_cons_of_mem _ hy, hrelated⟩

theorem ExactBatch.ne_proto {records : List (List (String × Json ν))} {batch : NormalizedSourceBatch}
    (h : ExactBatch records batch) (hfields : batch.fields = (knownAfter [] records.flatten).map KnownField.field)
    (hreads : List.Forall₂ (RecordRead (knownAfter [] records.flatten)) records batch.records) {name : String}
    (hname : FirstSpelling records.flatten name) : name ≠ "__proto__" := by
  rintro rfl
  have hmem : "__proto__" ∈ batch.fields := by
    rw [hfields]
    exact mem_fields_iff.mpr hname
  obtain ⟨before, entry, after, hsplit, hentry, -⟩ := hname
  obtain ⟨record, hrecord, hin⟩ := List.mem_flatten.mp
    (hsplit ▸ List.mem_append_right before List.mem_cons_self : entry ∈ records.flatten)
  obtain ⟨normalized, -, hread, hexact⟩ := forall₂_left (forall₂_both hreads h.values) hrecord
  obtain ⟨value, hvalue, hfield, hnormal, -⟩ := forall₂_left hexact hin
  rw [hentry] at hnormal
  exact hread.not_mem_proto hvalue (List.inj_on_of_nodup_map h.fields hfield hmem hnormal)

theorem normalizeHttpJsonSourceResponse_spec {body : Json ν} {maxRecords : Nat} {recordKeyField recordPath : String}
    {batch : NormalizedSourceBatch}
    (h : normalizeHttpJsonSourceResponse body maxRecords recordKeyField recordPath = .ok batch) :
    ∃ records : List (List (String × Json ν)),
      resolveRecordPath body recordPath = .ok (.array (records.map .object)) ∧
      batch.fields = (knownAfter [] records.flatten).map KnownField.field ∧
      List.Forall₂ (RecordRead (knownAfter [] records.flatten)) records batch.records ∧
      (batch.records.map NormalizedSourceRecord.key).Nodup := by
  rw [normalizeHttpJsonSourceResponse, except_bind_eq_ok] at h
  obtain ⟨value, hpath, hread⟩ := h
  cases value with
  | array values =>
    simp only [except_bind_eq_ok, rejectIf_eq_ok, exists_and_left, exists_const, pure, Except.pure, Except.ok.injEq] at hread
    obtain ⟨-, ⟨scan, normalized⟩, hscan, rfl⟩ := hread
    obtain ⟨records, rfl, hknown, hreads, hkeys, -⟩ := scanRecords_spec (Nat.zero_le _) hscan
    rw [hknown] at hreads
    exact ⟨records, hpath, by rw [hknown], hreads, hkeys⟩
  | _ => cases hread

theorem exactBatch_iff {records : List (List (String × Json ν))} {batch : NormalizedSourceBatch}
    (hfields : batch.fields = (knownAfter [] records.flatten).map KnownField.field)
    (hreads : List.Forall₂ (RecordRead (knownAfter [] records.flatten)) records batch.records)
    (hkeys : (batch.records.map NormalizedSourceRecord.key).Nodup) :
    ExactBatch records batch ↔ SpelledPlainly records.flatten := by
  constructor
  · intro h name hname
    refine ⟨h.ne_proto hfields hreads hname, h.shortFields name ?_⟩
    rw [hfields]
    exact mem_fields_iff.mpr hname
  · intro hplain
    have hread : ∀ normalized ∈ batch.records, ∃ record : List (String × Json ν), RecordRead (knownAfter [] records.flatten) record normalized := by
      intro normalized hmem
      obtain ⟨record, -, hrecord⟩ := forall₂_left hreads.flip hmem
      exact ⟨record, hrecord⟩
    refine ⟨fun normalized hmem => ?_, fun normalized hmem => ?_, fun normalized hmem => ?_, hkeys, ?_, ?_, ?_⟩
    · obtain ⟨_, hrecord⟩ := hread normalized hmem
      exact hrecord.trimmed
    · obtain ⟨_, hrecord⟩ := hread normalized hmem
      exact hrecord.visible
    · obtain ⟨_, hrecord⟩ := hread normalized hmem
      exact hrecord.short
    · intro field hfield
      rw [hfields] at hfield
      exact (hplain field (mem_fields_iff.mp hfield)).2
    · rw [hfields]
      exact fields_distinct records.flatten
    · rw [hfields]
      refine List.forall₂_iff_get.mpr ⟨hreads.length_eq, fun i hi hi' => ?_⟩
      refine (hreads.get hi hi').exact (fun entry hentry => ?_) hplain
      exact List.mem_flatten.mpr ⟨_, List.get_mem records _, hentry⟩

end Contents

def contactOwnProperty (contact : HubSpotContact) (property : String) : PropertyValue :=
  match property? contact.properties property with
  | some (some value) => .text value
  | some none | none => .null

structure ExactContact (properties : List String) (contact : HubSpotContact) (record : HubSpotRecord) : Prop where
  key : record.key = contact.id
  values : record.values = (HUBSPOT_CONTACT_ID_FIELD, .text contact.id) ::
    properties.map (fun property => (property, contactOwnProperty contact property)) ++
    [(HUBSPOT_CONTACT_CREATED_AT_FIELD, .text contact.createdAt), (HUBSPOT_CONTACT_UPDATED_AT_FIELD, .text contact.updatedAt),
      (HUBSPOT_CONTACT_ARCHIVED_FIELD, .text (if contact.archived then "true" else "false"))]

theorem assignProperty_new {values : List (String × PropertyValue)} {name : String} (h : name ∉ values.map Prod.fst)
    (value : PropertyValue) : assignProperty values name value = values ++ [(name, value)] := by
  rw [assignProperty, if_neg h]

theorem assignProperties_new (contact : HubSpotContact) {values : List (String × PropertyValue)} {properties : List String}
    (hnodup : properties.Nodup) (h : ∀ property ∈ properties, property ∉ values.map Prod.fst) :
    assignProperties contact values properties =
      values ++ properties.map fun property => (property, readProperty contact.properties property) := by
  induction properties generalizing values with
  | nil => exact (List.append_nil values).symm
  | cons property properties ih =>
    obtain ⟨hfirst, hlater⟩ := List.forall_mem_cons.mp h
    obtain ⟨hfresh, hrest⟩ := List.nodup_cons.mp hnodup
    have hstep : assignProperties contact values (property :: properties) =
        assignProperties contact (values ++ [(property, readProperty contact.properties property)]) properties := by
      rw [← assignProperty_new hfirst]
      rfl
    rw [hstep, ih hrest, List.map_cons, List.append_assoc, List.singleton_append]
    intro other hother hmem
    rw [List.map_append, List.mem_append] at hmem
    rcases hmem with hold | hsame
    · exact hlater other hother hold
    · have heq : other = property := List.mem_singleton.mp hsame
      exact hfresh (heq ▸ hother)

theorem isHubSpotProperty_spec {name : String} (h : isHubSpotProperty name = true) :
    name ∉ hubSpotSystemFields ∧ (name ∈ objectPrototypeMembers → name = "constructor") := by
  refine ⟨?_, fun hmember => ?_⟩
  · rw [isHubSpotProperty, Bool.and_eq_true] at h
    exact of_decide_eq_true h.2
  · have hall : ∀ member ∈ objectPrototypeMembers, isHubSpotProperty member = true → member = "constructor" := by
      decide
    exact hall name hmember h

theorem acceptedProperties_spec {properties : List String} (h : acceptedProperties properties = true) :
    (∀ property ∈ properties, isHubSpotProperty property = true) ∧ properties.Nodup := by
  simp only [acceptedProperties, Bool.and_eq_true, decide_eq_true_eq, List.all_eq_true] at h
  exact ⟨h.1.2, h.2⟩

theorem contactValues_eq {properties : List String} (h : acceptedProperties properties = true) (contact : HubSpotContact) :
    contactValues properties contact = (HUBSPOT_CONTACT_ID_FIELD, .text contact.id) ::
      properties.map (fun property => (property, readProperty contact.properties property)) ++
      [(HUBSPOT_CONTACT_CREATED_AT_FIELD, .text contact.createdAt), (HUBSPOT_CONTACT_UPDATED_AT_FIELD, .text contact.updatedAt),
        (HUBSPOT_CONTACT_ARCHIVED_FIELD, .text (if contact.archived then "true" else "false"))] := by
  obtain ⟨hproperties, hnodup⟩ := acceptedProperties_spec h
  have hsystem : ∀ field ∈ hubSpotSystemFields, field ∉ properties := by
    intro field hfield hmem
    exact (isHubSpotProperty_spec (hproperties field hmem)).1 hfield
  have hrequested : assignProperties contact [(HUBSPOT_CONTACT_ID_FIELD, .text contact.id)] properties =
      [(HUBSPOT_CONTACT_ID_FIELD, .text contact.id)] ++
        properties.map fun property => (property, readProperty contact.properties property) := by
    refine assignProperties_new contact hnodup fun property hproperty hmem => ?_
    have heq : property = HUBSPOT_CONTACT_ID_FIELD := List.mem_singleton.mp hmem
    exact hsystem _ (by decide) (heq ▸ hproperty)
  obtain ⟨base, hbase⟩ : ∃ base, base = [(HUBSPOT_CONTACT_ID_FIELD, PropertyValue.text contact.id)] ++
    properties.map fun property => (property, readProperty contact.properties property) := ⟨_, rfl⟩
  have hnames : ∀ values : List (String × PropertyValue), ∀ name ∈ hubSpotSystemFields, name ≠ HUBSPOT_CONTACT_ID_FIELD →
      name ∉ values.map Prod.fst → name ∉ (base ++ values).map Prod.fst := by
    intro values name hfield hid hvalues
    rw [hbase]
    simp only [List.map_append, List.mem_append, List.map_map, not_or]
    refine ⟨⟨by simpa using hid, fun hmem => ?_⟩, hvalues⟩
    obtain ⟨property, hin, rfl⟩ := List.mem_map.mp hmem
    exact hsystem _ hfield hin
  have hcreated : HUBSPOT_CONTACT_CREATED_AT_FIELD ∉ base.map Prod.fst := by
    simpa using hnames [] HUBSPOT_CONTACT_CREATED_AT_FIELD (by decide) (by decide) List.not_mem_nil
  have hupdated := hnames [(HUBSPOT_CONTACT_CREATED_AT_FIELD, .text contact.createdAt)] HUBSPOT_CONTACT_UPDATED_AT_FIELD
    (by decide) (by decide) (by simp; decide)
  have harchived := hnames ([(HUBSPOT_CONTACT_CREATED_AT_FIELD, .text contact.createdAt)] ++
    [(HUBSPOT_CONTACT_UPDATED_AT_FIELD, .text contact.updatedAt)]) HUBSPOT_CONTACT_ARCHIVED_FIELD (by decide) (by decide)
    (by simp; decide)
  rw [contactValues, hrequested, ← hbase, assignProperty_new hcreated, assignProperty_new hupdated, List.append_assoc,
    assignProperty_new harchived, hbase]
  simp

theorem contactRecords_eq {properties keys : List String} {contacts : List HubSpotContact} {records : List HubSpotRecord}
    (h : contactRecords properties keys contacts = .ok records) :
    records = contacts.map fun contact => ⟨contact.id, contactValues properties contact⟩ := by
  induction contacts generalizing keys records with
  | nil =>
    cases h
    rfl
  | cons contact contacts ih =>
    simp only [contactRecords, except_bind_eq_ok, rejectIf_eq_ok, exists_and_left, exists_const, pure, Except.pure,
      Except.ok.injEq] at h
    obtain ⟨-, rest, hrest, rfl⟩ := h
    rw [ih hrest, List.map_cons]

theorem readProperty_eq_iff {properties : List String} (h : acceptedProperties properties = true) (contact : HubSpotContact) :
    (∀ property ∈ properties, readProperty contact.properties property = contactOwnProperty contact property) ↔
      ("constructor" ∈ properties → "constructor" ∈ contact.properties.map Prod.fst) := by
  have hown : ∀ property, property? contact.properties property = none ↔ property ∉ contact.properties.map Prod.fst := by
    intro property
    simp only [property?, Option.map_eq_none_iff, List.find?_eq_none, decide_eq_true_eq, List.mem_map, not_exists, not_and]
  constructor
  · intro heach hmem
    by_contra hmissing
    have hread := heach _ hmem
    rw [readProperty, contactOwnProperty, (hown _).mpr hmissing] at hread
    exact absurd hread (by decide)
  · intro hconstructor property hproperty
    rw [readProperty, contactOwnProperty]
    cases hvalue : property? contact.properties property with
    | some value => cases value <;> rfl
    | none =>
      refine if_neg fun hmember => ?_
      obtain rfl := (isHubSpotProperty_spec ((acceptedProperties_spec h).1 property hproperty)).2 hmember
      exact (hown _).mp hvalue (hconstructor hproperty)

theorem exactContact_iff {properties : List String} (h : acceptedProperties properties = true) (contact : HubSpotContact) :
    ExactContact properties contact ⟨contact.id, contactValues properties contact⟩ ↔
      ("constructor" ∈ properties → "constructor" ∈ contact.properties.map Prod.fst) := by
  rw [← readProperty_eq_iff h contact]
  constructor
  · rintro ⟨-, hvalues⟩ property hproperty
    rw [contactValues_eq h, List.cons_append, List.cons_append] at hvalues
    have hmaps := List.append_cancel_right (List.cons.inj hvalues).2
    exact (Prod.mk.inj (List.map_inj_left.mp hmaps property hproperty)).2
  · intro heach
    refine ⟨rfl, ?_⟩
    rw [contactValues_eq h, List.map_congr_left fun property hproperty => by rw [heach property hproperty]]

theorem normalizeHubSpotContactsSourceResponse_spec {ν : Type} [JsRuntime ν] {body : Json ν} {maxRecords : Nat}
    {properties : List String} {page : NormalizedHubSpotContactsPage}
    (h : normalizeHubSpotContactsSourceResponse body maxRecords properties = .ok page) :
    ∃ read : HubSpotContactsPage, readContactsPage body = some read ∧
      page.records = read.results.map fun contact => ⟨contact.id, contactValues properties contact⟩ := by
  rw [normalizeHubSpotContactsSourceResponse] at h
  match hread : readContactsPage body with
  | none =>
    rw [hread] at h
    cases h
  | some read =>
    rw [hread] at h
    simp only [except_bind_eq_ok, rejectIf_eq_ok, exists_and_left, exists_const, pure, Except.pure, Except.ok.injEq] at h
    obtain ⟨-, records, hrecords, -, rfl⟩ := h
    exact ⟨read, rfl, contactRecords_eq hrecords⟩

section Exact

variable (ν : Type) [JsRuntime ν]

/-- The normal forms of responses: a batch is exact when its fields are spelled plainly, and a
page when every contact has the property `constructor` of its own where it is requested. -/
theorem sourceNormalization_exact :
    (∀ (body : Json ν) (maxRecords : Nat) (recordKeyField recordPath : String) (batch : NormalizedSourceBatch),
      normalizeHttpJsonSourceResponse body maxRecords recordKeyField recordPath = .ok batch →
      ∃ records : List (List (String × Json ν)),
        resolveRecordPath body recordPath = .ok (.array (records.map .object)) ∧
        (ExactBatch records batch ↔ SpelledPlainly records.flatten)) ∧
    ∀ (body : Json ν) (maxRecords : Nat) (properties : List String) (page : NormalizedHubSpotContactsPage),
      acceptedProperties properties = true →
      normalizeHubSpotContactsSourceResponse body maxRecords properties = .ok page →
      ∃ read : HubSpotContactsPage, readContactsPage body = some read ∧
        (List.Forall₂ (ExactContact properties) read.results page.records ↔
          ("constructor" ∈ properties → ∀ contact ∈ read.results, "constructor" ∈ contact.properties.map Prod.fst)) := by
  constructor
  · intro body maxRecords recordKeyField recordPath batch h
    obtain ⟨records, hpath, hfields, hreads, hkeys⟩ := normalizeHttpJsonSourceResponse_spec h
    exact ⟨records, hpath, exactBatch_iff hfields hreads hkeys⟩
  · intro body maxRecords properties page hproperties h
    obtain ⟨read, hread, hrecords⟩ := normalizeHubSpotContactsSourceResponse_spec h
    refine ⟨read, hread, ?_⟩
    rw [hrecords, List.forall₂_map_right_iff, List.forall₂_same]
    simp only [exactContact_iff hproperties]
    exact ⟨fun heach hmem contact hcontact => heach contact hcontact hmem,
      fun heach contact hcontact hmem => heach hmem contact hcontact⟩

end Exact

def protoRecords : List (List (String × Json CalendarInteger)) :=
  [[("id", .string "a"), ("__proto__", .string "x")]]

def contactPage : Json CalendarInteger :=
  .object [("results", .array [.object [("archived", .boolean false), ("createdAt", .string "2026-01-01T00:00:00Z"),
    ("id", .string "1"), ("properties", .object [("email", .string "ann@example.com")]),
    ("updatedAt", .string "2026-01-02T00:00:00Z")]])]

def contactOfPage : HubSpotContact where
  archived := false
  createdAt := "2026-01-01T00:00:00Z"
  id := "1"
  properties := [("email", some "ann@example.com")]
  updatedAt := "2026-01-02T00:00:00Z"

def contactRecord (properties : List String) : HubSpotRecord :=
  ⟨"1", contactValues properties contactOfPage⟩

theorem sourceNormalization_exact_email :
    (∃ records : List (List (String × Json CalendarInteger)),
      resolveRecordPath (.array [.object [("id", .string "a"), ("Name", .string "x")]]) "" = .ok (.array (records.map .object)) ∧
      (ExactBatch records ⟨["id", "Name"], [⟨"a", [("id", some "a"), ("Name", some "x")]⟩]⟩ ↔ SpelledPlainly records.flatten)) ∧
    ∃ read : HubSpotContactsPage, readContactsPage contactPage = some read ∧
      (List.Forall₂ (ExactContact ["email"]) read.results [contactRecord ["email"]] ↔
        ("constructor" ∈ ["email"] → ∀ contact ∈ read.results, "constructor" ∈ contact.properties.map Prod.fst)) :=
  ⟨(sourceNormalization_exact CalendarInteger).1 _ 10 "id" "" _ (by decide),
    (sourceNormalization_exact CalendarInteger).2 contactPage 10 ["email"]
      ⟨["hubspot_contact_id", "email", "hubspot_created_at", "hubspot_updated_at", "hubspot_archived"],
        [contactRecord ["email"]], none⟩ (by decide) (by decide)⟩

/-- The field is missing from its record, and the property of the contact is no string. -/
theorem sourceNormalization_loses :
    (∃ batch, normalizeHttpJsonSourceResponse (.array (protoRecords.map .object)) 10 "id" "" = .ok batch ∧
      ¬ ExactBatch protoRecords batch) ∧
    ∃ page, acceptedProperties ["constructor"] = true ∧ readContactsPage contactPage = some ⟨none, [contactOfPage]⟩ ∧
      normalizeHubSpotContactsSourceResponse contactPage 10 ["constructor"] = .ok page ∧
      ¬ List.Forall₂ (ExactContact ["constructor"]) [contactOfPage] page.records := by
  refine ⟨⟨⟨["id", "__proto__"], [⟨"a", [("id", some "a")]⟩]⟩, by decide, fun h => ?_⟩,
    ⟨⟨["hubspot_contact_id", "constructor", "hubspot_created_at", "hubspot_updated_at", "hubspot_archived"],
      [contactRecord ["constructor"]], none⟩, by decide, by decide, by decide, fun h => ?_⟩⟩
  · have hvalues := (List.forall₂_cons.mp h.values).1.length_eq
    exact absurd hvalues (by decide)
  · have hrecord := (List.forall₂_cons.mp h).1.values
    exact absurd hrecord (by decide)

end ByokGrid
