import ByokGrid.ConversionPages
import ByokGrid.EditRoundTrip

/-! The conversion of a column as a whole: when it goes through, what it makes of the store, and
for which names of columns its confirmation can be given. -/

namespace ByokGrid

section Values

variable {ν : Type} [ValueRuntime ν]

def SourceValue.Kept (value : SourceValue ν) : Prop :=
  value.serializeSqliteCellValue.deserializeSqliteCellValue = some value

theorem kept_json {value kept : JsonTree JsString ν} (h : readJsonSchema value = some kept) : (SourceValue.json kept).Kept := by
  have hagain : readJsonSchema kept = some kept := by
    obtain ⟨hfinite, hkept⟩ := Option.ite_none_right_eq_some.mp h
    cases hkept
    simp only [readJsonSchema, withoutKey_withoutKey]
    exact if_pos hfinite
  have hstored : ((SourceValue.json kept).serializeSqliteCellValue.valueJson.getD .null) = kept := by
    cases kept <;> rfl
  have htype : (SourceValue.json kept).serializeSqliteCellValue.valueType = .json := by
    cases kept <;> rfl
  rw [SourceValue.Kept, SerializedCellValue.deserializeSqliteCellValue, htype]
  change readCellValueSchema (.json _) = _
  rw [hstored, readCellValueSchema, hagain]
  rfl

theorem kept_date (date : TimeValue) : (SourceValue.timestamp (.ofString (SourceRuntime.toISOString ν date)) : SourceValue ν).Kept := by
  rw [SourceValue.Kept, SourceValue.serializeSqliteCellValue, SourceRuntime.parseDate_toISOString]
  rfl

theorem validateConvertedValue_kept {value result : SourceValue ν} (h : validateConvertedValue value = .ok result)
    (hdate : value.type ≠ .timestamp) : result.Kept := by
  rw [validateConvertedValue] at h
  split at h
  · next parsed hparsed =>
      cases h
      obtain ⟨hschema, -⟩ := readEditableCellValue_eq_some.mp hparsed
      cases value with
      | empty => cases hschema; rfl
      | text value => cases hschema; rfl
      | boolean value => cases hschema; rfl
      | number value =>
        obtain ⟨-, hvalue⟩ := Option.ite_none_right_eq_some.mp hschema
        cases hvalue
        rfl
      | timestamp value => exact absurd rfl hdate
      | json value =>
        obtain ⟨kept, hkept, rfl⟩ := Option.map_eq_some_iff.mp hschema
        exact kept_json hkept
  · cases h

theorem convertTextValue_kept {value : JsString} {targetType : EditableInputValueType} {result : SourceValue ν}
    (h : convertTextValue value targetType = .ok result) : result.Kept := by
  rw [convertTextValue.eq_def] at h
  split at h
  · dsimp only at h
    split_ifs at h with hblank hfinite
    cases h
    rfl
  · split_ifs at h with htrue hfalse
    · cases h
      rfl
    · cases h
      rfl
  · split_ifs at h with hoffset
    split at h
    · next date _ =>
        cases h
        exact kept_date date
    · cases h
  · split at h
    · exact validateConvertedValue_kept h (by simp [SourceValue.type])
    · cases h
  · cases h
    rfl

theorem convertColumnCellValue_kept {source result : SourceValue ν} {targetType : EditableInputValueType}
    (h : ¬ (source.type = .empty ∨ source.type = targetType.type)) (hconvert : convertColumnCellValue source targetType = .ok result) :
    result.Kept := by
  rw [convertColumnCellValue.eq_def, if_neg h] at hconvert
  split at hconvert
  · exact validateConvertedValue_kept hconvert (by simp [SourceValue.type])
  · exact convertTextValue_kept hconvert
  · exact validateConvertedValue_kept hconvert (by simp [SourceValue.type])
  · rw [convertJsonValue.eq_def] at hconvert
    split at hconvert
    · exact convertTextValue_kept hconvert
    · exact validateConvertedValue_kept hconvert (by simp [SourceValue.type])
    · cases hconvert
      rfl
    · cases hconvert
  · exact convertTextValue_kept hconvert
  · cases hconvert

theorem deserializeSqliteCellValue_type {cell : SerializedCellValue ν} {value : SourceValue ν}
    (h : cell.deserializeSqliteCellValue = some value) : value.type = cell.valueType := by
  rw [SerializedCellValue.deserializeSqliteCellValue] at h
  split at h
  · next htype => cases h; exact htype.symm
  · next htype => cases h; exact htype.symm
  · next htype => cases h; exact htype.symm
  · next htype => cases h; exact htype.symm
  · next htype => cases h; exact htype.symm
  · next htype => rw [readCellValueSchema_type h]; exact htype.symm

end Values

section Cells

variable {ν : Type} [ValueRuntime ν] {currentType targetType : EditableInputValueType}

def convertedValue (targetType : EditableInputValueType) (cell : LifecycleCell ν) : Option (SourceValue ν) :=
  cell.value.deserializeSqliteCellValue.bind fun value => (convertColumnCellValue value targetType).toOption

def LifecycleCell.converted (targetType : EditableInputValueType) (now : Int) (cell : LifecycleCell ν) : LifecycleCell ν :=
  match convertedValue targetType cell with
  | some value =>
    { cell with value := value.serializeSqliteCellValue, status := .idle, updatedAt := now, version := cell.version + 1 }
  | none => cell

@[simp] theorem converted_id (now : Int) (cell : LifecycleCell ν) : (cell.converted targetType now).id = cell.id := by
  rw [LifecycleCell.converted]
  split <;> rfl

def isFailure (currentType targetType : EditableInputValueType) (cell : LifecycleCell ν) : Bool :=
  cell.value.valueType ≠ .empty && (conversionFailure currentType targetType cell).isSome

theorem scanConversionCell_failed (scan : ConversionScan) (joined : LifecycleCell ν × String) :
    (scanConversionCell currentType targetType scan joined).impact.failedCells =
      scan.impact.failedCells + if isFailure currentType targetType joined.1 then 1 else 0 := by
  rw [scanConversionCell, isFailure]
  by_cases hempty : joined.1.value.valueType = .empty
  · simp [hempty, ConversionScan.count]
  · cases hfailure : conversionFailure currentType targetType joined.1 with
    | none => simp [hempty, ConversionScan.count]
    | some failure => simp [hempty, ConversionScan.count, ConversionScan.fail]

theorem scanCells_failed (store : LifecycleStore ν) (scan : ConversionScan) (cells : List (LifecycleCell ν)) :
    (scanCells store currentType targetType scan cells).impact.failedCells =
      scan.impact.failedCells + cells.countP (isFailure currentType targetType) := by
  induction cells generalizing scan with
  | nil => rfl
  | cons cell cells ih =>
    have hrest := ih (scanConversionCell currentType targetType scan (cell, rowPosition store cell))
    rw [scanConversionCell_failed] at hrest
    rw [List.countP_cons]
    refine hrest.trans ?_
    rw [Nat.add_assoc, Nat.add_comm (List.countP _ cells)]

theorem conversionFailure_eq_none {cell : LifecycleCell ν} (h : conversionFailure currentType targetType cell = none) :
    cell.value.valueType = currentType.type ∧ ∃ source result, cell.value.deserializeSqliteCellValue = some source ∧
      convertColumnCellValue source targetType = .ok result := by
  rw [conversionFailure] at h
  split_ifs at h with htype
  refine ⟨not_not.mp htype, ?_⟩
  split at h
  · cases h
  · next source hsource =>
      split at h
      · next result hresult => exact ⟨source, result, hsource, hresult⟩
      · cases h

def LifecycleStore.mapCells (store : LifecycleStore ν) (f : LifecycleCell ν → LifecycleCell ν) : LifecycleStore ν :=
  { store with cells := store.cells.map f }

def replaceCell (targetType : EditableInputValueType) (now : Int) (cell other : LifecycleCell ν) : LifecycleCell ν :=
  if other.id = cell.id then cell.converted targetType now else other

@[simp] theorem replaceCell_id (now : Int) (cell other : LifecycleCell ν) : (replaceCell targetType now cell other).id = other.id := by
  rw [replaceCell]
  split_ifs with hid
  · rw [converted_id, hid]
  · rfl

theorem updateCell_eq (now : Int) {store : LifecycleStore ν} {cell : LifecycleCell ν} {result : SourceValue ν}
    (hids : (store.cells.map LifecycleCell.id).Nodup) (hmem : cell ∈ store.cells) (hvalue : convertedValue targetType cell = some result) :
    store.updateCell cell.id result.serializeSqliteCellValue now = store.mapCells (replaceCell targetType now cell) := by
  rw [LifecycleStore.updateCell, LifecycleStore.mapCells]
  refine congrArg (fun cells => { store with cells := cells }) (List.map_congr_left fun other hother => ?_)
  rw [replaceCell]
  split_ifs with hid
  · rw [List.inj_on_of_nodup_map hids hother hmem hid, LifecycleCell.converted, hvalue]
  · rfl

theorem convertCells_ok (now : Int) {cells : List (LifecycleCell ν)} {store : LifecycleStore ν}
    (hconvert : ∀ cell ∈ cells, conversionFailure currentType targetType cell = none) (hids : (store.cells.map LifecycleCell.id).Nodup)
    (hcells : ∀ cell ∈ cells, cell ∈ store.cells) (hnodup : (cells.map LifecycleCell.id).Nodup) :
    convertCells targetType now cells store = (.ok (), store.mapCells fun cell =>
      if cell.id ∈ cells.map LifecycleCell.id then cell.converted targetType now else cell) := by
  induction cells generalizing store with
  | nil => simp [convertCells, LifecycleStore.mapCells]
  | cons cell cells ih =>
    obtain ⟨hfirst, hlater⟩ := List.forall_mem_cons.mp hconvert
    obtain ⟨hmem, hmems⟩ := List.forall_mem_cons.mp hcells
    obtain ⟨hkey, hkeys⟩ := List.nodup_cons.mp hnodup
    obtain ⟨-, source, result, hsource, hresult⟩ := conversionFailure_eq_none hfirst
    have hvalue : convertedValue targetType cell = some result := by
      rw [convertedValue, hsource, Option.bind_some, hresult]
      rfl
    have hnextIds : ((store.mapCells (replaceCell targetType now cell)).cells.map LifecycleCell.id).Nodup := by
      rw [LifecycleStore.mapCells, List.map_map]
      exact (List.map_congr_left fun other _ => (replaceCell_id now cell other).symm) ▸ hids
    have hnext : ∀ other ∈ cells, other ∈ (store.mapCells (replaceCell targetType now cell)).cells := by
      intro other hother
      refine List.mem_map.mpr ⟨other, hmems other hother, if_neg fun hid => hkey ?_⟩
      exact hid ▸ List.mem_map_of_mem hother
    have hrest := ih hlater hnextIds hnext hkeys
    rw [convertCells, hsource]
    simp only [hresult]
    rw [updateCell_eq now hids hmem hvalue, hrest]
    refine congrArg (Prod.mk _) ?_
    simp only [LifecycleStore.mapCells, List.map_map]
    refine congrArg (fun later => { store with cells := later }) (List.map_congr_left fun other hother => ?_)
    rw [Function.comp_apply, replaceCell_id, List.map_cons]
    by_cases hid : other.id = cell.id
    · rw [if_neg (hid ▸ hkey), if_pos (hid ▸ List.mem_cons_self), replaceCell, if_pos hid,
        List.inj_on_of_nodup_map hids hother hmem hid]
    · rw [replaceCell, if_neg hid]
      simp only [List.mem_cons, hid, false_or]

end Cells

section Preview

variable {ν : Type} [JsRuntime ν] [ValueRuntime ν] [DigestRuntime] {store : LifecycleStore ν} {scope : ColumnScope}
  {targetType : EditableInputValueType} {preview : ColumnTypeConversionPreview}

omit [JsRuntime ν] [ValueRuntime ν] [DigestRuntime] in
theorem conversionBlockers_failed {writebacks views failedCells : Nat}
    (h : conversionBlockers store scope writebacks views failedCells = []) : failedCells = 0 := by
  have hlast := (List.append_eq_nil_iff.mp h).2
  by_contra hne
  rw [pushBlocker, if_pos (Nat.pos_of_ne_zero hne)] at hlast
  cases hlast

omit [DigestRuntime] in
theorem editable?_eq_some {valueType : CellValueType} {editable : EditableInputValueType} (h : valueType.editable? = some editable) :
    valueType = editable.type := by
  cases valueType <;> cases h <;> rfl

structure PreviewedColumn (store : LifecycleStore ν) (scope : ColumnScope) (targetType : EditableInputValueType)
    (preview : ColumnTypeConversionPreview) (stored : LifecycleColumn) : Prop where
  found : store.columns.find? (LifecycleColumn.inScope scope) = some stored
  kind : stored.kind = .input
  valueType : stored.valueType = preview.column.valueType.type
  changes : preview.column.valueType ≠ targetType
  name : preview.column.name = stored.name
  convertible : preview.blockers = [] → ∀ cell ∈ columnCells store scope, cell.value.valueType ≠ .empty →
    conversionFailure preview.column.valueType targetType cell = none

theorem buildColumnTypeConversionPreview_spec (hvalid : store.Valid)
    (h : buildColumnTypeConversionPreview store scope targetType = .ok preview) :
    ∃ stored, PreviewedColumn store scope targetType preview stored := by
  simp only [buildColumnTypeConversionPreview, requireConvertibleColumn, except_bind_eq_ok, requireSome_eq_ok, requireThat_eq_ok] at h
  obtain ⟨table, -, column, ⟨stored, hfound, valueType, htype, -, hchanges, hcolumn⟩, writebacks, -, views, -, scan, hscan, hpreview⟩ := h
  cases hcolumn
  cases hpreview
  obtain ⟨hkind, heditable⟩ := Option.ite_none_right_eq_some.mp htype
  refine ⟨stored, hfound, hkind, editable?_eq_some heditable, of_decide_eq_true hchanges, rfl, ?_⟩
  intro hblockers cell hcell hne
  rw [scanColumnTypeConversion_eq hvalid] at hscan
  cases hscan
  have hfailed := conversionBlockers_failed hblockers
  rw [scanCells_failed] at hfailed
  have hcount : (columnCells store scope).countP (isFailure valueType targetType) = 0 := (Nat.add_eq_zero_iff.mp hfailed).2
  have hcellOk := List.countP_eq_zero.mp hcount cell hcell
  rw [isFailure, decide_eq_true hne, Bool.true_and] at hcellOk
  simpa using hcellOk

omit [JsRuntime ν] [ValueRuntime ν] [DigestRuntime] in
theorem inScope_unique (hvalid : store.Valid) {column other : LifecycleColumn} (hcolumn : column ∈ store.columns)
    (hscope : column.inScope scope = true) (hother : other ∈ store.columns) (hid : other.id = scope.columnId) : other = column := by
  have hcolumnId : column.id = scope.columnId := by
    simp only [LifecycleColumn.inScope, Bool.and_eq_true, decide_eq_true_eq] at hscope
    exact hscope.1.1.1
  exact List.inj_on_of_nodup_map hvalid.columnIds hother hcolumn (hid.trans hcolumnId.symm)

theorem requireConfirmedPreview_eq_ok {request : ColumnTypeConversionRequest} :
    requireConfirmedPreview store scope request = .ok preview ↔
      previewSqliteColumnTypeConversion store scope request.targetType = .ok preview ∧
      request.confirmationName = preview.column.name ∧ preview.previewDigest = request.previewDigest ∧ preview.blockers = [] := by
  simp only [requireConfirmedPreview, previewSqliteColumnTypeConversion, requireNoBlockers, except_bind_eq_ok, requireThat_eq_ok,
    decide_eq_true_eq, List.isEmpty_iff]
  constructor
  · rintro ⟨⟨⟩, hmanager, built, hbuilt, ⟨⟩, hname, ⟨⟩, hdigest, ⟨⟩, hblockers, heq⟩
    cases heq
    exact ⟨⟨(), hmanager, hbuilt⟩, hname, hdigest, hblockers⟩
  · rintro ⟨⟨⟨⟩, hmanager, hbuilt⟩, hname, hdigest, hblockers⟩
    exact ⟨(), hmanager, preview, hbuilt, (), hname, (), hdigest, (), hblockers, rfl⟩

end Preview

section Conversion

variable {ν : Type} [ValueRuntime ν]

/-- A cell of the column after its conversion: its value is converted, and an empty cell stays as it is. -/
structure CellConverted (targetType : EditableInputValueType) (now : Int) (before after : LifecycleCell ν) : Prop where
  value : ∃ source result, before.value.deserializeSqliteCellValue = some source ∧
    convertColumnCellValue source targetType = .ok result ∧ after.value.deserializeSqliteCellValue = some result
  empty : before.value.valueType = .empty → after = before
  written : before.value.valueType ≠ .empty →
    after = { before with value := after.value, status := .idle, updatedAt := now, version := before.version + 1 }

/-- The store after a conversion: the cells of the column are converted, whatever their rows, the column has its new type,
the event is there, and nothing else has changed. -/
structure ConvertedTo (scope : ColumnScope) (targetType : EditableInputValueType) (now : Int) (before after : LifecycleStore ν) : Prop where
  cells : List.Forall₂ (fun cell cell' =>
    (inColumn scope cell = true → CellConverted targetType now cell cell') ∧ (inColumn scope cell = false → cell' = cell))
    before.cells after.cells
  columns : List.Forall₂ (fun column column' =>
    (column.id = scope.columnId → column' = { column with valueType := targetType.type, updatedAt := now }) ∧
      (column.id ≠ scope.columnId → column' = column)) before.columns after.columns
  others : ∃ event, after = { before with
    cells := after.cells, columns := after.columns, schemaLifecycleEvents := before.schemaLifecycleEvents ++ [event] }

variable {store : LifecycleStore ν} {scope : ColumnScope} {currentType targetType : EditableInputValueType}

theorem cellConverted_written {cell : LifecycleCell ν} (hchanges : currentType ≠ targetType)
    (hconvert : conversionFailure currentType targetType cell = none) (now : Int) :
    CellConverted targetType now cell (cell.converted targetType now) := by
  obtain ⟨htype, source, result, hsource, hresult⟩ := conversionFailure_eq_none hconvert
  have hsourceType : source.type = currentType.type := (deserializeSqliteCellValue_type hsource).trans htype
  have hkept : result.Kept := by
    refine convertColumnCellValue_kept ?_ hresult
    rw [hsourceType, not_or]
    exact ⟨currentType.type_ne_empty, fun heq => hchanges (EditableInputValueType.type_injective heq)⟩
  have hvalue : convertedValue targetType cell = some result := by
    rw [convertedValue, hsource, Option.bind_some, hresult]
    rfl
  rw [LifecycleCell.converted, hvalue]
  exact ⟨⟨source, result, hsource, hresult, hkept⟩, fun hempty => absurd (htype.symm.trans hempty) currentType.type_ne_empty,
    fun _ => rfl⟩

theorem cellConverted_empty {cell : LifecycleCell ν} (h : cell.value.valueType = .empty) (now : Int) :
    CellConverted targetType now cell cell := by
  have hvalue : cell.value.deserializeSqliteCellValue = some .empty := by
    rw [SerializedCellValue.deserializeSqliteCellValue, h]
  exact ⟨⟨.empty, .empty, hvalue, if_pos (.inl rfl), hvalue⟩, fun _ => rfl, fun hne => absurd h hne⟩

theorem forall₂_map_self {α : Type} {R : α → α → Prop} {f : α → α} {xs : List α} (h : ∀ x ∈ xs, R x (f x)) :
    List.Forall₂ R xs (xs.map f) := by
  rw [List.forall₂_map_right_iff, List.forall₂_same]
  exact h

omit [ValueRuntime ν] in
theorem mem_storedCells {cell : LifecycleCell ν} :
    cell ∈ storedCells store scope ↔ cell ∈ store.cells ∧ inColumn scope cell = true ∧ cell.value.valueType ≠ .empty := by
  rw [storedCells, mem_orderedBy, List.mem_filter, Bool.and_eq_true, decide_eq_true_eq]

variable (scope) in
omit [ValueRuntime ν] in
theorem mem_storedCells_ids (hvalid : store.Valid) {cell : LifecycleCell ν} (hcell : cell ∈ store.cells) :
    cell.id ∈ (storedCells store scope).map LifecycleCell.id ↔ inColumn scope cell = true ∧ cell.value.valueType ≠ .empty := by
  constructor
  · intro hid
    obtain ⟨other, hother, hsame⟩ := List.mem_map.mp hid
    obtain ⟨hmem, hscope, hne⟩ := mem_storedCells.mp hother
    rw [List.inj_on_of_nodup_map hvalid.cellIds hmem hcell hsame] at hscope hne
    exact ⟨hscope, hne⟩
  · exact fun hstored => List.mem_map_of_mem (mem_storedCells.mpr ⟨hcell, hstored⟩)

omit [ValueRuntime ν] in
theorem storedCells_nodup (hvalid : store.Valid) : ((storedCells store scope).map LifecycleCell.id).Nodup := by
  have hperm := (orderedBy_perm LifecycleCell.id
    (store.cells.filter fun cell => inColumn scope cell && cell.value.valueType ≠ .empty)).map LifecycleCell.id
  exact hperm.nodup_iff.mpr (hvalid.cellIds.sublist (List.filter_sublist.map _))

variable {preview : ColumnTypeConversionPreview} {stored : LifecycleColumn}

theorem applyConfirmedConversion_ok (hvalid : store.Valid) (hstored : PreviewedColumn store scope targetType preview stored)
    (hblockers : preview.blockers = []) (now : Int) :
    ∃ result, (applyConfirmedConversion scope preview targetType now store).1 = .ok result ∧
      ConvertedTo scope targetType now store (applyConfirmedConversion scope preview targetType now store).2 := by
  have hmem : stored ∈ store.columns := List.mem_of_find?_eq_some hstored.found
  have hscope : stored.inScope scope = true := List.find?_some hstored.found
  have hconverts : ∀ column ∈ store.columns, column.converts scope preview.column.valueType = true ↔ column.id = scope.columnId := by
    intro column hcolumn
    constructor
    · intro hconverts
      simp only [LifecycleColumn.converts, LifecycleColumn.inScope, Bool.and_eq_true, decide_eq_true_eq] at hconverts
      exact hconverts.1.1.1.1.1
    · intro hid
      rw [inScope_unique hvalid hmem hscope hcolumn hid]
      simp [LifecycleColumn.converts, hscope, hstored.kind, hstored.valueType]
  have hconvert : ∀ cell ∈ storedCells store scope, conversionFailure preview.column.valueType targetType cell = none := by
    intro cell hcell
    obtain ⟨hcellMem, hcellScope, hne⟩ := mem_storedCells.mp hcell
    exact hstored.convertible hblockers cell (mem_columnCells.mpr ⟨hcellMem, hcellScope⟩) hne
  have hcells := convertCells_ok now hconvert hvalid.cellIds (fun cell hcell => (mem_storedCells.mp hcell).1) (storedCells_nodup hvalid)
  obtain ⟨updated, hupdated⟩ : ∃ updated, store.columns.find? (LifecycleColumn.converts scope preview.column.valueType) = some updated := by
    have hid : stored.id = scope.columnId := by
      simp only [LifecycleColumn.inScope, Bool.and_eq_true, decide_eq_true_eq] at hscope
      exact hscope.1.1.1
    exact Option.isSome_iff_exists.mp (List.find?_isSome.mpr ⟨stored, hmem, (hconverts stored hmem).mpr hid⟩)
  rw [applyConfirmedConversion, hcells]
  simp only [updateColumnType, LifecycleStore.mapCells, hupdated]
  refine ⟨_, rfl, ⟨forall₂_map_self fun cell hcell => ?_, forall₂_map_self fun column hcolumn => ?_, ⟨_, rfl⟩⟩⟩
  · have hids := mem_storedCells_ids scope hvalid hcell
    constructor
    · intro hcellScope
      by_cases hempty : cell.value.valueType = .empty
      · rw [if_neg fun hid => (hids.mp hid).2 hempty]
        exact cellConverted_empty hempty now
      · rw [if_pos (hids.mpr ⟨hcellScope, hempty⟩)]
        exact cellConverted_written hstored.changes
          (hstored.convertible hblockers cell (mem_columnCells.mpr ⟨hcell, hcellScope⟩) hempty) now
    · intro hcellScope
      rw [if_neg fun hid => Bool.false_ne_true (hcellScope.symm.trans (hids.mp hid).1)]
  · constructor
    · exact fun hid => if_pos ((hconverts column hcolumn).mpr hid)
    · exact fun hid => if_neg fun hconverted => hid ((hconverts column hcolumn).mp hconverted)

end Conversion

/-- `digest('hex')` of SHA-256 has 64 hexadecimal digits. -/
class HexDigests [DigestRuntime] : Prop where
  hex : ∀ text, isPurgeDigest (DigestRuntime.sha256 text) = true

section Law

variable {ν : Type} [JsRuntime ν] [ValueRuntime ν] [DigestRuntime] {store : LifecycleStore ν} {scope : ColumnScope}
  {request : ColumnTypeConversionRequest} {now : Int}

/-- A conversion goes through just when the preview of the store has no blocker and the digest which
was confirmed; then every cell of the column is converted and nothing else has changed; where it fails, nothing has changed. -/
structure ConversionLaw (store : LifecycleStore ν) (scope : ColumnScope) (request : ColumnTypeConversionRequest) (now : Int) : Prop where
  succeeds : (∃ result, (convertSqliteWorkspaceColumnType store scope request now).1 = .ok result) ↔
    ∃ preview, previewSqliteColumnTypeConversion store scope request.targetType = .ok preview ∧ preview.blockers = [] ∧
      preview.previewDigest = request.previewDigest
  converted : ∀ result, (convertSqliteWorkspaceColumnType store scope request now).1 = .ok result →
    ConvertedTo scope request.targetType now store (convertSqliteWorkspaceColumnType store scope request now).2
  unchanged : ∀ error, (convertSqliteWorkspaceColumnType store scope request now).1 = .error error →
    (convertSqliteWorkspaceColumnType store scope request now).2 = store

theorem previewDigest_hex [HexDigests] {targetType : EditableInputValueType} {preview : ColumnTypeConversionPreview}
    (h : previewSqliteColumnTypeConversion store scope targetType = .ok preview) : isPurgeDigest preview.previewDigest = true := by
  simp only [previewSqliteColumnTypeConversion, buildColumnTypeConversionPreview, except_bind_eq_ok] at h
  obtain ⟨-, -, table, -, column, -, writebacks, -, views, -, scan, -, hpreview⟩ := h
  cases hpreview
  exact HexDigests.hex _

theorem preview_name (hvalid : store.Valid) {column : LifecycleColumn} (hcolumn : column ∈ store.columns)
    (hscope : column.inScope scope = true) {targetType : EditableInputValueType} {preview : ColumnTypeConversionPreview}
    (h : previewSqliteColumnTypeConversion store scope targetType = .ok preview) : preview.column.name = column.name := by
  obtain ⟨⟨⟩, -, hbuilt⟩ := except_bind_eq_ok.mp h
  obtain ⟨stored, hstored⟩ := buildColumnTypeConversionPreview_spec hvalid hbuilt
  have hfound := List.find?_some hstored.found
  have hid : stored.id = scope.columnId := by
    simp only [LifecycleColumn.inScope, Bool.and_eq_true, decide_eq_true_eq] at hfound
    exact hfound.1.1.1
  rw [hstored.name, inScope_unique hvalid hcolumn hscope (List.mem_of_find?_eq_some hstored.found) hid]

theorem conversionLaw_failed (error : StoreError) (hfails : convertSqliteWorkspaceColumnType store scope request now = (.error error, store))
    (hnone : ¬ ∃ preview, previewSqliteColumnTypeConversion store scope request.targetType = .ok preview ∧ preview.blockers = [] ∧
      preview.previewDigest = request.previewDigest) : ConversionLaw store scope request now := by
  refine ⟨⟨?_, fun hpreview => absurd hpreview hnone⟩, ?_, ?_⟩
  · rintro ⟨result, hresult⟩
    rw [hfails] at hresult
    cases hresult
  · intro result hresult
    rw [hfails] at hresult
    cases hresult
  · intro _ _
    rw [hfails]

theorem conversionLaw_of_name [HexDigests] (hvalid : store.Valid) {column : LifecycleColumn} (hcolumn : column ∈ store.columns)
    (hscope : column.inScope scope = true) (hconfirmed : request.confirmationName = column.name)
    (hname : parseDisplayName ν column.name = some column.name) : ConversionLaw store scope request now := by
  by_cases hhex : isPurgeDigest request.previewDigest = true
  · have hread : readConversionRequest ν request = some request := by
      rw [readConversionRequest, hconfirmed, hname]
      simp only [hhex, ↓reduceIte, ← hconfirmed]
    cases hchecked : requireConfirmedPreview store scope request with
    | error error =>
      refine conversionLaw_failed error ?_ ?_
      · rw [convertSqliteWorkspaceColumnType, hread]
        simp only [withWriteTransaction, convertInTransaction, hchecked]
      · rintro ⟨preview, hpreview, hblockers, hdigest⟩
        have hconfirm := hconfirmed.trans (preview_name hvalid hcolumn hscope hpreview).symm
        rw [requireConfirmedPreview_eq_ok.mpr ⟨hpreview, hconfirm, hdigest, hblockers⟩] at hchecked
        cases hchecked
    | ok preview =>
      obtain ⟨hpreview, -, hdigest, hblockers⟩ := requireConfirmedPreview_eq_ok.mp hchecked
      obtain ⟨⟨⟩, -, hbuilt⟩ := except_bind_eq_ok.mp hpreview
      obtain ⟨stored, hstored⟩ := buildColumnTypeConversionPreview_spec hvalid hbuilt
      obtain ⟨result, hresult, hconverted⟩ := applyConfirmedConversion_ok hvalid hstored hblockers now
      have houtcome : convertSqliteWorkspaceColumnType store scope request now =
          (.ok result, (applyConfirmedConversion scope preview request.targetType now store).2) := by
        rw [convertSqliteWorkspaceColumnType, hread]
        simp only [withWriteTransaction, convertInTransaction, hchecked]
        rw [← Prod.eta (applyConfirmedConversion scope preview request.targetType now store), hresult]
      refine ⟨⟨fun _ => ⟨preview, hpreview, hblockers, hdigest⟩, fun _ => ⟨result, by rw [houtcome]⟩⟩, fun _ _ => ?_, fun error herror => ?_⟩
      · rw [houtcome]
        exact hconverted
      · rw [houtcome] at herror
        cases herror
  · refine conversionLaw_failed .request ?_ ?_
    · have hread : readConversionRequest ν request = none := by
        rw [readConversionRequest, hconfirmed, hname]
        simp only [hhex]
        rfl
      rw [convertSqliteWorkspaceColumnType, hread]
    · rintro ⟨preview, hpreview, -, hdigest⟩
      exact hhex (hdigest ▸ previewDigest_hex hpreview)

theorem convert_ok_name {result : ColumnTypeConversionResult}
    (h : (convertSqliteWorkspaceColumnType store scope request now).1 = .ok result) :
    ∃ preview, previewSqliteColumnTypeConversion store scope request.targetType = .ok preview ∧
      parseDisplayName ν request.confirmationName = some preview.column.name := by
  rw [convertSqliteWorkspaceColumnType, readConversionRequest] at h
  cases hname : parseDisplayName ν request.confirmationName with
  | none =>
    rw [hname] at h
    cases h
  | some name =>
    simp only [hname] at h
    split_ifs at h with hhex
    · simp only [withWriteTransaction, convertInTransaction] at h
      cases hchecked : requireConfirmedPreview store scope { request with confirmationName := name } with
      | error error =>
        rw [hchecked] at h
        cases h
      | ok preview =>
        obtain ⟨hpreview, hsame, -, -⟩ := requireConfirmedPreview_eq_ok.mp hchecked
        exact ⟨preview, hpreview, congrArg some hsame⟩

def namedColumnScope : ColumnScope where
  userId := "u"
  workspaceId := "w"
  tableId := "t"
  columnId := "c"

def plainNamedColumn (name : String) : LifecycleColumn where
  id := "c"
  workspaceId := "w"
  tableId := "t"
  name := name
  kind := .input
  valueType := .text
  archivedAt := none
  updatedAt := 0

def namedColumnStore (ν : Type) (name : String) : LifecycleStore ν where
  workspaceMembers := [{ workspaceId := "w", userId := "u", role := .owner }]
  dataTables := [{ id := "t", workspaceId := "w", name := "Table", archivedAt := none }]
  columns := [plainNamedColumn name]
  columnDependencies := []
  rows := []
  cells := []
  importJobs := []
  sourceRuns := []
  ingestionBatches := []
  sourceDefinitions := []
  ingestionEndpoints := []
  writebackDestinations := []
  savedGridViews := []
  schemaLifecycleEvents := []

omit [JsRuntime ν] [ValueRuntime ν] [DigestRuntime] in
theorem namedColumnStore_valid (name : String) : (namedColumnStore ν name).Valid where
  cellIds := List.nodup_nil
  rowIds := List.nodup_nil
  columnIds := List.nodup_singleton _
  cellRows := fun _ h => nomatch h

theorem namedColumnStore_preview (name : String) : ∃ preview,
    previewSqliteColumnTypeConversion (namedColumnStore ν name) namedColumnScope .number = .ok preview ∧ preview.blockers = [] ∧
      preview.column.name = name :=
  ⟨_, rfl, rfl, rfl⟩

end Law

section Sample

def filledDigest : String := "bfa6a792cb8a284c55b86262938718110c5040b572efaad594d37e6a43521a6a"

def unfilledDigest : String := "ce10996030553d22f29ba2905585f0919d2d6435dbf051153d543139c323575b"

local instance sampleDigests : DigestRuntime where
  sha256 text := if text = "column-conversion-v1\x00w\x00t\x00c\x00text\x00number\x00x\x001\x00text\x00[]" then filledDigest
    else unfilledDigest
  toISOString := TimeValue.write

local instance : HexDigests where
  hex text := by
    have hboth : isPurgeDigest filledDigest = true ∧ isPurgeDigest unfilledDigest = true := by decide
    change isPurgeDigest (if _ then filledDigest else unfilledDigest) = true
    split_ifs
    · exact hboth.1
    · exact hboth.2

def amountStore : LifecycleStore CalendarInteger :=
  { namedColumnStore CalendarInteger "Amount" with
    rows := [{ id := "r", workspaceId := "w", tableId := "t", position := "a", archivedAt := some 0 }]
    cells :=
      [{ id := "x", workspaceId := "w", tableId := "t", rowId := "r", columnId := "c",
         value := { valueType := .text, valueText := some (.ofString "7") }, status := .idle, version := 1, updatedAt := 0 }] }

theorem amountStore_valid : amountStore.Valid where
  cellIds := List.nodup_singleton _
  rowIds := List.nodup_singleton _
  columnIds := List.nodup_singleton _
  cellRows := by
    intro cell hcell
    obtain rfl := List.mem_singleton.mp hcell
    exact ⟨_, List.mem_cons_self, rfl, rfl, rfl⟩

def amountRequest : ColumnTypeConversionRequest where
  confirmationName := "Amount"
  previewDigest := filledDigest
  targetType := .number

end Sample

end ByokGrid
