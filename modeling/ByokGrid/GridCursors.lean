import ByokGrid.GridPages

/-! The cursors of a grid as texts: which of them are read back. -/

namespace ByokGrid

section Cursor

theorem textBytes_length (s : String) : (textBytes s).length = s.utf8ByteSize :=
  rfl

theorem bytesText_textBytes (s : String) : bytesText (textBytes s) = s := by
  have hbytes : (⟨(textBytes s).toArray⟩ : ByteArray) = s.toByteArray := by
    rw [textBytes, Array.toArray_toList]
  rw [bytesText, hbytes, String.fromUTF8?, dif_pos s.isValidUTF8]
  rfl

def MAXIMUM_CURSOR_BYTES : Nat := 768

theorem encodeBase64Url_length (bytes : List UInt8) :
    utf16Length (encodeBase64Url bytes) = (4 * bytes.length + 2) / 3 := by
  have hbasic : ((encodeDigits bytes).map base64Letter).countP (fun c => c.toNat > 0xFFFF) = 0 := by
    rw [List.countP_eq_zero]
    intro c hc
    obtain ⟨digit, _, rfl⟩ := List.mem_map.mp hc
    simpa using base64Letter_basic digit
  rw [utf16Length, encodeBase64Url, String.toList_ofList, hbasic, List.length_map, encodeDigits_length, Nat.add_zero]

/-- What `decodeGridCursor` asks of the parts of a cursor. -/
def GridCursor.accepted : GridCursor → Bool
  | .position id place searchQuery =>
    isUuid id && utf16Length place ≤ 512 && searchQuery.all fun query => utf16Length query ≤ 120
  | .sorted sort _ rowId searchQuery value viewId =>
    isUuid sort.columnId && isUuid rowId && isUuid viewId && (searchQuery.all fun query => utf16Length query ≤ 120) &&
      match value with
      | .text value => utf16Length value ≤ 4096
      | _ => true

variable {ν : Type}

theorem nullableText_plain (value : Option String) : (nullableText value : Json ν).plain = true := by
  cases value <;> rfl

theorem GridCursor.toJson_plain (cursor : GridCursor) : (cursor.toJson : Json ν).plain = true := by
  cases cursor with
  | position id place searchQuery =>
    have hsearch := nullableText_plain (ν := ν) searchQuery
    simp only [Json.plain] at hsearch ⊢
    simp [GridCursor.toJson, Json.allNumbers, Json.allFields, hsearch]
  | sorted sort empty rowId searchQuery value viewId =>
    have hvalue : (value.toJson : Json ν).plain = true := by cases value <;> rfl
    have hsearch := nullableText_plain (ν := ν) searchQuery
    simp only [Json.plain] at hsearch hvalue ⊢
    simp [GridCursor.toJson, Json.allNumbers, Json.allFields, hsearch, hvalue]

theorem readCursorSearch_text (searchQuery : Option String) :
    readCursorSearch (some (nullableText searchQuery : Json ν)) =
      if searchQuery.all (fun query => utf16Length query ≤ 120) then some searchQuery else none := by
  cases searchQuery with
  | none => rfl
  | some query => simp [nullableText, readCursorSearch]

theorem readCursorValue_toJson (value : CursorValue) : readCursorValue (some (value.toJson : Json ν)) =
    if (match value with
      | .text value => decide (utf16Length value ≤ 4096)
      | _ => true) then some value else none := by
  cases value with
  | null => rfl
  | boolean value => rfl
  | text value => simp [CursorValue.toJson, readCursorValue]

theorem readDirection_name (direction : SortDirection) :
    readDirection (some (.string direction.name : Json ν)) = some direction := by
  cases direction <;> rfl

theorem readPositionCursor_toJson (id place : String) (searchQuery query : Option String) :
    readPositionCursor (GridCursor.toJson (.position id place searchQuery) : Json ν) query =
      if isUuid id && utf16Length place ≤ 512 then some (.position id place query) else none := by
  have hid : (GridCursor.toJson (.position id place searchQuery) : Json ν).field? "id" = some (.string id) := rfl
  have hplace : (GridCursor.toJson (.position id place searchQuery) : Json ν).field? "position" =
    some (.string place) := rfl
  rw [readPositionCursor, hid, hplace]
  cases hvalid : isUuid id with
  | false => simp [readUuid, hvalid]
  | true =>
    by_cases hlength : utf16Length place ≤ 512
    · simp [readUuid, readPosition, hvalid, hlength]
    · simp [readUuid, readPosition, hvalid, hlength]

theorem readSortedCursor_toJson (sort : GridViewSort) (empty : Bool) (rowId : String) (searchQuery query : Option String)
    (value : CursorValue) (viewId : String) :
    readSortedCursor (GridCursor.toJson (.sorted sort empty rowId searchQuery value viewId) : Json ν) query =
      if isUuid sort.columnId && isUuid rowId && isUuid viewId && (match value with
        | .text value => decide (utf16Length value ≤ 4096)
        | _ => true) then some (.sorted sort empty rowId query value viewId) else none := by
  have hcolumn : (GridCursor.toJson (.sorted sort empty rowId searchQuery value viewId) : Json ν).field? "columnId" =
    some (.string sort.columnId) := rfl
  have hrow : (GridCursor.toJson (.sorted sort empty rowId searchQuery value viewId) : Json ν).field? "rowId" =
    some (.string rowId) := rfl
  have hview : (GridCursor.toJson (.sorted sort empty rowId searchQuery value viewId) : Json ν).field? "viewId" =
    some (.string viewId) := rfl
  have hdirection : (GridCursor.toJson (.sorted sort empty rowId searchQuery value viewId) : Json ν).field? "direction" =
    some (.string sort.direction.name) := rfl
  have hempty : (GridCursor.toJson (.sorted sort empty rowId searchQuery value viewId) : Json ν).field? "empty" =
    some (.boolean empty) := rfl
  have hvalue : (GridCursor.toJson (.sorted sort empty rowId searchQuery value viewId) : Json ν).field? "value" =
    some value.toJson := rfl
  rw [readSortedCursor, hcolumn, hrow, hview, hdirection, hempty, hvalue, readDirection_name, readCursorValue_toJson]
  cases hc : isUuid sort.columnId with
  | false => simp [readUuid, hc]
  | true =>
    cases hr : isUuid rowId with
    | false => simp [readUuid, hc, hr]
    | true =>
      cases hv : isUuid viewId with
      | false => simp [readUuid, hc, hr, hv]
      | true =>
        simp only [readUuid, readEmpty, hc, hr, hv, if_true, Bool.and_self, Bool.true_and, Option.bind_eq_bind,
          Option.bind_some, pure]
        cases value with
        | null => rfl
        | boolean value => rfl
        | text value =>
          simp only [decide_eq_true_eq]
          split <;> rfl

theorem readGridCursor_toJson (cursor : GridCursor) :
    readGridCursor (cursor.toJson : Json ν) = if cursor.accepted then some cursor else none := by
  have hobject : (cursor.toJson : Json ν).isObject = true := by cases cursor <;> rfl
  have hsearch : (cursor.toJson : Json ν).field? "searchQuery" = some (nullableText cursor.searchQuery) := by
    cases cursor <;> rfl
  rw [readGridCursor, hobject, hsearch, readCursorSearch_text]
  cases cursor with
  | position id place searchQuery =>
    have hkind : (GridCursor.toJson (.position id place searchQuery) : Json ν).field? "kind" =
      some (.string "position") := rfl
    rw [hkind]
    cases hquery : searchQuery.all fun query => decide (utf16Length query ≤ 120) with
    | false => simp [GridCursor.searchQuery, GridCursor.accepted, hquery]
    | true => simp [GridCursor.searchQuery, GridCursor.accepted, hquery, readPositionCursor_toJson]
  | sorted sort empty rowId searchQuery value viewId =>
    have hkind : (GridCursor.toJson (.sorted sort empty rowId searchQuery value viewId) : Json ν).field? "kind" =
      some (.string "sorted") := rfl
    rw [hkind]
    cases hquery : searchQuery.all fun query => decide (utf16Length query ≤ 120) with
    | false => simp [GridCursor.searchQuery, GridCursor.accepted, hquery]
    | true => simp [GridCursor.searchQuery, GridCursor.accepted, hquery, readSortedCursor_toJson]

variable (ν) [JsRuntime ν]

theorem jsonEscape_ne_nil (c : Char) : 0 < (jsonEscape c).length := by
  unfold jsonEscape
  split
  case h_8 => split <;> exact Nat.succ_pos _
  all_goals exact Nat.succ_pos _

theorem length_le_jsonQuote (value : String) : value.length ≤ (jsonQuote value).utf8ByteSize := by
  have hescape : value.toList.length ≤ (value.toList.flatMap jsonEscape).length := by
    induction value.toList with
    | nil => exact Nat.le_refl 0
    | cons c text ih =>
      have hchar := jsonEscape_ne_nil c
      rw [List.flatMap_cons, List.length_append, List.length_cons]
      omega
  have hall := length_le_utf8ByteSize ('"' :: value.toList.flatMap jsonEscape ++ ['"'])
  rw [List.length_append, List.length_cons] at hall
  rw [String.length_toList] at hescape
  rw [jsonQuote]
  omega

theorem GridCursor.length_le_text (sort : GridViewSort) (empty : Bool) (rowId : String)
    (searchQuery : Option String) (value viewId : String) :
    value.length ≤ ((GridCursor.sorted sort empty rowId searchQuery (.text value) viewId).text ν).utf8ByteSize := by
  have hquote := length_le_jsonQuote value
  simp only [GridCursor.text, GridCursor.toJson, Json.stringify, Json.stringifyFields, CursorValue.toJson,
    String.intercalate_cons_cons, String.utf8ByteSize_append]
  omega
theorem GridCursor.encode_ne_empty (cursor : GridCursor) : cursor.encode ν ≠ "" := by
  intro hempty
  have hlength := encodeBase64Url_length (textBytes (cursor.text ν))
  change utf16Length (cursor.encode ν) = _ at hlength
  have htext : cursor.text ν ≠ "" := by
    intro htext
    have hchars := congrArg String.toList htext
    cases cursor <;> simp [GridCursor.text, GridCursor.toJson, Json.stringify] at hchars
  have hpos : 0 < (textBytes (cursor.text ν)).length := by
    rw [textBytes_length]
    exact Nat.pos_of_ne_zero fun hzero => htext (String.utf8ByteSize_eq_zero_iff.mp hzero)
  have hzero : utf16Length (cursor.encode ν) = 0 := by
    rw [hempty]
    rfl
  omega

def GridCursor.Fits (cursor : GridCursor) : Prop :=
  cursor.accepted = true ∧ (cursor.text ν).utf8ByteSize ≤ MAXIMUM_CURSOR_BYTES

variable [ConversionRuntime ν]

theorem decodeGridCursor_encode (cursor decoded : GridCursor) :
    decodeGridCursor ν (cursor.encode ν) = .ok decoded ↔ cursor.Fits ν ∧ decoded = cursor := by
  have hlength : utf16Length (cursor.encode ν) > MAXIMUM_CURSOR_CHARACTERS ↔
      ¬ (cursor.text ν).utf8ByteSize ≤ MAXIMUM_CURSOR_BYTES := by
    rw [GridCursor.encode, encodeBase64Url_length, textBytes_length, MAXIMUM_CURSOR_CHARACTERS, MAXIMUM_CURSOR_BYTES]
    omega
  have hparse : parseJson ConversionRuntime.parseNumber (bytesText (decodeBase64Url (cursor.encode ν))) =
      some (cursor.toJson : Json ν) := by
    rw [GridCursor.encode, decodeBase64Url_encode, bytesText_textBytes, GridCursor.text,
      parseJson_stringify _ cursor.toJson_plain]
  rw [decodeGridCursor, hparse]
  by_cases hfits : (cursor.text ν).utf8ByteSize ≤ MAXIMUM_CURSOR_BYTES
  · rw [if_neg (fun hlong => hlength.mp hlong hfits)]
    simp only [requireSome_eq_ok, Option.bind_some, readGridCursor_toJson, GridCursor.Fits, hfits, and_true]
    cases haccepted : cursor.accepted with
    | false => simp
    | true => simp [eq_comm]
  · rw [if_pos (hlength.mpr hfits)]
    simp [GridCursor.Fits, hfits]

end Cursor

end ByokGrid
