import ByokGrid.Calendar
import ByokGrid.ColumnConversion
import ByokGrid.FormulaTexts

/-! The values of input columns, unit by unit: their schema, the drafts in which they
are edited, and their conversion to another type. -/

namespace ByokGrid

inductive EditableInputValueType where
  | text
  | number
  | boolean
  | timestamp
  | json
  deriving Repr, DecidableEq

def EditableInputValueType.type : EditableInputValueType → CellValueType
  | .text => .text
  | .number => .number
  | .boolean => .boolean
  | .timestamp => .timestamp
  | .json => .json

namespace SourceValue

variable {ν : Type}

def type : SourceValue ν → CellValueType
  | .empty => .empty
  | .text _ => .text
  | .number _ => .number
  | .boolean _ => .boolean
  | .timestamp _ => .timestamp
  | .json _ => .json

end SourceValue

namespace JsString

def trim (s : JsString) : JsString :=
  .ofChars (trimChars s.chars)

/-- `utf8ByteLength`: half of a surrogate pair takes three bytes, as the replacement character does. -/
def byteLength (s : JsString) : Nat :=
  utf8ByteLength s.text

end JsString

/-- `Number` and `Date.parse`. The text of a number is read back as the number; the date texts of the
calendar are read as their instants, and an instant of these years is written as such a text. -/
class ValueRuntime (ν : Type) extends SourceRuntime ν where
  toNumber : JsString → ν
  toNumber_numberToString : ∀ n, isFinite n = true → toNumber (.ofString (numberToString n)) = if isZero n then zero else n
  numberToString_zero : ∀ n, isZero n = true → numberToString n = numberToString zero
  numberToString_short : ∀ n, isFinite n = true → (numberToString n).toList.length ≤ 64
  toISOString_short : ∀ t, (toISOString t).toList.length ≤ 64
  parseDate_iso : ∀ (text : JsString) (milliseconds : Int), readIsoDate text.chars = some milliseconds →
    ∃ t, parseDate text = some t ∧ t.milliseconds = milliseconds
  toISOString_iso : ∀ (text : JsString) (t : TimeValue), readIsoDate text.chars = some t.milliseconds →
    readIsoDate (JsString.ofString (toISOString t)).chars = some t.milliseconds

section Schemas

variable {ν : Type} [SourceRuntime ν]

/-- `cellValueSchema`. -/
def readCellValueSchema : SourceValue ν → Option (SourceValue ν)
  | .empty => some .empty
  | .text value => some (.text value)
  | .number value => if SourceRuntime.isFinite value then some (.number value) else none
  | .boolean value => some (.boolean value)
  | .timestamp value => if (readIsoDate value.chars).isSome then some (.timestamp value) else none
  | .json value => (readJsonSchema value).map .json

/-- `String(value.value)`, or the text of a JSON value. -/
def valueText : SourceValue ν → JsString
  | .empty => .ofString ""
  | .text value => value
  | .number value => .ofString (SourceRuntime.numberToString value)
  | .boolean value => .ofString (toString value)
  | .timestamp value => value
  | .json value => stringifyTree value

/-- `editableCellByteLength`. -/
def SourceValue.byteLength (value : SourceValue ν) : Nat :=
  (valueText value).byteLength

/-- `editableCellValueSchema`. -/
def readEditableCellValue (value : SourceValue ν) : Option (SourceValue ν) :=
  (readCellValueSchema value).filter fun parsed => parsed.byteLength ≤ MAXIMUM_EDITABLE_CELL_BYTES

end Schemas

/-- A `TypeError`, or the error of the schema. -/
inductive EditableDraftError where
  | typeError (message : String)
  | schema
  deriving Repr, DecidableEq

section Drafts

variable {ν : Type}

def formatEditableCellDraft [SourceRuntime ν] (value : SourceValue ν) : JsString :=
  valueText value

variable [ValueRuntime ν]

def draftCandidate (valueType : EditableInputValueType) (draft : JsString) : Except EditableDraftError (SourceValue ν) :=
  match valueType with
  | .text => .ok (.text draft)
  | .number =>
    let value : ν := ValueRuntime.toNumber draft
    if SourceRuntime.isFinite value then .ok (.number value) else .error (.typeError "Enter a finite number.")
  | .boolean =>
    if draft = .ofString "true" then .ok (.boolean true)
    else if draft = .ofString "false" then .ok (.boolean false)
    else .error (.typeError "Choose true, false, or empty.")
  | .timestamp =>
    match SourceRuntime.parseDate ν draft with
    | some date => .ok (.timestamp (.ofString (SourceRuntime.toISOString ν date)))
    | none => .error (.typeError "Enter a valid date and time.")
  | .json =>
    match (parseJsonTree draft).bind readJsonSchema with
    | some value => .ok (.json value)
    | none => .error (.typeError "Enter valid JSON.")

def parseEditableCellDraft (valueType : EditableInputValueType) (draft : JsString) :
    Except EditableDraftError (SourceValue ν) :=
  if MAXIMUM_EDITABLE_CELL_BYTES < draft.byteLength then
    .error (.typeError "Cell values cannot exceed 262144 bytes.")
  else if draft = .ofString "" ∨ valueType ≠ .text ∧ draft.trim = .ofString "" then .ok .empty
  else do
    let candidate ← draftCandidate valueType draft
    match readEditableCellValue candidate with
    | some value => .ok value
    | none => .error .schema

end Drafts

section Conversion

variable {ν : Type} [ValueRuntime ν]

/-- `/(?:z|[+-]\d{2}:\d{2})$/iu`. -/
def hasUtcOffset (value : JsString) : Bool :=
  FormulaParser.hasOffset value.chars

def validateConvertedValue (value : SourceValue ν) : Except ColumnCellConversionError (SourceValue ν) :=
  match readEditableCellValue value with
  | some parsed => .ok parsed
  | none => .error ⟨.valueTooLarge, "The converted value exceeds the editable cell limit."⟩

def convertTextValue (value : JsString) : EditableInputValueType → Except ColumnCellConversionError (SourceValue ν)
  | .number =>
    if value.trim = .ofString "" then .error ⟨.invalidNumber, "Blank text is not a number."⟩
    else
      let number : ν := ValueRuntime.toNumber value
      if SourceRuntime.isFinite number then .ok (.number number)
      else .error ⟨.invalidNumber, "The text is not a finite number."⟩
  | .boolean =>
    if value = .ofString "true" then .ok (.boolean true)
    else if value = .ofString "false" then .ok (.boolean false)
    else .error ⟨.invalidBoolean, "The text must be exactly true or false."⟩
  | .timestamp =>
    if hasUtcOffset value.trim then
      match SourceRuntime.parseDate ν value.trim with
      | some date => .ok (.timestamp (.ofString (SourceRuntime.toISOString ν date)))
      | none => .error ⟨.invalidTimestamp, "The text is not a valid timestamp."⟩
    else .error ⟨.invalidTimestamp, "The timestamp must include Z or an explicit UTC offset."⟩
  | .json =>
    match parseJsonTree value with
    | some parsed => validateConvertedValue (.json parsed)
    | none => .error ⟨.invalidJson, "The text is not valid JSON."⟩
  | .text => .ok (.text value)

/-- `source.value` as JSON. -/
def jsonOfValue : SourceValue ν → JsonTree JsString ν
  | .empty => .null
  | .text value => .string value
  | .number value => .number value
  | .boolean value => .boolean value
  | .timestamp value => .string value
  | .json value => value

def convertJsonValue (value : JsonTree JsString ν) (targetType : EditableInputValueType) :
    Except ColumnCellConversionError (SourceValue ν) :=
  match value, targetType with
  | .string text, targetType => convertTextValue text targetType
  | .number number, .number => validateConvertedValue (.number number)
  | .boolean value, .boolean => .ok (.boolean value)
  | _, targetType =>
    .error ⟨.ambiguousConversion, "This JSON value cannot be converted safely to " ++ targetType.type.name ++ "."⟩

def convertColumnCellValue (source : SourceValue ν) (targetType : EditableInputValueType) :
    Except ColumnCellConversionError (SourceValue ν) :=
  if source.type = .empty ∨ source.type = targetType.type then .ok source
  else
    match targetType, source with
    | .text, source => validateConvertedValue (.text (valueText source))
    | .json, .text value => convertTextValue value .json
    | .json, source => validateConvertedValue (.json (jsonOfValue source))
    | targetType, .json value => convertJsonValue value targetType
    | targetType, .text value => convertTextValue value targetType
    | targetType, source =>
      .error ⟨.ambiguousConversion,
        source.type.name ++ " cannot be converted safely to " ++ targetType.type.name ++ "."⟩

end Conversion

end ByokGrid
