import ByokGrid.CellRuns
import ByokGrid.Effects
import ByokGrid.JsonText

/-! The records of an Airbyte stream: how a line of the protocol is read, and the
canonical text of the record it carries. -/

namespace ByokGrid

section Values

def lastFields {α : Type} (fields : List (String × α)) : List (String × α) :=
  (distinct (fields.map Prod.fst)).filterMap fun name =>
    (fields.reverse.find? fun field => field.1 = name).map fun field => (name, field.2)

def property? {α : Type} (fields : List (String × α)) (name : String) : Option α :=
  (fields.find? fun field => field.1 = name).map Prod.snd

def unitsLe : List Nat → List Nat → Bool
  | [], _ => true
  | _ :: _, [] => false
  | a :: as, b :: bs => a < b || (a = b && unitsLe as bs)

/-- The order of the default `sort`, by code units. -/
def codeUnitsLe (left right : String) : Bool :=
  unitsLe (left.toList.flatMap utf16Units) (right.toList.flatMap utf16Units)

def sortCodeUnits (names : List String) : List String :=
  names.insertionSort fun left right => codeUnitsLe left right

/-- `new TextEncoder().encode(text).byteLength`. -/
def encodedBytes (text : String) : Nat :=
  text.utf8ByteSize

/-- `Number(text)` on a number of a JSON text, `Number.isInteger` and `Number.isSafeInteger`. -/
class IntegerNumbers (ν : Type) where
  parseNumber : String → ν
  isInteger : ν → Bool
  isSafeInteger : ν → Bool

variable {ν : Type}

mutual

def Json.withLastFields : Json ν → Json ν
  | .array items => .array (Json.itemsWithLastFields items)
  | .object fields => .object (lastFields (Json.fieldsWithLastFields fields))
  | .null => .null
  | .boolean value => .boolean value
  | .number value => .number value
  | .string value => .string value

def Json.itemsWithLastFields : List (Json ν) → List (Json ν)
  | [] => []
  | item :: items => item.withLastFields :: Json.itemsWithLastFields items

def Json.fieldsWithLastFields : List (String × Json ν) → List (String × Json ν)
  | [] => []
  | (name, value) :: fields => (name, value.withLastFields) :: Json.fieldsWithLastFields fields

end

variable [JsRuntime ν]

mutual

/-- `String(value)`. -/
def Json.asString : Json ν → String
  | .null => "null"
  | .boolean value => toString value
  | .number value => JsRuntime.numberToString value
  | .string value => value
  | .array items => ",".intercalate (Json.asStrings items)
  | .object _ => "[object Object]"

/-- `join` writes nothing for `null`. -/
def Json.asStrings : List (Json ν) → List String
  | [] => []
  | .null :: items => "" :: Json.asStrings items
  | item :: items => item.asString :: Json.asStrings items

end

/-- `String(object.name)`. -/
def asString? (value : Option (Json ν)) : String :=
  (value.map Json.asString).getD "undefined"

mutual

/-- `stableStringify`. -/
def stableStringify : Json ν → String
  | .array items => "[" ++ ",".intercalate (stableItems items) ++ "]"
  | .object fields =>
    let sorted := (stableFields fields).insertionSort fun left right => codeUnitsLe left.1 right.1
    "\x7b" ++ ",".intercalate (sorted.map fun field => jsonQuote field.1 ++ ":" ++ field.2) ++ "\x7d"
  | .null => "null"
  | .boolean value => toString value
  | .number value => JsRuntime.numberToString value
  | .string value => jsonQuote value

def stableItems : List (Json ν) → List String
  | [] => []
  | item :: items => stableStringify item :: stableItems items

def stableFields : List (String × Json ν) → List (String × String)
  | [] => []
  | (name, value) :: fields => (name, stableStringify value) :: stableFields fields

end

end Values

/-- `AirbyteDestinationProtocolError`. -/
structure AirbyteProtocolError where
  message : String
  deriving DecidableEq

/-- What ends a run of the destination: an error of one of its classes, an error of the
runtime, or an answer of the runtime which has not come yet. -/
inductive AirbyteStop where
  | protocol (error : AirbyteProtocolError)
  | request (message : String)
  | checkpoint
  | runtime
  | waiting
  deriving DecidableEq

def maximumProtocolLineBytes : Nat := 8 * 1048576
def maximumFields : Nat := 100
def emptyEnvelopeBytes : Nat := encodedBytes "\x7b\"records\":[]\x7d"

structure AirbyteRecordMessage (ν : Type) where
  data : List (String × Json ν)
  namespace_ : Option String
  stream : String

def routeKey (namespace_ : Option String) (stream : String) : String :=
  namespace_.getD "" ++ "\x00" ++ stream

def displayStream {ν : Type} (record : AirbyteRecordMessage ν) : String :=
  match record.namespace_ with
  | none => record.stream
  | some "" => record.stream
  | some name => name ++ "." ++ record.stream

structure EndpointCapability where
  endpointId : String
  maximumBodyBytes : Nat
  maximumRecords : Nat
  recordKeyField : String

section Records

variable {ν : Type} [JsRuntime ν] [IntegerNumbers ν]

mutual

def assertSafeNumbers : Json ν → String → Except AirbyteProtocolError Unit
  | .number value, path =>
    if !JsRuntime.isFinite value then
      .error ⟨"Airbyte field “" ++ path ++ "” contains a non-finite number."⟩
    else if IntegerNumbers.isInteger value && !IntegerNumbers.isSafeInteger value then
      .error ⟨"Airbyte field “" ++ path ++
        "” contains an unsafe integer; emit it as a string to preserve precision."⟩
    else .ok ()
  | .array items, path => assertSafeItems 0 items path
  | .object fields, path => assertSafeFields fields path
  | .null, _ | .boolean _, _ | .string _, _ => .ok ()

def assertSafeItems : Nat → List (Json ν) → String → Except AirbyteProtocolError Unit
  | _, [], _ => .ok ()
  | index, item :: items, path => do
    assertSafeNumbers item (path ++ "[" ++ toString index ++ "]")
    assertSafeItems (index + 1) items path

def assertSafeFields : List (String × Json ν) → String → Except AirbyteProtocolError Unit
  | [], _ => .ok ()
  | (name, value) :: fields, path => do
    assertSafeNumbers value (path ++ "." ++ name)
    assertSafeFields fields path

end

def normalizeFields : List (String × Json ν) → Except AirbyteProtocolError (List (String × Json ν))
  | [] => .ok []
  | (field, value) :: entries => do
    rejectIf (field = "" || 120 < utf16Length field || field.toList.any isControlCharacter)
      ⟨"An Airbyte record contains an invalid field name."⟩
    assertSafeNumbers value field
    let normalized ← normalizeFields entries
    return (field, match value with
      | .array items => .string (stableStringify (.array items))
      | .object fields => .string (stableStringify (.object fields))
      | value => value) :: normalized

def usableKey : Option (Json ν) → Bool
  | some (.string key) => jsTrim key ≠ ""
  | some (.number key) => jsTrim (JsRuntime.numberToString key) ≠ ""
  | some (.boolean _) => true
  | some .null | some (.array _) | some (.object _) | none => false

def normalizeRecord (data : List (String × Json ν)) (recordKeyField : String) :
    Except AirbyteProtocolError (List (String × Json ν)) := do
  rejectIf (data.length = 0 || maximumFields < data.length)
    ⟨"Airbyte records must contain between 1 and 100 fields."⟩
  let normalized ← normalizeFields data
  rejectIf (!usableKey (property? normalized recordKeyField))
    ⟨"An Airbyte record has no usable “" ++ recordKeyField ++ "” key."⟩
  return normalized

def optionalString : Option (Json ν) → Option (Option String)
  | none => some none
  | some (.string value) => some (some value)
  | some _ => none

def parseRecordMessage (value : Option (Json ν)) : Except AirbyteProtocolError (AirbyteRecordMessage ν) :=
  match value with
  | some (.object record) =>
    match property? record "stream", optionalString (property? record "namespace"), property? record "data" with
    | some (.string stream), some namespace_, some (.object data) =>
      if stream = "" || 256 < utf16Length stream then
        .error ⟨"An Airbyte RECORD message has an invalid stream or data object."⟩
      else .ok ⟨data, namespace_, stream⟩
    | _, _, _ => .error ⟨"An Airbyte RECORD message has an invalid stream or data object."⟩
  | _ => .error ⟨"An Airbyte RECORD message is missing its record payload."⟩

inductive AirbyteLine (ν : Type) where
  | skip
  | record (message : AirbyteRecordMessage ν)
  | state

/-- `acceptLine` up to its first effect. -/
def readLine (line : String) : Except AirbyteProtocolError (AirbyteLine ν) :=
  if jsTrim line = "" then .ok .skip
  else if maximumProtocolLineBytes < encodedBytes line then
    .error ⟨"An Airbyte protocol message exceeds 8 MiB."⟩
  else
    match (parseJson IntegerNumbers.parseNumber line).map Json.withLastFields with
    | none => .error ⟨"Airbyte write input contains invalid JSON."⟩
    | some (.object message) =>
      match property? message "type" with
      | some (.string "RECORD") => (parseRecordMessage (property? message "record")).map .record
      | some (.string "STATE") =>
        if (property? message "state").isSome then .ok .state
        else .error ⟨"An Airbyte STATE message is missing its state payload."⟩
      | some (.string "CONTROL") | some (.string "LOG") | some (.string "TRACE") => .ok .skip
      | type =>
        .error ⟨"Unsupported Airbyte message type “" ++
          sliceUnits 40 (asString? type) ++ "”."⟩
    | some _ => .error ⟨"Airbyte write input must contain JSON objects."⟩

end Records

end ByokGrid
