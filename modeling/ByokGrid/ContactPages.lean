import ByokGrid.GridView
import ByokGrid.SourceNormalization

/-! The pages of a contacts search, and the records which a list of properties makes of them. -/

namespace ByokGrid

def HUBSPOT_CONTACT_ID_FIELD : String := "hubspot_contact_id"
def HUBSPOT_CONTACT_CREATED_AT_FIELD : String := "hubspot_created_at"
def HUBSPOT_CONTACT_UPDATED_AT_FIELD : String := "hubspot_updated_at"
def HUBSPOT_CONTACT_ARCHIVED_FIELD : String := "hubspot_archived"

def hubSpotSystemFields : List String :=
  [HUBSPOT_CONTACT_ID_FIELD, HUBSPOT_CONTACT_CREATED_AT_FIELD, HUBSPOT_CONTACT_UPDATED_AT_FIELD,
    HUBSPOT_CONTACT_ARCHIVED_FIELD]

/-- `hubSpotPropertyNameSchema`: the names it accepts are in lower case. -/
def isHubSpotProperty (name : String) : Bool :=
  1 ≤ name.toList.length && name.toList.length ≤ 100 && name.toList.head?.any isLowerLetter &&
    (name.toList.all fun c => isLowerLetter c || isDecimalDigit c || c = '_') && name ∉ hubSpotSystemFields

/-- The property lists of `hubSpotContactsSourceRequestSchema`. -/
def acceptedProperties (properties : List String) : Bool :=
  1 ≤ properties.length && properties.length ≤ 50 && properties.all isHubSpotProperty && decide properties.Nodup

structure HubSpotContact where
  archived : Bool
  createdAt : String
  id : String
  properties : List (String × Option String)
  updatedAt : String
  deriving Repr, DecidableEq

structure HubSpotContactsPage where
  after : Option String
  results : List HubSpotContact
  deriving Repr, DecidableEq

section Parsing

variable {ν : Type} [JsRuntime ν]

def readArchived : Option (Json ν) → Option Bool
  | some (.boolean value) => some value
  | _ => none

def readContactTime : Option (Json ν) → Option String
  | some (.string value) => if JsRuntime.isIsoDatetime ν value then some value else none
  | _ => none

def readContactId : Option (Json ν) → Option String
  | some (.string value) =>
    if 1 ≤ utf16Length (jsTrim value) ∧ utf16Length (jsTrim value) ≤ 128 then some (jsTrim value) else none
  | _ => none

def readContactProperty : String × Json ν → Option (String × Option String)
  | (name, .string value) => some (name, some value)
  | (name, .null) => some (name, none)
  | _ => none

def readContactProperties : Option (Json ν) → Option (List (String × Option String))
  | some (.object fields) => (schemaRecord fields).mapM readContactProperty
  | _ => none

def readContact : Json ν → Option HubSpotContact
  | .object fields => do
    let archived ← readArchived (property? fields "archived")
    let createdAt ← readContactTime (property? fields "createdAt")
    let id ← readContactId (property? fields "id")
    let properties ← readContactProperties (property? fields "properties")
    let updatedAt ← readContactTime (property? fields "updatedAt")
    return { archived := archived, createdAt := createdAt, id := id, properties := properties, updatedAt := updatedAt }
  | _ => none

def readAfter : Option (Json ν) → Option (Option String)
  | none => some none
  | some (.object paging) =>
    match property? paging "next" with
    | none => some none
    | some (.object next) =>
      match property? next "after" with
      | some (.string after) => if utf16Length after ≤ 1024 then some (some after) else none
      | _ => none
    | some _ => none
  | some _ => none

/-- `hubSpotContactsPageSchema`. -/
def readContactsPage : Json ν → Option HubSpotContactsPage
  | .object fields => do
    let after ← readAfter (property? fields "paging")
    match property? fields "results" with
    | some (.array items) => (items.mapM readContact).map fun results => ⟨after, results⟩
    | _ => none
  | _ => none

end Parsing

def objectPrototypeMembers : List String :=
  ["__defineGetter__", "__defineSetter__", "__lookupGetter__", "__lookupSetter__", "__proto__", "constructor",
    "hasOwnProperty", "isPrototypeOf", "propertyIsEnumerable", "toLocaleString", "toString", "valueOf"]

inductive PropertyValue where
  | text (value : String)
  | null
  | inherited (member : String)
  deriving Repr, DecidableEq

/-- `contact.properties[property] ?? null`. -/
def readProperty (properties : List (String × Option String)) (property : String) : PropertyValue :=
  match property? properties property with
  | some (some value) => .text value
  | some none => .null
  | none => if property ∈ objectPrototypeMembers then .inherited property else .null

/-- `values[name] = value`. -/
def assignProperty (values : List (String × PropertyValue)) (name : String) (value : PropertyValue) :
    List (String × PropertyValue) :=
  if name ∈ values.map Prod.fst then values.map fun item => if item.1 = name then (name, value) else item
  else values ++ [(name, value)]

structure HubSpotRecord where
  key : String
  values : List (String × PropertyValue)
  deriving Repr, DecidableEq

structure NormalizedHubSpotContactsPage where
  fields : List String
  records : List HubSpotRecord
  nextCursor : Option String
  deriving Repr, DecidableEq

def assignProperties (contact : HubSpotContact) (values : List (String × PropertyValue)) (properties : List String) :
    List (String × PropertyValue) :=
  properties.foldl (fun values property => assignProperty values property (readProperty contact.properties property)) values

def contactValues (properties : List String) (contact : HubSpotContact) : List (String × PropertyValue) :=
  let requested := assignProperties contact [(HUBSPOT_CONTACT_ID_FIELD, .text contact.id)] properties
  let created := assignProperty requested HUBSPOT_CONTACT_CREATED_AT_FIELD (.text contact.createdAt)
  let updated := assignProperty created HUBSPOT_CONTACT_UPDATED_AT_FIELD (.text contact.updatedAt)
  assignProperty updated HUBSPOT_CONTACT_ARCHIVED_FIELD (.text (if contact.archived then "true" else "false"))

def contactRecords (properties : List String) : List String → List HubSpotContact →
    Except SourceResponseError (List HubSpotRecord)
  | _, [] => .ok []
  | keys, contact :: contacts => do
    rejectIf (contact.id ∈ keys) (.response ("HubSpot returned duplicate contact ID “" ++ contact.id ++ "”."))
    let records ← contactRecords properties (contact.id :: keys) contacts
    return ⟨contact.id, contactValues properties contact⟩ :: records

def invalidCursor (nextCursor : Option String) : Bool :=
  nextCursor.any fun cursor => cursor = "" || utf16Length cursor > 1024 || cursor.toList.any isControlCharacter

def normalizeHubSpotContactsSourceResponse {ν : Type} [JsRuntime ν] (body : Json ν) (maxRecords : Nat)
    (properties : List String) : Except SourceResponseError NormalizedHubSpotContactsPage :=
  match readContactsPage body with
  | none => .error (.response "HubSpot returned an invalid contacts search response.")
  | some page => do
    rejectIf (maxRecords < page.results.length)
      (.response ("HubSpot returned more than " ++ toString maxRecords ++ " contacts."))
    let records ← contactRecords properties [] page.results
    rejectIf (invalidCursor page.after) (.response "HubSpot returned an invalid paging cursor.")
    return { fields := HUBSPOT_CONTACT_ID_FIELD :: properties ++ [HUBSPOT_CONTACT_CREATED_AT_FIELD,
               HUBSPOT_CONTACT_UPDATED_AT_FIELD, HUBSPOT_CONTACT_ARCHIVED_FIELD]
             records := records
             nextCursor := page.after }

end ByokGrid
