import ByokGrid.BulkRunSelection
import ByokGrid.Envelopes

/-! The protocol between the host of a sandboxed connector and its runner: the invocation which the
host sends, and the step which it reads from the reply. -/

namespace ByokGrid

inductive ConnectorErrorCode where
  | authentication
  | invalidInput
  | policy
  | rateLimited
  | responseTooLarge
  | transient
  | upstream
  deriving Repr, DecidableEq

structure ConnectorError where
  code : ConnectorErrorCode
  message : String
  retryable : Bool
  deriving Repr, DecidableEq

inductive ConnectorHostPolicy where
  | fixed (hosts : List String)
  | runtime
  deriving Repr, DecidableEq

inductive SandboxMethod where
  | delete
  | get
  | patch
  | post
  | put
  deriving Repr, DecidableEq

structure SandboxHttpRequest where
  bodyBase64 : Option String
  headers : List (String × String)
  method : SandboxMethod
  url : String
  deriving Repr, DecidableEq

inductive SandboxConnectorStep (ν : Type) where
  | complete (output : Json ν)
  | httpRequest (request : SandboxHttpRequest) (state : Json ν)
  | failure (error : ConnectorError)

structure SandboxHttpResponse where
  bodyBase64 : String
  headers : List (String × String)
  status : Nat
  deriving Repr, DecidableEq

structure SandboxContinuation (ν : Type) where
  response : SandboxHttpResponse
  state : Json ν

structure SandboxConnectorInvocation (ν : Type) where
  actionId : String
  connectorId : String
  connectorVersion : String
  continuation : Option (SandboxContinuation ν)
  credential : List (String × Json ν)
  input : Json ν
  runId : String

def sandboxProtocolVersion : String := "1.0"

section Invocation

variable {ν : Type} [CountNumbers ν]

def SandboxHttpResponse.toJson (response : SandboxHttpResponse) : Json ν :=
  .object [("bodyBase64", .string response.bodyBase64),
    ("headers", .object (response.headers.map fun header => (header.1, .string header.2))),
    ("status", .number (CountNumbers.ofInt response.status))]

def SandboxContinuation.toJson (continuation : SandboxContinuation ν) : Json ν :=
  .object [("response", continuation.response.toJson), ("state", continuation.state)]

def SandboxConnectorInvocation.toJson (invocation : SandboxConnectorInvocation ν) : Json ν :=
  .object [("actionId", .string invocation.actionId), ("connectorId", .string invocation.connectorId),
    ("connectorVersion", .string invocation.connectorVersion),
    ("continuation", (invocation.continuation.map SandboxContinuation.toJson).getD .null),
    ("credential", .object invocation.credential), ("input", invocation.input),
    ("protocolVersion", .string sandboxProtocolVersion), ("runId", .string invocation.runId)]

end Invocation

section Reading

variable {ν : Type}

section Values

variable [JsRuntime ν]

mutual

/-- `z.json()`. A number is finite, and a record leaves out the member `__proto__`. -/
def readConnectorJson : Json ν → Option (Json ν)
  | .null => some .null
  | .boolean value => some (.boolean value)
  | .number value => if JsRuntime.isFinite value then some (.number value) else none
  | .string value => some (.string value)
  | .array items => (readConnectorItems items).map .array
  | .object fields => (readConnectorMembers fields).map .object

def readConnectorItems : List (Json ν) → Option (List (Json ν))
  | [] => some []
  | item :: items => do
    let value ← readConnectorJson item
    return value :: (← readConnectorItems items)

def readConnectorMembers : List (String × Json ν) → Option (List (String × Json ν))
  | [] => some []
  | (name, item) :: fields =>
    if name = "__proto__" then readConnectorMembers fields
    else do
      let value ← readConnectorJson item
      return (name, value) :: (← readConnectorMembers fields)

end

end Values

/-- `z.string().max(maximum)`. -/
def readText (maximum : Nat) : Json ν → Option String
  | .string text => if utf16Length text ≤ maximum then some text else none
  | _ => none

/-- `z.record(z.string(), z.string().max(8_192))`. -/
def readHeaderMembers : List (String × Json ν) → Option (List (String × String))
  | [] => some []
  | (name, item) :: fields =>
    if name = "__proto__" then readHeaderMembers fields
    else do
      let value ← readText 8192 item
      return (name, value) :: (← readHeaderMembers fields)

def readHeaders : Json ν → Option (List (String × String))
  | .object fields => readHeaderMembers fields
  | _ => none

/-- `z.strictObject`: an object without members under other names. -/
def readStrictObject (names : List String) : Json ν → Option (List (String × Json ν))
  | .object fields => if fields.all fun field => field.1 ∈ "__proto__" :: names then some fields else none
  | _ => none

def readLiteral (text : String) : Json ν → Option Unit
  | .string value => if value = text then some () else none
  | _ => none

def readBoolean : Json ν → Option Bool
  | .boolean value => some value
  | _ => none

/-- `z.string().max(1_500_000).nullable()`. -/
def readBody : Json ν → Option (Option String)
  | .null => some none
  | body => (readText 1500000 body).map some

def readMethod : Json ν → Option SandboxMethod
  | .string "DELETE" => some .delete
  | .string "GET" => some .get
  | .string "PATCH" => some .patch
  | .string "POST" => some .post
  | .string "PUT" => some .put
  | _ => none

def readErrorCode : Json ν → Option ConnectorErrorCode
  | .string "authentication" => some .authentication
  | .string "invalid_input" => some .invalidInput
  | .string "policy" => some .policy
  | .string "rate_limited" => some .rateLimited
  | .string "response_too_large" => some .responseTooLarge
  | .string "transient" => some .transient
  | .string "upstream" => some .upstream
  | _ => none

/-- `z.url().startsWith('https://')`; the first check trims the text. -/
def readUrl (isUrl : String → Bool) : Json ν → Option String
  | .string text => if isUrl (jsTrim text) && (jsTrim text).startsWith "https://" then some (jsTrim text) else none
  | _ => none

def readSandboxRequest (isUrl : String → Bool) (value : Json ν) : Option SandboxHttpRequest := do
  let fields ← readStrictObject ["bodyBase64", "headers", "method", "url"] value
  return {
    bodyBase64 := ← (← property? fields "bodyBase64") |> readBody
    headers := ← (← property? fields "headers") |> readHeaders
    method := ← (← property? fields "method") |> readMethod
    url := ← (← property? fields "url") |> readUrl isUrl
  }

def readSandboxFailure (fields : List (String × Json ν)) : Option ConnectorError := do
  let message ← (← property? fields "message") |> readText 2048
  guard (1 ≤ utf16Length message)
  return {
    code := ← (← property? fields "code") |> readErrorCode
    message := message
    retryable := ← (← property? fields "retryable") |> readBoolean
  }

variable [JsRuntime ν]

/-- `sandboxConnectorStepSchema`. -/
def readSandboxStep (isUrl : String → Bool) : Json ν → Option (SandboxConnectorStep ν)
  | .object fields =>
    match property? fields "kind" with
    | some (.string "complete") => do
      let fields ← readStrictObject ["kind", "output"] (.object fields)
      return .complete (← (← property? fields "output") |> readConnectorJson)
    | some (.string "http_request") => do
      let fields ← readStrictObject ["kind", "request", "state"] (.object fields)
      let request ← (← property? fields "request") |> readSandboxRequest isUrl
      return .httpRequest request (← (← property? fields "state") |> readConnectorJson)
    | some (.string "failure") => do
      let fields ← readStrictObject ["code", "kind", "message", "retryable"] (.object fields)
      return .failure (← readSandboxFailure fields)
    | _ => none
  | _ => none

/-- `sandboxConnectorResultSchema`. -/
def readSandboxResult (isUrl : String → Bool) (value : Json ν) : Option (SandboxConnectorStep ν) := do
  let fields ← readStrictObject ["protocolVersion", "step"] value
  (← property? fields "protocolVersion") |> readLiteral sandboxProtocolVersion
  (← property? fields "step") |> readSandboxStep isUrl

end Reading

section States

variable {ν : Type}

mutual

/-- A value less every member named `__proto__`. -/
def Json.withoutPrototypes : Json ν → Json ν
  | .null => .null
  | .boolean value => .boolean value
  | .number value => .number value
  | .string value => .string value
  | .array items => .array (Json.itemsWithoutPrototypes items)
  | .object fields => .object (Json.membersWithoutPrototypes fields)

def Json.itemsWithoutPrototypes : List (Json ν) → List (Json ν)
  | [] => []
  | item :: items => item.withoutPrototypes :: Json.itemsWithoutPrototypes items

def Json.membersWithoutPrototypes : List (String × Json ν) → List (String × Json ν)
  | [] => []
  | (name, item) :: fields =>
    if name = "__proto__" then Json.membersWithoutPrototypes fields
    else (name, item.withoutPrototypes) :: Json.membersWithoutPrototypes fields

end

def Json.member? (name : String) : Json ν → Option (Json ν)
  | .object fields => property? fields name
  | _ => none

theorem readStrictObject_eq {names : List String} {value : Json ν} {fields : List (String × Json ν)}
    (h : readStrictObject names value = some fields) : value = .object fields := by
  cases value with
  | object members =>
    rw [readStrictObject] at h
    split_ifs at h
    rw [Option.some.inj h]
  | _ => cases h

variable [JsRuntime ν]

mutual

theorem readConnectorJson_eq {value read : Json ν} (h : readConnectorJson value = some read) : read = value.withoutPrototypes := by
  cases value with
  | null | boolean value | string value =>
    rw [readConnectorJson, Option.some.injEq] at h
    exact h.symm
  | number value =>
    rw [readConnectorJson] at h
    split_ifs at h
    exact (Option.some.inj h).symm
  | array items =>
    rw [readConnectorJson, Option.map_eq_some_iff] at h
    obtain ⟨read, hread, rfl⟩ := h
    rw [Json.withoutPrototypes, readConnectorItems_eq hread]
  | object fields =>
    rw [readConnectorJson, Option.map_eq_some_iff] at h
    obtain ⟨read, hread, rfl⟩ := h
    rw [Json.withoutPrototypes, readConnectorMembers_eq hread]

theorem readConnectorItems_eq {items read : List (Json ν)} (h : readConnectorItems items = some read) :
    read = Json.itemsWithoutPrototypes items := by
  cases items with
  | nil =>
    rw [readConnectorItems, Option.some.injEq] at h
    exact h.symm
  | cons item items =>
    simp only [readConnectorItems, Option.bind_eq_bind, Option.bind_eq_some_iff, pure, Option.some.injEq] at h
    obtain ⟨value, hvalue, rest, hrest, rfl⟩ := h
    rw [Json.itemsWithoutPrototypes, readConnectorJson_eq hvalue, readConnectorItems_eq hrest]

theorem readConnectorMembers_eq {fields read : List (String × Json ν)} (h : readConnectorMembers fields = some read) :
    read = Json.membersWithoutPrototypes fields := by
  cases fields with
  | nil =>
    rw [readConnectorMembers, Option.some.injEq] at h
    exact h.symm
  | cons field fields =>
    obtain ⟨name, item⟩ := field
    rw [readConnectorMembers] at h
    rw [Json.membersWithoutPrototypes]
    split_ifs at h ⊢ with hname
    · exact readConnectorMembers_eq h
    · simp only [Option.bind_eq_bind, Option.bind_eq_some_iff, pure, Option.some.injEq] at h
      obtain ⟨value, hvalue, rest, hrest, rfl⟩ := h
      rw [readConnectorJson_eq hvalue, readConnectorMembers_eq hrest]

end

theorem readSandboxStep_state {isUrl : String → Bool} {value state : Json ν} {request : SandboxHttpRequest}
    (h : readSandboxStep isUrl value = some (.httpRequest request state)) :
    ∃ text, value.member? "state" = some text ∧ state = text.withoutPrototypes := by
  cases value with
  | object fields =>
    rw [readSandboxStep] at h
    split at h
    · simp [Option.bind_eq_some_iff] at h
    · simp only [Option.bind_eq_bind, Option.bind_eq_some_iff, pure, Option.some.injEq] at h
      obtain ⟨members, hmembers, _, _, _, _, text, htext, read, hread, hstep⟩ := h
      cases readStrictObject_eq hmembers
      cases hstep
      exact ⟨text, htext, readConnectorJson_eq hread⟩
    · simp [Option.bind_eq_some_iff] at h
    · cases h
  | _ => cases h

theorem readSandboxResult_state {isUrl : String → Bool} {value state : Json ν} {request : SandboxHttpRequest}
    (h : readSandboxResult isUrl value = some (.httpRequest request state)) :
    ∃ text, (value.member? "step").bind (Json.member? "state") = some text ∧ state = text.withoutPrototypes := by
  simp only [readSandboxResult, Option.bind_eq_bind, Option.bind_eq_some_iff] at h
  obtain ⟨fields, hfields, _, _, _, _, step, hstep, hread⟩ := h
  cases readStrictObject_eq hfields
  obtain ⟨text, htext, hstate⟩ := readSandboxStep_state hread
  refine ⟨text, ?_, hstate⟩
  rw [Json.member?, hstep]
  exact htext

end States

end ByokGrid
