import ByokGrid.SandboxProtocol

/-! The host of a sandboxed connector: it invokes the runner, performs the requests which the runner
asks for, and hands the answers back. -/

namespace ByokGrid

structure EffectUrl where
  href : String
  protocol : String
  username : String
  password : String
  hostname : String
  port : String
  deriving Repr, DecidableEq

def asciiLowerCase (text : String) : String :=
  String.ofList (text.toList.map Char.toLower)

/-- What the host takes from the runtime: `new URL`, `toLowerCase`, which is that of ASCII on an ASCII
text, `Number` where it is finite, the text of bytes which encode none, and `ajv.compile`, which may
throw. -/
class SandboxRuntime (ν : Type) where
  parseUrl : String → Option EffectUrl
  toLowerCase : String → String
  toLowerCase_ascii : ∀ text, (text.toList.all fun c => c.toNat < 128) = true → toLowerCase text = asciiLowerCase text
  finiteNumber : String → Option Rat
  decodeInvalid : List UInt8 → String
  compile : Json ν → Option (Json ν → Bool)

/-- A response: its headers as they are iterated, and the chunks of its body, whose reading may break off. -/
structure SandboxResponse where
  status : Nat
  headers : List (String × String)
  chunks : Option (List (List UInt8))
  interrupted : Bool
  deriving DecidableEq

structure EgressRequest where
  url : EffectUrl
  method : SandboxMethod
  headers : List (String × String)
  body : Option (List UInt8)
  deriving DecidableEq

inductive SandboxFailure where
  | connector (error : ConnectorError)
  | schema (message : String)
  | compile
  | url
  | header
  | fetch
  | body
  deriving Repr, DecidableEq

def throwConnector {α : Type} (code : ConnectorErrorCode) (message : String) : Except SandboxFailure α :=
  .error (.connector ⟨code, message, false⟩)

def failUnless (condition : Bool) (failure : SandboxFailure) : Except SandboxFailure Unit :=
  if condition then .ok () else .error failure

def orFail {α : Type} (value : Option α) (failure : SandboxFailure) : Except SandboxFailure α :=
  match value with
  | some a => .ok a
  | none => .error failure

section Schemas

variable {ν : Type}

def maximumSchemaBytes : Nat := 65536
def maximumSchemaDepth : Nat := 32
def maximumSchemaNodes : Nat := 2048

def pushMembers (depth : Nat) : List (String × Json ν) → List (Nat × Json ν) → Except SandboxFailure (List (Nat × Json ν))
  | [], pending => .ok pending
  | ("$ref", .string target) :: fields, pending =>
    if target.startsWith "#" then pushMembers depth fields ((depth + 1, .string target) :: pending)
    else .error (.schema "Sandbox connector JSON Schema cannot load remote references.")
  | ("$async", .boolean true) :: _, _ =>
    .error (.schema "Sandbox connector JSON Schema cannot use asynchronous validation.")
  | (_, value) :: fields, pending => pushMembers depth fields ((depth + 1, value) :: pending)

def visitSchema : Nat → List (Nat × Json ν) → Except SandboxFailure Unit
  | _, [] => .ok ()
  | 0, _ :: _ => .error (.schema "Sandbox connector JSON Schema is too complex.")
  | nodes + 1, (depth, value) :: pending =>
    if depth > maximumSchemaDepth then .error (.schema "Sandbox connector JSON Schema is too deeply nested.")
    else
      match value with
      | .array items => visitSchema nodes ((items.map fun item => (depth + 1, item)).reverse ++ pending)
      | .object fields =>
        match pushMembers depth fields pending with
        | .ok pending => visitSchema nodes pending
        | .error failure => .error failure
      | _ => visitSchema nodes pending

variable [JsRuntime ν]

def assertBoundedSchema (schema : Json ν) : Except SandboxFailure Unit := do
  failUnless (encodedBytes schema.stringify ≤ maximumSchemaBytes) (.schema "Sandbox connector JSON Schema exceeds 64 KiB.")
  visitSchema maximumSchemaNodes [(0, schema)]

variable [SandboxRuntime ν]

def compileSandboxJsonSchema (schema : Json ν) : Except SandboxFailure (Json ν → Bool) := do
  assertBoundedSchema schema
  orFail (SandboxRuntime.compile schema) .compile

def sandboxJsonSchemaMatches (schema value : Json ν) : Except SandboxFailure Bool := do
  let validator ← compileSandboxJsonSchema schema
  return validator value

end Schemas

def forbiddenRequestHeaders : List String :=
  ["connection", "content-length", "host", "proxy-authorization", "proxy-connection", "te", "trailer", "transfer-encoding",
    "upgrade"]

def maximumHeaderBytes : Nat := 32768
def maximumRpcBytes : Nat := 1048576
def maximumUpstreamBytes : Nat := 1048576

def isTokenChar (c : Char) : Bool :=
  ('a' ≤ c && c ≤ 'z') || ('A' ≤ c && c ≤ 'Z') || ('0' ≤ c && c ≤ '9') || c ∈ "!#$%&'*+-.^_|~".toList || c.toNat = 96

def isHeaderSpace (c : Char) : Bool :=
  c = ' ' || c = '\t' || c = '\n' || c = '\r'

def normalizeHeaderValue (value : String) : String :=
  String.ofList ((value.toList.dropWhile isHeaderSpace).reverse.dropWhile isHeaderSpace).reverse

def isHeaderValueChar (c : Char) : Bool :=
  c.toNat ≤ 255 && c.toNat ≠ 0 && c ≠ '\n' && c ≠ '\r'

/-- `headers.set(name, value)`: one header under a name, whatever its case. -/
def setHeader (headers : List (String × String)) (name value : String) : Except SandboxFailure (List (String × String)) := do
  failUnless (!name.toList.isEmpty && name.toList.all isTokenChar) .header
  failUnless ((normalizeHeaderValue value).toList.all isHeaderValueChar) .header
  return headers.filter (fun header => header.1 ≠ asciiLowerCase name) ++ [(asciiLowerCase name, normalizeHeaderValue value)]

/-- `value` matches the base64 pattern: groups of four letters, the last of them perhaps padded. -/
def isBase64 : List Char → Bool
  | [] => true
  | [a, b, '=', '='] => isBase64Letter a && isBase64Letter b
  | [a, b, c, '='] => isBase64Letter a && isBase64Letter b && isBase64Letter c
  | a :: b :: c :: d :: text => isBase64Letter a && isBase64Letter b && isBase64Letter c && isBase64Letter d && isBase64 text
  | _ => false
where
  isBase64Letter (c : Char) : Bool :=
    ('A' ≤ c && c ≤ 'Z') || ('a' ≤ c && c ≤ 'z') || ('0' ≤ c && c ≤ '9') || c = '+' || c = '/'

def decodeBase64Body : Option String → Except SandboxFailure (Option (List UInt8))
  | none => .ok none
  | some value => do
    failUnless (isBase64 value.toList) (.connector ⟨.invalidInput, "The sandbox connector returned an invalid request body.", false⟩)
    failUnless ((decodeBase64Url value).length ≤ maximumUpstreamBytes)
      (.connector ⟨.responseTooLarge, "The sandbox connector request body is too large.", false⟩)
    return some (decodeBase64Url value)

section Requests

variable (ν : Type) [SandboxRuntime ν]

def validateEffectUrl (urlValue : String) (allowedHosts : List String) : Except SandboxFailure EffectUrl := do
  let url ← orFail (SandboxRuntime.parseUrl ν urlValue) .url
  failUnless (url.protocol = "https:" && (url.username = "" && url.password = "") && (url.port = "" || url.port = "443") &&
      SandboxRuntime.toLowerCase ν url.hostname ∈ allowedHosts)
    (.connector ⟨.policy, "The sandbox connector requested a URL outside its fixed host policy.", false⟩)
  return url

def isForbiddenHeader (name : String) : Bool :=
  SandboxRuntime.toLowerCase ν name ∈ forbiddenRequestHeaders || (SandboxRuntime.toLowerCase ν name).startsWith "proxy-"

def sanitizeEntries : List (String × String) → Nat → List (String × String) → Except SandboxFailure (List (String × String))
  | [], _, headers => .ok headers
  | (name, value) :: input, totalBytes, headers => do
    failUnless (!isForbiddenHeader ν name && totalBytes + (encodedBytes name + encodedBytes value) ≤ maximumHeaderBytes)
      (.connector ⟨.policy, "The sandbox connector requested forbidden HTTP headers.", false⟩)
    let headers ← setHeader headers name value
    sanitizeEntries input (totalBytes + (encodedBytes name + encodedBytes value)) headers

def sanitizeRequestHeaders (input : List (String × String)) : Except SandboxFailure (List (String × String)) :=
  sanitizeEntries ν input 0 []

end Requests

/-- `output[name] = value` on an object literal; the assignment to `__proto__` of a text does nothing. -/
def assignMember (output : List (String × String)) (name value : String) : List (String × String) :=
  if name = "__proto__" then output
  else if output.any fun member => member.1 = name then
    output.map fun member => if member.1 = name then (name, value) else member
  else output ++ [(name, value)]

section Responses

variable (ν : Type) [SandboxRuntime ν]

def sanitizeResponseEntries : List (String × String) → Nat → List (String × String) → List (String × String)
  | [], _, output => output
  | (name, value) :: input, totalBytes, output =>
    if SandboxRuntime.toLowerCase ν name = "set-cookie" then sanitizeResponseEntries input totalBytes output
    else if totalBytes + (encodedBytes name + encodedBytes value) > maximumHeaderBytes then output
    else sanitizeResponseEntries input (totalBytes + (encodedBytes name + encodedBytes value))
      (assignMember output name (String.ofList (value.toList.take 8192)))

def sanitizeResponseHeaders (input : List (String × String)) : List (String × String) :=
  sanitizeResponseEntries ν input 0 []

def responseTooLarge : SandboxFailure :=
  .connector ⟨.responseTooLarge, "The connector response is too large.", false⟩

def readChunks (maximumBytes : Nat) (interrupted : Bool) (bytes : List UInt8) : List (List UInt8) → Except SandboxFailure (List UInt8)
  | [] => if interrupted then .error .body else .ok bytes
  | chunk :: chunks =>
    if bytes.length + chunk.length > maximumBytes then .error responseTooLarge
    else readChunks maximumBytes interrupted (bytes ++ chunk) chunks

def readBodyWithinLimit (response : SandboxResponse) (maximumBytes : Nat) : Except SandboxFailure (List UInt8) := do
  let declaredLength := (property? response.headers "content-length").bind (SandboxRuntime.finiteNumber ν)
  failUnless (declaredLength.all fun length => length ≤ (maximumBytes : Rat)) responseTooLarge
  match response.chunks with
  | none => return []
  | some chunks => readChunks maximumBytes response.interrupted [] chunks

end Responses

structure SandboxConnectorExecution (ν : Type) where
  actionId : String
  connectorId : String
  connectorVersion : String
  credential : List (String × Json ν)
  credentialSchema : Json ν
  hostPolicy : ConnectorHostPolicy
  input : Json ν
  inputSchema : Json ν
  outputSchema : Json ν
  runId : String

/-- What the host has sent, and what came back of it: a response, or none where `fetch` throws. -/
inductive SandboxEvent (ν : Type) where
  | invoked (invocation : SandboxConnectorInvocation ν) (reply : Option SandboxResponse)
  | requested (request : EgressRequest) (response : Option SandboxResponse)

/-- The runner and the upstream hosts, each of which may answer by all that has happened, the
latest event first. -/
structure SandboxWorld (ν : Type) where
  runner : List (SandboxEvent ν) → SandboxConnectorInvocation ν → Option SandboxResponse
  upstream : List (SandboxEvent ν) → EgressRequest → Option SandboxResponse

section Execution

variable {ν : Type} [JsRuntime ν] [IntegerNumbers ν] [SandboxRuntime ν]

def sandboxEffectBudget (_ : SandboxConnectorExecution ν) : Nat := 4

/-- `JSON.parse` of the bytes of a reply. -/
def parseReply (bytes : List UInt8) : Option (Json ν) :=
  (parseJson IntegerNumbers.parseNumber (JsString.utf8Decode (SandboxRuntime.decodeInvalid ν) bytes)).map Json.withLastFields

def isUrl (text : String) : Bool :=
  (SandboxRuntime.parseUrl ν text).isSome

def readReply (response : SandboxResponse) : Except SandboxFailure (SandboxConnectorStep ν) := do
  failUnless (200 ≤ response.status && response.status ≤ 299)
    (.connector ⟨if response.status ≥ 500 then .transient else .policy, "The sandbox connector runner rejected the invocation.",
      response.status ≥ 500⟩)
  let bytes ← readBodyWithinLimit ν response maximumRpcBytes
  let value ← orFail (parseReply bytes) (.connector ⟨.upstream, "The sandbox connector returned invalid JSON.", false⟩)
  orFail (readSandboxResult (isUrl (ν := ν)) value)
    (.connector ⟨.upstream, "The sandbox connector returned an invalid protocol result.", false⟩)

variable [CountNumbers ν] (execution : SandboxConnectorExecution ν) (world : SandboxWorld ν)

def SandboxConnectorExecution.invocation (continuation : Option (SandboxContinuation ν)) : SandboxConnectorInvocation ν where
  actionId := execution.actionId
  connectorId := execution.connectorId
  connectorVersion := execution.connectorVersion
  continuation := continuation
  credential := execution.credential
  input := execution.input
  runId := execution.runId

/-- `invokeRunner`, with the events which it leaves. -/
def invokeRunner (invocation : SandboxConnectorInvocation ν) (events : List (SandboxEvent ν)) :
    List (SandboxEvent ν) × Except SandboxFailure (SandboxConnectorStep ν) :=
  if encodedBytes invocation.toJson.stringify > maximumRpcBytes then
    (events, .error (.connector ⟨.invalidInput, "The sandbox connector invocation is too large.", false⟩))
  else
    match world.runner events invocation with
    | none =>
      (.invoked invocation none :: events, .error (.connector ⟨.transient, "The sandbox connector runner is unavailable.", true⟩))
    | some response => (.invoked invocation (some response) :: events, readReply response)

def buildEgressRequest (request : SandboxHttpRequest) (allowedHosts : List String) : Except SandboxFailure EgressRequest := do
  let url ← validateEffectUrl ν request.url allowedHosts
  let headers ← sanitizeRequestHeaders ν request.headers
  let body ← decodeBase64Body request.bodyBase64
  return { url := url, method := request.method, headers := headers, body := body }

def readUpstream (response : SandboxResponse) : Except SandboxFailure SandboxHttpResponse := do
  let bytes ← readBodyWithinLimit ν response maximumUpstreamBytes
  return { bodyBase64 := encodeBase64 bytes, headers := sanitizeResponseHeaders ν response.headers, status := response.status }

def performEffect (request : SandboxHttpRequest) (state : Json ν) (allowedHosts : List String) (events : List (SandboxEvent ν)) :
    List (SandboxEvent ν) × Except SandboxFailure (SandboxContinuation ν) :=
  match buildEgressRequest (ν := ν) request allowedHosts with
  | .error failure => (events, .error failure)
  | .ok egress =>
    match world.upstream events egress with
    | none => (.requested egress none :: events, .error .fetch)
    | some response =>
      (.requested egress (some response) :: events,
        (readUpstream (ν := ν) response).map fun response => { response := response, state := state })

def completeSandbox (output : Json ν) : Except SandboxFailure (Json ν) := do
  failUnless (← sandboxJsonSchemaMatches execution.outputSchema output)
    (.connector ⟨.upstream, "The sandbox connector output does not match its installed schema.", false⟩)
  return output

inductive SandboxTurn (ν : Type) where
  | ended (result : Except SandboxFailure (Json ν))
  | asked (request : SandboxHttpRequest) (state : Json ν)

def sandboxTurn : Except SandboxFailure (SandboxConnectorStep ν) → SandboxTurn ν
  | .error failure => .ended (.error failure)
  | .ok (.complete output) => .ended (completeSandbox execution output)
  | .ok (.failure error) => .ended (.error (.connector error))
  | .ok (.httpRequest request state) => .asked request state

def runSandboxSteps (allowedHosts : List String) : Nat → Option (SandboxContinuation ν) → List (SandboxEvent ν) →
    List (SandboxEvent ν) × Except SandboxFailure (Json ν)
  | 0, continuation, events =>
    let invoked := invokeRunner world (execution.invocation continuation) events
    match sandboxTurn execution invoked.2 with
    | .ended result => (invoked.1, result)
    | .asked _ _ => (invoked.1, throwConnector .policy "The sandbox connector exceeded its HTTP effect budget.")
  | remaining + 1, continuation, events =>
    let invoked := invokeRunner world (execution.invocation continuation) events
    match sandboxTurn execution invoked.2 with
    | .ended result => (invoked.1, result)
    | .asked request state =>
      match performEffect world request state allowedHosts invoked.1 with
      | (events, .error failure) => (events, .error failure)
      | (events, .ok continuation) => runSandboxSteps allowedHosts remaining (some continuation) events

def fixedHosts : ConnectorHostPolicy → Except SandboxFailure (List String)
  | .fixed hosts => .ok hosts
  | .runtime => throwConnector .policy "Sandbox connectors must declare fixed egress hosts."

def prepareSandbox : Except SandboxFailure (List String) := do
  let hosts ← fixedHosts execution.hostPolicy
  failUnless (← sandboxJsonSchemaMatches execution.credentialSchema (.object execution.credential))
    (.connector ⟨.authentication, "The stored sandbox connector credential is invalid.", false⟩)
  failUnless (← sandboxJsonSchemaMatches execution.inputSchema execution.input)
    (.connector ⟨.invalidInput, "The sandbox connector input does not match its installed schema.", false⟩)
  return hosts.map (SandboxRuntime.toLowerCase ν)

def executeSandboxConnector : List (SandboxEvent ν) × Except SandboxFailure (Json ν) :=
  match prepareSandbox execution with
  | .error failure => ([], .error failure)
  | .ok allowedHosts => runSandboxSteps execution world allowedHosts (sandboxEffectBudget execution) none []

end Execution

end ByokGrid
