import ByokGrid.SandboxRunnerClient
import ByokGrid.AirbyteWriter
import ByokGrid.BulkRunContract
import ByokGrid.IntegerTexts
import Mathlib.Algebra.Order.BigOperators.Group.List
import Mathlib.Algebra.GroupWithZero.Nat

/-! What a sandboxed module can make its host do. Whatever the runner and the upstream hosts answer,
the requests stay within the declared hosts and limits, and the runner gets back the state it left. -/

namespace ByokGrid

theorem encodedBytes_ofList (text : List Char) : encodedBytes (String.ofList text) = (text.map Char.utf8Size).sum :=
  utf8ByteSize_ofList text

theorem encodedBytes_eq_sum (text : String) : encodedBytes text = (text.toList.map Char.utf8Size).sum := by
  rw [← encodedBytes_ofList, String.ofList_toList]

theorem encodedBytes_normalizeHeaderValue (value : String) : encodedBytes (normalizeHeaderValue value) ≤ encodedBytes value := by
  have hsub : ((value.toList.dropWhile isHeaderSpace).reverse.dropWhile isHeaderSpace).reverse.Sublist value.toList := by
    have htail := (List.dropWhile_sublist isHeaderSpace (l := (value.toList.dropWhile isHeaderSpace).reverse)).reverse
    rw [List.reverse_reverse] at htail
    exact htail.trans (List.dropWhile_sublist _)
  rw [normalizeHeaderValue, encodedBytes_ofList, encodedBytes_eq_sum value]
  exact (hsub.map Char.utf8Size).sum_le_sum fun _ _ => Nat.zero_le _

theorem isTokenChar_ascii {c : Char} (h : isTokenChar c = true) : c.toNat < 128 := by
  have hall : ("!#$%&'*+-.^_|~".toList.all fun c => c.toNat < 128) = true := by decide
  have hsymbols : ∀ c ∈ "!#$%&'*+-.^_|~".toList, c.toNat < 128 := fun c hc => of_decide_eq_true (List.all_eq_true.mp hall c hc)
  have hle : ∀ a b : Char, a ≤ b → a.toNat ≤ b.toNat := fun a b h => UInt32.le_iff_toNat_le.mp (Char.le_def.mp h)
  have hz : 'z'.toNat < 128 := by decide
  have hZ : 'Z'.toNat < 128 := by decide
  have h9 : '9'.toNat < 128 := by decide
  simp only [isTokenChar, Bool.or_eq_true, Bool.and_eq_true, decide_eq_true_eq] at h
  rcases h with (((⟨-, h⟩ | ⟨-, h⟩) | ⟨-, h⟩) | h) | h
  · exact Nat.lt_of_le_of_lt (hle c 'z' h) hz
  · exact Nat.lt_of_le_of_lt (hle c 'Z' h) hZ
  · exact Nat.lt_of_le_of_lt (hle c '9' h) h9
  · exact hsymbols c h
  · omega

theorem utf8Size_toLower {c : Char} (h : c.toNat < 128) : c.toLower.utf8Size = c.utf8Size := by
  have hall : ∀ n < 128, (Char.ofNat n).toLower.utf8Size = (Char.ofNat n).utf8Size := by decide
  have hc := hall c.toNat h
  rwa [Char.ofNat_toNat] at hc

theorem encodedBytes_asciiLowerCase {name : String} (h : name.toList.all isTokenChar = true) :
    encodedBytes (asciiLowerCase name) = encodedBytes name := by
  rw [asciiLowerCase, encodedBytes_ofList, encodedBytes_eq_sum name, List.map_map]
  congr 1
  apply List.map_congr_left
  intro c hc
  exact utf8Size_toLower (isTokenChar_ascii (List.all_eq_true.mp h c hc))

def headerBytes (headers : List (String × String)) : Nat :=
  (headers.map fun header => encodedBytes header.1 + encodedBytes header.2).sum

theorem failUnless_eq_ok {condition : Bool} {failure : SandboxFailure} {u : Unit} :
    failUnless condition failure = .ok u ↔ condition = true := by
  cases condition <;> simp [failUnless]

theorem orFail_eq_ok {α : Type} {value : Option α} {failure : SandboxFailure} {a : α} :
    orFail value failure = .ok a ↔ value = some a := by
  cases value <;> simp [orFail]

theorem setHeader_eq_ok {headers result : List (String × String)} {name value : String} (h : setHeader headers name value = .ok result) :
    name.toList.all isTokenChar = true ∧
      result = headers.filter (fun header => header.1 ≠ asciiLowerCase name) ++ [(asciiLowerCase name, normalizeHeaderValue value)] := by
  simp only [setHeader, except_bind_eq_ok, failUnless_eq_ok, exists_const, pure, Except.pure, Except.ok.injEq,
    Bool.and_eq_true] at h
  exact ⟨h.1.2, h.2.2.symm⟩

theorem headerBytes_setHeader {headers result : List (String × String)} {name value : String}
    (h : setHeader headers name value = .ok result) :
    headerBytes result ≤ headerBytes headers + (encodedBytes name + encodedBytes value) := by
  obtain ⟨hname, rfl⟩ := setHeader_eq_ok h
  have hkept : headerBytes (headers.filter fun header => header.1 ≠ asciiLowerCase name) ≤ headerBytes headers :=
    (List.filter_sublist.map _).sum_le_sum fun _ _ => Nat.zero_le _
  have hvalue := encodedBytes_normalizeHeaderValue value
  have hlower := encodedBytes_asciiLowerCase hname
  simp only [headerBytes, List.map_append, List.sum_append, List.map_cons, List.map_nil, List.sum_cons, List.sum_nil] at hkept ⊢
  omega

section Requests

variable {ν : Type} [SandboxRuntime ν]

def PermittedHeader (header : String × String) : Prop :=
  header.1 ∉ forbiddenRequestHeaders ∧ header.1.startsWith "proxy-" = false

theorem toLowerCase_token {name : String} (h : name.toList.all isTokenChar = true) :
    SandboxRuntime.toLowerCase ν name = asciiLowerCase name := by
  apply SandboxRuntime.toLowerCase_ascii
  rw [List.all_eq_true] at h ⊢
  intro c hc
  exact decide_eq_true (isTokenChar_ascii (h c hc))

variable (ν) in
theorem sanitizeEntries_confined {input headers result : List (String × String)} {totalBytes : Nat}
    (hheaders : ∀ header ∈ headers, PermittedHeader header) (hbytes : headerBytes headers ≤ totalBytes)
    (hlimit : totalBytes ≤ maximumHeaderBytes) (h : sanitizeEntries ν input totalBytes headers = .ok result) :
    (∀ header ∈ result, PermittedHeader header) ∧ headerBytes result ≤ maximumHeaderBytes := by
  induction input generalizing headers totalBytes with
  | nil =>
    obtain rfl : headers = result := by simpa only [sanitizeEntries, Except.ok.injEq] using h
    exact ⟨hheaders, hbytes.trans hlimit⟩
  | cons entry input ih =>
    obtain ⟨name, value⟩ := entry
    simp only [sanitizeEntries, except_bind_eq_ok, failUnless_eq_ok, exists_const, Bool.and_eq_true, decide_eq_true_eq,
      Bool.not_eq_true'] at h
    obtain ⟨⟨hpermitted, htotal⟩, set, hset, hrest⟩ := h
    obtain ⟨hname, hresult⟩ := setHeader_eq_ok hset
    refine ih ?_ ?_ htotal hrest
    · intro header hheader
      rw [hresult, List.mem_append, List.mem_singleton] at hheader
      rcases hheader with hheader | rfl
      · exact hheaders header (List.mem_filter.mp hheader).1
      · rw [isForbiddenHeader, toLowerCase_token hname, Bool.or_eq_false_iff, decide_eq_false_iff_not] at hpermitted
        exact hpermitted
    · have hset := headerBytes_setHeader hset
      omega

variable (ν) in
theorem sanitizeRequestHeaders_confined {input result : List (String × String)} (h : sanitizeRequestHeaders ν input = .ok result) :
    (∀ header ∈ result, PermittedHeader header) ∧ headerBytes result ≤ maximumHeaderBytes :=
  sanitizeEntries_confined ν (List.forall_mem_nil _) (Nat.le_refl 0) (Nat.zero_le _) h

variable [JsRuntime ν]

structure EgressConfined (execution : SandboxConnectorExecution ν) (request : EgressRequest) : Prop where
  protocol : request.url.protocol = "https:"
  userInfo : request.url.username = "" ∧ request.url.password = ""
  port : request.url.port = "" ∨ request.url.port = "443"
  host : ∃ hosts, execution.hostPolicy = .fixed hosts ∧
    ∃ host ∈ hosts, SandboxRuntime.toLowerCase ν request.url.hostname = SandboxRuntime.toLowerCase ν host
  headers : ∀ header ∈ request.headers, PermittedHeader header
  headerBytes : headerBytes request.headers ≤ 32768
  body : ∀ bytes ∈ request.body, bytes.length ≤ 1048576

variable (execution : SandboxConnectorExecution ν)

def DeclaredHosts (allowedHosts : List String) : Prop :=
  ∃ hosts, execution.hostPolicy = .fixed hosts ∧ allowedHosts = hosts.map (SandboxRuntime.toLowerCase ν)

variable {execution}

omit [JsRuntime ν] in
theorem decodeBase64Body_limit {bodyBase64 : Option String} {body : Option (List UInt8)} (h : decodeBase64Body bodyBase64 = .ok body) :
    ∀ bytes ∈ body, bytes.length ≤ 1048576 := by
  cases bodyBase64 with
  | none =>
    obtain rfl : none = body := by simpa only [decodeBase64Body, Except.ok.injEq] using h
    exact nofun
  | some value =>
    simp only [decodeBase64Body, except_bind_eq_ok, failUnless_eq_ok, exists_const, pure, Except.pure, Except.ok.injEq,
      decide_eq_true_eq] at h
    obtain ⟨-, hlimit, rfl⟩ := h
    rintro bytes ⟨⟩
    exact hlimit

omit [JsRuntime ν] in
theorem buildEgressRequest_confined {request : SandboxHttpRequest} {allowedHosts : List String} {egress : EgressRequest}
    (hhosts : DeclaredHosts execution allowedHosts) (h : buildEgressRequest (ν := ν) request allowedHosts = .ok egress) :
    EgressConfined execution egress := by
  simp only [buildEgressRequest, except_bind_eq_ok, pure, Except.pure, Except.ok.injEq] at h
  obtain ⟨url, hurl, headers, hheaders, body, hbody, rfl⟩ := h
  simp only [validateEffectUrl, except_bind_eq_ok, orFail_eq_ok, failUnless_eq_ok, exists_const, pure, Except.pure, Except.ok.injEq,
    Bool.and_eq_true, Bool.or_eq_true, decide_eq_true_eq] at hurl
  obtain ⟨parsed, -, ⟨⟨⟨hprotocol, huser⟩, hport⟩, hhost⟩, rfl⟩ := hurl
  obtain ⟨hosts, hpolicy, rfl⟩ := hhosts
  obtain ⟨host, hmem, heq⟩ := List.mem_map.mp hhost
  obtain ⟨hpermitted, hbytes⟩ := sanitizeRequestHeaders_confined ν hheaders
  exact ⟨hprotocol, huser, hport, ⟨hosts, hpolicy, host, hmem, heq.symm⟩, hpermitted, hbytes, decodeBase64Body_limit hbody⟩

end Requests

section Responses

variable {ν : Type} [SandboxRuntime ν]

theorem mem_assignMember {output : List (String × String)} {name value : String} {member : String × String}
    (h : member ∈ assignMember output name value) : member.1 = name ∨ member ∈ output := by
  rw [assignMember] at h
  split_ifs at h with hprototype hpresent
  · exact .inr h
  · obtain ⟨other, hother, heq⟩ := List.mem_map.mp h
    split_ifs at heq with hname
    · exact .inl (by rw [← heq])
    · exact .inr (heq ▸ hother)
  · rw [List.mem_append, List.mem_singleton] at h
    rcases h with h | rfl
    · exact .inr h
    · exact .inl rfl

variable (ν) in
theorem sanitizeResponseEntries_noCookie {input output : List (String × String)} {totalBytes : Nat}
    (h : ∀ header ∈ output, SandboxRuntime.toLowerCase ν header.1 ≠ "set-cookie") :
    ∀ header ∈ sanitizeResponseEntries ν input totalBytes output, SandboxRuntime.toLowerCase ν header.1 ≠ "set-cookie" := by
  induction input generalizing output totalBytes with
  | nil => exact h
  | cons entry input ih =>
    obtain ⟨name, value⟩ := entry
    rw [sanitizeResponseEntries]
    split_ifs with hcookie hlimit
    · exact ih h
    · exact h
    · apply ih
      intro header hheader
      rcases mem_assignMember hheader with hname | hkept
      · rwa [hname]
      · exact h header hkept

variable (ν) in
theorem sanitizeResponseHeaders_noCookie (input : List (String × String)) :
    ∀ header ∈ sanitizeResponseHeaders ν input, SandboxRuntime.toLowerCase ν header.1 ≠ "set-cookie" :=
  sanitizeResponseEntries_noCookie ν (List.forall_mem_nil _)

end Responses

section Runs

variable {ν : Type} [JsRuntime ν] [IntegerNumbers ν] [SandboxRuntime ν]

namespace SandboxEvent

def isInvocation : SandboxEvent ν → Bool
  | .invoked _ _ => true
  | .requested _ _ => false

def isRequest : SandboxEvent ν → Bool
  | .invoked _ _ => false
  | .requested _ _ => true

end SandboxEvent

/-- What an invocation carries on from the events before it: nothing at first, and then the state of
the last reply and the response to the last request. -/
def ContinuesFrom (returned : SandboxResponse → Json ν → Prop) : List (SandboxEvent ν) → Option (SandboxContinuation ν) → Prop
  | [], continuation => continuation = none
  | .requested _ (some response) :: .invoked _ (some reply) :: _, some continuation =>
    returned reply continuation.state ∧ readUpstream (ν := ν) response = .ok continuation.response ∧
      ∀ header ∈ continuation.response.headers, SandboxRuntime.toLowerCase ν header.1 ≠ "set-cookie"
  | _, _ => False

/-- The confinement of a run: its events, the latest first, and how it ends. `returned` says which
state a reply returns. -/
structure SandboxConfined (returned : SandboxResponse → Json ν → Prop) (execution : SandboxConnectorExecution ν)
    (run : List (SandboxEvent ν) × Except SandboxFailure (Json ν)) : Prop where
  requests : run.1.countP SandboxEvent.isRequest ≤ 4
  invocations : run.1.countP SandboxEvent.isInvocation ≤ 5
  egress : ∀ request response, .requested request response ∈ run.1 → EgressConfined execution request
  continuations : ∀ later invocation reply earlier, run.1 = later ++ .invoked invocation reply :: earlier →
    ContinuesFrom returned earlier invocation.continuation
  output : ∀ value, run.2 = .ok value → sandboxJsonSchemaMatches execution.outputSchema value = .ok true

def returnedState (reply : SandboxResponse) : Option (Json ν) :=
  match readBodyWithinLimit ν reply maximumRpcBytes with
  | .ok bytes => ((parseReply bytes).bind (Json.member? "step")).bind (Json.member? "state")
  | .error _ => none

def ReturnsState (reply : SandboxResponse) (state : Json ν) : Prop :=
  returnedState reply = some state

def ReturnsStateWithoutPrototypes (reply : SandboxResponse) (state : Json ν) : Prop :=
  ∃ text, returnedState reply = some text ∧ state = text.withoutPrototypes

theorem readReply_state {reply : SandboxResponse} {request : SandboxHttpRequest} {state : Json ν}
    (h : readReply reply = .ok (.httpRequest request state)) : ReturnsStateWithoutPrototypes reply state := by
  simp only [readReply, except_bind_eq_ok, failUnless_eq_ok, orFail_eq_ok, exists_const] at h
  obtain ⟨-, bytes, hbytes, value, hvalue, hread⟩ := h
  obtain ⟨text, htext, hstate⟩ := readSandboxResult_state hread
  refine ⟨text, ?_, hstate⟩
  rw [returnedState, hbytes]
  simp only [hvalue, Option.bind_some]
  exact htext

def TraceConfined (execution : SandboxConnectorExecution ν) : List (SandboxEvent ν) → Prop
  | [] => True
  | .invoked invocation _ :: earlier =>
    ContinuesFrom ReturnsStateWithoutPrototypes earlier invocation.continuation ∧ TraceConfined execution earlier
  | .requested request _ :: earlier => EgressConfined execution request ∧ TraceConfined execution earlier

variable {execution : SandboxConnectorExecution ν} {world : SandboxWorld ν} {events : List (SandboxEvent ν)}
  {continuation : Option (SandboxContinuation ν)}

omit [JsRuntime ν] in
theorem TraceConfined.egress {trace : List (SandboxEvent ν)} (h : TraceConfined execution trace) {request : EgressRequest}
    {response : Option SandboxResponse} (hmem : .requested request response ∈ trace) : EgressConfined execution request := by
  induction trace with
  | nil => cases hmem
  | cons event trace ih =>
    rcases List.mem_cons.mp hmem with rfl | hlater
    · exact h.1
    · cases event with
      | invoked invocation reply => exact ih h.2 hlater
      | requested other response => exact ih h.2 hlater

omit [JsRuntime ν] in
theorem TraceConfined.continues {later earlier : List (SandboxEvent ν)} {invocation : SandboxConnectorInvocation ν}
    {reply : Option SandboxResponse} (h : TraceConfined execution (later ++ .invoked invocation reply :: earlier)) :
    ContinuesFrom ReturnsStateWithoutPrototypes earlier invocation.continuation := by
  induction later with
  | nil => exact h.1
  | cons event later ih =>
    cases event with
    | invoked other reply => exact ih h.2
    | requested request response => exact ih h.2

variable [CountNumbers ν]

theorem invokeRunner_confined (htrace : TraceConfined execution events)
    (hcontinues : ContinuesFrom ReturnsStateWithoutPrototypes events continuation)
    {after : List (SandboxEvent ν)} {result : Except SandboxFailure (SandboxConnectorStep ν)}
    (h : invokeRunner world (execution.invocation continuation) events = (after, result)) :
    TraceConfined execution after ∧ after.countP SandboxEvent.isRequest = events.countP SandboxEvent.isRequest ∧
      after.countP SandboxEvent.isInvocation ≤ events.countP SandboxEvent.isInvocation + 1 ∧
      ∀ step, result = .ok step → ∃ reply, readReply reply = .ok step ∧
        after = .invoked (execution.invocation continuation) (some reply) :: events := by
  rw [invokeRunner] at h
  split_ifs at h
  · cases h
    exact ⟨htrace, rfl, Nat.le_succ _, nofun⟩
  · cases hreply : world.runner events (execution.invocation continuation) with
    | none =>
      rw [hreply] at h
      cases h
      exact ⟨⟨hcontinues, htrace⟩, rfl, (List.countP_cons_of_pos rfl).le, nofun⟩
    | some reply =>
      rw [hreply] at h
      cases h
      exact ⟨⟨hcontinues, htrace⟩, rfl, (List.countP_cons_of_pos rfl).le, fun step hstep => ⟨reply, hstep, rfl⟩⟩

omit [CountNumbers ν] in
theorem performEffect_confined {allowedHosts : List String} (hhosts : DeclaredHosts execution allowedHosts)
    (htrace : TraceConfined execution events) {request : SandboxHttpRequest} {state : Json ν}
    {invocation : SandboxConnectorInvocation ν} {reply : SandboxResponse} {earlier : List (SandboxEvent ν)}
    (hevents : events = .invoked invocation (some reply) :: earlier)
    (hreply : readReply reply = .ok (.httpRequest request state))
    {after : List (SandboxEvent ν)} {result : Except SandboxFailure (SandboxContinuation ν)}
    (h : performEffect world request state allowedHosts events = (after, result)) :
    TraceConfined execution after ∧ after.countP SandboxEvent.isRequest ≤ events.countP SandboxEvent.isRequest + 1 ∧
      after.countP SandboxEvent.isInvocation = events.countP SandboxEvent.isInvocation ∧
      ∀ continuation, result = .ok continuation → ContinuesFrom ReturnsStateWithoutPrototypes after (some continuation) := by
  rw [performEffect] at h
  cases hegress : buildEgressRequest (ν := ν) request allowedHosts with
  | error failure =>
    rw [hegress] at h
    cases h
    exact ⟨htrace, Nat.le_succ _, rfl, nofun⟩
  | ok egress =>
    have hconfined := buildEgressRequest_confined hhosts hegress
    rw [hegress] at h
    cases hresponse : world.upstream events egress with
    | none =>
      simp only [hresponse] at h
      cases h
      exact ⟨⟨hconfined, htrace⟩, (List.countP_cons_of_pos rfl).le, rfl, nofun⟩
    | some response =>
      simp only [hresponse] at h
      cases h
      refine ⟨⟨hconfined, htrace⟩, (List.countP_cons_of_pos rfl).le, rfl, ?_⟩
      intro continuation hcontinuation
      cases hupstream : readUpstream (ν := ν) response with
      | error failure =>
        rw [hupstream] at hcontinuation
        cases hcontinuation
      | ok upstream =>
        rw [hupstream] at hcontinuation
        cases hcontinuation
        rw [hevents]
        refine ⟨readReply_state hreply, hupstream, ?_⟩
        simp only [readUpstream, except_bind_eq_ok, pure, Except.pure, Except.ok.injEq] at hupstream
        obtain ⟨bytes, -, rfl⟩ := hupstream
        exact sanitizeResponseHeaders_noCookie ν response.headers

omit [IntegerNumbers ν] [CountNumbers ν] in
theorem completeSandbox_eq_ok {output value : Json ν} (h : completeSandbox execution output = .ok value) :
    sandboxJsonSchemaMatches execution.outputSchema value = .ok true := by
  simp only [completeSandbox, except_bind_eq_ok, failUnless_eq_ok, exists_const, pure, Except.pure, Except.ok.injEq] at h
  obtain ⟨valid, hvalid, htrue, rfl⟩ := h
  rw [hvalid, htrue]

omit [IntegerNumbers ν] [CountNumbers ν] in
theorem sandboxTurn_ended {step : Except SandboxFailure (SandboxConnectorStep ν)} {result : Except SandboxFailure (Json ν)}
    (h : sandboxTurn execution step = .ended result) {value : Json ν} (hvalue : result = .ok value) :
    sandboxJsonSchemaMatches execution.outputSchema value = .ok true := by
  subst hvalue
  cases step with
  | error failure => cases h
  | ok step =>
    cases step with
    | complete output =>
      injection h with h
      exact completeSandbox_eq_ok h
    | httpRequest request state => cases h
    | failure error => cases h

omit [IntegerNumbers ν] [CountNumbers ν] in
theorem sandboxTurn_asked {step : Except SandboxFailure (SandboxConnectorStep ν)} {request : SandboxHttpRequest} {state : Json ν}
    (h : sandboxTurn execution step = .asked request state) : step = .ok (.httpRequest request state) := by
  cases step with
  | error failure => cases h
  | ok step =>
    cases step with
    | complete output => cases h
    | httpRequest request state =>
      cases h
      rfl
    | failure error => cases h

theorem runSandboxSteps_confined {allowedHosts : List String} (hhosts : DeclaredHosts execution allowedHosts) {remaining : Nat}
    (htrace : TraceConfined execution events) (hcontinues : ContinuesFrom ReturnsStateWithoutPrototypes events continuation)
    {after : List (SandboxEvent ν)} {result : Except SandboxFailure (Json ν)}
    (h : runSandboxSteps execution world allowedHosts remaining continuation events = (after, result)) :
    TraceConfined execution after ∧
      after.countP SandboxEvent.isRequest ≤ events.countP SandboxEvent.isRequest + remaining ∧
      after.countP SandboxEvent.isInvocation ≤ events.countP SandboxEvent.isInvocation + (remaining + 1) ∧
      ∀ value, result = .ok value → sandboxJsonSchemaMatches execution.outputSchema value = .ok true := by
  induction remaining generalizing continuation events with
  | zero =>
    rcases hinvoke : invokeRunner world (execution.invocation continuation) events with ⟨invoked, step⟩
    obtain ⟨htrace, hrequests, hinvocations, -⟩ := invokeRunner_confined htrace hcontinues hinvoke
    simp only [runSandboxSteps, hinvoke] at h
    cases hturn : sandboxTurn execution step with
    | ended result =>
      simp only [hturn] at h
      cases h
      exact ⟨htrace, hrequests.le, hinvocations, fun value hvalue => sandboxTurn_ended hturn hvalue⟩
    | asked request state =>
      simp only [hturn] at h
      cases h
      exact ⟨htrace, hrequests.le, hinvocations, nofun⟩
  | succ remaining ih =>
    rcases hinvoke : invokeRunner world (execution.invocation continuation) events with ⟨invoked, step⟩
    obtain ⟨htrace, hrequests, hinvocations, hstep⟩ := invokeRunner_confined htrace hcontinues hinvoke
    simp only [runSandboxSteps, hinvoke] at h
    cases hturn : sandboxTurn execution step with
    | ended result =>
      simp only [hturn] at h
      cases h
      exact ⟨htrace, by omega, by omega, fun value hvalue => sandboxTurn_ended hturn hvalue⟩
    | asked request state =>
      obtain ⟨reply, hreply, hinvoked⟩ := hstep _ (sandboxTurn_asked hturn)
      rcases heffect : performEffect world request state allowedHosts invoked with ⟨performed, outcome⟩
      obtain ⟨htrace, hperformed, hsame, hnext⟩ := performEffect_confined hhosts htrace hinvoked hreply heffect
      simp only [hturn, heffect] at h
      cases outcome with
      | error failure =>
        cases h
        exact ⟨htrace, by omega, by omega, nofun⟩
      | ok continuation =>
        obtain ⟨hafter, hafterRequests, hafterInvocations, houtput⟩ := ih htrace (hnext continuation rfl) h
        exact ⟨hafter, by omega, by omega, houtput⟩

omit [IntegerNumbers ν] [CountNumbers ν] in
theorem prepareSandbox_hosts {allowedHosts : List String} (h : prepareSandbox execution = .ok allowedHosts) :
    DeclaredHosts execution allowedHosts := by
  simp only [prepareSandbox, except_bind_eq_ok, failUnless_eq_ok, exists_const, pure, Except.pure, Except.ok.injEq] at h
  obtain ⟨hosts, hpolicy, -, -, -, -, -, -, rfl⟩ := h
  cases hkind : execution.hostPolicy with
  | fixed declared =>
    rw [hkind, fixedHosts] at hpolicy
    obtain rfl := Except.ok.inj hpolicy
    exact ⟨declared, hkind, rfl⟩
  | runtime =>
    rw [hkind] at hpolicy
    cases hpolicy

/-- Whatever the runner and the upstream hosts answer, an execution is confined. -/
theorem executeSandboxConnector_confined (execution : SandboxConnectorExecution ν) (world : SandboxWorld ν) :
    SandboxConfined ReturnsStateWithoutPrototypes execution (executeSandboxConnector execution world) := by
  rw [executeSandboxConnector]
  cases hprepare : prepareSandbox execution with
  | error failure =>
    refine ⟨Nat.zero_le _, Nat.zero_le _, ?_, ?_, nofun⟩
    · intro request response hmem
      cases hmem
    · intro later invocation reply earlier hevents
      exact absurd hevents.symm (by simp)
  | ok allowedHosts =>
    rcases hrun : runSandboxSteps execution world allowedHosts (sandboxEffectBudget execution) none [] with ⟨after, result⟩
    have hnone : TraceConfined execution [] := trivial
    obtain ⟨htrace, hrequests, hinvocations, houtput⟩ :=
      runSandboxSteps_confined (prepareSandbox_hosts hprepare) hnone rfl hrun
    simp only [hrun]
    refine ⟨?_, ?_, fun _ _ hmem => htrace.egress hmem, ?_, houtput⟩
    · simpa [sandboxEffectBudget] using hrequests
    · simpa [sandboxEffectBudget] using hinvocations
    · intro later invocation reply earlier hevents
      obtain rfl : after = later ++ .invoked invocation reply :: earlier := hevents
      exact htrace.continues

end Runs

section Prototypes

theorem runSandboxSteps_asked {ν : Type} [JsRuntime ν] [IntegerNumbers ν] [SandboxRuntime ν] [CountNumbers ν]
    {execution : SandboxConnectorExecution ν} {world : SandboxWorld ν} {allowedHosts : List String} {n : Nat}
    {continuation : Option (SandboxContinuation ν)} {next : SandboxContinuation ν} {events invoked performed : List (SandboxEvent ν)}
    {request : SandboxHttpRequest} {state : Json ν}
    (hinvoked : invokeRunner world (execution.invocation continuation) events = (invoked, .ok (.httpRequest request state)))
    (hperformed : performEffect world request state allowedHosts invoked = (performed, .ok next)) :
    runSandboxSteps execution world allowedHosts (n + 1) continuation events =
      runSandboxSteps execution world allowedHosts n (some next) performed := by
  rw [runSandboxSteps]
  simp only [hinvoked, sandboxTurn, hperformed]

theorem runSandboxSteps_failed {ν : Type} [JsRuntime ν] [IntegerNumbers ν] [SandboxRuntime ν] [CountNumbers ν]
    {execution : SandboxConnectorExecution ν} {world : SandboxWorld ν} {allowedHosts : List String} {n : Nat}
    {continuation : Option (SandboxContinuation ν)} {events invoked : List (SandboxEvent ν)} {failure : SandboxFailure}
    (hinvoked : invokeRunner world (execution.invocation continuation) events = (invoked, .error failure)) :
    (runSandboxSteps execution world allowedHosts n continuation events).1 = invoked := by
  cases n with
  | zero =>
    rw [runSandboxSteps]
    simp only [hinvoked, sandboxTurn]
  | succ n =>
    rw [runSandboxSteps]
    simp only [hinvoked, sandboxTurn]

theorem parseReply_toUTF8 {ν : Type} [JsRuntime ν] [IntegerNumbers ν] [SandboxRuntime ν] (text : String) :
    parseReply (ν := ν) text.toUTF8.data.toList =
      (parseJson IntegerNumbers.parseNumber text).map Json.withLastFields := by
  have hdecoded := JsString.utf8Decode_encode (SandboxRuntime.decodeInvalid ν) (.ofString text)
  rw [JsString.utf8Encode, JsString.text_ofString] at hdecoded
  exact congrArg (fun text => (parseJson IntegerNumbers.parseNumber text).map Json.withLastFields) hdecoded

theorem jsonQuote_length (text : String) :
    (jsonQuote text).toList.length = (text.toList.map fun c => (jsonEscape c).length).sum + 2 := by
  simp [jsonQuote, List.length_flatMap]

local instance exampleHost : SandboxRuntime SafeInteger where
  parseUrl text :=
    if text = "https://a.io/" then some ⟨"https://a.io/", "https:", "", "", "a.io", ""⟩ else none
  toLowerCase := asciiLowerCase
  toLowerCase_ascii _ _ := rfl
  finiteNumber text := text.toNat?.map fun n => n
  decodeInvalid _ := ""
  compile _ := some fun _ => true

def exampleExecution : SandboxConnectorExecution SafeInteger where
  actionId := "lookup"
  connectorId := "example"
  connectorVersion := "1.0.0"
  credential := []
  credentialSchema := .object []
  hostPolicy := .fixed ["a.io"]
  input := .null
  inputSchema := .object []
  outputSchema := .object []
  runId := "8f14e45f-ceea-4670-9b2e-2f5d8b6c1a11"

def exampleReply : String :=
  "\x7b\"protocolVersion\":\"1.0\",\"step\":\x7b\"kind\":\"http_request\",\"request\":\x7b\"bodyBase64\":null,\"headers\":\x7b\x7d,\"method\":\"GET\",\"url\":\"https://a.io/\"\x7d,\"state\":\x7b\"__proto__\":null\x7d\x7d\x7d"

def exampleWorld : SandboxWorld SafeInteger where
  runner events _ := if events.isEmpty then some ⟨200, [], some [exampleReply.toUTF8.data.toList], false⟩ else none
  upstream _ _ := some ⟨200, [], none, false⟩

def exampleMessage : Json SafeInteger :=
  .object [("protocolVersion", .string "1.0"),
    ("step", .object [("kind", .string "http_request"),
      ("request", .object [("bodyBase64", .null), ("headers", .object []), ("method", .string "GET"),
        ("url", .string "https://a.io/")]),
      ("state", .object [("__proto__", .null)])])]

def exampleResponse : SandboxResponse := ⟨200, [], some [exampleReply.toUTF8.data.toList], false⟩

set_option maxRecDepth 4000 in
theorem exampleResponse_body :
    readBodyWithinLimit SafeInteger exampleResponse maximumRpcBytes = .ok exampleReply.toUTF8.data.toList := by
  have hsize : exampleReply.utf8ByteSize ≤ 4 * _ := utf8ByteSize_ofList_le _
  have hlength : exampleReply.utf8ByteSize ≤ maximumRpcBytes := hsize.trans (by decide)
  simp [readBodyWithinLimit, exampleResponse, property?, failUnless, readChunks, responseTooLarge, hlength, bind, Except.bind]

set_option maxRecDepth 4000 in
theorem parseReply_exampleReply : parseReply (ν := SafeInteger) exampleReply.toUTF8.data.toList = some exampleMessage := by
  have hchars : exampleReply.toList = _ := String.toList_ofList
  rw [parseReply_toUTF8, parseJson, hchars]
  rfl

theorem readSandboxResult_exampleMessage :
    readSandboxResult (isUrl (ν := SafeInteger)) exampleMessage =
      some (.httpRequest ⟨none, [], .get, "https://a.io/"⟩ (.object [])) := by
  have htrim : jsTrim "https://a.io/" = "https://a.io/" := rfl
  have hhttps : "https://a.io/".startsWith "https://" = true := by simp [String.startsWith_string_iff]
  have hurl : readUrl (ν := SafeInteger) (isUrl (ν := SafeInteger)) (.string "https://a.io/") = some "https://a.io/" := by
    simp [readUrl, isUrl, htrim, hhttps, SandboxRuntime.parseUrl]
  have hread : readSandboxResult (isUrl (ν := SafeInteger)) exampleMessage =
      ((readUrl (isUrl (ν := SafeInteger)) (.string "https://a.io/" : Json SafeInteger)).bind fun url =>
        some ⟨none, [], .get, url⟩).bind fun request => some (.httpRequest request (.object [])) := rfl
  rw [hread, hurl, Option.bind_some, Option.bind_some]

theorem readReply_exampleResponse :
    readReply (ν := SafeInteger) exampleResponse =
      .ok (.httpRequest ⟨none, [], .get, "https://a.io/"⟩ (.object [])) := by
  have hstatus : (200 ≤ exampleResponse.status && exampleResponse.status ≤ 299) = true := rfl
  simp only [readReply, except_bind_eq_ok, failUnless_eq_ok, orFail_eq_ok, exists_const]
  exact ⟨hstatus, _, exampleResponse_body, _, parseReply_exampleReply, readSandboxResult_exampleMessage⟩

theorem prepareSandbox_example : prepareSandbox exampleExecution = .ok ["a.io"] := by
  have hschema : compileSandboxJsonSchema (.object [] : Json SafeInteger) = .ok fun _ => true := rfl
  have hlower : SandboxRuntime.toLowerCase SafeInteger "a.io" = "a.io" := rfl
  simp [prepareSandbox, fixedHosts, exampleExecution, sandboxJsonSchemaMatches, hschema, hlower, failUnless, bind,
    Except.bind, pure, Except.pure]

def exampleContinuation : SandboxContinuation SafeInteger := ⟨⟨"", [], 200⟩, .object []⟩

theorem exampleInvocation_small :
    encodedBytes (exampleExecution.invocation none).toJson.stringify ≤ maximumRpcBytes ∧
    encodedBytes (exampleExecution.invocation (some exampleContinuation)).toJson.stringify ≤ maximumRpcBytes := by
  constructor
  all_goals
    refine (utf8ByteSize_le _).trans ?_
    simp only [exampleExecution, exampleContinuation, SandboxConnectorExecution.invocation, SandboxConnectorInvocation.toJson,
      SandboxContinuation.toJson, SandboxHttpResponse.toJson, Option.map_none, Option.map_some, Option.getD_none,
      Option.getD_some, List.map_nil, sandboxProtocolVersion, Json.stringify, Json.stringifyFields,
      String.intercalate_cons_cons, String.intercalate_singleton, String.intercalate_nil, String.toList_append,
      List.length_append, jsonQuote_length]
    decide

def exampleRequested : SandboxEvent SafeInteger :=
  .requested ⟨⟨"https://a.io/", "https:", "", "", "a.io", ""⟩, .get, [], none⟩ (some ⟨200, [], none, false⟩)

theorem performEffect_example (events : List (SandboxEvent SafeInteger)) :
    performEffect exampleWorld ⟨none, [], .get, "https://a.io/"⟩ (.object []) ["a.io"] events =
      (exampleRequested :: events, .ok exampleContinuation) := by
  have hbuilt : buildEgressRequest (ν := SafeInteger) ⟨none, [], .get, "https://a.io/"⟩ ["a.io"] =
      .ok ⟨⟨"https://a.io/", "https:", "", "", "a.io", ""⟩, .get, [], none⟩ := rfl
  simp only [performEffect, hbuilt]
  rfl

theorem executeSandboxConnector_example :
    (executeSandboxConnector exampleExecution exampleWorld).1 =
      [.invoked (exampleExecution.invocation (some exampleContinuation)) none, exampleRequested,
        .invoked (exampleExecution.invocation none) (some exampleResponse)] := by
  have hinvoked : invokeRunner exampleWorld (exampleExecution.invocation none) [] =
      ([.invoked (exampleExecution.invocation none) (some exampleResponse)], readReply exampleResponse) := by
    rw [invokeRunner, if_neg (Nat.not_lt.mpr exampleInvocation_small.1)]
    rfl
  have hunavailable : ∀ event events,
      invokeRunner exampleWorld (exampleExecution.invocation (some exampleContinuation)) (event :: events) =
        (.invoked (exampleExecution.invocation (some exampleContinuation)) none :: event :: events,
          .error (.connector ⟨.transient, "The sandbox connector runner is unavailable.", true⟩)) := by
    intro event events
    rw [invokeRunner, if_neg (Nat.not_lt.mpr exampleInvocation_small.2)]
    rfl
  rw [readReply_exampleResponse] at hinvoked
  have hasked := runSandboxSteps_asked (n := 3) hinvoked (performEffect_example _)
  rw [executeSandboxConnector, prepareSandbox_example]
  exact (congrArg Prod.fst hasked).trans (runSandboxSteps_failed (hunavailable _ _))

theorem sandbox_state_loses_prototype :
    ¬ SandboxConfined ReturnsState exampleExecution (executeSandboxConnector exampleExecution exampleWorld) := by
  intro hconfined
  obtain ⟨hreturned, -⟩ := hconfined.continuations [] _ _ _ executeSandboxConnector_example
  rw [ReturnsState, returnedState, exampleResponse_body] at hreturned
  simp only [parseReply_exampleReply] at hreturned
  cases hreturned

end Prototypes

end ByokGrid
