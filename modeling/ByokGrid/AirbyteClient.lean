import ByokGrid.AirbyteRecords
import ByokGrid.Effects

/-! The client of the ingestion endpoints: it posts a batch and polls the status of its
application. Delays are left out: what the runtime answers is a list of outcomes. -/

namespace ByokGrid

structure DestinationRoute where
  bearerToken : String
  endpointUrl : String
  namespace_ : Option String
  stream : String

structure FetchRequest where
  url : String
  method : String
  bearerToken : String
  body : Option String
  idempotencyKey : Option String
  deriving DecidableEq

structure FetchResponse where
  status : Nat
  location : Option String
  contentLength : Option Nat
  body : Option (List UInt8)

inductive FetchOutcome where
  | response (response : FetchResponse)
  | thrown

structure Exchange where
  request : FetchRequest
  outcome : FetchOutcome

structure ParsedUrl where
  origin : String
  pathname : String
  search : String
  hash : String
  username : String
  password : String
  href : String

/-- `new URL(text, base)`. -/
class UrlRuntime where
  parseUrl : String → Option String → Option ParsedUrl

structure Submission where
  key : String
  sequence : Nat
  records : List String
  body : String
  idempotencyKey : String

inductive AirbyteEvent where
  | accepted (key record : String)
  | posted (submission : Submission)
  | exchanged (exchange : Exchange)
  | applied (submission : Submission)
  | emitted (line : String)

structure PendingBatch where
  routeKey : String
  byteCount : Nat
  records : List String

instance : Keyed PendingBatch String := ⟨PendingBatch.routeKey⟩

structure WriterState where
  batches : Table PendingBatch
  batchSequence : Nat
  history : List AirbyteEvent
  outcomes : List FetchOutcome
  clock : List Int

abbrev AirbyteProgram := EStateM AirbyteStop WriterState

def runtimeFetch (request : FetchRequest) : AirbyteProgram FetchOutcome := fun s =>
  match s.outcomes with
  | [] => .error .waiting s
  | outcome :: outcomes =>
    .ok outcome { s with outcomes := outcomes, history := s.history ++ [.exchanged ⟨request, outcome⟩] }

def runtimeNow : AirbyteProgram Int := fun s =>
  match s.clock with
  | [] => .error .waiting s
  | now :: clock => .ok now { s with clock := clock }

def maximumResponseBytes : Nat := 64 * 1024
def requestAttempts : Nat := 3

def fetchAttempts (request : FetchRequest) : Nat → AirbyteProgram FetchResponse
  | 0 => throw (.request "BYOK Grid could not be reached after three attempts.")
  | attempts + 1 => do
    match ← runtimeFetch request with
    | .thrown => fetchAttempts request attempts
    | .response response =>
      if 300 ≤ response.status && response.status < 400 then
        throw (.request "BYOK Grid endpoints must not redirect.")
      else if response.status ≠ 429 && response.status < 500 then return response
      else fetchAttempts request attempts

def guardedFetch (request : FetchRequest) : AirbyteProgram FetchResponse :=
  fetchAttempts request requestAttempts

def decodeUtf8 (bytes : List UInt8) : Option String :=
  (String.fromUTF8? ⟨bytes.toArray⟩).map fun text =>
    match text.toList with
    | '\uFEFF' :: cs => String.ofList cs
    | _ => text

section Responses

variable (ν : Type) [IntegerNumbers ν]

def readBoundedResponse (response : FetchResponse) : Except AirbyteStop (List UInt8) :=
  if response.contentLength.any fun length => maximumResponseBytes < length then
    .error (.request "BYOK Grid returned an oversized response.")
  else
    match response.body with
    | none => .error .runtime
    | some bytes =>
      if maximumResponseBytes < bytes.length then .error (.request "BYOK Grid returned an oversized response.")
      else .ok bytes

def readJsonObject (response : FetchResponse) : Except AirbyteStop (List (String × Json ν)) := do
  let bytes ← readBoundedResponse response
  match (decodeUtf8 bytes).bind fun text => (parseJson IntegerNumbers.parseNumber text).map Json.withLastFields with
  | none => .error (.request "BYOK Grid returned invalid JSON.")
  | some (.object value) => .ok value
  | some _ => .error (.request "BYOK Grid returned an invalid JSON document.")

end Responses

def validateStatusLocation [UrlRuntime] (endpointUrl : String) (location : Option String) (batchId : String) :
    Except AirbyteStop String :=
  match location with
  | none | some "" => .error (.request "Batch acceptance did not include a status location.")
  | some location =>
    match UrlRuntime.parseUrl endpointUrl none with
    | none => .error .runtime
    | some endpoint =>
      match UrlRuntime.parseUrl location (some endpoint.href) with
      | none => .error .runtime
      | some status =>
        if status.origin ≠ endpoint.origin || status.pathname ≠ endpoint.pathname ++ "/batches/" ++ batchId ||
            status.search ≠ "" || status.hash ≠ "" || status.username ≠ "" || status.password ≠ "" then
          .error (.request "Batch acceptance returned an unsafe status location.")
        else .ok status.href

def safeDetail (value : String) : String :=
  sliceUnits 300 (spaceBreaks value)

section Protocol

variable (ν : Type) [IntegerNumbers ν]

def statusRequest (route : DestinationRoute) (statusUrl : String) : FetchRequest where
  url := statusUrl
  method := "GET"
  bearerToken := route.bearerToken
  body := none
  idempotencyKey := none

def postRequest (route : DestinationRoute) (submission : Submission) : FetchRequest where
  url := route.endpointUrl
  method := "POST"
  bearerToken := route.bearerToken
  body := some submission.body
  idempotencyKey := some submission.idempotencyKey

def batchFailure (status : String) (document : List (String × Json ν)) : AirbyteStop :=
  .request ("BYOK Grid batch " ++ status ++
    match property? document "errorMessage" with
    | some (.string message) => ": " ++ safeDetail message
    | _ => "")

/-- The loop over the status of a batch. Every round takes an answer of the runtime, so
more rounds than there are answers are never begun. -/
def pollApplication (route : DestinationRoute) (statusUrl : String) (timeoutSeconds : Nat) (deadline : Int) :
    Nat → AirbyteProgram Unit
  | 0 => throw .waiting
  | rounds + 1 => do
    let response ← guardedFetch (statusRequest route statusUrl)
    stopIf (response.status ≠ 200) (.request ("Batch status failed with HTTP " ++ toString response.status ++ "."))
    let document ← ofExcept (readJsonObject ν response)
    match property? document "status" with
    | some (.string "succeeded") => return
    | some (.string "failed") => throw (batchFailure ν "failed" document)
    | some (.string "cancelled") => throw (batchFailure ν "cancelled" document)
    | some (.string "queued") | some (.string "running") =>
      let now ← runtimeNow
      stopIf (deadline ≤ now)
        (.request ("BYOK Grid did not apply the batch within " ++ toString timeoutSeconds ++ " seconds."))
      pollApplication route statusUrl timeoutSeconds deadline rounds
    | _ => throw (.request "Batch status returned an unknown state.")

def waitForApplication (route : DestinationRoute) (statusUrl : String) (timeoutSeconds : Nat) : AirbyteProgram Unit := do
  let start ← runtimeNow
  let s ← get
  pollApplication ν route statusUrl timeoutSeconds (start + timeoutSeconds * 1000) (s.outcomes.length + 1)

variable [JsRuntime ν] [UrlRuntime]

def submitBatch (route : DestinationRoute) (submission : Submission) (timeoutSeconds : Nat) : AirbyteProgram Unit := do
  let response ← guardedFetch (postRequest route submission)
  stopIf (response.status ≠ 202) (.request ("Batch submission failed with HTTP " ++ toString response.status ++ "."))
  let accepted ← ofExcept (readJsonObject ν response)
  match property? accepted "id" with
  | some (.string id) =>
    stopIf (asString? (property? accepted "status") ∉ ["queued", "running", "succeeded"])
      (.request "Batch submission returned an invalid acceptance document.")
    let statusUrl ← ofExcept (validateStatusLocation route.endpointUrl response.location id)
    waitForApplication ν route statusUrl timeoutSeconds
  | _ => throw (.request "Batch submission returned an invalid acceptance document.")

end Protocol

structure Exchanged (s t : WriterState) (exchanges : List Exchange) : Prop where
  batches : t.batches = s.batches
  batchSequence : t.batchSequence = s.batchSequence
  history : t.history = s.history ++ exchanges.map .exchanged

theorem Exchanged.refl (s : WriterState) : Exchanged s s [] :=
  ⟨rfl, rfl, by simp⟩

theorem Exchanged.trans {s t u : WriterState} {xs ys : List Exchange} (hst : Exchanged s t xs)
    (htu : Exchanged t u ys) : Exchanged s u (xs ++ ys) :=
  ⟨htu.batches.trans hst.batches, htu.batchSequence.trans hst.batchSequence, by
    rw [htu.history, hst.history, List.map_append, List.append_assoc]⟩

def StoppedClient (s : WriterState) (e : AirbyteStop) (t : WriterState) : Prop :=
  e ≠ .checkpoint ∧ ∃ exchanges, Exchanged s t exchanges

theorem StoppedClient.refl {e : AirbyteStop} (s : WriterState) (h : e ≠ .checkpoint) : StoppedClient s e s :=
  ⟨h, [], Exchanged.refl s⟩

theorem StoppedClient.after {s t u : WriterState} {e : AirbyteStop} {exchanges : List Exchange}
    (h : StoppedClient t e u) (hst : Exchanged s t exchanges) : StoppedClient s e u := by
  obtain ⟨hne, more, hmore⟩ := h
  exact ⟨hne, exchanges ++ more, hst.trans hmore⟩

theorem runtimeFetch_spec (request : FetchRequest) (s : WriterState) :
    Ensures (runtimeFetch request) s (fun outcome t => Exchanged s t [⟨request, outcome⟩]) (StoppedClient s) := by
  unfold Ensures runtimeFetch
  cases hout : s.outcomes with
  | nil => exact StoppedClient.refl s (by simp)
  | cons outcome outcomes => exact ⟨rfl, rfl, rfl⟩

theorem runtimeNow_spec (s : WriterState) :
    Ensures runtimeNow s (fun _ t => Exchanged s t []) (StoppedClient s) := by
  unfold Ensures runtimeNow
  cases hclock : s.clock with
  | nil => exact StoppedClient.refl s (by simp)
  | cons now clock => exact ⟨rfl, rfl, by simp⟩

def Fetched (request : FetchRequest) (s : WriterState) (response : FetchResponse) (t : WriterState) : Prop :=
  ∃ before, Exchanged s t (before ++ [⟨request, .response response⟩])

theorem Fetched.after {request : FetchRequest} {s t u : WriterState} {response : FetchResponse}
    {exchanges : List Exchange} (h : Fetched request t response u) (hst : Exchanged s t exchanges) :
    Fetched request s response u := by
  obtain ⟨before, hbefore⟩ := h
  refine ⟨exchanges ++ before, ?_⟩
  rw [List.append_assoc]
  exact hst.trans hbefore

theorem fetchAttempts_spec (request : FetchRequest) (attempts : Nat) (s : WriterState) :
    Ensures (fetchAttempts request attempts) s (Fetched request s) (StoppedClient s) := by
  induction attempts generalizing s with
  | zero => exact Ensures.throw (StoppedClient.refl s (by simp))
  | succ attempts ih =>
    refine Ensures.bind ((runtimeFetch_spec request s).mono (fun outcome t ht => ?_) fun _ _ h => h)
    have hagain := (ih t).mono (fun response u hu => hu.after ht) (fun e u hu => hu.after ht)
    cases outcome with
    | thrown => exact hagain
    | response response =>
      dsimp only
      split
      · exact Ensures.throw ((StoppedClient.refl t (by simp)).after ht)
      · split
        · exact Ensures.pure ⟨[], ht⟩
        · exact hagain

theorem guardedFetch_spec (request : FetchRequest) (s : WriterState) :
    Ensures (guardedFetch request) s (Fetched request s) (StoppedClient s) :=
  fetchAttempts_spec request requestAttempts s

section Submissions

variable (ν : Type) [IntegerNumbers ν]

theorem readJsonObject_error {response : FetchResponse} {e : AirbyteStop}
    (h : readJsonObject ν response = .error e) : e ≠ .checkpoint := by
  unfold readJsonObject at h
  cases hbytes : readBoundedResponse response with
  | error e' =>
    rw [hbytes] at h
    cases h
    unfold readBoundedResponse at hbytes
    split at hbytes
    · cases hbytes
      simp
    · split at hbytes
      · cases hbytes
        simp
      · split at hbytes
        · cases hbytes
          simp
        · cases hbytes
  | ok bytes =>
    rw [hbytes] at h
    simp only [bind, Except.bind] at h
    split at h
    · cases h
      simp
    · cases h
    · cases h
      simp

theorem validateStatusLocation_error [UrlRuntime] {endpointUrl batchId : String} {location : Option String}
    {e : AirbyteStop} (h : validateStatusLocation endpointUrl location batchId = .error e) : e ≠ .checkpoint := by
  unfold validateStatusLocation at h
  split at h
  · cases h
    simp
  · cases h
    simp
  · split at h
    · cases h
      simp
    · split at h
      · cases h
        simp
      · split at h
        · cases h
          simp
        · cases h

def ReportsSucceeded (response : FetchResponse) : Prop :=
  response.status = 200 ∧ ∃ document : List (String × Json ν), readJsonObject ν response = .ok document ∧
    property? document "status" = some (.string "succeeded")

def Polled (route : DestinationRoute) (statusUrl : String) (s t : WriterState) : Prop :=
  ∃ response, ReportsSucceeded ν response ∧ Fetched (statusRequest route statusUrl) s response t

/-- The exchanges of a submission which was applied: the post is answered with 202, and
the last status request with success. -/
def Confirms (route : DestinationRoute) (submission : Submission) (exchanges : List Exchange) : Prop :=
  ∃ before accepted statusUrl between response,
    exchanges = before ++ ⟨postRequest route submission, .response accepted⟩ ::
      between ++ [⟨statusRequest route statusUrl, .response response⟩] ∧
    accepted.status = 202 ∧ ReportsSucceeded ν response

theorem pollApplication_spec (route : DestinationRoute) (statusUrl : String) (timeoutSeconds : Nat) (deadline : Int)
    (rounds : Nat) (s : WriterState) :
    Ensures (pollApplication ν route statusUrl timeoutSeconds deadline rounds) s
      (fun _ t => Polled ν route statusUrl s t) (StoppedClient s) := by
  induction rounds generalizing s with
  | zero => exact Ensures.throw (StoppedClient.refl s (by simp))
  | succ rounds ih =>
    refine Ensures.bind ((guardedFetch_spec _ s).mono (fun response t ht => ?_) fun _ _ h => h)
    obtain ⟨before, hbefore⟩ := ht
    have hstop : ∀ {e : AirbyteStop}, e ≠ .checkpoint → StoppedClient s e t := fun he =>
      (StoppedClient.refl t he).after hbefore
    refine Ensures.bind (Ensures.stopIf (fun _ => hstop (by simp)) fun hstatus => ?_)
    refine Ensures.bind (Ensures.ofExcept (fun document hdocument => ?_) fun e he => hstop (readJsonObject_error ν he))
    have hagain : Ensures (do
        let now ← runtimeNow
        stopIf (deadline ≤ now)
          (.request ("BYOK Grid did not apply the batch within " ++ toString timeoutSeconds ++ " seconds."))
        pollApplication ν route statusUrl timeoutSeconds deadline rounds) t
        (fun _ u => Polled ν route statusUrl s u) (StoppedClient s) := by
      refine Ensures.bind ((runtimeNow_spec t).mono (fun now u hu => ?_) fun _ _ h => h.after hbefore)
      refine Ensures.bind (Ensures.stopIf (fun _ => ?_) fun _ => ?_)
      · exact ((StoppedClient.refl u (by simp)).after hu).after hbefore
      · refine (ih u).mono (fun _ v hv => ?_) fun e v hv => (hv.after hu).after hbefore
        obtain ⟨last, hlast, hfetched⟩ := hv
        exact ⟨last, hlast, (hfetched.after hu).after hbefore⟩
    split
    · rename_i hsucceeded
      exact Ensures.pure ⟨response, ⟨by simpa using hstatus, document, hdocument, hsucceeded⟩, before, hbefore⟩
    · exact Ensures.throw (hstop (by simp [batchFailure]))
    · exact Ensures.throw (hstop (by simp [batchFailure]))
    · exact hagain
    · exact hagain
    · exact Ensures.throw (hstop (by simp))

theorem waitForApplication_spec (route : DestinationRoute) (statusUrl : String) (timeoutSeconds : Nat) (s : WriterState) :
    Ensures (waitForApplication ν route statusUrl timeoutSeconds) s
      (fun _ t => Polled ν route statusUrl s t) (StoppedClient s) := by
  refine Ensures.bind ((runtimeNow_spec s).mono (fun start t ht => ?_) fun _ _ h => h)
  refine Ensures.bind (Ensures.get ?_)
  refine (pollApplication_spec ν route statusUrl timeoutSeconds _ _ t).mono (fun _ u hu => ?_) fun e u hu => hu.after ht
  obtain ⟨last, hlast, hfetched⟩ := hu
  exact ⟨last, hlast, hfetched.after ht⟩

variable [JsRuntime ν] [UrlRuntime]

theorem submitBatch_spec (route : DestinationRoute) (submission : Submission) (timeoutSeconds : Nat) (s : WriterState) :
    Ensures (submitBatch ν route submission timeoutSeconds) s
      (fun _ t => ∃ exchanges, Confirms ν route submission exchanges ∧ Exchanged s t exchanges) (StoppedClient s) := by
  refine Ensures.bind ((guardedFetch_spec _ s).mono (fun response t ht => ?_) fun _ _ h => h)
  obtain ⟨before, hbefore⟩ := ht
  have hstop : ∀ {e : AirbyteStop}, e ≠ .checkpoint → StoppedClient s e t := fun he =>
    (StoppedClient.refl t he).after hbefore
  refine Ensures.bind (Ensures.stopIf (fun _ => hstop (by simp)) fun hstatus => ?_)
  refine Ensures.bind (Ensures.ofExcept (fun accepted _ => ?_) fun e he => hstop (readJsonObject_error ν he))
  split
  · refine Ensures.bind (Ensures.stopIf (fun _ => hstop (by simp)) fun _ => ?_)
    refine Ensures.bind (Ensures.ofExcept (fun statusUrl _ => ?_) fun e he => hstop (validateStatusLocation_error he))
    refine (waitForApplication_spec ν route statusUrl timeoutSeconds t).mono (fun _ u hu => ?_)
      fun e u hu => hu.after hbefore
    obtain ⟨last, hlast, between, hbetween⟩ := hu
    refine ⟨_, ⟨before, response, statusUrl, between, last, rfl, by simpa using hstatus, hlast⟩, ?_⟩
    simpa using hbefore.trans hbetween
  · exact Ensures.throw (hstop (by simp))

end Submissions

end ByokGrid
