import ByokGrid.GridView
import ByokGrid.SandboxProtocol

/-! A waterfall asks its providers one after the other until one of them matches.
What is saved between two of them is where the next attempt starts. -/

namespace ByokGrid

inductive ProviderOutcome where
  | matched
  | noMatch
  | invalidInput
  | rateLimited
  | providerError
  deriving Repr, DecidableEq

inductive WaterfallDecision where
  | proceed
  | retryCurrent
  | stopFailure
  | stopSuccess
  deriving Repr, DecidableEq

def decideWaterfallAfterProvider : ProviderOutcome → WaterfallDecision
  | .matched => .stopSuccess
  | .noMatch => .proceed
  | .rateLimited => .retryCurrent
  | .invalidInput | .providerError => .stopFailure

structure WaterfallProvider where
  credentialId : Option String
  name : String
  providerId : String
  resultPath : String
  url : String
  deriving Repr, DecidableEq

structure HttpWaterfallRunPlan where
  providers : List WaterfallProvider
  deriving Repr, DecidableEq

structure WaterfallAttempt (ν : Type) where
  errorCode : Option ConnectorErrorCode
  httpStatus : Option ν
  outcome : ProviderOutcome
  providerId : String
  providerName : String
  requestId : Option String

structure WaterfallProgress (ν : Type) where
  attempts : List (WaterfallAttempt ν)
  nextProviderIndex : Int

structure WaterfallResult (ν : Type) where
  attempts : List (WaterfallAttempt ν)
  matchedProviderId : Option String
  matchedProviderName : Option String
  value : Json ν

inductive StoredRunOutput (ν : Type) where
  | nothing
  | progress (progress : WaterfallProgress ν)
  | result (result : WaterfallResult ν)

/-- Whether a text is a URL, and the length of an array as a number. -/
class WaterfallRuntime (ν : Type) where
  isUrl : String → Bool
  arrayLength : Nat → ν

section Waterfall

variable {ν : Type}

def textBetween (minimum maximum : Nat) (text : String) : Bool :=
  minimum ≤ utf16Length text && utf16Length text ≤ maximum

/-- `httpWaterfallRunPlanSchema`. -/
def HttpWaterfallRunPlan.accepted (ν : Type) [WaterfallRuntime ν] (plan : HttpWaterfallRunPlan) : Bool :=
  2 ≤ plan.providers.length && plan.providers.length ≤ 10 && plan.providers.all fun provider =>
    provider.credentialId.all isEntityId && textBetween 1 80 provider.name && isEntityId provider.providerId &&
      textBetween 1 240 provider.resultPath && WaterfallRuntime.isUrl ν provider.url

def readProgress (output : StoredRunOutput ν) (providerCount : Nat) : WaterfallProgress ν :=
  match output with
  | .progress candidate =>
    if candidate.nextProviderIndex < 0 ∨ candidate.nextProviderIndex > providerCount then ⟨[], 0⟩ else candidate
  | _ => ⟨[], 0⟩

inductive ProviderError where
  | connector (error : ConnectorError)
  | other
  deriving Repr, DecidableEq

structure ProviderFailure where
  code : ConnectorErrorCode
  message : String
  outcome : ProviderOutcome
  deriving Repr, DecidableEq

def classifyProviderFailure : ProviderError → ProviderFailure
  | .other => ⟨.upstream, "The provider failed unexpectedly.", .providerError⟩
  | .connector error =>
    match error.code with
    | .rateLimited => ⟨error.code, error.message, .rateLimited⟩
    | .authentication | .invalidInput | .policy | .responseTooLarge => ⟨error.code, error.message, .invalidInput⟩
    | .transient | .upstream => ⟨error.code, error.message, .providerError⟩

variable [WaterfallRuntime ν]

def ownProperty (value : Json ν) (segment : String) : Option (Json ν) :=
  match value with
  | .object fields => fields.lookup segment
  | .array items =>
    if segment = "length" then some (.number (WaterfallRuntime.arrayLength items.length))
    else (items.zipIdx.find? fun item => toString item.2 = segment).map Prod.fst
  | _ => none

def readSegments : List String → Json ν → Option (Json ν)
  | [], current => some current
  | segment :: segments, current => (ownProperty current segment).bind (readSegments segments)

def readResultPath (output : Json ν) (path : String) : Option (Json ν) :=
  readSegments (path.splitOn ".") output

def hasMatchValue : Option (Json ν) → Bool
  | none | some .null => false
  | some (.string value) => jsTrim value ≠ ""
  | some (.array items) => !items.isEmpty
  | some (.object fields) => !fields.isEmpty
  | some (.boolean _) | some (.number _) => true

/-- `readResponseMetadata`: the numeric status and the text of the request's identifier. -/
def responseStatus (output : Json ν) : Option ν :=
  match ownProperty output "status" with
  | some (.number status) => some status
  | _ => none

def responseRequestId (output : Json ν) : Option String :=
  match ownProperty output "requestId" with
  | some (.string requestId) => some requestId
  | _ => none

/-- What an attempt meets: the answer of the provider at an index, unless the worker stops before it, and
whether the progress after it is stored and the worker goes on. -/
inductive SaveOutcome where
  | saved
  | savedThenStopped
  | lost
  deriving Repr, DecidableEq

structure WaterfallWorld (ν : Type) where
  executeProvider : Nat → Option (Except ProviderError (Json ν))
  saveProgress : Nat → SaveOutcome

inductive WaterfallEnding (ν : Type) where
  | result (result : WaterfallResult ν)
  | failure (error : ConnectorError)
  | invalidPlan
  | stopped

structure ProviderCall where
  index : Nat
  outcome : Option ProviderOutcome
  deriving Repr, DecidableEq

structure WaterfallTrace (ν : Type) where
  calls : List ProviderCall
  output : StoredRunOutput ν
  ending : WaterfallEnding ν

def failedAttempt (provider : WaterfallProvider) (failure : ProviderFailure) : WaterfallAttempt ν :=
  { errorCode := some failure.code, httpStatus := none, outcome := failure.outcome, providerId := provider.providerId,
    providerName := provider.name, requestId := none }

def providerOutcome (provider : WaterfallProvider) (output : Json ν) : ProviderOutcome :=
  if hasMatchValue (readResultPath output provider.resultPath) then .matched else .noMatch

def answeredAttempt (provider : WaterfallProvider) (output : Json ν) : WaterfallAttempt ν :=
  { errorCode := none, httpStatus := responseStatus output, outcome := providerOutcome provider output,
    providerId := provider.providerId, providerName := provider.name, requestId := responseRequestId output }

def WaterfallTrace.afterCall (call : ProviderCall) (trace : WaterfallTrace ν) : WaterfallTrace ν :=
  { trace with calls := call :: trace.calls }

def executeProviders (world : WaterfallWorld ν) :
    List WaterfallProvider → Nat → List (WaterfallAttempt ν) → StoredRunOutput ν → WaterfallTrace ν
  | [], _, attempts, stored => ⟨[], stored, .result ⟨attempts, none, none, .null⟩⟩
  | provider :: providers, index, attempts, stored =>
    match world.executeProvider index with
    | none => ⟨[⟨index, none⟩], stored, .stopped⟩
    | some (.error error) =>
      let failure := classifyProviderFailure error
      let logged := attempts ++ [failedAttempt provider failure]
      let decision := decideWaterfallAfterProvider failure.outcome
      let progress : WaterfallProgress ν := ⟨logged, if decision = .retryCurrent then index else index + 1⟩
      let call : ProviderCall := ⟨index, some failure.outcome⟩
      match world.saveProgress index with
      | .lost => ⟨[call], stored, .stopped⟩
      | .savedThenStopped => ⟨[call], .progress progress, .stopped⟩
      | .saved =>
        if decision = .proceed then
          (executeProviders world providers (index + 1) logged (.progress progress)).afterCall call
        else ⟨[call], .progress progress, .failure ⟨failure.code, failure.message, decision = .retryCurrent⟩⟩
    | some (.ok output) =>
      let outcome := providerOutcome provider output
      let logged := attempts ++ [answeredAttempt provider output]
      let call : ProviderCall := ⟨index, some outcome⟩
      if decideWaterfallAfterProvider outcome = .stopSuccess then
        ⟨[call], stored, .result ⟨logged, some provider.providerId, some provider.name,
          (readResultPath output provider.resultPath).getD .null⟩⟩
      else
        let progress : WaterfallProgress ν := ⟨logged, index + 1⟩
        match world.saveProgress index with
        | .lost => ⟨[call], stored, .stopped⟩
        | .savedThenStopped => ⟨[call], .progress progress, .stopped⟩
        | .saved => (executeProviders world providers (index + 1) logged (.progress progress)).afterCall call

def executeWaterfallPlan (plan : HttpWaterfallRunPlan) (stored : StoredRunOutput ν) (world : WaterfallWorld ν) :
    WaterfallTrace ν :=
  if plan.accepted ν then
    let prior := readProgress stored plan.providers.length
    let start := prior.nextProviderIndex.toNat
    executeProviders world (plan.providers.drop start) start prior.attempts stored
  else ⟨[], stored, .invalidPlan⟩

structure WaterfallRun (ν : Type) where
  calls : List ProviderCall
  output : StoredRunOutput ν

def WaterfallRun.start : WaterfallRun ν :=
  ⟨[], .nothing⟩

def WaterfallRun.attempt (plan : HttpWaterfallRunPlan) (run : WaterfallRun ν) (world : WaterfallWorld ν) :
    WaterfallRun ν :=
  let trace := executeWaterfallPlan plan run.output world
  ⟨run.calls ++ trace.calls, trace.output⟩

end Waterfall

end ByokGrid
