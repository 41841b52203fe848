import ByokGrid.CellRunAgreement
import ByokGrid.ColumnCreation
import ByokGrid.ConnectorRevocations
import ByokGrid.Settlements
import ByokGrid.Waterfall

/-! Connectors and credentials are revoked while columns are created, runs are queued and workers execute
them. An execution reads its run, asks whether its connector is revoked, and only then sends requests. -/

namespace ByokGrid

def httpIdentity : ConnectorExecutionIdentity := ⟨none, "http", "1.0.0", []⟩

def executedIdentity (identity : ConnectorExecutionIdentity) : ConnectorExecutionIdentity :=
  if identity.connectorId = "http_waterfall" then httpIdentity else identity

section Executed

variable {ν : Type}

def ConnectorActionConfiguration.identity (configuration : ConnectorActionConfiguration ν) :
    ConnectorExecutionIdentity :=
  ⟨configuration.artifactSha256, configuration.connectorId, configuration.connectorVersion, configuration.publisherKeyIds⟩

def CellRun.executed (run : CellRun ν) : ConnectorExecutionIdentity :=
  executedIdentity run.identity

def ColumnConfiguration.executed : ColumnConfiguration ν → Option ConnectorExecutionIdentity
  | .connectorAction configuration => some (executedIdentity configuration.identity)
  | .httpEnrichment _ => some httpIdentity
  | .httpWaterfall _ => some httpIdentity
  | .plain => none
  | .formula _ => none

def ConnectorRevoked (db : Database ν) (identity : ConnectorExecutionIdentity) : Bool :=
  connectorExecutionIsRevoked identity (getActiveSqliteConnectorRevocations db)

def CredentialRevoked (db : Database ν) (credentialId : String) : Bool :=
  (db.credentials.get? credentialId).any fun credential => credential.revokedAt.isSome

end Executed

section Credentials

variable {ν : Type}

structure RevokeCredential where
  credentialId : String
  userId : String
  deriving Repr, DecidableEq

/-- Its `requireWorkspaceMembership` is the check of the connector revocations. -/
def revokeSqliteCredential (db : Database ν) (input : RevokeCredential) (now : Int) : Except StoreError (Database ν) := do
  requireWorkspacePermission db input.userId .credentialsManage
  requireThat (db.credentials.get? input.credentialId).isSome (.access "Credential not found.")
  return { db with
    credentials := db.credentials.modify (fun credential => credential.id = input.credentialId)
      (fun credential => { credential with revokedAt := some now }) ⟨fun _ => rfl⟩ }

def missingWaterfallCredential : ConnectorError :=
  ⟨.authentication, "The selected waterfall credential is missing or revoked.", false⟩

def resolveWaterfallCredential (db : Database ν) (credentialId : Option String) (now : Int) :
    Except ConnectorError (Option Credential × Database ν) :=
  match credentialId with
  | none => .ok (none, db)
  | some credentialId =>
    match (db.credentials.get? credentialId).filter fun credential =>
        credential.connectorId = "http" && credential.revokedAt.isNone with
    | none => .error missingWaterfallCredential
    | some credential => .ok (some credential, touchCredential db (some credential.id) now)

end Credentials

/-- `httpWaterfallRunPlanSchema` on the stored input of a run, and the index which the stored output of an
earlier attempt leaves off at. -/
class RunPlanRuntime (ν : Type) where
  parseRunPlan : String → Option HttpWaterfallRunPlan
  nextProviderIndex : Option (Json ν) → Nat → Nat

def ConnectorErrorCode.text : ConnectorErrorCode → String
  | .authentication => "authentication"
  | .invalidInput => "invalid_input"
  | .policy => "policy"
  | .rateLimited => "rate_limited"
  | .responseTooLarge => "response_too_large"
  | .transient => "transient"
  | .upstream => "upstream"

/-- What `classifyFailure` makes of an issue of a schema. -/
def schemaFailure : WorkerFailure :=
  ⟨"invalid_input", "The connector input or credential is invalid.", false⟩

section CellExecution

variable {ν : Type}

/-- Where a worker is in an execution. A waterfall is at one of its providers, or has read the credential of one and
calls it. -/
inductive CellExecutionPhase (ν : Type) where
  | marked
  | loaded (run : CellRun ν) (credential : Option Credential)
  | allowed (run : CellRun ν) (credential : Option Credential)
  | waterfall (run : CellRun ν) (credential : Option Credential) (plan : HttpWaterfallRunPlan) (index : Nat)
  | provider (run : CellRun ν) (credential : Option Credential) (plan : HttpWaterfallRunPlan) (index : Nat)
    (provider : WaterfallProvider) (read : Option Credential)
  | answered (run : CellRun ν) (credential : Option Credential)
  | failing (failure : WorkerFailure)
  | reported
  | stopped

def CellExecutionPhase.live : CellExecutionPhase ν → Bool
  | .reported => false
  | .stopped => false
  | _ => true

/-- What happens to an execution next. The answers of connectors and providers come from outside. -/
inductive WorkerStep (ν : Type) where
  | load
  | check
  | plan
  | readProvider (progress : Json ν) (now : Int)
  | request
  | answer (answer : Except ProviderError Bool) (progress : Json ν)
  | produce
  | throw (failure : WorkerFailure)
  | succeed (output : Json ν) (value : CellValue ν) (bookkeeping : Except StoreError Unit) (stamp : MutationStamp)
  | report (stamp : MutationStamp)
  | stop

structure CellExecution (ν : Type) where
  input : CellRunInput
  retryCount : Nat
  phase : CellExecutionPhase ν

/-- The update of `saveProgress`, which does not ask for the status of the run. -/
def saveRunProgress (db : Database ν) (runId : String) (progress : Json ν) : Database ν :=
  { db with
    cellRuns := db.cellRuns.modify (fun run => run.id = runId) (fun run => { run with output := some progress })
      ⟨fun _ => rfl⟩ }

def loadPhase (db : Database ν) (input : CellRunInput) : CellExecutionPhase ν :=
  match loadExecution db input with
  | .ok execution => .loaded execution.1 execution.2
  | .error failure => .failing failure

def checkPhase (db : Database ν) (run : CellRun ν) (credential : Option Credential) : CellExecutionPhase ν :=
  match requireSqliteConnectorExecutionAllowed db.connectorRevocations run.identity with
  | .ok _ => .allowed run credential
  | .error error => .failing (classifyFailure error)

def planPhase [RunPlanRuntime ν] (run : CellRun ν) (credential : Option Credential) : CellExecutionPhase ν :=
  match RunPlanRuntime.parseRunPlan ν run.input with
  | some plan => .waterfall run credential plan (RunPlanRuntime.nextProviderIndex run.output plan.providers.length)
  | none => .failing schemaFailure

def afterProvider (db : Database ν) (run : CellRun ν) (credential : Option Credential) (plan : HttpWaterfallRunPlan)
    (index : Nat) (progress : Json ν) : Except ProviderError Bool → Database ν × CellExecutionPhase ν
  | .ok true => (db, .answered run credential)
  | .ok false => (saveRunProgress db run.id progress, .waterfall run credential plan (index + 1))
  | .error error =>
    let failure := classifyProviderFailure error
    let decision := decideWaterfallAfterProvider failure.outcome
    let saved := saveRunProgress db run.id progress
    if decision = .proceed then (saved, .waterfall run credential plan (index + 1))
    else (saved, .failing ⟨failure.code.text, failure.message, decision = .retryCurrent⟩)

def readProvider (db : Database ν) (run : CellRun ν) (credential : Option Credential) (plan : HttpWaterfallRunPlan)
    (index : Nat) (progress : Json ν) (now : Int) : Database ν × CellExecutionPhase ν :=
  match plan.providers[index]? with
  | none => (db, .answered run credential)
  | some provider =>
    match resolveWaterfallCredential db provider.credentialId now with
    | .error error => afterProvider db run credential plan index progress (.error (.connector error))
    | .ok resolved => (resolved.2, .provider run credential plan index provider resolved.1)

def succeedExecution [JsRuntime ν] (db : Database ν) (input : CellRunInput) (run : CellRun ν)
    (credential : Option Credential) (output : Json ν) (value : CellValue ν) (bookkeeping : Except StoreError Unit)
    (stamp : MutationStamp) : Database ν × CellExecutionPhase ν :=
  match markSqliteCellRunSucceeded db input ⟨run.connectorId, output, value⟩ stamp with
  | .error error => (db, .failing (classifyFailure error))
  | .ok succeeded =>
    match credential, bookkeeping with
    | some _, .error error => (succeeded, .failing (classifyFailure error))
    | credential, _ => (touchCredential succeeded (credential.map Credential.id) stamp.now, .reported)

/-- The failure is reported. A report which throws, because its identifiers are taken, is made with other ones. -/
def reportFailure (db : Database ν) (execution : CellExecution ν) (failure : WorkerFailure) (stamp : MutationStamp) :
    Database ν × CellExecutionPhase ν :=
  match setSqliteCellRunFailure db execution.input (failure.report execution.retryCount) stamp with
  | .error _ => (db, .failing failure)
  | .ok reported => (reported, .reported)

def CellExecution.work [JsRuntime ν] [RunPlanRuntime ν] (execution : CellExecution ν) (db : Database ν) :
    WorkerStep ν → Database ν × CellExecutionPhase ν
  | .load =>
    match execution.phase with
    | .marked => (db, loadPhase db execution.input)
    | phase => (db, phase)
  | .check =>
    match execution.phase with
    | .loaded run credential => (db, checkPhase db run credential)
    | phase => (db, phase)
  | .plan =>
    match execution.phase with
    | .allowed run credential =>
      (db, if run.connectorId = "http_waterfall" then planPhase run credential else .allowed run credential)
    | phase => (db, phase)
  | .readProvider progress now =>
    match execution.phase with
    | .waterfall run credential plan index => readProvider db run credential plan index progress now
    | phase => (db, phase)
  | .request => (db, execution.phase)
  | .answer answer progress =>
    match execution.phase with
    | .provider run credential plan index _ _ => afterProvider db run credential plan index progress answer
    | phase => (db, phase)
  | .produce =>
    match execution.phase with
    | .allowed run credential =>
      (db, if run.connectorId = "http_waterfall" then .allowed run credential else .answered run credential)
    | phase => (db, phase)
  | .throw failure =>
    match execution.phase with
    | .allowed _ _ => (db, .failing failure)
    | .answered _ _ => (db, .failing failure)
    | phase => (db, phase)
  | .succeed output value bookkeeping stamp =>
    match execution.phase with
    | .answered run credential => succeedExecution db execution.input run credential output value bookkeeping stamp
    | phase => (db, phase)
  | .report stamp =>
    match execution.phase with
    | .failing failure => reportFailure db execution failure stamp
    | phase => (db, phase)
  | .stop => (db, if execution.phase.live then .stopped else execution.phase)

/-- The credentials which a request of the execution carries: a waterfall sends requests for a provider only. -/
def CellExecution.sends (execution : CellExecution ν) : List (Option Credential) :=
  match execution.phase with
  | .allowed run credential => if run.connectorId = "http_waterfall" then [] else [credential]
  | .provider _ _ _ _ _ read => [read]
  | _ => []

end CellExecution

inductive StoreAction (ν : Type) where
  | createActionColumn (input : CreateConnectorColumn ν)
  | createHttpColumn (input : CreateHttpEnrichmentColumn)
  | createWaterfallColumn (input : CreateHttpWaterfallColumn)
  | createRevocation (input : CreateConnectorRevocation)
  | liftRevocation (input : LiftConnectorRevocation) (now : Int)
  | revokeCredential (input : RevokeCredential) (now : Int)
  | queue (input : QueueByUser)
  | queueDependents (settlement : RowSettlement) (stamp : SettlementStamp) (columnIds : List String)
  | queueWorkflow (input : QueueByWorkflow)
  | createBatch (input : CreateBulkRunBatch)
  | expandBatch (input : ExpandBulkRunBatch)
  | cancelBatch (input : CancelBulkRunBatch)

inductive GateAction (ν : Type) where
  | store (action : StoreAction ν)
  | start (input : CellRunInput) (retryCount : Nat) (now : Int)
  | work (execution : Nat) (step : WorkerStep ν)

structure GateState (ν : Type) where
  db : Database ν
  executions : List (CellExecution ν)

structure CellRunRequest where
  execution : Nat
  credential : Option Credential
  deriving Repr, DecidableEq

section System

variable {ν : Type} [JsRuntime ν] [ConnectorRuntime ν] [EndpointRuntime] [RunPlanRuntime ν]

def Database.transact (db : Database ν) : StoreAction ν → Except StoreError (Database ν)
  | .createActionColumn input => (createSqliteConnectorActionColumn db input).map Prod.snd
  | .createHttpColumn input => (createSqliteHttpEnrichmentColumn db input).map Prod.snd
  | .createWaterfallColumn input => (createSqliteHttpWaterfallColumn db input).map Prod.snd
  | .createRevocation input => createSqliteWorkspaceConnectorRevocation db input
  | .liftRevocation input now => liftSqliteWorkspaceConnectorRevocation db input now
  | .revokeCredential input now => revokeSqliteCredential db input now
  | .queue input => (queueSqliteEnrichmentCellRunInTransaction db input).map Prod.snd
  | .queueDependents settlement stamp columnIds => queueDependents settlement stamp columnIds db
  | .queueWorkflow input => (queueSqliteWorkflowEnrichmentCellRuns db input).map Prod.snd
  | .createBatch input => createSqliteBulkRunBatch db input
  | .expandBatch input => (expandSqliteBulkRunBatchChunk db input).map fun result => result.2.2
  | .cancelBatch input => cancelSqliteBulkRunBatch db input

def GateState.step (s : GateState ν) : GateAction ν → GateState ν
  | .store action => { s with db := s.db.commit (s.db.transact action) }
  | .start input retryCount now =>
    match markSqliteCellRunRunning s.db input now with
    | .ok (.ready, started) => { db := started, executions := s.executions ++ [⟨input, retryCount, .marked⟩] }
    | _ => s
  | .work index step =>
    match s.executions[index]? with
    | none => s
    | some execution =>
      let worked := execution.work s.db step
      { db := worked.1, executions := s.executions.set index { execution with phase := worked.2 } }

omit [JsRuntime ν] [ConnectorRuntime ν] [EndpointRuntime] [RunPlanRuntime ν] in
def GateState.sends (s : GateState ν) : GateAction ν → List CellRunRequest
  | .work index .request => s.executions[index]?.toList.flatMap fun execution => execution.sends.map (CellRunRequest.mk index)
  | _ => []

end System

end ByokGrid
