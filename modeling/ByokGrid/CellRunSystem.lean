import ByokGrid.BulkRuns
import ByokGrid.Transition

/-! The store under any sequence of the transactions on cell runs, and the worker
which executes one run by several of them. -/

namespace ByokGrid

section System

variable {ν : Type}

def Database.commit (db : Database ν) : Except StoreError (Database ν) → Database ν
  | .ok next => next
  | .error _ => db

inductive CellRunAction (ν : Type) where
  | queue (input : QueueByUser)
  | queueAutomatic (input : QueueAutomatically)
  | queueWorkflow (input : QueueByWorkflow)
  | createBatch (input : CreateBulkRunBatch)
  | expandBatch (input : ExpandBulkRunBatch)
  | cancelBatch (input : CancelBulkRunBatch)
  | mark (input : CellRunInput) (now : Int)
  | succeed (input : CellRunInput) (success : CellRunSuccess ν) (stamp : MutationStamp)
  | fail (input : CellRunInput) (failure : CellRunFailure) (stamp : MutationStamp)

variable [JsRuntime ν] [ConnectorRuntime ν]

def Database.stepCellRun (db : Database ν) : CellRunAction ν → Database ν
  | .queue input => db.commit ((queueSqliteEnrichmentCellRunInTransaction db input).map Prod.snd)
  | .queueAutomatic input => db.commit ((queueAutomaticSqliteEnrichmentCellRunInTransaction db input).map Prod.snd)
  | .queueWorkflow input => db.commit ((queueSqliteWorkflowEnrichmentCellRuns db input).map Prod.snd)
  | .createBatch input => db.commit (createSqliteBulkRunBatch db input)
  | .expandBatch input => db.commit ((expandSqliteBulkRunBatchChunk db input).map fun result => result.2.2)
  | .cancelBatch input => db.commit (cancelSqliteBulkRunBatch db input)
  | .mark input now => db.commit ((markSqliteCellRunRunning db input now).map Prod.snd)
  | .succeed input success stamp => db.commit (markSqliteCellRunSucceeded db input success stamp)
  | .fail input failure stamp => db.commit (setSqliteCellRunFailure db input failure stamp)

end System

section Worker

variable {ν : Type}

/-- What `classifyFailure` makes of an error. -/
structure WorkerFailure where
  code : String
  message : String
  retryable : Bool
  deriving Repr, DecidableEq

def classifyFailure : StoreError → WorkerFailure
  | .revoked message => ⟨"connector_revoked", message, false⟩
  | _ => ⟨"internal", "The connector run failed unexpectedly.", true⟩

/-- The result of the connector, and of the update of `lastUsedAt`, which follows the commit of the success. -/
inductive ConnectorOutcome (ν : Type) where
  | failed (failure : WorkerFailure)
  | produced (output : Json ν) (value : CellValue ν) (bookkeeping : Except StoreError Unit)

def MAXIMUM_CELL_RUN_ATTEMPTS : Nat := 5
def MAXIMUM_SQLITE_CELL_RUN_RETRIES : Nat := MAXIMUM_CELL_RUN_ATTEMPTS - 1

def loadExecution (db : Database ν) (input : CellRunInput) :
    Except WorkerFailure (CellRun ν × Option Credential) :=
  match (db.cellRuns.get? input.runId).filter (runScope input) with
  | none => .error ⟨"invalid_input", "The cell run does not exist or its input changed.", false⟩
  | some run =>
    let credential := run.credentialId.bind db.credentials.get?
    if credential.any fun credential => credential.revokedAt.isSome || credential.connectorId ≠ run.connectorId then
      .error ⟨"authentication", "The selected connector credential is missing or revoked.", false⟩
    else .ok (run, credential)

def runConnector (db : Database ν) (input : CellRunInput) (outcome : ConnectorOutcome ν) :
    Except WorkerFailure ((CellRun ν × Option Credential) × CellRunSuccess ν × Except StoreError Unit) := do
  let execution ← loadExecution db input
  match requireSqliteConnectorExecutionAllowed db.connectorRevocations execution.1.identity with
  | .error error => .error (classifyFailure error)
  | .ok _ =>
    match outcome with
    | .failed failure => .error failure
    | .produced output value bookkeeping => return (execution, ⟨execution.1.connectorId, output, value⟩, bookkeeping)

def WorkerFailure.report (failure : WorkerFailure) (retryCount : Nat) : CellRunFailure :=
  { errorCode := failure.code
    errorMessage := failure.message
    retrying := failure.retryable && retryCount < MAXIMUM_SQLITE_CELL_RUN_RETRIES }

def touchCredential (db : Database ν) (credentialId : Option String) (now : Int) : Database ν :=
  { db with
    credentials := db.credentials.modify (fun credential => credentialId = some credential.id)
      (fun credential => { credential with lastUsedAt := some now }) ⟨fun _ => rfl⟩ }

variable [JsRuntime ν]

/-- One uninterrupted execution. The `catch` also sees what fails after the success was committed. -/
def executeSqliteCellRun (db : Database ν) (input : CellRunInput) (retryCount : Nat)
    (outcome : ConnectorOutcome ν) (stamp : MutationStamp) : Database ν :=
  match markSqliteCellRunRunning db input stamp.now with
  | .error _ => db
  | .ok (.succeeded, db) => db
  | .ok (.cancelled, db) => db
  | .ok (.ready, started) =>
    let fail := fun (db : Database ν) (failure : WorkerFailure) =>
      db.commit (setSqliteCellRunFailure db input (failure.report retryCount) stamp)
    match runConnector started input outcome with
    | .error failure => fail started failure
    | .ok (execution, success, bookkeeping) =>
      match markSqliteCellRunSucceeded started input success stamp with
      | .error error => fail started (classifyFailure error)
      | .ok succeeded =>
        match execution.2, bookkeeping with
        | some _, .error error => fail succeeded (classifyFailure error)
        | credential, _ => touchCredential succeeded (credential.map Credential.id) stamp.now

end Worker

end ByokGrid
