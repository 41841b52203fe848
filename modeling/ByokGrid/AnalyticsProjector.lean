import ByokGrid.AnalyticsStore

/-! The analytics projector beside the purge of workspaces: projectors and erasers take one step at a
time, in any order, and may stop at any step. A request to the warehouse which is on its way takes
effect on its own, as often as it likes and with a part of its rows. -/

namespace ByokGrid

section World

variable {ν : Type}

/-- A projector by what it has done; the code of each phase runs up to its next `await`. -/
inductive ProjectorPhase (ν : Type) where
  | claimed (events : List (SqliteClaimedAnalyticsEvent ν))
  | checked (eligible : List (SqliteClaimedAnalyticsEvent ν)) (checkedAt : Int)
  | converting (projectedAt : TimeValue) (valid : List (SqliteClaimedAnalyticsEvent ν × AnalyticsProjectionRow))
      (remaining : List (SqliteClaimedAnalyticsEvent ν)) (checkedAt : Int)
  | inserting (projectedAt : TimeValue) (valid : List (SqliteClaimedAnalyticsEvent ν × AnalyticsProjectionRow))
  | completing (projectedAt : TimeValue) (valid : List (SqliteClaimedAnalyticsEvent ν × AnalyticsProjectionRow))
  | retrying (projectedAt : TimeValue) (valid : List (SqliteClaimedAnalyticsEvent ν × AnalyticsProjectionRow)) (message : String)
  | over

inductive EraserPhase where
  | next (receipts : List SqliteClaimedWorkspaceAnalyticsErasure)
  | deleting (receipt : SqliteClaimedWorkspaceAnalyticsErasure) (rest : List SqliteClaimedWorkspaceAnalyticsErasure)
      (attemptedAt : Int) (executed : Bool)
  | completing (receipt : SqliteClaimedWorkspaceAnalyticsErasure) (rest : List SqliteClaimedWorkspaceAnalyticsErasure)
      (attemptedAt : Int)
  | retrying (receipt : SqliteClaimedWorkspaceAnalyticsErasure) (rest : List SqliteClaimedWorkspaceAnalyticsErasure)
      (attemptedAt : Int) (message : String)
  | over
  deriving Repr, DecidableEq

structure InsertRequest where
  rows : List AnalyticsProjectionRow
  checkedAt : Int

/-- The database, the warehouse, and the processes by their claim ids. `eventIds` are the ids which an
event ever had, and `inserted` the rows which were ever inserted. -/
structure AnalyticsWorld (ν : Type) where
  time : Int
  outbox : Table (AnalyticsOutboxEvent ν)
  receipts : Table AnalyticsPurgeReceipt
  eventIds : List String
  warehouse : List AnalyticsProjectionRow
  inserted : List AnalyticsProjectionRow
  requests : List InsertRequest
  deletions : List String
  projectors : String → Option (ProjectorPhase ν)
  erasers : String → Option EraserPhase

def AnalyticsWorld.initial (time : Int) : AnalyticsWorld ν where
  time := time
  outbox := Table.empty
  receipts := Table.empty
  eventIds := []
  warehouse := []
  inserted := []
  requests := []
  deletions := []
  projectors _ := none
  erasers _ := none

/-- What is assumed of time: an insert has its last effect within so many milliseconds of its purge
check, and a purge commits within so many of the time on its receipt. -/
structure AnalyticsTiming where
  insertWindow : Int
  purgeLatency : Int

inductive AnalyticsAction (ν : Type) where
  | tick (time : Int)
  | recordEvent (event : AnalyticsSourceEvent ν)
  | purge (workspaceId receiptId : String) (purgedAt : Int)
  | claim (input : ClaimAnalyticsInput)
  | check (claimId : String)
  | stamp (claimId : String) (projectedAt : TimeValue)
  | convert (claimId : String)
  | send (claimId : String)
  | land (request : Nat) (rows : List AnalyticsProjectionRow)
  | insertEnds (claimId : String) (failure : Option String)
  | complete (claimId : String)
  | retry (claimId : String)
  | stop (claimId : String)
  | claimErasures (input : ClaimErasuresInput)
  | attempt (claimId : String) (attemptedAt : Int)
  | delete (claimId : String)
  | strayDelete (workspaceId : String)
  | deleteEnds (claimId : String) (failure : Option String)
  | completeErasure (claimId : String)
  | retryErasure (claimId : String)
  | stopEraser (claimId : String)

/-- `new Date(now.getTime() + Math.min(2 ** Math.min(attempt, 10), 300) * 1_000)`. -/
def retryTime (now : Int) (attempt : Nat) : Int :=
  now + (min (2 ^ min attempt 10) 300 : Nat) * 1000

def unexpectedProjectionError : String := "The analytics projection failed unexpectedly."

def safeProjectionError : AnalyticsEventError → String
  | .validation message => message
  | .type => unexpectedProjectionError

def eventIdsOf (valid : List (SqliteClaimedAnalyticsEvent ν × AnalyticsProjectionRow)) : List String :=
  valid.map fun entry => entry.1.id

def mergeRow (warehouse : List AnalyticsProjectionRow) (row : AnalyticsProjectionRow) : List AnalyticsProjectionRow :=
  let same := fun other : AnalyticsProjectionRow => other.workspaceId = row.workspaceId && other.eventId = row.eventId
  if warehouse.any fun other => same other && row.projectedAt < other.projectedAt then warehouse
  else warehouse.filter (fun other => !same other) ++ [row]

end World

namespace AnalyticsWorld

variable {ν : Type} (world : AnalyticsWorld ν)

def setProjector (claimId : String) (phase : ProjectorPhase ν) : AnalyticsWorld ν :=
  { world with projectors := Function.update world.projectors claimId (some phase) }

def setEraser (claimId : String) (phase : EraserPhase) : AnalyticsWorld ν :=
  { world with erasers := Function.update world.erasers claimId (some phase) }

def freshClaim (claimId : String) : Bool :=
  (world.projectors claimId).isNone && (world.erasers claimId).isNone

def tick (time : Int) : Option (AnalyticsWorld ν) :=
  if world.time ≤ time then some { world with time := time } else none

def recordEvent (event : AnalyticsSourceEvent ν) : Option (AnalyticsWorld ν) :=
  if event.id ∈ world.eventIds then none
  else (world.outbox.insert { toAnalyticsSourceEvent := event }).map fun outbox =>
    { world with outbox := outbox, eventIds := event.id :: world.eventIds }

def purge (timing : AnalyticsTiming) (workspaceId receiptId : String) (purgedAt : Int) : Option (AnalyticsWorld ν) :=
  if purgedAt ≤ world.time ∧ world.time ≤ purgedAt + timing.purgeLatency ∧
      (world.receipts.records.all fun receipt => receipt.workspaceId ≠ workspaceId) = true then
    (world.receipts.insert { id := receiptId, workspaceId := workspaceId, purgedAt := purgedAt }).map fun receipts =>
      { world with receipts := receipts, outbox := world.outbox.filter fun event => event.workspaceId ≠ workspaceId }
  else none

/-- `claimSqliteAnalyticsEvents` under a new claim id, at a time read before. -/
def claim (input : ClaimAnalyticsInput) : Option (AnalyticsWorld ν) :=
  if world.freshClaim input.claimId = true ∧ input.now ≤ world.time then
    let claimed := claimSqliteAnalyticsEvents world.outbox input
    some { (world.setProjector input.claimId (if claimed.1.isEmpty then .over else .claimed claimed.1)) with outbox := claimed.2 }
  else none

def check (claimId : String) : Option (AnalyticsWorld ν) :=
  match world.projectors claimId with
  | some (.claimed events) =>
    let purged := listSqlitePurgedAnalyticsWorkspaceIds world.receipts (events.map fun event => event.workspaceId)
    let eligible := events.filter fun event => event.workspaceId ∉ purged
    some (world.setProjector claimId (if eligible.isEmpty then .over else .checked eligible world.time))
  | _ => none

def stamp (claimId : String) (projectedAt : TimeValue) : Option (AnalyticsWorld ν) :=
  match world.projectors claimId with
  | some (.checked eligible checkedAt) =>
    if projectedAt.milliseconds ≤ world.time then some (world.setProjector claimId (.converting projectedAt [] eligible checkedAt))
    else none
  | _ => none

def convert [JsRuntime ν] [CountReader ν] (claimId : String) : Option (AnalyticsWorld ν) :=
  match world.projectors claimId with
  | some (.converting projectedAt valid (event :: remaining) checkedAt) =>
    match toAnalyticsProjectionRow event.toAnalyticsSourceEvent projectedAt with
    | .ok row => some (world.setProjector claimId (.converting projectedAt (valid ++ [(event, row)]) remaining checkedAt))
    | .error error =>
      let retried := retrySqliteAnalyticsEvents world.outbox claimId (safeProjectionError error) [event.id]
        (retryTime projectedAt.milliseconds event.attempt)
      some { (world.setProjector claimId (if retried.1 then .converting projectedAt valid remaining checkedAt else .over)) with
        outbox := retried.2 }
  | _ => none

def send (claimId : String) : Option (AnalyticsWorld ν) :=
  match world.projectors claimId with
  | some (.converting projectedAt valid [] checkedAt) =>
    if valid.isEmpty then some (world.setProjector claimId .over)
    else some { (world.setProjector claimId (.inserting projectedAt valid)) with
      requests := world.requests ++ [{ rows := valid.map Prod.snd, checkedAt := checkedAt }] }
  | _ => none

def land (timing : AnalyticsTiming) (request : Nat) (rows : List AnalyticsProjectionRow) : Option (AnalyticsWorld ν) :=
  match world.requests[request]? with
  | some request =>
    if world.time ≤ request.checkedAt + timing.insertWindow ∧ (rows.all fun row => row ∈ request.rows) = true then
      some { world with warehouse := rows.foldl mergeRow world.warehouse, inserted := rows ++ world.inserted }
    else none
  | none => none

/-- `insert` resolves once all of its rows are in, or it throws. -/
def insertEnds (claimId : String) (failure : Option String) : Option (AnalyticsWorld ν) :=
  match world.projectors claimId, failure with
  | some (.inserting projectedAt valid), none =>
    if (valid.all fun entry => entry.2 ∈ world.inserted) = true then
      some (world.setProjector claimId (.completing projectedAt valid))
    else none
  | some (.inserting projectedAt valid), some message => some (world.setProjector claimId (.retrying projectedAt valid message))
  | _, _ => none

def complete (claimId : String) : Option (AnalyticsWorld ν) :=
  match world.projectors claimId with
  | some (.completing projectedAt valid) =>
    let completed := completeSqliteAnalyticsEvents world.outbox claimId (eventIdsOf valid) projectedAt
    some { (world.setProjector claimId
        (if completed.1 then .over else .retrying projectedAt valid unexpectedProjectionError)) with outbox := completed.2 }
  | _ => none

def retry (claimId : String) : Option (AnalyticsWorld ν) :=
  match world.projectors claimId with
  | some (.retrying projectedAt valid message) =>
    let latestAttempt := (valid.map fun entry => entry.1.attempt).foldl max 0
    let retried := retrySqliteAnalyticsEvents world.outbox claimId message (eventIdsOf valid)
      (retryTime projectedAt.milliseconds latestAttempt)
    some { (world.setProjector claimId .over) with outbox := retried.2 }
  | _ => none

def stop (claimId : String) : Option (AnalyticsWorld ν) :=
  match world.projectors claimId with
  | some _ => some (world.setProjector claimId .over)
  | none => none

def claimErasures (input : ClaimErasuresInput) : Option (AnalyticsWorld ν) :=
  if world.freshClaim input.claimId = true ∧ input.now ≤ world.time then
    let claimed := claimSqliteWorkspaceAnalyticsErasures world.receipts input
    some { (world.setEraser input.claimId (.next claimed.1)) with receipts := claimed.2 }
  else none

def attempt (claimId : String) (attemptedAt : Int) : Option (AnalyticsWorld ν) :=
  match world.erasers claimId with
  | some (.next (receipt :: rest)) =>
    if attemptedAt ≤ world.time then
      some { (world.setEraser claimId (.deleting receipt rest attemptedAt false)) with
        deletions := receipt.workspaceId :: world.deletions }
    else none
  | _ => none

def delete (claimId : String) : Option (AnalyticsWorld ν) :=
  match world.erasers claimId with
  | some (.deleting receipt rest attemptedAt _) =>
    some { (world.setEraser claimId (.deleting receipt rest attemptedAt true)) with
      warehouse := world.warehouse.filter fun row => row.workspaceId ≠ receipt.workspaceId }
  | _ => none

def strayDelete (workspaceId : String) : Option (AnalyticsWorld ν) :=
  if workspaceId ∈ world.deletions then
    some { world with warehouse := world.warehouse.filter fun row => row.workspaceId ≠ workspaceId }
  else none

def deleteEnds (claimId : String) (failure : Option String) : Option (AnalyticsWorld ν) :=
  match world.erasers claimId, failure with
  | some (.deleting receipt rest attemptedAt true), none => some (world.setEraser claimId (.completing receipt rest attemptedAt))
  | some (.deleting receipt rest attemptedAt _), some message =>
    some (world.setEraser claimId (.retrying receipt rest attemptedAt message))
  | _, _ => none

def completeErasure (claimId : String) : Option (AnalyticsWorld ν) :=
  match world.erasers claimId with
  | some (.completing receipt rest attemptedAt) =>
    let completed := completeSqliteWorkspaceAnalyticsErasure world.receipts claimId receipt.receiptId attemptedAt
    some { (world.setEraser claimId
        (if completed.1 then .next rest else .retrying receipt rest attemptedAt unexpectedProjectionError)) with
      receipts := completed.2 }
  | _ => none

def retryErasure (claimId : String) : Option (AnalyticsWorld ν) :=
  match world.erasers claimId with
  | some (.retrying receipt rest attemptedAt message) =>
    let retried := retrySqliteWorkspaceAnalyticsErasure world.receipts claimId receipt.receiptId message
      (retryTime attemptedAt receipt.attempt)
    some { (world.setEraser claimId (if retried.1 then .next rest else .over)) with receipts := retried.2 }
  | _ => none

def stopEraser (claimId : String) : Option (AnalyticsWorld ν) :=
  match world.erasers claimId with
  | some _ => some (world.setEraser claimId .over)
  | none => none

section Runs

variable [JsRuntime ν] [CountReader ν] (timing : AnalyticsTiming)

def step : AnalyticsAction ν → Option (AnalyticsWorld ν)
  | .tick time => world.tick time
  | .recordEvent event => world.recordEvent event
  | .purge workspaceId receiptId purgedAt => world.purge timing workspaceId receiptId purgedAt
  | .claim input => world.claim input
  | .check claimId => world.check claimId
  | .stamp claimId projectedAt => world.stamp claimId projectedAt
  | .convert claimId => world.convert claimId
  | .send claimId => world.send claimId
  | .land request rows => world.land timing request rows
  | .insertEnds claimId failure => world.insertEnds claimId failure
  | .complete claimId => world.complete claimId
  | .retry claimId => world.retry claimId
  | .stop claimId => world.stop claimId
  | .claimErasures input => world.claimErasures input
  | .attempt claimId attemptedAt => world.attempt claimId attemptedAt
  | .delete claimId => world.delete claimId
  | .strayDelete workspaceId => world.strayDelete workspaceId
  | .deleteEnds claimId failure => world.deleteEnds claimId failure
  | .completeErasure claimId => world.completeErasure claimId
  | .retryErasure claimId => world.retryErasure claimId
  | .stopEraser claimId => world.stopEraser claimId

def run : List (AnalyticsAction ν) → AnalyticsWorld ν → Option (AnalyticsWorld ν)
  | [], world => some world
  | action :: actions, world => (world.step timing action).bind (run actions)

end Runs

end AnalyticsWorld

end ByokGrid
