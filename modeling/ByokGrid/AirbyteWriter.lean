import ByokGrid.AirbyteClient

/-! The writer of the Airbyte destination: records wait in one batch for each route, and a
batch is submitted when the next record does not fit, before a state and at the end. -/

namespace ByokGrid

/-- A configuration as `parseDestinationConfig` bounds it. -/
structure DestinationConfig where
  applicationTimeoutSeconds : Nat
  batchMaximumBytes : Nat
  batchMaximumRecords : Nat
  routes : List DestinationRoute
  timeout : 30 ≤ applicationTimeoutSeconds ∧ applicationTimeoutSeconds ≤ 1800
  bytes : 65536 ≤ batchMaximumBytes ∧ batchMaximumBytes ≤ 4718592
  records : 1 ≤ batchMaximumRecords ∧ batchMaximumRecords ≤ 1000

/-- `new Map(entries).get(key)`: the last entry of a key counts. -/
def entryOf {α : Type} (entries : List (String × α)) (key : String) : Option α :=
  (entries.reverse.find? fun entry => entry.1 = key).map Prod.snd

structure AirbyteDestinationWriter where
  capabilityByRoute : List (String × EndpointCapability)
  catalogKeys : List String
  config : DestinationConfig
  syncId : String

def AirbyteDestinationWriter.routeByKey (writer : AirbyteDestinationWriter) (key : String) : Option DestinationRoute :=
  entryOf (writer.config.routes.map fun route => (routeKey route.namespace_ route.stream, route)) key

def batchBody (records : List String) : String :=
  "\x7b\"records\":[" ++ ",".intercalate records ++ "]\x7d"

/-- `Map.set`. -/
def setBatch (batches : Table PendingBatch) (pending : PendingBatch) : Table PendingBatch :=
  match batches.insert pending with
  | some batches => batches
  | none => batches.modify (fun batch => batch.routeKey = pending.routeKey)
      (fun batch => { batch with byteCount := pending.byteCount, records := pending.records }) ⟨fun _ => rfl⟩

def PendingBatch.empty (key : String) : PendingBatch :=
  ⟨key, emptyEnvelopeBytes, []⟩

def PendingBatch.grown (pending : PendingBatch) (serialized : String) : Nat :=
  pending.byteCount + encodedBytes serialized + if pending.records.length = 0 then 0 else 1

def PendingBatch.push (pending : PendingBatch) (serialized : String) : PendingBatch :=
  { pending with records := pending.records ++ [serialized], byteCount := pending.grown serialized }

section Writer

variable (ν : Type) [JsRuntime ν] [IntegerNumbers ν] [ConnectorRuntime ν] [UrlRuntime]
variable (writer : AirbyteDestinationWriter)

def AirbyteDestinationWriter.idempotencyKey (sequence : Nat) (body : String) : String :=
  "airbyte:" ++ writer.syncId ++ ":" ++ toString sequence ++ ":" ++ sliceUnits 20 (ConnectorRuntime.sha256 ν body)

def AirbyteDestinationWriter.submission (sequence : Nat) (pending : PendingBatch) : Submission where
  key := pending.routeKey
  sequence := sequence
  records := pending.records
  body := batchBody pending.records
  idempotencyKey := writer.idempotencyKey ν sequence (batchBody pending.records)

/-- `#flush`: a batch leaves the map once it is applied. -/
def AirbyteDestinationWriter.flush (key : String) : AirbyteProgram Unit := do
  let s ← get
  match (s.batches.get? key).filter fun pending => pending.records.length ≠ 0 with
  | none => return
  | some pending =>
    stopIf (encodedBytes (batchBody pending.records) ≠ pending.byteCount) .checkpoint
    match writer.routeByKey key with
    | none => throw .runtime
    | some route =>
      let submission := writer.submission ν (s.batchSequence + 1) pending
      modify fun s => { s with batchSequence := s.batchSequence + 1, history := s.history ++ [.posted submission] }
      submitBatch ν route submission writer.config.applicationTimeoutSeconds
      modify fun s => { s with
        batches := s.batches.filter fun batch => batch.routeKey ≠ key
        history := s.history ++ [.applied submission] }

def AirbyteDestinationWriter.flushAll : AirbyteProgram Unit := do
  let s ← get
  forEach (sortCodeUnits (s.batches.records.map PendingBatch.routeKey)) (writer.flush ν)

/-- `#acceptRecord` up to its first effect: the route and the text of a record. -/
def AirbyteDestinationWriter.checkRecord (record : AirbyteRecordMessage ν) : Except AirbyteProtocolError (String × String) := do
  let key := routeKey record.namespace_ record.stream
  rejectIf (key ∉ writer.catalogKeys)
    ⟨"Received a record for stream “" ++ displayStream record ++ "” outside the configured catalog."⟩
  match writer.routeByKey key, entryOf writer.capabilityByRoute key with
  | some _, some capability =>
    let normalized ← normalizeRecord record.data capability.recordKeyField
    let serialized := stableStringify (.object normalized)
    rejectIf (writer.config.batchMaximumBytes < emptyEnvelopeBytes + encodedBytes serialized)
      ⟨"A normalized record from stream “" ++ displayStream record ++
        "” exceeds the configured batch byte limit."⟩
    return (key, serialized)
  | _, _ =>
    .error ⟨"No verified BYOK Grid endpoint exists for stream “" ++ displayStream record ++ "”."⟩

def ofProtocol {α : Type} (result : Except AirbyteProtocolError α) : AirbyteProgram α :=
  ofExcept (result.mapError .protocol)

def acceptPending (pending : PendingBatch) (serialized : String) : AirbyteProgram Unit :=
  modify fun s => { s with
    batches := setBatch s.batches (pending.push serialized)
    history := s.history ++ [.accepted pending.routeKey serialized] }

def AirbyteDestinationWriter.acceptRecord (record : AirbyteRecordMessage ν) : AirbyteProgram Unit := do
  let checked ← ofProtocol (writer.checkRecord ν record)
  let s ← get
  let pending := (s.batches.get? checked.1).getD (PendingBatch.empty checked.1)
  if writer.config.batchMaximumRecords ≤ pending.records.length ∨
      writer.config.batchMaximumBytes < pending.grown checked.2 then do
    writer.flush ν checked.1
    acceptPending (PendingBatch.empty checked.1) checked.2
  else acceptPending pending checked.2

def AirbyteDestinationWriter.acceptLine (line : String) : AirbyteProgram Unit := do
  match ← ofProtocol (readLine (ν := ν) line) with
  | .skip => return
  | .record record => writer.acceptRecord ν record
  | .state =>
    writer.flushAll ν
    modify fun s => { s with history := s.history ++ [.emitted line] }

def AirbyteDestinationWriter.write (lines : List String) : AirbyteProgram Unit := do
  forEach lines (writer.acceptLine ν)
  writer.flushAll ν

def WriterState.start (outcomes : List FetchOutcome) (clock : List Int) : WriterState :=
  ⟨Table.empty, 0, [], outcomes, clock⟩

def isStateLine (line : String) : Bool :=
  match readLine (ν := ν) line with
  | .ok .state => true
  | _ => false

def AirbyteDestinationWriter.recordOf (line : String) : Option (String × String) :=
  match readLine (ν := ν) line with
  | .ok (.record record) => (writer.checkRecord ν record).toOption
  | _ => none

end Writer

theorem encodedBytes_append (left right : String) : encodedBytes (left ++ right) = encodedBytes left + encodedBytes right :=
  String.utf8ByteSize_append

theorem encodedBytes_batchBody_concat (records : List String) (record : String) :
    encodedBytes (batchBody (records ++ [record])) =
      encodedBytes (batchBody records) + encodedBytes record + if records.length = 0 then 0 else 1 := by
  cases records with
  | nil =>
    simp only [batchBody, encodedBytes_append, List.nil_append, String.intercalate_singleton, String.intercalate_nil,
      List.length_nil, if_true]
    have hempty : encodedBytes "" = 0 := rfl
    omega
  | cons first records =>
    have hjoin := String.intercalate_append_of_ne_nil (s := ",") (List.cons_ne_nil first records) (List.cons_ne_nil record [])
    have hcomma : encodedBytes "," = 1 := rfl
    rw [batchBody, batchBody, hjoin, String.intercalate_singleton]
    simp only [encodedBytes_append, List.length_cons, Nat.succ_ne_zero, if_false]
    omega

structure Counted (pending : PendingBatch) : Prop where
  byteCount : pending.byteCount = encodedBytes (batchBody pending.records)

theorem Counted.empty (key : String) : Counted (PendingBatch.empty key) := ⟨rfl⟩

theorem Counted.push {pending : PendingBatch} (h : Counted pending) (serialized : String) :
    Counted (pending.push serialized) := by
  refine ⟨?_⟩
  rw [PendingBatch.push, PendingBatch.grown, encodedBytes_batchBody_concat, h.byteCount]

theorem get?_setBatch (batches : Table PendingBatch) (pending : PendingBatch) (key : String) :
    (setBatch batches pending).get? key = if key = pending.routeKey then some pending else batches.get? key := by
  unfold setBatch
  split
  · rename_i batches' hinsert
    exact Table.get?_insert hinsert key
  · rename_i hnone
    obtain ⟨stored, hstored⟩ := Option.isSome_iff_exists.mp (Table.insert_eq_none.mp hnone)
    have hkey : stored.routeKey = pending.routeKey := (Table.get?_eq_some.mp hstored).2
    rw [Table.get?_modify_key (k := pending.routeKey) (p := fun batch => batch.routeKey = pending.routeKey)
      (f := fun batch => { batch with byteCount := pending.byteCount, records := pending.records })
      ⟨fun _ => rfl⟩ hstored (decide_eq_true hkey) (fun _ h => of_decide_eq_true h)]
    split
    · rw [hkey]
    · rfl

end ByokGrid
