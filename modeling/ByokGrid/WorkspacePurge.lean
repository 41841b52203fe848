import ByokGrid.CellValue
import ByokGrid.Connectors
import ByokGrid.Store
import Mathlib.Algebra.GroupWithZero.Nat

/-! The purge of a workspace: its preview, the confirmation, and the deletion of the workspace
with everything which references it. -/

namespace ByokGrid

inductive WorkspaceTable where
  | bulkRunBatches
  | bulkRunItems
  | cellRuns
  | cells
  | columnDependencies
  | columns
  | connectorRevocations
  | credentials
  | dataTables
  | importJobs
  | importStagedRows
  | ingestionBatches
  | ingestionEndpoints
  | ingestionRecords
  | ingestionStagedRecords
  | outboxEvents
  | rowSettlements
  | rows
  | savedGridViews
  | schemaLifecycleEvents
  | sourceDefinitions
  | sourceRecords
  | sourceRuns
  | usageLedger
  | webhookDeliveries
  | webhookDestinations
  | workflowRuns
  | workflowStepRuns
  | workflowVersions
  | workflows
  | workspaceInvitations
  | workspaceKeys
  | writebackDeliveries
  | writebackDestinations
  deriving Repr, DecidableEq

inductive RecordStatus where
  | blocked
  | cancelled
  | completed
  | failed
  | idle
  | pending
  | queued
  | ready
  | running
  | skipped
  | stale
  | staging
  | succeeded
  deriving Repr, DecidableEq

namespace WorkspaceTable

def statuses : WorkspaceTable → List RecordStatus
  | .bulkRunBatches => [.queued, .running, .completed, .failed, .cancelled]
  | .bulkRunItems => [.pending, .queued, .skipped]
  | .cells => [.idle, .stale, .queued, .running, .succeeded, .failed, .cancelled]
  | .importJobs => [.staging, .queued, .running, .succeeded, .failed, .cancelled]
  | .rowSettlements => [.queued, .running, .succeeded, .failed, .skipped]
  | .workflowStepRuns => [.blocked, .ready, .running, .succeeded, .failed, .skipped, .cancelled]
  | .cellRuns | .ingestionBatches | .sourceRuns | .webhookDeliveries | .workflowRuns | .writebackDeliveries =>
    [.queued, .running, .succeeded, .failed, .cancelled]
  | _ => []

def owner : WorkspaceTable → Option WorkspaceTable
  | .bulkRunItems => some .bulkRunBatches
  | .importStagedRows => some .importJobs
  | .ingestionBatches => some .ingestionEndpoints
  | .ingestionRecords => some .ingestionEndpoints
  | .ingestionStagedRecords => some .ingestionBatches
  | .sourceRecords => some .sourceDefinitions
  | .sourceRuns => some .sourceDefinitions
  | .webhookDeliveries => some .webhookDestinations
  | .workflowStepRuns => some .workflowRuns
  | .writebackDeliveries => some .writebackDestinations
  | _ => none

end WorkspaceTable

structure WorkspaceRecord where
  table : WorkspaceTable
  id : String
  workspaceId : String
  ownerId : String := ""
  status : Option RecordStatus := none
  archivedByRunId : Option String := none
  allowed : ∀ s ∈ status, s ∈ table.statuses := by decide
  deriving DecidableEq

def WorkspaceRecord.references (record owner : WorkspaceRecord) : Bool :=
  record.table.owner = some owner.table && record.ownerId = owner.id && record.workspaceId = owner.workspaceId

structure WorkspaceRoot where
  id : String
  name : String
  updatedAt : TimeValue
  deriving Repr, DecidableEq

structure MembershipRecord where
  workspaceId : String
  userId : String
  role : WorkspaceRole
  deriving Repr, DecidableEq

structure WorkspacePurgeHold where
  workspaceId : String
  placedAt : TimeValue
  deriving Repr, DecidableEq

structure WorkspacePurgeImpact where
  auditRecords : Nat
  cells : Nat
  columns : Nat
  credentials : Nat
  executionRecords : Nat
  integrations : Nat
  invitations : Nat
  members : Nat
  rows : Nat
  tables : Nat
  deriving Repr, DecidableEq

inductive WorkspacePurgeReason where
  | duplicateWorkspace
  | testData
  | userRequested
  | other
  deriving Repr, DecidableEq

structure WorkspacePurgeReceipt where
  id : String
  workspaceId : String
  actorUserId : String
  reason : WorkspacePurgeReason
  previewDigest : String
  impact : WorkspacePurgeImpact
  purgedAt : TimeValue
  deriving Repr, DecidableEq

/-- The records of all workspaces. The foreign keys hold: a record which a table owns has its
owner, in its workspace. -/
structure PurgeStore where
  workspaces : List WorkspaceRoot
  workspaceMembers : List MembershipRecord
  workspacePurgeHolds : List WorkspacePurgeHold
  workspacePurgeReceipts : List WorkspacePurgeReceipt
  records : List WorkspaceRecord
  owned : ∀ record ∈ records, record.table.owner.isSome = true → ∃ owner ∈ records, record.references owner = true

/-- The hash of a text and the text of a date. -/
class DigestRuntime where
  sha256 : String → String
  toISOString : TimeValue → String

structure SqliteWorkspaceScope where
  userId : String
  workspaceId : String
  deriving Repr, DecidableEq

inductive PurgeBlockerCode where
  | activeWork
  | legalHold
  deriving Repr, DecidableEq

structure SqliteWorkspacePurgeBlocker where
  code : PurgeBlockerCode
  count : Nat
  message : String
  deriving Repr, DecidableEq

structure SqliteWorkspacePurgePreview where
  blockers : List SqliteWorkspacePurgeBlocker
  canPurge : Bool
  impact : WorkspacePurgeImpact
  previewDigest : String
  retainedFields : List String
  workspace : WorkspaceRoot
  deriving Repr, DecidableEq

namespace PurgeStore

variable (store : PurgeStore) (workspaceId : String)

/-- `select count(*) from … where workspace_id = …`. -/
def count (table : WorkspaceTable) : Nat :=
  store.records.countP fun record => record.table = table && record.workspaceId = workspaceId

/-- `select count(*) from … where workspace_id = … and status in …`. -/
def countIn (table : WorkspaceTable) (statuses : List RecordStatus) : Nat :=
  store.records.countP fun record =>
    record.table = table && record.workspaceId = workspaceId && record.status.any fun status => status ∈ statuses

def countedLedgers : List (WorkspaceTable × List RecordStatus) :=
  [(.cells, [.queued, .running]), (.importJobs, [.staging, .queued, .running]), (.sourceRuns, [.queued, .running]),
    (.ingestionBatches, [.queued, .running]), (.webhookDeliveries, [.queued, .running]),
    (.writebackDeliveries, [.queued, .running]), (.bulkRunBatches, [.queued, .running]), (.cellRuns, [.queued, .running]),
    (.rowSettlements, [.queued, .running])]

def activeWork : Nat :=
  (countedLedgers.map fun ledger => store.countIn workspaceId ledger.1 ledger.2).sum

def countAll (tables : List WorkspaceTable) : Nat :=
  (tables.map (store.count workspaceId)).sum

def impact : WorkspacePurgeImpact where
  auditRecords := store.countAll workspaceId [.schemaLifecycleEvents, .connectorRevocations, .usageLedger, .outboxEvents]
  cells := store.count workspaceId .cells
  columns := store.count workspaceId .columns
  credentials := store.count workspaceId .credentials
  executionRecords := store.countAll workspaceId
    [.importJobs, .sourceRuns, .ingestionBatches, .webhookDeliveries, .writebackDeliveries, .bulkRunBatches, .cellRuns,
      .rowSettlements]
  integrations := store.countAll workspaceId [.sourceDefinitions, .ingestionEndpoints, .webhookDestinations, .writebackDestinations]
  invitations := store.count workspaceId .workspaceInvitations
  members := store.workspaceMembers.countP fun member => member.workspaceId = workspaceId
  rows := store.count workspaceId .rows
  tables := store.count workspaceId .dataTables

def hold? : Option WorkspacePurgeHold :=
  store.workspacePurgeHolds.find? fun hold => hold.workspaceId = workspaceId

def workspace? : Option WorkspaceRoot :=
  store.workspaces.find? fun workspace => workspace.id = workspaceId

def role? (userId : String) : Option WorkspaceRole :=
  (store.workspaceMembers.find? fun member => member.workspaceId = workspaceId && member.userId = userId).map
    MembershipRecord.role

end PurgeStore

/-- `JSON.stringify` of an impact. -/
def WorkspacePurgeImpact.stringify (impact : WorkspacePurgeImpact) : String :=
  "\x7b\"auditRecords\":" ++ toString impact.auditRecords ++ ",\"cells\":" ++ toString impact.cells ++
    ",\"columns\":" ++ toString impact.columns ++ ",\"credentials\":" ++ toString impact.credentials ++
    ",\"executionRecords\":" ++ toString impact.executionRecords ++ ",\"integrations\":" ++ toString impact.integrations ++
    ",\"invitations\":" ++ toString impact.invitations ++ ",\"members\":" ++ toString impact.members ++
    ",\"rows\":" ++ toString impact.rows ++ ",\"tables\":" ++ toString impact.tables ++ "\x7d"

section Preview

variable [DigestRuntime]

def purgePreviewText (activeWork : Nat) (holdPlacedAt : Option TimeValue) (impact : WorkspacePurgeImpact)
    (workspace : WorkspaceRoot) : String :=
  "byok-grid:workspace-purge-preview:v1\x00\x7b\"activeWork\":" ++ toString activeWork ++ ",\"holdPlacedAt\":" ++
    ((holdPlacedAt.map fun placedAt => jsonQuote (DigestRuntime.toISOString placedAt)).getD "null") ++
    ",\"impact\":" ++ impact.stringify ++ ",\"workspaceId\":" ++ jsonQuote workspace.id ++
    ",\"workspaceUpdatedAt\":" ++ jsonQuote (DigestRuntime.toISOString workspace.updatedAt) ++ "\x7d"

def activeWorkBlocker (count : Nat) : SqliteWorkspacePurgeBlocker where
  code := .activeWork
  count := count
  message := "Wait for queued, staging, and running work to finish or cancel it before deleting the workspace."

def legalHoldBlocker : SqliteWorkspacePurgeBlocker where
  code := .legalHold
  count := 1
  message := "An operator retention hold prevents deletion. Contact the deployment operator to review it."

def PurgeStore.blockers (store : PurgeStore) (workspaceId : String) : List SqliteWorkspacePurgeBlocker :=
  (if store.activeWork workspaceId > 0 then [activeWorkBlocker (store.activeWork workspaceId)] else []) ++
    (if (store.hold? workspaceId).isSome then [legalHoldBlocker] else [])

def buildSqliteWorkspacePurgePreview (store : PurgeStore) (scope : SqliteWorkspaceScope) :
    Except StoreError SqliteWorkspacePurgePreview := do
  let workspace ← requireSome (store.workspace? scope.workspaceId) (.access "The workspace was not found.")
  requireThat ((store.role? scope.workspaceId scope.userId).any fun role => hasWorkspacePermission role .workspaceManage)
    (.access "The workspace was not found.")
  return {
    blockers := store.blockers scope.workspaceId
    canPurge := (store.blockers scope.workspaceId).isEmpty
    impact := store.impact scope.workspaceId
    previewDigest := DigestRuntime.sha256 (purgePreviewText (store.activeWork scope.workspaceId)
      ((store.hold? scope.workspaceId).map WorkspacePurgeHold.placedAt) (store.impact scope.workspaceId) workspace)
    retainedFields := ["receiptId", "workspaceId", "actorUserId", "reason", "impact", "previewDigest", "purgedAt",
      "analyticsErasureState"]
    workspace := workspace
  }

end Preview

namespace PurgeStore

variable (store : PurgeStore) (workspaceId : String)

/-- The records which the deletion of a workspace reaches in so many references. The other
references under `on delete cascade` stay within the workspace and reach no more. -/
def cascades : Nat → WorkspaceRecord → Bool
  | 0, record => record.table.owner.isNone && record.workspaceId = workspaceId
  | steps + 1, record =>
    cascades steps record || store.records.any fun owner => cascades steps owner && record.references owner

/-- Of the references under `on delete restrict` one still stands when its parent is deleted:
that of a source record to the run which archived it, as runs go before records. -/
def restricted : Bool :=
  store.records.any fun run =>
    run.table = .sourceRuns && store.cascades workspaceId 2 run &&
      store.records.any fun record => record.table = .sourceRecords && record.archivedByRunId = some run.id

end PurgeStore

theorem WorkspaceTable.owner_chain (table owner next : WorkspaceTable) (h : table.owner = some owner)
    (hnext : owner.owner = some next) : next.owner = none := by
  cases table <;> cases h
  all_goals cases hnext
  all_goals rfl

namespace PurgeStore

variable {store : PurgeStore} {workspaceId : String}

theorem references_workspace {record owner : WorkspaceRecord} (h : record.references owner = true) :
    record.table.owner = some owner.table ∧ record.workspaceId = owner.workspaceId := by
  simp only [WorkspaceRecord.references, Bool.and_eq_true, decide_eq_true_eq] at h
  exact ⟨h.1.1, h.2⟩

theorem workspaceId_of_cascades {steps : Nat} {record : WorkspaceRecord} (h : store.cascades workspaceId steps record = true) :
    record.workspaceId = workspaceId := by
  induction steps generalizing record with
  | zero =>
    simp only [cascades, Bool.and_eq_true, decide_eq_true_eq] at h
    exact h.2
  | succ steps ih =>
    simp only [cascades, Bool.or_eq_true, List.any_eq_true, Bool.and_eq_true] at h
    rcases h with h | ⟨owner, _, howner, hreference⟩
    · exact ih h
    · rw [(references_workspace hreference).2]
      exact ih howner

theorem cascades_step {steps : Nat} {record owner : WorkspaceRecord} (howner : owner ∈ store.records)
    (hreference : record.references owner = true) (h : store.cascades workspaceId steps owner = true) :
    store.cascades workspaceId (steps + 1) record = true := by
  simp only [cascades, Bool.or_eq_true, List.any_eq_true, Bool.and_eq_true]
  exact .inr ⟨owner, howner, h, hreference⟩

theorem cascades_mono {steps : Nat} {record : WorkspaceRecord} (h : store.cascades workspaceId steps record = true) :
    store.cascades workspaceId (steps + 1) record = true := by
  simp only [cascades, h, Bool.true_or]

theorem cascades_iff {record : WorkspaceRecord} (h : record ∈ store.records) :
    store.cascades workspaceId 2 record = true ↔ record.workspaceId = workspaceId := by
  refine ⟨workspaceId_of_cascades, fun hworkspace => ?_⟩
  have hroot : ∀ root : WorkspaceRecord, root.table.owner = none → root.workspaceId = workspaceId →
      store.cascades workspaceId 0 root = true := by
    intro root htable hroot
    simp only [cascades, htable, hroot, Option.isNone_none, decide_true, Bool.and_self]
  cases htable : record.table.owner with
  | none => exact cascades_mono (cascades_mono (hroot record htable hworkspace))
  | some table =>
    obtain ⟨owner, howner, hreference⟩ := store.owned record h (by rw [htable]; rfl)
    obtain ⟨hownerTable, hownerWorkspace⟩ := references_workspace hreference
    cases hsecond : owner.table.owner with
    | none => exact cascades_mono (cascades_step howner hreference (hroot owner hsecond (hownerWorkspace.symm.trans hworkspace)))
    | some second =>
      obtain ⟨root, hrootMem, hrootReference⟩ := store.owned owner howner (by rw [hsecond]; rfl)
      obtain ⟨hrootTable, hrootWorkspace⟩ := references_workspace hrootReference
      have hrootOwner : root.table.owner = none := WorkspaceTable.owner_chain _ _ _ hownerTable hrootTable
      have hrootDeleted := hroot root hrootOwner (hrootWorkspace.symm.trans (hownerWorkspace.symm.trans hworkspace))
      exact cascades_step howner hreference (cascades_step hrootMem hrootReference hrootDeleted)

variable (store workspaceId)

/-- `delete from workspaces where id = …`, with the references to it. -/
def deleteWorkspace : PurgeStore where
  workspaces := store.workspaces.filter fun workspace => workspace.id ≠ workspaceId
  workspaceMembers := store.workspaceMembers.filter fun member => member.workspaceId ≠ workspaceId
  workspacePurgeHolds := store.workspacePurgeHolds.filter fun hold => hold.workspaceId ≠ workspaceId
  workspacePurgeReceipts := store.workspacePurgeReceipts
  records := store.records.filter fun record => !store.cascades workspaceId 2 record
  owned := by
    intro record hrecord howner
    obtain ⟨hmem, hkept⟩ := List.mem_filter.mp hrecord
    obtain ⟨owner, hownerMem, hreference⟩ := store.owned record hmem howner
    refine ⟨owner, List.mem_filter.mpr ⟨hownerMem, ?_⟩, hreference⟩
    rw [Bool.not_eq_true', ← Bool.not_eq_true, cascades_iff hownerMem, ← (references_workspace hreference).2,
      ← cascades_iff hmem, Bool.not_eq_true]
    simpa only [Bool.not_eq_true'] using hkept

end PurgeStore

structure WorkspacePurgeInput extends SqliteWorkspaceScope where
  acknowledgeIrreversible : Bool
  confirmationName : String
  previewDigest : String
  reason : WorkspacePurgeReason
  deriving Repr, DecidableEq

/-- `/^[0-9a-f]{64}$/`. -/
def isPurgeDigest (digest : String) : Bool :=
  digest.toList.length = 64 && digest.toList.all fun c => ('0' ≤ c && c ≤ '9') || ('a' ≤ c && c ≤ 'f')

/-- `workspacePurgeRequestSchema`. -/
def WorkspacePurgeInput.accepted (input : WorkspacePurgeInput) : Bool :=
  input.acknowledgeIrreversible && 1 ≤ utf16Length input.confirmationName && utf16Length input.confirmationName ≤ 120 &&
    isPurgeDigest input.previewDigest

def workspacePurgeConfirmationMatches (workspaceName confirmationName : String) : Bool :=
  confirmationName = workspaceName

section Purge

variable [DigestRuntime]

def requireNoBlocker : List SqliteWorkspacePurgeBlocker → Except StoreError Unit
  | [] => .ok ()
  | blocker :: _ => .error (.conflict blocker.message)

def purgeSqliteWorkspace (store : PurgeStore) (input : WorkspacePurgeInput) (receiptId : String) (now : TimeValue) :
    Except StoreError (WorkspacePurgeReceipt × PurgeStore) := do
  requireThat input.accepted .request
  let preview ← buildSqliteWorkspacePurgePreview store input.toSqliteWorkspaceScope
  requireThat (workspacePurgeConfirmationMatches preview.workspace.name input.confirmationName)
    (.validation "Type the exact workspace name to confirm permanent deletion.")
  requireThat (preview.previewDigest = input.previewDigest)
    (.conflict "The workspace changed after the preview. Review the refreshed impact before trying again.")
  requireNoBlocker preview.blockers
  let receipt : WorkspacePurgeReceipt :=
    { id := receiptId, workspaceId := input.workspaceId, actorUserId := input.userId, reason := input.reason,
      previewDigest := preview.previewDigest, impact := preview.impact, purgedAt := now }
  requireThat (store.workspacePurgeReceipts.all fun other => other.workspaceId ≠ input.workspaceId)
    (.constraint "workspace_purge_receipts_workspace_unique")
  requireThat (!store.restricted input.workspaceId) (.constraint "source_records_archived_by_run_id")
  return (receipt, { (store.deleteWorkspace input.workspaceId) with
    workspacePurgeReceipts := store.workspacePurgeReceipts ++ [receipt] })

def PurgeStore.afterPurge (store : PurgeStore) (input : WorkspacePurgeInput) (receiptId : String) (now : TimeValue) : PurgeStore :=
  match purgeSqliteWorkspace store input receiptId now with
  | .ok (_, purged) => purged
  | .error _ => store

end Purge

end ByokGrid
