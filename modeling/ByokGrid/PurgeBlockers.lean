import ByokGrid.WorkspacePurge

/-! What blocks the purge of a workspace. The query counts the active work of nine ledgers, and
workflow runs and their steps are in none of them. -/

namespace ByokGrid

def WorkspaceTable.holdsWork : WorkspaceTable → Bool
  | .cells | .cellRuns | .importJobs | .sourceRuns | .ingestionBatches | .webhookDeliveries | .writebackDeliveries
  | .bulkRunBatches | .rowSettlements | .workflowRuns | .workflowStepRuns => true
  | _ => false

def RecordStatus.isActive : RecordStatus → Bool
  | .queued | .staging | .ready | .running => true
  | _ => false

def workflowLedgers : List (WorkspaceTable × List RecordStatus) :=
  [(.workflowRuns, [.queued, .running]), (.workflowStepRuns, [.ready, .running])]

namespace WorkspaceRecord

def isActive (record : WorkspaceRecord) : Bool :=
  record.table.holdsWork && record.status.any RecordStatus.isActive

def isIn (ledgers : List (WorkspaceTable × List RecordStatus)) (record : WorkspaceRecord) : Bool :=
  ledgers.any fun ledger => record.table = ledger.1 && record.status.any fun status => status ∈ ledger.2

theorem statuses_active (table : WorkspaceTable) : ∀ status ∈ table.statuses,
    (table.holdsWork && status.isActive) =
      ((PurgeStore.countedLedgers ++ workflowLedgers).any fun ledger => table = ledger.1 && status ∈ ledger.2) := by
  cases table <;> decide

theorem isActive_eq (record : WorkspaceRecord) :
    record.isActive = (record.isIn PurgeStore.countedLedgers || record.isIn workflowLedgers) := by
  rw [isIn, isIn, ← List.any_append, isActive]
  cases hstatus : record.status with
  | none =>
    rw [Option.any_none, Bool.and_false, eq_comm, List.any_eq_false]
    intro ledger _
    rw [Option.any_none, Bool.and_false]
    exact Bool.false_ne_true
  | some status =>
    simp only [Option.any_some]
    exact statuses_active record.table status (record.allowed status hstatus)

end WorkspaceRecord

namespace PurgeStore

variable {store : PurgeStore} {workspaceId : String}

theorem activeWork_eq_zero : store.activeWork workspaceId = 0 ↔
    ∀ record ∈ store.records, record.workspaceId = workspaceId → record.isIn countedLedgers = false := by
  simp only [activeWork, List.sum_eq_zero_iff_forall_eq_nat, List.forall_mem_map, countIn, List.countP_eq_zero]
  constructor
  · intro h record hrecord hworkspace
    rw [WorkspaceRecord.isIn, List.any_eq_false]
    intro ledger hledger hmatch
    apply h ledger hledger record hrecord
    simpa only [hworkspace, decide_true, Bool.and_true] using hmatch
  · intro h ledger hledger record hrecord hmatch
    simp only [Bool.and_eq_true, decide_eq_true_eq] at hmatch
    have hnone := h record hrecord hmatch.1.2
    rw [WorkspaceRecord.isIn, List.any_eq_false] at hnone
    apply hnone ledger hledger
    simpa only [Bool.and_eq_true, decide_eq_true_eq] using ⟨hmatch.1.1, hmatch.2⟩

end PurgeStore

theorem hasWorkspacePermission_manage_iff {role : WorkspaceRole} :
    hasWorkspacePermission role .workspaceManage = true ↔ role = .owner := by
  cases role <;> decide

theorem requireNoBlocker_eq_ok {blockers : List SqliteWorkspacePurgeBlocker} {u : Unit} :
    requireNoBlocker blockers = .ok u ↔ blockers = [] := by
  cases blockers <;> simp [requireNoBlocker]

namespace PurgeStore

variable {store : PurgeStore} {workspaceId : String}

theorem blockers_eq_nil : store.blockers workspaceId = [] ↔
    store.activeWork workspaceId = 0 ∧ store.hold? workspaceId = none := by
  by_cases hwork : store.activeWork workspaceId > 0
  · have hne : store.activeWork workspaceId ≠ 0 := by omega
    simp [blockers, hwork, hne]
  · have hidle : store.activeWork workspaceId = 0 := by omega
    simp [blockers, hidle]

theorem workspace?_id {workspace : WorkspaceRoot} (h : store.workspace? workspaceId = some workspace) :
    workspace.id = workspaceId := by
  simpa using List.find?_some h

theorem hold?_eq_none (h : store.hold? workspaceId = none) :
    ∀ hold ∈ store.workspacePurgeHolds, hold.workspaceId ≠ workspaceId := by
  intro hold hhold hworkspace
  have hnone := List.find?_eq_none.mp h hold hhold
  exact hnone (by simpa using hworkspace)

theorem role?_manage {userId : String} :
    ((store.role? workspaceId userId).any fun role => hasWorkspacePermission role .workspaceManage) = true ↔
      store.role? workspaceId userId = some .owner := by
  cases hrole : store.role? workspaceId userId with
  | none => simp
  | some role => simp [hasWorkspacePermission_manage_iff]

end PurgeStore

section Purge

variable [DigestRuntime] {store purged : PurgeStore} {input : WorkspacePurgeInput} {receiptId : String} {now : TimeValue}
  {receipt : WorkspacePurgeReceipt}

def PurgeStore.idleDigest (store : PurgeStore) (workspace : WorkspaceRoot) : String :=
  DigestRuntime.sha256 (purgePreviewText 0 none (store.impact workspace.id) workspace)

structure PurgeCleared (store : PurgeStore) (input : WorkspacePurgeInput) : Prop where
  accepted : input.accepted = true
  owner : store.role? input.workspaceId input.userId = some .owner
  confirmed : ∃ workspace, store.workspace? input.workspaceId = some workspace ∧ input.confirmationName = workspace.name ∧
    input.previewDigest = store.idleDigest workspace
  idle : store.activeWork input.workspaceId = 0
  unheld : store.hold? input.workspaceId = none
  unpurged : ∀ other ∈ store.workspacePurgeReceipts, other.workspaceId ≠ input.workspaceId
  unrestricted : store.restricted input.workspaceId = false

def purgeReceipt (store : PurgeStore) (input : WorkspacePurgeInput) (receiptId : String) (now : TimeValue) :
    WorkspacePurgeReceipt where
  id := receiptId
  workspaceId := input.workspaceId
  actorUserId := input.userId
  reason := input.reason
  previewDigest := input.previewDigest
  impact := store.impact input.workspaceId
  purgedAt := now

def PurgeStore.preview (store : PurgeStore) (workspace : WorkspaceRoot) : SqliteWorkspacePurgePreview where
  blockers := store.blockers workspace.id
  canPurge := (store.blockers workspace.id).isEmpty
  impact := store.impact workspace.id
  previewDigest := DigestRuntime.sha256 (purgePreviewText (store.activeWork workspace.id)
    ((store.hold? workspace.id).map WorkspacePurgeHold.placedAt) (store.impact workspace.id) workspace)
  retainedFields := ["receiptId", "workspaceId", "actorUserId", "reason", "impact", "previewDigest", "purgedAt",
    "analyticsErasureState"]
  workspace := workspace

theorem buildSqliteWorkspacePurgePreview_eq_ok {scope : SqliteWorkspaceScope} {preview : SqliteWorkspacePurgePreview} :
    buildSqliteWorkspacePurgePreview store scope = .ok preview ↔
      ∃ workspace, store.workspace? scope.workspaceId = some workspace ∧
        store.role? scope.workspaceId scope.userId = some .owner ∧ preview = store.preview workspace := by
  simp only [buildSqliteWorkspacePurgePreview, except_bind_eq_ok, requireThat_eq_ok, requireSome_eq_ok, exists_const,
    PurgeStore.role?_manage, pure, Except.pure, Except.ok.injEq]
  refine exists_congr fun workspace => and_congr_right fun hworkspace => and_congr_right fun _ => ?_
  rw [← PurgeStore.workspace?_id hworkspace, eq_comm]
  rfl

theorem PurgeStore.preview_impact {workspaceId : String} {workspace : WorkspaceRoot}
    (h : store.workspace? workspaceId = some workspace) : (store.preview workspace).impact = store.impact workspaceId := by
  rw [← PurgeStore.workspace?_id h]
  rfl

theorem preview_idle {workspace : WorkspaceRoot} (h : store.blockers workspace.id = []) :
    (store.preview workspace).previewDigest = store.idleDigest workspace := by
  obtain ⟨hwork, hhold⟩ := PurgeStore.blockers_eq_nil.mp h
  rw [PurgeStore.preview, PurgeStore.idleDigest, hwork, hhold]
  rfl

theorem purgeSqliteWorkspace_eq_ok : purgeSqliteWorkspace store input receiptId now = .ok (receipt, purged) ↔
    PurgeCleared store input ∧ receipt = purgeReceipt store input receiptId now ∧
      purged = { (store.deleteWorkspace input.workspaceId) with
        workspacePurgeReceipts := store.workspacePurgeReceipts ++ [receipt] } := by
  simp only [purgeSqliteWorkspace, except_bind_eq_ok, requireThat_eq_ok, buildSqliteWorkspacePurgePreview_eq_ok,
    requireNoBlocker_eq_ok, workspacePurgeConfirmationMatches, exists_const, pure, Except.pure, Except.ok.injEq,
    decide_eq_true_eq, List.all_eq_true, Bool.not_eq_true', Prod.mk.injEq]
  constructor
  · rintro ⟨haccepted, preview, ⟨workspace, hworkspace, hrole, rfl⟩, hname, hdigest, hblockers, hunpurged, hrestricted,
      rfl, rfl⟩
    have hid := PurgeStore.workspace?_id hworkspace
    obtain ⟨hidle, hhold⟩ := PurgeStore.blockers_eq_nil.mp hblockers
    rw [preview_idle hblockers] at hdigest
    refine ⟨⟨haccepted, hrole, ⟨workspace, hworkspace, hname, hdigest.symm⟩, hid ▸ hidle, hid ▸ hhold,
      hunpurged, hrestricted⟩, ?_, rfl⟩
    simp only [purgeReceipt, preview_idle hblockers, hdigest, PurgeStore.preview_impact hworkspace]
  · rintro ⟨h, hreceipt, hpurged⟩
    obtain ⟨workspace, hworkspace, hname, hdigest⟩ := h.confirmed
    have hid := PurgeStore.workspace?_id hworkspace
    have hblockers : store.blockers workspace.id = [] := by
      rw [hid]
      exact PurgeStore.blockers_eq_nil.mpr ⟨h.idle, h.unheld⟩
    refine ⟨h.accepted, store.preview workspace, ⟨workspace, hworkspace, h.owner, rfl⟩, hname,
      (preview_idle hblockers).trans hdigest.symm, hblockers, h.unpurged, h.unrestricted, ?_⟩
    rw [hpurged, hreceipt]
    simp only [purgeReceipt, preview_idle hblockers, hdigest, PurgeStore.preview_impact hworkspace, and_self]

/-- The preview names the workspace and has the digest which the caller confirms, and nothing in
the workspace is held or active. -/
structure PurgeAllowed (store : PurgeStore) (input : WorkspacePurgeInput) : Prop where
  owner : store.role? input.workspaceId input.userId = some .owner
  confirmed : ∃ preview, buildSqliteWorkspacePurgePreview store input.toSqliteWorkspaceScope = .ok preview ∧
    input.confirmationName = preview.workspace.name ∧ input.previewDigest = preview.previewDigest
  unheld : ∀ hold ∈ store.workspacePurgeHolds, hold.workspaceId ≠ input.workspaceId
  inactive : ∀ record ∈ store.records, record.workspaceId = input.workspaceId → record.isActive = false

/-- The records of one workspace are gone, those of the others stay, and there is one receipt. -/
structure PurgedExactly (store purged : PurgeStore) (workspaceId : String) (receipt : WorkspacePurgeReceipt) : Prop where
  workspaces : purged.workspaces = store.workspaces.filter fun workspace => workspace.id ≠ workspaceId
  members : purged.workspaceMembers = store.workspaceMembers.filter fun member => member.workspaceId ≠ workspaceId
  holds : purged.workspacePurgeHolds = store.workspacePurgeHolds.filter fun hold => hold.workspaceId ≠ workspaceId
  records : purged.records = store.records.filter fun record => record.workspaceId ≠ workspaceId
  others : purged.workspacePurgeReceipts.filter (fun other => other.workspaceId ≠ workspaceId) =
    store.workspacePurgeReceipts.filter fun other => other.workspaceId ≠ workspaceId
  receipt : purged.workspacePurgeReceipts.filter (fun other => other.workspaceId = workspaceId) = [receipt]

structure PurgeSafe (store : PurgeStore) (input : WorkspacePurgeInput) (receiptId : String) (now : TimeValue) : Prop where
  allowed : ∀ receipt purged, purgeSqliteWorkspace store input receiptId now = .ok (receipt, purged) →
    PurgeAllowed store input
  deleted : ∀ receipt purged, purgeSqliteWorkspace store input receiptId now = .ok (receipt, purged) →
    store.afterPurge input receiptId now = purged ∧ PurgedExactly store purged input.workspaceId receipt
  unchanged : ∀ error, purgeSqliteWorkspace store input receiptId now = .error error →
    store.afterPurge input receiptId now = store

def WorkflowWork (store : PurgeStore) (workspaceId : String) : Prop :=
  ∃ record ∈ store.records, record.workspaceId = workspaceId ∧ record.isIn workflowLedgers = true

theorem PurgeCleared.deleted (h : PurgeCleared store input) (hreceipt : receipt.workspaceId = input.workspaceId) :
    PurgedExactly store { (store.deleteWorkspace input.workspaceId) with
      workspacePurgeReceipts := store.workspacePurgeReceipts ++ [receipt] } input.workspaceId receipt where
  workspaces := rfl
  members := rfl
  holds := rfl
  records := by
    apply List.filter_congr
    intro record hrecord
    rw [← Bool.coe_iff_coe, Bool.not_eq_true', ← Bool.not_eq_true, PurgeStore.cascades_iff hrecord, decide_eq_true_eq]
  others := by
    rw [List.filter_append, List.filter_singleton]
    simp only [hreceipt, ne_eq, not_true_eq_false, decide_false, cond_false, List.append_nil]
  receipt := by
    have hnone : store.workspacePurgeReceipts.filter (fun other => other.workspaceId = input.workspaceId) = [] := by
      rw [List.filter_eq_nil_iff]
      intro other hother hworkspace
      exact h.unpurged other hother (decide_eq_true_eq.mp hworkspace)
    rw [List.filter_append, hnone, List.filter_singleton]
    simp only [hreceipt, decide_true, cond_true, List.nil_append]

theorem PurgeCleared.allowed_iff (h : PurgeCleared store input) :
    PurgeAllowed store input ↔ ¬ WorkflowWork store input.workspaceId := by
  constructor
  · rintro hallowed ⟨record, hrecord, hworkspace, hwork⟩
    have hinactive := hallowed.inactive record hrecord hworkspace
    rw [WorkspaceRecord.isActive_eq, hwork, Bool.or_true] at hinactive
    exact Bool.false_ne_true hinactive.symm
  · intro hnone
    obtain ⟨workspace, hworkspace, hname, hdigest⟩ := h.confirmed
    have hblockers : store.blockers workspace.id = [] := by
      rw [PurgeStore.workspace?_id hworkspace]
      exact PurgeStore.blockers_eq_nil.mpr ⟨h.idle, h.unheld⟩
    refine ⟨h.owner, ⟨store.preview workspace, ?_, hname, hdigest.trans (preview_idle hblockers).symm⟩,
      PurgeStore.hold?_eq_none h.unheld, ?_⟩
    · exact buildSqliteWorkspacePurgePreview_eq_ok.mpr ⟨workspace, hworkspace, h.owner, rfl⟩
    · intro record hrecord hrecordWorkspace
      rw [WorkspaceRecord.isActive_eq, PurgeStore.activeWork_eq_zero.mp h.idle record hrecord hrecordWorkspace,
        Bool.false_or, Bool.eq_false_iff]
      exact fun hwork => hnone ⟨record, hrecord, hrecordWorkspace, hwork⟩

/-- A purge is safe unless it is cleared while a workflow runs. -/
theorem purge_safe_iff (store : PurgeStore) (input : WorkspacePurgeInput) (receiptId : String) (now : TimeValue) :
    PurgeSafe store input receiptId now ↔ ¬ (PurgeCleared store input ∧ WorkflowWork store input.workspaceId) := by
  constructor
  · rintro hsafe ⟨hcleared, hwork⟩
    have hpurge : purgeSqliteWorkspace store input receiptId now = .ok (purgeReceipt store input receiptId now, _) :=
      purgeSqliteWorkspace_eq_ok.mpr ⟨hcleared, rfl, rfl⟩
    exact hcleared.allowed_iff.mp (hsafe.allowed _ _ hpurge) hwork
  · intro hcondition
    refine ⟨?_, ?_, ?_⟩
    · intro receipt purged hpurge
      have hcleared := (purgeSqliteWorkspace_eq_ok.mp hpurge).1
      exact hcleared.allowed_iff.mpr fun hwork => hcondition ⟨hcleared, hwork⟩
    · intro receipt purged hpurge
      obtain ⟨hcleared, hreceipt, hpurged⟩ := purgeSqliteWorkspace_eq_ok.mp hpurge
      refine ⟨by rw [PurgeStore.afterPurge, hpurge], ?_⟩
      rw [hpurged]
      exact hcleared.deleted (by rw [hreceipt, purgeReceipt])
    · intro error hpurge
      rw [PurgeStore.afterPurge, hpurge]

end Purge

def queuedWorkflowStore : PurgeStore where
  workspaces := [⟨"workspace", "Revenue", .epoch⟩]
  workspaceMembers := [⟨"workspace", "user", .owner⟩]
  workspacePurgeHolds := []
  workspacePurgeReceipts := []
  records := [
    { table := .dataTables, id := "table", workspaceId := "workspace" },
    { table := .workflows, id := "workflow", workspaceId := "workspace" },
    { table := .workflowVersions, id := "version", workspaceId := "workspace" },
    { table := .workflowRuns, id := "run", workspaceId := "workspace", status := some .queued },
    { table := .workflowStepRuns, id := "step", workspaceId := "workspace", ownerId := "run", status := some .ready },
    { table := .outboxEvents, id := "event", workspaceId := "workspace" }]
  owned := by decide

def queuedWorkflowText : String :=
  "byok-grid:workspace-purge-preview:v1\x00\x7b\"activeWork\":0,\"holdPlacedAt\":null,\"impact\":\x7b\"auditRecords\":1,\"cells\":0,\"columns\":0,\"credentials\":0,\"executionRecords\":0,\"integrations\":0,\"invitations\":0,\"members\":1,\"rows\":0,\"tables\":1\x7d,\"workspaceId\":\"workspace\",\"workspaceUpdatedAt\":\"1970-01-01T00:00:00.000Z\"\x7d"

def queuedWorkflowDigest : String := "2c32862fc543a9c15baf66a93d98f800420c9944f201cfa692271252c8b99743"

abbrev queuedWorkflowRuntime : DigestRuntime where
  sha256 text := if text = queuedWorkflowText then queuedWorkflowDigest else ""
  toISOString _ := "1970-01-01T00:00:00.000Z"

def queuedWorkflowPurge : WorkspacePurgeInput where
  userId := "user"
  workspaceId := "workspace"
  acknowledgeIrreversible := true
  confirmationName := "Revenue"
  previewDigest := queuedWorkflowDigest
  reason := .testData

theorem purge_removes_queued_workflow :
    ¬ @PurgeSafe queuedWorkflowRuntime queuedWorkflowStore queuedWorkflowPurge "receipt" .epoch := by
  let _ := queuedWorkflowRuntime
  intro hsafe
  have hcleared : PurgeCleared queuedWorkflowStore queuedWorkflowPurge := by
    refine ⟨by decide +kernel, by decide +kernel, ?_, by decide +kernel, by decide +kernel, by decide, by decide +kernel⟩
    exact ⟨⟨"workspace", "Revenue", .epoch⟩, by decide +kernel⟩
  have hwork : WorkflowWork queuedWorkflowStore "workspace" := by
    unfold WorkflowWork
    decide +kernel
  have hpurge : purgeSqliteWorkspace queuedWorkflowStore queuedWorkflowPurge "receipt" .epoch =
      .ok (purgeReceipt queuedWorkflowStore queuedWorkflowPurge "receipt" .epoch, _) :=
    purgeSqliteWorkspace_eq_ok.mpr ⟨hcleared, rfl, rfl⟩
  exact hcleared.allowed_iff.mp (hsafe.allowed _ _ hpurge) hwork

end ByokGrid
