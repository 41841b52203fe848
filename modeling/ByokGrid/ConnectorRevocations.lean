import ByokGrid.Database
import ByokGrid.GridView

/-! Which connectors a workspace has revoked. A decision depends on the set of the active targets
only, and grows with it. -/

namespace ByokGrid

/-- `connectorIdentifierSchema` and `connectorPublisherKeyIdSchema`. -/
def isConnectorIdentifier (id : String) : Bool :=
  match id.toList with
  | [] => false
  | c :: rest =>
    ('a' ≤ c && c ≤ 'z') && rest.length ≤ 63 &&
      rest.all fun c => ('a' ≤ c && c ≤ 'z') || isDecimalDigit c || c == '_' || c == '-'

/-- `connectorVersionSchema`: three numbers, and a suffix after a hyphen. -/
def isConnectorVersion (version : String) : Bool :=
  let core := version.toList.takeWhile fun c => c ≠ '-'
  let suffix := version.toList.dropWhile fun c => c ≠ '-'
  let numbers := core.splitOn '.'
  numbers.length == 3 && (numbers.all fun digits => !digits.isEmpty && digits.all isDecimalDigit) &&
    (suffix.isEmpty || (!suffix.tail.isEmpty && suffix.tail.all fun c => c.isAlphanum || c == '.' || c == '-'))

/-- `connectorArtifactDigestSchema`. -/
def isArtifactDigest (digest : String) : Bool :=
  digest.toList.length == 64 && digest.toList.all fun c => isDecimalDigit c || ('a' ≤ c && c ≤ 'f')

/-- `connectorRevocationTargetSchema`. -/
def ConnectorRevocationTarget.accepted : ConnectorRevocationTarget → Bool
  | .publisher publisherKeyId => isConnectorIdentifier publisherKeyId
  | .connector connectorId => isConnectorIdentifier connectorId
  | .version connectorId connectorVersion => isConnectorIdentifier connectorId && isConnectorVersion connectorVersion
  | .artifact artifactSha256 => isArtifactDigest artifactSha256

def connectorRevocationTargetKey : ConnectorRevocationTarget → String
  | .publisher publisherKeyId => "publisher:" ++ publisherKeyId
  | .connector connectorId => "connector:" ++ connectorId
  | .version connectorId connectorVersion => "version:" ++ connectorId ++ "@" ++ connectorVersion
  | .artifact artifactSha256 => "artifact:" ++ artifactSha256

structure CreateConnectorRevocation where
  id : String
  reason : String
  target : ConnectorRevocationTarget
  userId : String
  deriving Repr, DecidableEq

structure LiftConnectorRevocation where
  confirmationTargetKey : String
  revocationId : String
  userId : String
  deriving Repr, DecidableEq

section Store

variable {ν : Type}

def requireWorkspacePermission (db : Database ν) (userId : String) (permission : WorkspacePermission) :
    Except StoreError Unit :=
  requireThat ((db.workspaceMembers.get? userId).any fun member => hasWorkspacePermission member.role permission)
    (.access "Workspace not found.")

def getActiveSqliteConnectorRevocations (db : Database ν) : List ConnectorRevocation :=
  db.connectorRevocations.records.filter fun revocation => revocation.liftedAt.isNone

/-- The row is not inserted beside an active one of its key; a reason of few characters which takes many
code units passes the schema and not the check of the table. -/
def createSqliteWorkspaceConnectorRevocation (db : Database ν) (input : CreateConnectorRevocation) :
    Except StoreError (Database ν) := do
  let reason := jsTrim input.reason
  requireThat (8 ≤ utf16Length reason && utf16Length reason ≤ 500 && input.target.accepted) .request
  requireWorkspacePermission db input.userId .connectorsManage
  requireThat (8 ≤ reason.length && reason.length ≤ 500) (.constraint "connector_revocations_reason_length")
  let targetKey := connectorRevocationTargetKey input.target
  let conflict := StoreError.conflict (targetKey ++ " already has an active revocation.")
  requireThat (!(getActiveSqliteConnectorRevocations db).any fun revocation =>
    connectorRevocationTargetKey revocation.target = targetKey) conflict
  let created ← requireSome (db.connectorRevocations.insert { id := input.id, target := input.target }) conflict
  return { db with connectorRevocations := created }

def liftSqliteWorkspaceConnectorRevocation (db : Database ν) (input : LiftConnectorRevocation) (now : Int) :
    Except StoreError (Database ν) := do
  requireThat (isEntityId input.revocationId && 1 ≤ utf16Length input.confirmationTargetKey &&
    utf16Length input.confirmationTargetKey ≤ 256) .request
  requireWorkspacePermission db input.userId .connectorsManage
  let current ← requireSome
    ((db.connectorRevocations.get? input.revocationId).filter fun revocation => revocation.liftedAt.isNone)
    (.access "The active connector revocation was not found.")
  let targetKey := connectorRevocationTargetKey current.target
  requireThat (input.confirmationTargetKey = targetKey)
    (.validation ("Type " ++ targetKey ++ " exactly to lift this revocation."))
  return { db with
    connectorRevocations := db.connectorRevocations.modify
      (fun revocation => revocation.id = input.revocationId && revocation.liftedAt.isNone)
      (fun revocation => { revocation with liftedAt := some now }) ⟨fun _ => rfl⟩ }

end Store

theorem publisherRevocation_isSome {revocations : List ConnectorRevocation} {keyId : String} :
    (publisherRevocation revocations keyId).isSome = true ↔
      ConnectorRevocationTarget.publisher keyId ∈ revocations.map ConnectorRevocation.target := by
  rw [publisherRevocation, ← Option.ne_none_iff_isSome, ne_eq, List.getLast?_eq_none_iff, List.filter_eq_nil_iff,
    List.mem_map]
  push Not
  simp only [decide_eq_true_eq]

def RevokedBy (targets : List ConnectorRevocationTarget) (identity : ConnectorExecutionIdentity) : Prop :=
  (.connector identity.connectorId ∈ targets ∨ .version identity.connectorId identity.connectorVersion ∈ targets ∨
    ∃ artifactSha256, identity.artifactSha256 = some artifactSha256 ∧ .artifact artifactSha256 ∈ targets) ∨
  (identity.publisherKeyIds ≠ [] ∧ ∀ keyId ∈ identity.publisherKeyIds, .publisher keyId ∈ targets)

theorem exists_matchesDirectly {identity : ConnectorExecutionIdentity} {targets : List ConnectorRevocationTarget} :
    (∃ target ∈ targets, target.matchesDirectly identity = true) ↔
      .connector identity.connectorId ∈ targets ∨ .version identity.connectorId identity.connectorVersion ∈ targets ∨
        ∃ artifactSha256, identity.artifactSha256 = some artifactSha256 ∧ .artifact artifactSha256 ∈ targets := by
  constructor
  · rintro ⟨target, hin, hmatches⟩
    cases target with
    | connector connectorId =>
      cases of_decide_eq_true hmatches
      exact .inl hin
    | version connectorId connectorVersion =>
      obtain ⟨hid, hversion⟩ := Bool.and_eq_true_iff.mp hmatches
      cases of_decide_eq_true hid
      cases of_decide_eq_true hversion
      exact .inr (.inl hin)
    | artifact artifactSha256 => exact .inr (.inr ⟨artifactSha256, of_decide_eq_true hmatches, hin⟩)
    | publisher keyId => cases hmatches
  · rintro (hin | hin | ⟨artifactSha256, hartifact, hin⟩)
    · exact ⟨_, hin, decide_eq_true rfl⟩
    · exact ⟨_, hin, Bool.and_eq_true_iff.mpr ⟨decide_eq_true rfl, decide_eq_true rfl⟩⟩
    · exact ⟨_, hin, decide_eq_true hartifact⟩

theorem connectorExecutionIsRevoked_iff {identity : ConnectorExecutionIdentity}
    {revocations : List ConnectorRevocation} : connectorExecutionIsRevoked identity revocations = true ↔
      RevokedBy (revocations.map ConnectorRevocation.target) identity := by
  have hdirect : (revocations.filter fun revocation => revocation.target.matchesDirectly identity) ≠ [] ↔
      ∃ target ∈ revocations.map ConnectorRevocation.target, target.matchesDirectly identity = true := by
    rw [ne_eq, List.filter_eq_nil_iff]
    push Not
    simp only [List.mem_map, exists_exists_and_eq_and]
  rw [connectorExecutionIsRevoked, matchingConnectorRevocations, RevokedBy, ← exists_matchesDirectly, ← hdirect]
  by_cases hfound : (revocations.filter fun revocation => revocation.target.matchesDirectly identity) ≠ []
  · simp [hfound]
  · rw [if_neg hfound, or_iff_right hfound]
    simp only [publisherRevocation_isSome]
    by_cases hpublishers : identity.publisherKeyIds ≠ [] ∧ ∀ keyId ∈ identity.publisherKeyIds,
        .publisher keyId ∈ revocations.map ConnectorRevocation.target
    · obtain ⟨hsigned, hall⟩ := hpublishers
      obtain ⟨keyId, hkey⟩ := List.exists_mem_of_ne_nil _ hsigned
      obtain ⟨revocation, hrevocation⟩ := Option.isSome_iff_exists.mp (publisherRevocation_isSome.mpr (hall keyId hkey))
      have hmember := List.mem_filterMap.mpr ⟨keyId, hkey, hrevocation⟩
      rw [if_pos ⟨hsigned, hall⟩, Bool.not_eq_true', List.isEmpty_eq_false_iff]
      exact iff_of_true (List.ne_nil_of_mem hmember) ⟨hsigned, hall⟩
    · rw [if_neg hpublishers]
      exact iff_of_false Bool.false_ne_true hpublishers

theorem RevokedBy.mono {xs ys : List ConnectorRevocationTarget} {identity : ConnectorExecutionIdentity}
    (hsub : xs ⊆ ys) (h : RevokedBy xs identity) : RevokedBy ys identity := by
  rcases h with (h | h | ⟨artifactSha256, hartifact, h⟩) | ⟨hsigned, hall⟩
  · exact .inl (.inl (hsub h))
  · exact .inl (.inr (.inl (hsub h)))
  · exact .inl (.inr (.inr ⟨artifactSha256, hartifact, hsub h⟩))
  · exact .inr ⟨hsigned, fun keyId hkey => hsub (hall keyId hkey)⟩

theorem RevokedBy.congr {xs ys : List ConnectorRevocationTarget} {identity : ConnectorExecutionIdentity}
    (h : ∀ target, target ∈ xs ↔ target ∈ ys) : RevokedBy xs identity ↔ RevokedBy ys identity :=
  ⟨RevokedBy.mono fun target => (h target).mp, RevokedBy.mono fun target => (h target).mpr⟩

section Steps

variable {ν : Type} {db db' : Database ν}

theorem createSqliteWorkspaceConnectorRevocation_active {input : CreateConnectorRevocation}
    (h : createSqliteWorkspaceConnectorRevocation db input = .ok db') :
    getActiveSqliteConnectorRevocations db' =
      getActiveSqliteConnectorRevocations db ++ [{ id := input.id, target := input.target }] := by
  simp only [createSqliteWorkspaceConnectorRevocation, except_bind_eq_ok, requireSome_eq_ok, pure, Except.pure,
    Except.ok.injEq] at h
  obtain ⟨_, _, _, _, _, _, _, _, created, hcreated, rfl⟩ := h
  obtain ⟨hrecords, _⟩ := Table.insert_eq_some hcreated
  rw [getActiveSqliteConnectorRevocations, hrecords, List.filter_append]
  rfl

theorem filter_lifted (revocations : List ConnectorRevocation) (revocationId : String) (now : Int) :
    ((revocations.map fun revocation =>
      if revocation.id = revocationId && revocation.liftedAt.isNone then { revocation with liftedAt := some now }
      else revocation).filter fun revocation => revocation.liftedAt.isNone) =
      (revocations.filter fun revocation => revocation.liftedAt.isNone).filter fun revocation =>
        revocation.id ≠ revocationId := by
  induction revocations with
  | nil => rfl
  | cons revocation rest ih =>
    rw [List.map_cons, List.filter_cons, List.filter_cons, ih]
    cases hlifted : revocation.liftedAt with
    | some time => simp [hlifted]
    | none =>
      by_cases hid : revocation.id = revocationId
      · simp [hid]
      · simp [hlifted, hid]

theorem liftSqliteWorkspaceConnectorRevocation_active {input : LiftConnectorRevocation} {now : Int}
    (h : liftSqliteWorkspaceConnectorRevocation db input now = .ok db') :
    getActiveSqliteConnectorRevocations db' =
      (getActiveSqliteConnectorRevocations db).filter fun revocation => revocation.id ≠ input.revocationId := by
  simp only [liftSqliteWorkspaceConnectorRevocation, except_bind_eq_ok, requireSome_eq_ok, pure, Except.pure,
    Except.ok.injEq] at h
  obtain ⟨_, _, _, _, _, _, _, _, rfl⟩ := h
  exact filter_lifted db.connectorRevocations.records input.revocationId now

end Steps

/-- An identity is revoked exactly when an active target names it or the active targets name each of its
publishers. Only the set of the active targets counts: a created revocation unblocks nothing, a lifted one
blocks nothing. -/
theorem connectorRevocation_exact (ν : Type) :
    (∀ (identity : ConnectorExecutionIdentity) (revocations : List ConnectorRevocation),
      connectorExecutionIsRevoked identity revocations = true ↔
        RevokedBy (revocations.map ConnectorRevocation.target) identity) ∧
    (∀ (identity : ConnectorExecutionIdentity) (xs ys : List ConnectorRevocation),
      (∀ target, target ∈ xs.map ConnectorRevocation.target ↔ target ∈ ys.map ConnectorRevocation.target) →
      connectorExecutionIsRevoked identity xs = connectorExecutionIsRevoked identity ys) ∧
    (∀ (identity : ConnectorExecutionIdentity) (xs ys : List ConnectorRevocation), xs ⊆ ys →
      connectorExecutionIsRevoked identity xs = true → connectorExecutionIsRevoked identity ys = true) ∧
    (∀ (identity : ConnectorExecutionIdentity) (db db' : Database ν) (input : CreateConnectorRevocation),
      createSqliteWorkspaceConnectorRevocation db input = .ok db' →
      connectorExecutionIsRevoked identity (getActiveSqliteConnectorRevocations db) = true →
      connectorExecutionIsRevoked identity (getActiveSqliteConnectorRevocations db') = true) ∧
    (∀ (identity : ConnectorExecutionIdentity) (db db' : Database ν) (input : LiftConnectorRevocation) (now : Int),
      liftSqliteWorkspaceConnectorRevocation db input now = .ok db' →
      connectorExecutionIsRevoked identity (getActiveSqliteConnectorRevocations db') = true →
      connectorExecutionIsRevoked identity (getActiveSqliteConnectorRevocations db) = true) := by
  have hmono : ∀ (identity : ConnectorExecutionIdentity) (xs ys : List ConnectorRevocation), xs ⊆ ys →
      connectorExecutionIsRevoked identity xs = true → connectorExecutionIsRevoked identity ys = true := by
    intro identity xs ys hsub h
    rw [connectorExecutionIsRevoked_iff] at h ⊢
    exact h.mono (List.map_subset _ hsub)
  refine ⟨fun _ _ => connectorExecutionIsRevoked_iff, fun identity xs ys h => ?_, hmono, ?_, ?_⟩
  · rw [Bool.eq_iff_iff, connectorExecutionIsRevoked_iff, connectorExecutionIsRevoked_iff]
    exact RevokedBy.congr h
  · intro identity db db' input h
    rw [createSqliteWorkspaceConnectorRevocation_active h]
    exact hmono identity _ _ (List.subset_append_left _ _)
  · intro identity db db' input now h
    rw [liftSqliteWorkspaceConnectorRevocation_active h]
    exact hmono identity _ _ List.filter_sublist.subset

def greeterIdentity : ConnectorExecutionIdentity where
  artifactSha256 := none
  connectorId := "greeter"
  connectorVersion := "1.0.0"
  publisherKeyIds := ["acme", "globex"]

/-- With the second publisher the greeter is revoked, and stays revoked beside further revocations. -/
theorem connectorRevocation_exact_greeter :
    connectorExecutionIsRevoked greeterIdentity [{ id := "1", target := .publisher "acme" }] = false ∧
      ∀ rest : List ConnectorRevocation, connectorExecutionIsRevoked greeterIdentity
        ({ id := "2", target := .publisher "globex" } :: { id := "1", target := .publisher "acme" } :: rest) = true :=
  ⟨by decide, fun _ => (connectorRevocation_exact Unit).2.2.1 greeterIdentity
    [{ id := "2", target := .publisher "globex" }, { id := "1", target := .publisher "acme" }] _
    (by simp) (by decide)⟩

end ByokGrid
