import ByokGrid.Store

/-! Who may use a table, and which connectors a workspace may run. -/

namespace ByokGrid

inductive WorkspaceRole where
  | owner
  | admin
  | member
  deriving Repr, DecidableEq

inductive WorkspacePermission where
  | connectorsManage
  | credentialsManage
  | dataRead
  | dataWrite
  | membersInvite
  | membersManage
  | schemaManage
  | workspaceManage
  deriving Repr, DecidableEq

def rolePermissions : WorkspaceRole → List WorkspacePermission
  | .owner =>
    [.connectorsManage, .credentialsManage, .dataRead, .dataWrite, .membersInvite, .membersManage,
      .schemaManage, .workspaceManage]
  | .admin =>
    [.connectorsManage, .credentialsManage, .dataRead, .dataWrite, .membersInvite, .membersManage,
      .schemaManage]
  | .member => [.dataRead, .dataWrite]

def hasWorkspacePermission (role : WorkspaceRole) (permission : WorkspacePermission) : Bool :=
  permission ∈ rolePermissions role

structure WorkspaceMember where
  userId : String
  role : WorkspaceRole
  deriving Repr, DecidableEq

instance : Keyed WorkspaceMember String := ⟨WorkspaceMember.userId⟩

structure Credential where
  id : String
  connectorId : String
  revokedAt : Option Int := none
  lastUsedAt : Option Int := none
  deriving Repr, DecidableEq

instance : Keyed Credential String := ⟨Credential.id⟩

def usableCredential (credentials : Table Credential) (connectorId credentialId : String) : Bool :=
  credentials.records.any fun credential =>
    credential.id = credentialId && credential.connectorId = connectorId && credential.revokedAt.isNone

inductive ConnectorRevocationTarget where
  | publisher (publisherKeyId : String)
  | connector (connectorId : String)
  | version (connectorId connectorVersion : String)
  | artifact (artifactSha256 : String)
  deriving Repr, DecidableEq

structure ConnectorRevocation where
  id : String
  target : ConnectorRevocationTarget
  liftedAt : Option Int := none
  deriving Repr, DecidableEq

instance : Keyed ConnectorRevocation String := ⟨ConnectorRevocation.id⟩

structure ConnectorExecutionIdentity where
  artifactSha256 : Option String
  connectorId : String
  connectorVersion : String
  publisherKeyIds : List String
  deriving Repr, DecidableEq

def ConnectorRevocationTarget.matchesDirectly (identity : ConnectorExecutionIdentity) :
    ConnectorRevocationTarget → Bool
  | .connector connectorId => connectorId = identity.connectorId
  | .version connectorId connectorVersion =>
    connectorId = identity.connectorId && connectorVersion = identity.connectorVersion
  | .artifact artifactSha256 => identity.artifactSha256 = some artifactSha256
  | .publisher _ => false

def publisherRevocation (revocations : List ConnectorRevocation) (keyId : String) : Option ConnectorRevocation :=
  (revocations.filter fun revocation => revocation.target = .publisher keyId).getLast?

def matchingConnectorRevocations (identity : ConnectorExecutionIdentity)
    (revocations : List ConnectorRevocation) : List ConnectorRevocation :=
  let directMatches := revocations.filter fun revocation => revocation.target.matchesDirectly identity
  if directMatches ≠ [] then directMatches
  else if identity.publisherKeyIds ≠ [] ∧
      ∀ keyId ∈ identity.publisherKeyIds, (publisherRevocation revocations keyId).isSome then
    identity.publisherKeyIds.filterMap (publisherRevocation revocations)
  else []

def connectorExecutionIsRevoked (identity : ConnectorExecutionIdentity)
    (revocations : List ConnectorRevocation) : Bool :=
  !(matchingConnectorRevocations identity revocations).isEmpty

def requireSqliteConnectorExecutionAllowed (revocations : Table ConnectorRevocation)
    (identity : ConnectorExecutionIdentity) : Except StoreError Unit :=
  requireThat
    (!connectorExecutionIsRevoked identity (revocations.records.filter fun revocation => revocation.liftedAt.isNone))
    (.revoked ("Connector " ++ identity.connectorId ++ "@" ++ identity.connectorVersion ++
      " is revoked in this workspace."))

end ByokGrid
