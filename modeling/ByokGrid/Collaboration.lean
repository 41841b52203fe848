import ByokGrid.CellRuns
import ByokGrid.Connectors
import ByokGrid.GridViewQuery
import ByokGrid.Transition

/-! The members of workspaces: they are invited, accept, change their roles and are removed. -/

namespace ByokGrid

/-- `Exclude<WorkspaceRole, 'owner'>`. -/
inductive InvitableRole where
  | admin
  | member
  deriving Repr, DecidableEq

def InvitableRole.role : InvitableRole → WorkspaceRole
  | .admin => .admin
  | .member => .member

def InvitableRole.name : InvitableRole → String
  | .admin => "admin"
  | .member => "member"

def canInviteWorkspaceRole (actorRole : WorkspaceRole) (invitedRole : InvitableRole) : Bool :=
  if !hasWorkspacePermission actorRole .membersInvite then false
  else if actorRole = .owner then true
  else actorRole = .admin && invitedRole = .member

def canManageWorkspaceMember (actorRole targetRole : WorkspaceRole) : Bool :=
  if !hasWorkspacePermission actorRole .membersManage then false
  else if actorRole = .owner then targetRole ≠ .owner
  else actorRole = .admin && targetRole = .member

theorem canInviteWorkspaceRole_iff {actorRole : WorkspaceRole} {invitedRole : InvitableRole} :
    canInviteWorkspaceRole actorRole invitedRole = true ↔
      actorRole = .owner ∨ actorRole = .admin ∧ invitedRole = .member := by
  cases actorRole <;> cases invitedRole <;> decide

theorem canManageWorkspaceMember_iff {actorRole targetRole : WorkspaceRole} :
    canManageWorkspaceMember actorRole targetRole = true ↔
      actorRole = .owner ∧ targetRole ≠ .owner ∨ actorRole = .admin ∧ targetRole = .member := by
  cases actorRole <;> cases targetRole <;> decide

structure CollaborationUser where
  id : String
  name : String
  email : String
  deriving Repr, DecidableEq

instance : Keyed CollaborationUser String := ⟨CollaborationUser.id⟩

structure CollaborationWorkspace where
  id : String
  name : String
  slug : String
  deriving Repr, DecidableEq

instance : Keyed CollaborationWorkspace String := ⟨CollaborationWorkspace.id⟩

structure Membership where
  workspaceId : String
  userId : String
  role : WorkspaceRole
  deriving Repr, DecidableEq

instance : Keyed Membership (String × String) := ⟨fun member => (member.workspaceId, member.userId)⟩

structure WorkspaceInvitation where
  id : String
  workspaceId : String
  email : String
  role : InvitableRole
  tokenHash : String
  invitedByUserId : Option String
  expiresAt : Int
  acceptedAt : Option Int := none
  acceptedByUserId : Option String := none
  revokedAt : Option Int := none
  deriving Repr, DecidableEq

instance : Keyed WorkspaceInvitation String := ⟨WorkspaceInvitation.id⟩

def WorkspaceInvitation.active (invitation : WorkspaceInvitation) : Bool :=
  invitation.acceptedAt.isNone && invitation.revokedAt.isNone

structure CollaborationStore where
  users : Table CollaborationUser
  workspaces : Table CollaborationWorkspace
  workspaceMembers : Table Membership
  workspaceInvitations : Table WorkspaceInvitation

def invitationTtlMs : Int := 7 * 24 * 60 * 60 * 1000

inductive InvitationStatus where
  | expired
  | pending
  deriving Repr, DecidableEq

structure InvitationSummary where
  email : String
  expiresAt : Int
  id : String
  invitedByUserId : Option String
  role : InvitableRole
  status : InvitationStatus
  deriving Repr, DecidableEq

def invitationSummary (invitation : WorkspaceInvitation) (now : Int) : InvitationSummary where
  email := invitation.email
  expiresAt := invitation.expiresAt
  id := invitation.id
  invitedByUserId := invitation.invitedByUserId
  role := invitation.role
  status := if invitation.expiresAt > now then .pending else .expired

structure MemberSummary where
  email : String
  name : String
  role : WorkspaceRole
  userId : String
  deriving Repr, DecidableEq

structure AcceptedMembership where
  id : String
  name : String
  role : WorkspaceRole
  slug : String
  deriving Repr, DecidableEq

/-- `z.email()`. -/
class EmailRuntime where
  isEmail : String → Bool

structure InviteMember where
  workspaceId : String
  userId : String
  email : String
  role : InvitableRole
  deriving Repr, DecidableEq

structure InviteContext where
  id : String
  token : String
  now : Int
  deriving Repr, DecidableEq

structure AcceptInvitation where
  email : String
  token : String
  userId : String
  deriving Repr, DecidableEq

structure RevokeInvitation where
  workspaceId : String
  userId : String
  invitationId : String
  deriving Repr, DecidableEq

structure UpdateMemberRole where
  workspaceId : String
  userId : String
  role : InvitableRole
  targetUserId : String
  deriving Repr, DecidableEq

structure RemoveMember where
  workspaceId : String
  userId : String
  targetUserId : String
  deriving Repr, DecidableEq

/-- `requireMembershipRole`. -/
def requireMembershipRole (store : CollaborationStore) (workspaceId userId : String) : Except StoreError WorkspaceRole :=
  requireSome ((store.workspaceMembers.get? (workspaceId, userId)).map Membership.role)
    (.access "The workspace was not found.")

def requireMember (store : CollaborationStore) (workspaceId userId : String) : Except StoreError MemberSummary :=
  requireSome (do
    let member ← store.workspaceMembers.get? (workspaceId, userId)
    let user ← store.users.get? member.userId
    return ⟨user.email, user.name, member.role, user.id⟩) (.access "The member was not found.")

def updateInvitation (invitations : Table WorkspaceInvitation) (invitationId : String)
    (update : WorkspaceInvitation → WorkspaceInvitation) (hupdate : KeepsKey update) : Table WorkspaceInvitation :=
  invitations.modify (fun invitation => invitation.id = invitationId && invitation.active) update hupdate

def revokeInvitation (invitations : Table WorkspaceInvitation) (invitationId : String) (now : Int) :
    Table WorkspaceInvitation :=
  updateInvitation invitations invitationId (fun invitation => { invitation with revokedAt := some now }) ⟨fun _ => rfl⟩

def insertInvitation (invitations : Table WorkspaceInvitation) (invitation : WorkspaceInvitation) :
    Except StoreError (Table WorkspaceInvitation) := do
  requireThat (!invitations.records.any fun other => other.tokenHash = invitation.tokenHash)
    (.constraint "workspace_invitations_token_hash_unique")
  requireThat (!invitations.records.any fun other =>
      other.workspaceId = invitation.workspaceId && other.email = invitation.email && other.active)
    (.constraint "workspace_invitations_active_email_unique")
  requireSome (invitations.insert invitation) (.constraint "workspace_invitations_pkey")

section Operations

variable (ν : Type) [JsRuntime ν] [ConnectorRuntime ν] [EmailRuntime]

def normalizeWorkspaceEmail (email : String) : Except StoreError String :=
  let normalized := JsRuntime.normalizeNFKC ν (jsTrim email)
  if EmailRuntime.isEmail normalized ∧ utf16Length normalized ≤ 320 then
    .ok (JsRuntime.toLocaleLowerCase ν normalized)
  else .error .request

def hashSqliteWorkspaceInvitationToken (token : String) : String :=
  ConnectorRuntime.sha256 ν ("byok-grid:workspace-invitation:v1:" ++ token)

def isMemberEmail (store : CollaborationStore) (workspaceId email : String) : Bool :=
  store.workspaceMembers.records.any fun member =>
    member.workspaceId = workspaceId && (store.users.get? member.userId).any fun user =>
      String.ofList (asciiLower user.email) = email

def activeInvitation (store : CollaborationStore) (workspaceId email : String) : Option WorkspaceInvitation :=
  store.workspaceInvitations.records.find? fun invitation =>
    invitation.workspaceId = workspaceId && invitation.email = email && invitation.active

def newInvitation (input : InviteMember) (context : InviteContext) (email : String) : WorkspaceInvitation where
  id := context.id
  workspaceId := input.workspaceId
  email := email
  role := input.role
  tokenHash := hashSqliteWorkspaceInvitationToken ν context.token
  invitedByUserId := some input.userId
  expiresAt := context.now + invitationTtlMs

def createSqliteWorkspaceInvitation (store : CollaborationStore) (input : InviteMember) (context : InviteContext) :
    Except StoreError ((InvitationSummary × String) × CollaborationStore) := do
  let email ← normalizeWorkspaceEmail ν input.email
  let actorRole ← requireMembershipRole store input.workspaceId input.userId
  requireThat (canInviteWorkspaceRole actorRole input.role)
    (.access ("You cannot invite a " ++ input.role.name ++ " to this workspace."))
  requireThat (!isMemberEmail store input.workspaceId email)
    (.conflict "That email already belongs to a workspace member.")
  let existing := activeInvitation store input.workspaceId email
  requireThat (!existing.any fun invitation => invitation.expiresAt > context.now)
    (.conflict "A pending invitation already exists for that email.")
  let invitations := match existing with
    | some invitation => revokeInvitation store.workspaceInvitations invitation.id context.now
    | none => store.workspaceInvitations
  let created ← insertInvitation invitations (newInvitation ν input context email)
  return ((⟨email, context.now + invitationTtlMs, context.id, some input.userId, input.role, .pending⟩, context.token),
    { store with workspaceInvitations := created })

def acceptedMember (invitation : WorkspaceInvitation) (userId : String) : Membership :=
  ⟨invitation.workspaceId, userId, invitation.role.role⟩

def acceptSqliteWorkspaceInvitation (store : CollaborationStore) (input : AcceptInvitation) (now : Int) :
    Except StoreError (AcceptedMembership × CollaborationStore) := do
  requireThat (input.token ≠ "" && utf16Length input.token ≤ 256) (.validation "The invitation token is invalid.")
  let email ← normalizeWorkspaceEmail ν input.email
  let found := store.workspaceInvitations.records.find? fun invitation =>
    invitation.tokenHash = hashSqliteWorkspaceInvitationToken ν input.token
  let invitation ← requireSome (found.filter fun invitation => invitation.active && invitation.expiresAt > now)
    (.validation "The invitation is invalid or expired.")
  requireThat (invitation.email = email) (.validation "Sign in with the email address that was invited.")
  let invitations := updateInvitation store.workspaceInvitations invitation.id
    (fun invitation => { invitation with acceptedAt := some now, acceptedByUserId := some input.userId }) ⟨fun _ => rfl⟩
  requireThat (store.users.get? input.userId).isSome (.constraint "FOREIGN KEY constraint failed")
  -- `onConflictDoNothing`: a member keeps the role he has.
  let members := (store.workspaceMembers.insert (acceptedMember invitation input.userId)).getD store.workspaceMembers
  let membership ← requireSome (do
    let member ← members.get? (invitation.workspaceId, input.userId)
    let workspace ← store.workspaces.get? invitation.workspaceId
    return (⟨workspace.id, workspace.name, member.role, workspace.slug⟩ : AcceptedMembership))
    (.failure "The membership could not be created.")
  return (membership, { store with workspaceInvitations := invitations, workspaceMembers := members })

end Operations

def revokeSqliteWorkspaceInvitation (store : CollaborationStore) (input : RevokeInvitation) (now : Int) :
    Except StoreError (InvitationSummary × CollaborationStore) := do
  let actorRole ← requireMembershipRole store input.workspaceId input.userId
  let invitation ← requireSome ((store.workspaceInvitations.get? input.invitationId).filter fun invitation =>
      invitation.workspaceId = input.workspaceId && invitation.active) (.access "The invitation was not found.")
  requireThat (canInviteWorkspaceRole actorRole invitation.role) (.access "You cannot revoke this invitation.")
  return (invitationSummary invitation now,
    { store with workspaceInvitations := revokeInvitation store.workspaceInvitations invitation.id now })

def updateSqliteWorkspaceMemberRole (store : CollaborationStore) (input : UpdateMemberRole) :
    Except StoreError (MemberSummary × CollaborationStore) := do
  let actorRole ← requireMembershipRole store input.workspaceId input.userId
  let target ← requireMember store input.workspaceId input.targetUserId
  requireThat (canManageWorkspaceMember actorRole target.role && canInviteWorkspaceRole actorRole input.role)
    (.access "You cannot change this member role.")
  let members := store.workspaceMembers.modify
    (fun member => member.workspaceId = input.workspaceId && member.userId = input.targetUserId && member.role = target.role)
    (fun member => { member with role := input.role.role }) ⟨fun _ => rfl⟩
  return ({ target with role := input.role.role }, { store with workspaceMembers := members })

def removeSqliteWorkspaceMember (store : CollaborationStore) (input : RemoveMember) :
    Except StoreError (String × CollaborationStore) := do
  let actorRole ← requireMembershipRole store input.workspaceId input.userId
  let target ← requireMember store input.workspaceId input.targetUserId
  requireThat (canManageWorkspaceMember actorRole target.role) (.access "You cannot remove this member.")
  let members := store.workspaceMembers.filter fun member =>
    !(member.workspaceId = input.workspaceId && member.userId = input.targetUserId && member.role = target.role)
  return (input.targetUserId, { store with workspaceMembers := members })

inductive CollaborationAction where
  | invite (input : InviteMember) (context : InviteContext)
  | accept (input : AcceptInvitation) (now : Int)
  | revoke (input : RevokeInvitation) (now : Int)
  | updateRole (input : UpdateMemberRole)
  | remove (input : RemoveMember)
  deriving Repr, DecidableEq

def CollaborationStore.after {α : Type} (store : CollaborationStore) (result : Except StoreError (α × CollaborationStore)) :
    CollaborationStore :=
  match result with
  | .ok (_, next) => next
  | .error _ => store

def CollaborationStore.step (ν : Type) [JsRuntime ν] [ConnectorRuntime ν] [EmailRuntime] (store : CollaborationStore) :
    CollaborationAction → CollaborationStore
  | .invite input context => store.after (createSqliteWorkspaceInvitation ν store input context)
  | .accept input now => store.after (acceptSqliteWorkspaceInvitation ν store input now)
  | .revoke input now => store.after (revokeSqliteWorkspaceInvitation store input now)
  | .updateRole input => store.after (updateSqliteWorkspaceMemberRole store input)
  | .remove input => store.after (removeSqliteWorkspaceMember store input)

end ByokGrid
