import ByokGrid.CollaborationRoles

/-! What holds in every history of invitations and role changes which starts without invitations. -/

namespace ByokGrid

/-- What becomes of an invitation: who may accept it and until when never changes, and once
settled nothing does. -/
structure InvitationKept (old new : WorkspaceInvitation) : Prop where
  id : new.id = old.id
  workspace : new.workspaceId = old.workspaceId
  email : new.email = old.email
  role : new.role = old.role
  token : new.tokenHash = old.tokenHash
  expires : new.expiresAt = old.expiresAt
  settled : old.settled → new = old

theorem InvitationKept.refl (invitation : WorkspaceInvitation) : InvitationKept invitation invitation :=
  ⟨rfl, rfl, rfl, rfl, rfl, rfl, fun _ => rfl⟩

theorem InvitationKept.trans {first second third : WorkspaceInvitation} (h₁ : InvitationKept first second)
    (h₂ : InvitationKept second third) : InvitationKept first third where
  id := h₂.id.trans h₁.id
  workspace := h₂.workspace.trans h₁.workspace
  email := h₂.email.trans h₁.email
  role := h₂.role.trans h₁.role
  token := h₂.token.trans h₁.token
  expires := h₂.expires.trans h₁.expires
  settled hsettled := by
    have hsecond := h₁.settled hsettled
    rw [hsecond] at h₂
    exact h₂.settled hsettled

theorem InvitationKept.active {old new : WorkspaceInvitation} (h : InvitationKept old new) (hactive : new.active = true) :
    old.active = true := by
  by_contra hsettled
  rw [Bool.not_eq_true] at hsettled
  rw [h.settled hsettled, hsettled] at hactive
  cases hactive

theorem InvitationKept.of_active {invitation : WorkspaceInvitation} (hactive : invitation.active = true)
    (acceptedAt : Option Int) (acceptedByUserId : Option String) (revokedAt : Option Int) :
    InvitationKept invitation { invitation with acceptedAt, acceptedByUserId, revokedAt } :=
  ⟨rfl, rfl, rfl, rfl, rfl, rfl, fun hsettled => by rw [WorkspaceInvitation.settled, hactive] at hsettled; cases hsettled⟩

theorem InvitationKept.ite {old updated : WorkspaceInvitation} {changed : Prop} [Decidable changed]
    (h : changed → InvitationKept old updated) : InvitationKept old (if changed then updated else old) := by
  by_cases hchanged : changed
  · rw [if_pos hchanged]
    exact h hchanged
  · rw [if_neg hchanged]
    exact .refl old

section Steps

variable {ν : Type} [JsRuntime ν] [ConnectorRuntime ν] [EmailRuntime] {store next : CollaborationStore}
  {action : CollaborationAction}

theorem CollaborationStep.kept (h : CollaborationStep ν store action next) {id : String} {old : WorkspaceInvitation}
    (hold : store.workspaceInvitations.get? id = some old) :
    ∃ new, next.workspaceInvitations.get? id = some new ∧ InvitationKept old new := by
  obtain ⟨hmem, hid⟩ := Table.get?_eq_some.mp hold
  cases h with
  | refused => exact ⟨old, hold, .refl old⟩
  | roleChanged => exact ⟨old, hold, .refl old⟩
  | removed => exact ⟨old, hold, .refl old⟩
  | invited email replaced actor allowed expired fresh token free invitations =>
    have hne : id ≠ _ := fun heq => Option.some_ne_none old (hold.symm.trans (heq ▸ fresh))
    have hget := (invitations id).trans (if_neg hne)
    rw [hold] at hget
    exact ⟨_, hget, .ite fun hreplaced => .of_active (expired old hmem hreplaced).1 _ _ _⟩
  | accepted found token active unexpired email joined invitations =>
    have hget := invitations id
    rw [hold] at hget
    refine ⟨_, hget, .ite fun heq => .of_active ?_ _ _ _⟩
    rw [heq, found] at hold
    exact Option.some.inj hold ▸ active
  | revoked actor found workspace active allowed invitations =>
    have hget := invitations id
    rw [hold] at hget
    refine ⟨_, hget, .ite fun heq => .of_active ?_ _ _ _⟩
    rw [heq, found] at hold
    exact Option.some.inj hold ▸ active

theorem CollaborationStep.source (h : CollaborationStep ν store action next) {id : String} {new : WorkspaceInvitation}
    (hnew : next.workspaceInvitations.get? id = some new) :
    (∃ old, store.workspaceInvitations.get? id = some old ∧ InvitationKept old new) ∨
      ∃ input context email actorRole, action = .invite input context ∧ new = newInvitation ν input context email ∧
        store.workspaceInvitations.get? id = none ∧ store.roleOf input.workspaceId input.userId = some actorRole ∧
        canInviteWorkspaceRole actorRole input.role = true ∧
        (∀ other ∈ next.workspaceInvitations, other.tokenHash = new.tokenHash → other = new) ∧
        ∀ other ∈ next.workspaceInvitations, other.workspaceId = new.workspaceId → other.email = new.email →
          other.active = true → other = new := by
  cases hold : store.workspaceInvitations.get? id with
  | some old =>
    obtain ⟨kept, hkept, hsame⟩ := h.kept hold
    rw [hnew, Option.some.injEq] at hkept
    exact .inl ⟨old, rfl, hkept ▸ hsame⟩
  | none =>
    refine .inr ?_
    cases h with
    | refused => cases hold.symm.trans hnew
    | roleChanged => cases hold.symm.trans hnew
    | removed => cases hold.symm.trans hnew
    | accepted found token active unexpired email joined invitations =>
      have hget := invitations id
      rw [hold, Option.map_none, hnew] at hget
      cases hget
    | revoked actor found workspace active allowed invitations =>
      have hget := invitations id
      rw [hold, Option.map_none, hnew] at hget
      cases hget
    | @invited input context actorRole created email replaced actor allowed expired fresh token free invitations =>
      have hget := invitations id
      rw [hold, Option.map_none, hnew] at hget
      split at hget
      · rename_i heq
        cases hget
        have halone : ∀ other ∈ created, other.id = context.id → other = newInvitation ν input context email :=
          fun other hother hid => Table.eq_of_key hother (Table.get?_eq_some.mp hnew).1 hid
        refine ⟨input, context, email, actorRole, rfl, rfl, rfl, actor, allowed, fun other hother htoken => ?_,
          fun other hother hworkspace hemail hactive => ?_⟩
        · by_contra hne
          have hid : other.id ≠ context.id := fun hid => hne (halone other hother hid)
          have hfound := (invitations other.id).symm.trans (Table.get?_of_mem hother)
          rw [if_neg hid] at hfound
          obtain ⟨old, hstored, hold⟩ := Option.map_eq_some_iff.mp hfound
          refine token old (Table.get?_eq_some.mp hstored).1 (Eq.trans ?_ htoken)
          rw [← hold]
          split <;> rfl
        · by_contra hne
          have hid : other.id ≠ context.id := fun hid => hne (halone other hother hid)
          rw [free other hother hid hworkspace hemail] at hactive
          cases hactive
      · cases hget

end Steps

theorem InvitableRole.role_ne_owner (role : InvitableRole) : role.role ≠ .owner := by
  cases role <;> decide

theorem manageable_ne_owner {actorRole targetRole : WorkspaceRole} (h : canManageWorkspaceMember actorRole targetRole = true) :
    targetRole ≠ .owner := by
  rcases canManageWorkspaceMember_iff.mp h with ⟨_, hne⟩ | ⟨_, rfl⟩
  · exact hne
  · decide

section Members

variable (ν : Type) [JsRuntime ν] [ConnectorRuntime ν] [EmailRuntime] (store : CollaborationStore)

inductive RoleAfter : CollaborationAction → String → String → Option WorkspaceRole → Prop
  | kept (action : CollaborationAction) (workspaceId userId : String) :
      RoleAfter action workspaceId userId (store.roleOf workspaceId userId)
  | joined {input : AcceptInvitation} {now : Int} {invitation : WorkspaceInvitation}
      (found : store.workspaceInvitations.get? invitation.id = some invitation)
      (token : invitation.tokenHash = hashSqliteWorkspaceInvitationToken ν input.token)
      (active : invitation.active = true) (unexpired : now < invitation.expiresAt)
      (email : normalizeWorkspaceEmail ν input.email = .ok invitation.email)
      (absent : store.roleOf invitation.workspaceId input.userId = none) :
      RoleAfter (.accept input now) invitation.workspaceId input.userId (some invitation.role.role)
  | changed {input : UpdateMemberRole} {actorRole targetRole : WorkspaceRole}
      (actor : store.roleOf input.workspaceId input.userId = some actorRole)
      (target : store.roleOf input.workspaceId input.targetUserId = some targetRole)
      (manageable : canManageWorkspaceMember actorRole targetRole = true)
      (allowed : canInviteWorkspaceRole actorRole input.role = true) :
      RoleAfter (.updateRole input) input.workspaceId input.targetUserId (some input.role.role)
  | removed {input : RemoveMember} {actorRole targetRole : WorkspaceRole}
      (actor : store.roleOf input.workspaceId input.userId = some actorRole)
      (target : store.roleOf input.workspaceId input.targetUserId = some targetRole)
      (manageable : canManageWorkspaceMember actorRole targetRole = true) :
      RoleAfter (.remove input) input.workspaceId input.targetUserId none

end Members

section Steps

variable {ν : Type} [JsRuntime ν] [ConnectorRuntime ν] [EmailRuntime] {store next : CollaborationStore}
  {action : CollaborationAction}

theorem CollaborationStep.roleAfter (h : CollaborationStep ν store action next) (workspaceId userId : String) :
    RoleAfter ν store action workspaceId userId (next.roleOf workspaceId userId) := by
  cases h with
  | refused => exact .kept _ _ _
  | invited => exact .kept _ _ _
  | revoked => exact .kept _ _ _
  | accepted found token active unexpired email joined invitations =>
    rw [CollaborationStore.roleOf, joined]
    split
    · rename_i hkey
      cases hkey
      cases hmember : store.workspaceMembers.get? _ with
      | none => exact .joined found token active unexpired email (congrArg (Option.map Membership.role) hmember)
      | some member =>
        have hrole := congrArg (Option.map Membership.role) hmember
        exact hrole ▸ .kept _ _ _
    · exact .kept _ _ _
  | roleChanged actor target manageable allowed changed =>
    rw [CollaborationStore.roleOf, changed]
    split
    · rename_i hkey
      cases hkey
      exact .changed actor target manageable allowed
    · exact .kept _ _ _
  | removed actor target manageable gone =>
    rw [CollaborationStore.roleOf, gone]
    split
    · rename_i hkey
      cases hkey
      exact .removed actor target manageable
    · exact .kept _ _ _

theorem RoleAfter.owner_iff {workspaceId userId : String} {role : Option WorkspaceRole}
    (h : RoleAfter ν store action workspaceId userId role) :
    role = some .owner ↔ store.roleOf workspaceId userId = some .owner := by
  cases h with
  | kept => exact Iff.rfl
  | @joined input now invitation found token active unexpired email absent =>
    have hrole := invitation.role.role_ne_owner
    simp [absent, hrole]
  | @changed input actorRole targetRole actor target manageable allowed =>
    have hrole := input.role.role_ne_owner
    have htarget := manageable_ne_owner manageable
    simp [target, hrole, htarget]
  | @removed input actorRole targetRole actor target manageable =>
    have htarget := manageable_ne_owner manageable
    simp [target, htarget]

end Steps

def CollaborationStore.run (ν : Type) [JsRuntime ν] [ConnectorRuntime ν] [EmailRuntime] (store : CollaborationStore)
    (actions : List CollaborationAction) : CollaborationStore :=
  actions.foldl (fun store action => store.step ν action) store

def CollaborationAction.actor : CollaborationAction → Option (String × String)
  | .invite input _ => some (input.workspaceId, input.userId)
  | .accept _ _ => none
  | .revoke input _ => some (input.workspaceId, input.userId)
  | .updateRole input => some (input.workspaceId, input.userId)
  | .remove input => some (input.workspaceId, input.userId)

section Histories

variable (ν : Type) [JsRuntime ν] [ConnectorRuntime ν] [EmailRuntime] (start : CollaborationStore)
  (before : List CollaborationAction)

structure RoleInvariant (s : CollaborationStore) : Prop where
  owners : ∀ workspaceId userId, s.roleOf workspaceId userId = some .owner ↔ start.roleOf workspaceId userId = some .owner
  authored : ∀ invitation ∈ s.workspaceInvitations, ∃ input context, .invite input context ∈ before ∧
    input.workspaceId = invitation.workspaceId ∧ input.role = invitation.role ∧ context.id = invitation.id ∧
      (invitation.role = .admin → start.roleOf input.workspaceId input.userId = some .owner)
  tokens : ∀ first ∈ s.workspaceInvitations, ∀ second ∈ s.workspaceInvitations, first.tokenHash = second.tokenHash →
    first = second
  pending : ∀ first ∈ s.workspaceInvitations, ∀ second ∈ s.workspaceInvitations, first.workspaceId = second.workspaceId →
    first.email = second.email → first.active = true → second.active = true → first = second

end Histories

theorem RoleInvariant.initial {start : CollaborationStore} (hempty : start.workspaceInvitations.records = []) :
    RoleInvariant start [] start where
  owners _ _ := Iff.rfl
  authored invitation hmem := by
    rw [Table.mem_def, hempty] at hmem
    cases hmem
  tokens first hfirst := by
    rw [Table.mem_def, hempty] at hfirst
    cases hfirst
  pending first hfirst := by
    rw [Table.mem_def, hempty] at hfirst
    cases hfirst

section Invariant

variable {ν : Type} [JsRuntime ν] [ConnectorRuntime ν] [EmailRuntime] {start s next : CollaborationStore}
  {before : List CollaborationAction} {action : CollaborationAction}

theorem RoleInvariant.step (h : RoleInvariant start before s) (hstep : CollaborationStep ν s action next) :
    RoleInvariant start (before ++ [action]) next where
  owners workspaceId userId := (hstep.roleAfter workspaceId userId).owner_iff.trans (h.owners workspaceId userId)
  authored invitation hmem := by
    rcases hstep.source (Table.get?_of_mem hmem) with ⟨old, hold, hkept⟩ |
      ⟨input, context, email, actorRole, rfl, rfl, _, hactor, hallowed, _⟩
    · obtain ⟨input, context, hin, hworkspace, hrole, hid, howner⟩ := h.authored old (Table.get?_eq_some.mp hold).1
      refine ⟨input, context, List.mem_append_left _ hin, hworkspace.trans hkept.workspace.symm, hrole.trans hkept.role.symm,
        hid.trans hkept.id.symm, fun hadmin => howner (hkept.role ▸ hadmin)⟩
    · refine ⟨input, context, List.mem_append_right _ List.mem_cons_self, rfl, rfl, rfl, fun hadmin => ?_⟩
      rcases canInviteWorkspaceRole_iff.mp hallowed with rfl | ⟨_, hmember⟩
      · exact (h.owners _ _).mp hactor
      · cases hadmin.symm.trans hmember
  tokens first hfirst second hsecond htoken := by
    rcases hstep.source (Table.get?_of_mem hfirst) with ⟨old, hold, hkept⟩ | ⟨_, _, _, _, _, _, _, _, _, halone, _⟩
    · rcases hstep.source (Table.get?_of_mem hsecond) with ⟨old', hold', hkept'⟩ | ⟨_, _, _, _, _, _, _, _, _, halone, _⟩
      · have hsame : old = old' := h.tokens old (Table.get?_eq_some.mp hold).1 old' (Table.get?_eq_some.mp hold').1
          (hkept.token.symm.trans (htoken.trans hkept'.token))
        exact Table.eq_of_key hfirst hsecond (hkept.id.trans ((congrArg _ hsame).trans hkept'.id.symm))
      · exact halone first hfirst htoken
    · exact (halone second hsecond htoken.symm).symm
  pending first hfirst second hsecond hworkspace hemail hactive hactive' := by
    rcases hstep.source (Table.get?_of_mem hfirst) with ⟨old, hold, hkept⟩ | ⟨_, _, _, _, _, _, _, _, _, _, halone⟩
    · rcases hstep.source (Table.get?_of_mem hsecond) with ⟨old', hold', hkept'⟩ | ⟨_, _, _, _, _, _, _, _, _, _, halone⟩
      · have hsame : old = old' := h.pending old (Table.get?_eq_some.mp hold).1 old' (Table.get?_eq_some.mp hold').1
          (hkept.workspace.symm.trans (hworkspace.trans hkept'.workspace))
          (hkept.email.symm.trans (hemail.trans hkept'.email)) (hkept.active hactive) (hkept'.active hactive')
        exact Table.eq_of_key hfirst hsecond (hkept.id.trans ((congrArg _ hsame).trans hkept'.id.symm))
      · exact halone first hfirst hworkspace hemail hactive
    · exact (halone second hsecond hworkspace.symm hemail.symm hactive').symm

theorem CollaborationStore.run_append (store : CollaborationStore) (first second : List CollaborationAction) :
    store.run ν (first ++ second) = (store.run ν first).run ν second :=
  List.foldl_append

theorem RoleInvariant.run (hempty : start.workspaceInvitations.records = []) (before : List CollaborationAction) :
    RoleInvariant start before (start.run ν before) := by
  induction before using List.reverseRecOn with
  | nil => exact .initial hempty
  | append_singleton before action ih =>
    rw [CollaborationStore.run_append]
    exact ih.step (CollaborationStore.step_cases action)

theorem CollaborationStore.run_kept (store : CollaborationStore) (actions : List CollaborationAction) {id : String}
    {old : WorkspaceInvitation} (hold : store.workspaceInvitations.get? id = some old) :
    ∃ new, (store.run ν actions).workspaceInvitations.get? id = some new ∧ InvitationKept old new := by
  induction actions generalizing store old with
  | nil => exact ⟨old, hold, .refl old⟩
  | cons action actions ih =>
    obtain ⟨mid, hmid, hkept⟩ := (CollaborationStore.step_cases (ν := ν) action).kept hold
    obtain ⟨new, hnew, hkept'⟩ := ih (store.step ν action) hmid
    exact ⟨new, hnew, hkept.trans hkept'⟩

end Invariant

section Claim

variable (ν : Type) [JsRuntime ν] [ConnectorRuntime ν] [EmailRuntime] (start : CollaborationStore)
  (before : List CollaborationAction) (action : CollaborationAction)

inductive PromotedByOwner (s : CollaborationStore) (workspaceId userId : String) : Prop
  | roleChange (input : UpdateMemberRole) (change : action = .updateRole input) (workspace : input.workspaceId = workspaceId)
      (target : input.targetUserId = userId) (role : input.role = .admin)
      (owner : start.roleOf workspaceId input.userId = some .owner)
  | invitation (input : AcceptInvitation) (now : Int) (acceptance : action = .accept input now) (user : input.userId = userId)
      (invite : InviteMember) (context : InviteContext) (invited : .invite invite context ∈ before)
      (accepted : WorkspaceInvitation) (found : s.workspaceInvitations.get? context.id = some accepted)
      (token : accepted.tokenHash = hashSqliteWorkspaceInvitationToken ν input.token)
      (workspace : invite.workspaceId = workspaceId) (role : invite.role = .admin)
      (owner : start.roleOf workspaceId invite.userId = some .owner)

structure AdminScope (workspaceId : String) (s next : CollaborationStore) : Prop where
  members : ∀ other userId, next.roleOf other userId ≠ s.roleOf other userId →
    other = workspaceId ∧ s.roleOf other userId = some .member ∧ next.roleOf other userId ≠ some .admin
  invitations : ∀ id, next.workspaceInvitations.get? id ≠ s.workspaceInvitations.get? id →
    ∃ invitation, next.workspaceInvitations.get? id = some invitation ∧ invitation.workspaceId = workspaceId ∧
      (invitation.role = .member ∨ ∃ input context, action = .invite input context ∧ invitation.expiresAt ≤ context.now)

def JoinedByInvitation (workspaceId userId : String) (role : WorkspaceRole) : Prop :=
  ∃ input now invitation, action = .accept input now ∧ input.userId = userId ∧
    (start.run ν before).workspaceInvitations.get? invitation.id = some invitation ∧
    invitation.workspaceId = workspaceId ∧ invitation.role.role = role ∧
    invitation.tokenHash = hashSqliteWorkspaceInvitationToken ν input.token ∧
    normalizeWorkspaceEmail ν input.email = .ok invitation.email ∧ now < invitation.expiresAt ∧
    ∀ earlier later, before = earlier ++ later → ∀ old,
      (start.run ν earlier).workspaceInvitations.get? invitation.id = some old → old.active = true

structure RolesKept (s next : CollaborationStore) : Prop where
  owners : ∀ workspaceId userId, next.roleOf workspaceId userId = some .owner ↔
    start.roleOf workspaceId userId = some .owner
  promoted : ∀ workspaceId userId, s.roleOf workspaceId userId ≠ some .admin → next.roleOf workspaceId userId = some .admin →
    PromotedByOwner ν start before action s workspaceId userId
  admins : ∀ workspaceId userId, s.roleOf workspaceId userId = some .admin → next.roleOf workspaceId userId ≠ some .admin →
    ∃ actor, action.actor = some (workspaceId, actor) ∧ start.roleOf workspaceId actor = some .owner
  scope : ∀ workspaceId actor, action.actor = some (workspaceId, actor) → s.roleOf workspaceId actor = some .admin →
    AdminScope action workspaceId s next
  memberships : ∀ first ∈ next.workspaceMembers, ∀ second ∈ next.workspaceMembers,
    first.workspaceId = second.workspaceId → first.userId = second.userId → first = second
  pending : ∀ first ∈ next.workspaceInvitations, ∀ second ∈ next.workspaceInvitations,
    first.workspaceId = second.workspaceId → first.email = second.email → first.active = true → second.active = true →
      first = second
  unusable : ∀ invitation ∈ s.workspaceInvitations, ∀ (later : List CollaborationAction) (input : AcceptInvitation) (now : Int),
    hashSqliteWorkspaceInvitationToken ν input.token = invitation.tokenHash →
      invitation.settled ∨ invitation.expiresAt ≤ now →
        ∃ error, acceptSqliteWorkspaceInvitation ν (s.run ν later) input now = .error error
  joined : ∀ workspaceId userId role, s.roleOf workspaceId userId = none → next.roleOf workspaceId userId = some role →
    JoinedByInvitation ν start before action workspaceId userId role

end Claim

section Proofs

variable {ν : Type} [JsRuntime ν] [ConnectorRuntime ν] [EmailRuntime] {start s next : CollaborationStore}
  {before : List CollaborationAction} {action : CollaborationAction}

theorem RoleInvariant.promoted (h : RoleInvariant start before s) {workspaceId userId : String}
    (hold : s.roleOf workspaceId userId ≠ some .admin) {role : Option WorkspaceRole}
    (hafter : RoleAfter ν s action workspaceId userId role) (hrole : role = some .admin) :
    PromotedByOwner ν start before action s workspaceId userId := by
  cases hafter with
  | kept => exact absurd hrole hold
  | removed => cases hrole
  | @joined input now invitation found token active unexpired email absent =>
    have hadmin : invitation.role = .admin := by
      cases hinvited : invitation.role with
      | admin => rfl
      | member =>
        rw [hinvited] at hrole
        cases hrole
    obtain ⟨invite, context, hin, hworkspace, hsame, hid, howner⟩ := h.authored invitation (Table.get?_eq_some.mp found).1
    exact .invitation input now rfl rfl invite context hin invitation (hid ▸ found) token hworkspace (hsame.trans hadmin)
      (hworkspace ▸ howner hadmin)
  | @changed input actorRole targetRole actor target manageable allowed =>
    have hadmin : input.role = .admin := by
      cases hrequested : input.role with
      | admin => rfl
      | member =>
        rw [hrequested] at hrole
        cases hrole
    have howner : actorRole = .owner := by
      rcases canInviteWorkspaceRole_iff.mp allowed with howner | ⟨_, hmember⟩
      · exact howner
      · cases hadmin.symm.trans hmember
    exact .roleChange input rfl rfl rfl hadmin ((h.owners _ _).mp (howner ▸ actor))

theorem RoleInvariant.admins (h : RoleInvariant start before s) {workspaceId userId : String}
    (hold : s.roleOf workspaceId userId = some .admin) {role : Option WorkspaceRole}
    (hafter : RoleAfter ν s action workspaceId userId role) (hrole : role ≠ some .admin) :
    ∃ actor, action.actor = some (workspaceId, actor) ∧ start.roleOf workspaceId actor = some .owner := by
  cases hafter with
  | kept => exact absurd hold hrole
  | joined found token active unexpired email absent => cases hold.symm.trans absent
  | @changed input actorRole targetRole actor target manageable allowed =>
    cases hold.symm.trans target
    rcases canManageWorkspaceMember_iff.mp manageable with ⟨rfl, _⟩ | ⟨_, hmember⟩
    · exact ⟨input.userId, rfl, (h.owners _ _).mp actor⟩
    · cases hmember
  | @removed input actorRole targetRole actor target manageable =>
    cases hold.symm.trans target
    rcases canManageWorkspaceMember_iff.mp manageable with ⟨rfl, _⟩ | ⟨_, hmember⟩
    · exact ⟨input.userId, rfl, (h.owners _ _).mp actor⟩
    · cases hmember

theorem CollaborationStep.scope (h : CollaborationStep ν s action next) {workspaceId actor : String}
    (hactor : action.actor = some (workspaceId, actor)) (hadmin : s.roleOf workspaceId actor = some .admin) :
    AdminScope action workspaceId s next where
  members other userId hchanged := by
    have hafter := h.roleAfter other userId
    generalize hrole : next.roleOf other userId = role at *
    cases hafter with
    | kept => exact absurd rfl hchanged
    | joined => cases hactor
    | @changed input actorRole targetRole stored target manageable allowed =>
      cases hactor
      cases hadmin.symm.trans stored
      rcases canManageWorkspaceMember_iff.mp manageable with ⟨howner, _⟩ | ⟨_, rfl⟩
      · cases howner
      rcases canInviteWorkspaceRole_iff.mp allowed with howner | ⟨_, hmember⟩
      · cases howner
      rw [hmember]
      exact ⟨rfl, target, by decide⟩
    | @removed input actorRole targetRole stored target manageable =>
      cases hactor
      cases hadmin.symm.trans stored
      rcases canManageWorkspaceMember_iff.mp manageable with ⟨howner, _⟩ | ⟨_, rfl⟩
      · cases howner
      exact ⟨rfl, target, by decide⟩
  invitations id hchanged := by
    cases h with
    | refused => exact absurd rfl hchanged
    | roleChanged => exact absurd rfl hchanged
    | removed => exact absurd rfl hchanged
    | accepted => cases hactor
    | @invited input context actorRole created email replaced stored allowed expired fresh token free invitations =>
      cases hactor
      cases hadmin.symm.trans stored
      have hget := invitations id
      split at hget
      · rcases canInviteWorkspaceRole_iff.mp allowed with howner | ⟨_, hmember⟩
        · cases howner
        · exact ⟨_, hget, rfl, .inl hmember⟩
      · cases hold : s.workspaceInvitations.get? id with
        | none =>
          rw [hold] at hget
          exact absurd (hget.trans hold.symm) hchanged
        | some old =>
          obtain ⟨hmem, _⟩ := Table.get?_eq_some.mp hold
          rw [hold, Option.map_some] at hget
          split at hget
          · rename_i hreplaced
            obtain ⟨_, hworkspace, _, hexpired⟩ := expired old hmem hreplaced
            exact ⟨_, hget, hworkspace, .inr ⟨input, context, rfl, hexpired⟩⟩
          · exact absurd (hget.trans hold.symm) hchanged
    | @revoked input now actorRole invitation created stored found workspace active allowed invitations =>
      cases hactor
      cases hadmin.symm.trans stored
      have hget := invitations id
      by_cases hid : id = input.invitationId
      · subst hid
        rw [found, Option.map_some, if_pos rfl] at hget
        rcases canInviteWorkspaceRole_iff.mp allowed with howner | ⟨_, hmember⟩
        · cases howner
        · exact ⟨_, hget, workspace, .inl hmember⟩
      · simp only [if_neg hid, Option.map_id'] at hget
        exact absurd hget hchanged

theorem RoleInvariant.unusable (hempty : start.workspaceInvitations.records = []) {invitation : WorkspaceInvitation}
    (hmem : invitation ∈ (start.run ν before).workspaceInvitations) (later : List CollaborationAction)
    (input : AcceptInvitation) (now : Int) (htoken : hashSqliteWorkspaceInvitationToken ν input.token = invitation.tokenHash)
    (hover : invitation.settled ∨ invitation.expiresAt ≤ now) :
    ∃ error, acceptSqliteWorkspaceInvitation ν ((start.run ν before).run ν later) input now = .error error := by
  cases hresult : acceptSqliteWorkspaceInvitation ν ((start.run ν before).run ν later) input now with
  | error error => exact ⟨error, rfl⟩
  | ok result =>
    obtain ⟨found, hfound, hhash, hactive, hunexpired⟩ := accept_found hresult
    obtain ⟨new, hnew, hkept⟩ := CollaborationStore.run_kept (ν := ν) _ later (Table.get?_of_mem hmem)
    have hinvariant := RoleInvariant.run (ν := ν) hempty (before ++ later)
    rw [CollaborationStore.run_append] at hinvariant
    have hsame : found = new := hinvariant.tokens found (Table.get?_eq_some.mp hfound).1 new (Table.get?_eq_some.mp hnew).1
      (hhash.trans (htoken.trans hkept.token.symm))
    subst hsame
    exfalso
    rcases hover with hsettled | hexpired
    · rw [hkept.settled hsettled, hsettled] at hactive
      cases hactive
    · have hsame := hkept.expires
      omega

theorem joinedByInvitation {workspaceId userId : String} {role : Option WorkspaceRole}
    (hafter : RoleAfter ν (start.run ν before) action workspaceId userId role)
    (habsent : (start.run ν before).roleOf workspaceId userId = none) {joined : WorkspaceRole} (hrole : role = some joined) :
    JoinedByInvitation ν start before action workspaceId userId joined := by
  cases hafter with
  | kept => cases habsent.symm.trans hrole
  | removed => cases hrole
  | changed actor target => cases habsent.symm.trans target
  | @joined input now invitation found token active unexpired email absent =>
    refine ⟨input, now, invitation, rfl, rfl, found, rfl, Option.some.inj hrole, token, email, unexpired,
      fun earlier later heq old hold => ?_⟩
    subst heq
    rw [CollaborationStore.run_append] at found
    obtain ⟨new, hnew, hkept⟩ := CollaborationStore.run_kept (ν := ν) _ later hold
    cases found.symm.trans hnew
    exact hkept.active active

end Proofs

theorem roles_not_escalated (ν : Type) [JsRuntime ν] [ConnectorRuntime ν] [EmailRuntime] {start : CollaborationStore}
    (hempty : start.workspaceInvitations.records = []) (before : List CollaborationAction) (action : CollaborationAction) :
    RolesKept ν start before action (start.run ν before) ((start.run ν before).step ν action) := by
  have hinvariant := RoleInvariant.run (ν := ν) hempty before
  have hstep : CollaborationStep ν (start.run ν before) action ((start.run ν before).step ν action) :=
    CollaborationStore.step_cases action
  have hnext := hinvariant.step hstep
  exact {
    owners := hnext.owners
    promoted := fun workspaceId userId hold hrole => hinvariant.promoted hold (hstep.roleAfter workspaceId userId) hrole
    admins := fun workspaceId userId hold hrole => hinvariant.admins hold (hstep.roleAfter workspaceId userId) hrole
    scope := fun _ _ hactor hadmin => hstep.scope hactor hadmin
    memberships := fun _ hfirst _ hsecond hworkspace huser =>
      Table.eq_of_key hfirst hsecond (Prod.ext hworkspace huser)
    pending := hnext.pending
    unusable := fun _ hmem later input now => RoleInvariant.unusable hempty hmem later input now
    joined := fun workspaceId userId _ habsent => joinedByInvitation (hstep.roleAfter workspaceId userId) habsent }

section Sample

local instance invitationTokens : ConnectorRuntime SafeInteger where
  sha256 text :=
    if text = "byok-grid:workspace-invitation:v1:dGVuLWRheXMtYmVmb3JlLXRoZS1hZG1pbi1pbnZpdGU" then
      "a679290190ebc79f5a15b78a34111f4d320be36e4e62c50d950234cadbf873e9"
    else if text = "byok-grid:workspace-invitation:v1:dGVuLWRheXMtYWZ0ZXItdGhlLWFkbWluLWludml0ZXM" then
      "b139d33727d72edafbcf6a11eb3a8d1f0baead4e7681ca69a621175ecbe43fe1"
    else ""
  requestUrl baseUrl _ _ := baseUrl
  hostname requestUrl := requestUrl

local instance invitationEmails : EmailRuntime where
  isEmail email := email.toList.contains '@'

def foundersWorkspace : CollaborationStore where
  users :=
    { records := [⟨"ada", "Ada", "ada@example.com"⟩, ⟨"grace", "Grace", "grace@example.com"⟩]
      nodup := by decide }
  workspaces := Table.singleton ⟨"grid", "Grid", "grid"⟩
  workspaceMembers :=
    { records := [⟨"grid", "ada", .owner⟩, ⟨"grid", "grace", .admin⟩]
      nodup := by decide }
  workspaceInvitations := Table.empty

def inviteAdmin : CollaborationAction :=
  .invite ⟨"grid", "ada", "bob@example.com", .admin⟩ ⟨"first", "dGVuLWRheXMtYmVmb3JlLXRoZS1hZG1pbi1pbnZpdGU", 0⟩

def inviteMember : CollaborationAction :=
  .invite ⟨"grid", "grace", "bob@example.com", .member⟩ ⟨"second", "dGVuLWRheXMtYWZ0ZXItdGhlLWFkbWluLWludml0ZXM", 864000000⟩

theorem roles_not_escalated_invited : RolesKept SafeInteger foundersWorkspace [inviteAdmin] inviteMember
    (foundersWorkspace.run SafeInteger [inviteAdmin])
    ((foundersWorkspace.run SafeInteger [inviteAdmin]).step SafeInteger inviteMember) :=
  roles_not_escalated SafeInteger rfl [inviteAdmin] inviteMember

/-- The invitation of an admin which has expired is revoked when an admin invites again. -/
theorem roles_not_escalated_expired :
    ∃ (start : CollaborationStore) (before : List CollaborationAction) (action : CollaborationAction) (id : String),
      start.workspaceInvitations.records = [] ∧ action.actor = some ("grid", "grace") ∧
      (start.run SafeInteger before).roleOf "grid" "grace" = some .admin ∧
      (((start.run SafeInteger before).step SafeInteger action).workspaceInvitations.get? id).map WorkspaceInvitation.role =
        some .admin ∧
      ((start.run SafeInteger before).step SafeInteger action).workspaceInvitations.get? id ≠
        (start.run SafeInteger before).workspaceInvitations.get? id :=
  ⟨foundersWorkspace, [inviteAdmin], inviteMember, "first", rfl, rfl, by decide +kernel, by decide +kernel, by decide +kernel⟩

end Sample

end ByokGrid
