import ByokGrid.Collaboration

/-! Roles are not escalated: what each step may do to members and invitations, and what
this leaves true in every history of a workspace. -/

namespace ByokGrid

def CollaborationStore.roleOf (store : CollaborationStore) (workspaceId userId : String) : Option WorkspaceRole :=
  (store.workspaceMembers.get? (workspaceId, userId)).map Membership.role

def WorkspaceInvitation.settled (invitation : WorkspaceInvitation) : Prop :=
  invitation.active = false

section Steps

variable (ν : Type) [JsRuntime ν] [ConnectorRuntime ν] [EmailRuntime]

inductive CollaborationStep (store : CollaborationStore) : CollaborationAction → CollaborationStore → Prop
  | refused (action : CollaborationAction) : CollaborationStep store action store
  | invited {input : InviteMember} {context : InviteContext} {actorRole : WorkspaceRole} {next : Table WorkspaceInvitation}
      (email : String) (replaced : WorkspaceInvitation → Bool)
      (actor : store.roleOf input.workspaceId input.userId = some actorRole)
      (allowed : canInviteWorkspaceRole actorRole input.role = true)
      (expired : ∀ invitation ∈ store.workspaceInvitations, replaced invitation = true →
        invitation.active = true ∧ invitation.workspaceId = input.workspaceId ∧ invitation.email = email ∧
          invitation.expiresAt ≤ context.now)
      (fresh : store.workspaceInvitations.get? context.id = none)
      (token : ∀ invitation ∈ store.workspaceInvitations,
        invitation.tokenHash ≠ hashSqliteWorkspaceInvitationToken ν context.token)
      (free : ∀ invitation ∈ next, invitation.id ≠ context.id → invitation.workspaceId = input.workspaceId →
        invitation.email = email → invitation.active = false)
      (invitations : ∀ id, next.get? id = if id = context.id then some (newInvitation ν input context email)
        else (store.workspaceInvitations.get? id).map fun invitation =>
          if replaced invitation then { invitation with revokedAt := some context.now } else invitation) :
      CollaborationStep store (.invite input context) { store with workspaceInvitations := next }
  | accepted {input : AcceptInvitation} {now : Int} {invitation : WorkspaceInvitation} {members : Table Membership}
      {next : Table WorkspaceInvitation}
      (found : store.workspaceInvitations.get? invitation.id = some invitation)
      (token : invitation.tokenHash = hashSqliteWorkspaceInvitationToken ν input.token)
      (active : invitation.active = true) (unexpired : now < invitation.expiresAt)
      (email : normalizeWorkspaceEmail ν input.email = .ok invitation.email)
      (joined : ∀ key, members.get? key = if key = (invitation.workspaceId, input.userId) then
          some ((store.workspaceMembers.get? key).getD (acceptedMember invitation input.userId))
        else store.workspaceMembers.get? key)
      (invitations : ∀ id, next.get? id = (store.workspaceInvitations.get? id).map fun other =>
        if id = invitation.id then { other with acceptedAt := some now, acceptedByUserId := some input.userId } else other) :
      CollaborationStep store (.accept input now)
        { store with workspaceMembers := members, workspaceInvitations := next }
  | revoked {input : RevokeInvitation} {now : Int} {actorRole : WorkspaceRole} {invitation : WorkspaceInvitation}
      {next : Table WorkspaceInvitation}
      (actor : store.roleOf input.workspaceId input.userId = some actorRole)
      (found : store.workspaceInvitations.get? input.invitationId = some invitation)
      (workspace : invitation.workspaceId = input.workspaceId) (active : invitation.active = true)
      (allowed : canInviteWorkspaceRole actorRole invitation.role = true)
      (invitations : ∀ id, next.get? id = (store.workspaceInvitations.get? id).map fun other =>
        if id = input.invitationId then { other with revokedAt := some now } else other) :
      CollaborationStep store (.revoke input now) { store with workspaceInvitations := next }
  | roleChanged {input : UpdateMemberRole} {actorRole targetRole : WorkspaceRole} {members : Table Membership}
      (actor : store.roleOf input.workspaceId input.userId = some actorRole)
      (target : store.roleOf input.workspaceId input.targetUserId = some targetRole)
      (manageable : canManageWorkspaceMember actorRole targetRole = true)
      (allowed : canInviteWorkspaceRole actorRole input.role = true)
      (changed : ∀ key, members.get? key = if key = (input.workspaceId, input.targetUserId) then
          some ⟨input.workspaceId, input.targetUserId, input.role.role⟩
        else store.workspaceMembers.get? key) :
      CollaborationStep store (.updateRole input) { store with workspaceMembers := members }
  | removed {input : RemoveMember} {actorRole targetRole : WorkspaceRole} {members : Table Membership}
      (actor : store.roleOf input.workspaceId input.userId = some actorRole)
      (target : store.roleOf input.workspaceId input.targetUserId = some targetRole)
      (manageable : canManageWorkspaceMember actorRole targetRole = true)
      (gone : ∀ key, members.get? key = if key = (input.workspaceId, input.targetUserId) then none
        else store.workspaceMembers.get? key) :
      CollaborationStep store (.remove input) { store with workspaceMembers := members }

end Steps

theorem updateInvitation_get? {invitations : Table WorkspaceInvitation} {invitation : WorkspaceInvitation}
    {update : WorkspaceInvitation → WorkspaceInvitation} (hupdate : KeepsKey update)
    (hfound : invitations.get? invitation.id = some invitation) (hactive : invitation.active = true) (id : String) :
    (updateInvitation invitations invitation.id update hupdate).get? id =
      (invitations.get? id).map fun other => if id = invitation.id then update other else other := by
  rw [updateInvitation, Table.get?_modify]
  cases hget : invitations.get? id with
  | none => rfl
  | some other =>
    have hid : other.id = id := (Table.get?_eq_some.mp hget).2
    by_cases heq : id = invitation.id
    · obtain rfl : other = invitation := by
        rw [heq, hfound] at hget
        exact (Option.some.inj hget).symm
      simp [hid, hactive]
    · simp [hid, heq]

theorem mem_of_find? {invitations : Table WorkspaceInvitation} {p : WorkspaceInvitation → Bool} {invitation : WorkspaceInvitation}
    (h : invitations.records.find? p = some invitation) : invitations.get? invitation.id = some invitation ∧ p invitation = true :=
  ⟨Table.get?_eq_some.mpr ⟨List.mem_of_find?_eq_some h, rfl⟩, List.find?_some h⟩

theorem requireMembershipRole_eq_ok {store : CollaborationStore} {workspaceId userId : String} {role : WorkspaceRole} :
    requireMembershipRole store workspaceId userId = .ok role ↔ store.roleOf workspaceId userId = some role :=
  requireSome_eq_ok

theorem requireMember_role {store : CollaborationStore} {workspaceId userId : String} {member : MemberSummary}
    (h : requireMember store workspaceId userId = .ok member) : store.roleOf workspaceId userId = some member.role := by
  obtain ⟨found, hfound, user, _, hmember⟩ : ∃ found, store.workspaceMembers.get? (workspaceId, userId) = some found ∧
      ∃ user, store.users.get? found.userId = some user ∧ (⟨user.email, user.name, found.role, user.id⟩ : MemberSummary) = member := by
    simpa [requireMember, Option.bind_eq_some_iff] using h
  rw [CollaborationStore.roleOf, hfound, ← hmember]
  rfl

theorem insertInvitation_eq_ok {invitations next : Table WorkspaceInvitation} {invitation : WorkspaceInvitation} :
    insertInvitation invitations invitation = .ok next ↔
      (∀ other ∈ invitations, other.tokenHash ≠ invitation.tokenHash) ∧
      (∀ other ∈ invitations, other.workspaceId = invitation.workspaceId → other.email = invitation.email →
        other.active = false) ∧ invitations.insert invitation = some next := by
  simp only [insertInvitation, except_bind_eq_ok, requireThat_eq_ok, requireSome_eq_ok, Bool.not_eq_true', List.any_eq_false,
    decide_eq_true_eq, Bool.and_eq_true, not_and, Bool.not_eq_true, exists_const, and_imp]
  rfl

theorem replaced_get? {invitations : Table WorkspaceInvitation} {existing : Option WorkspaceInvitation} (now : Int)
    (hexisting : ∀ invitation, existing = some invitation →
      invitations.get? invitation.id = some invitation ∧ invitation.active = true) (id : String) :
    (match existing with
      | some invitation => revokeInvitation invitations invitation.id now
      | none => invitations).get? id =
      (invitations.get? id).map fun invitation =>
        if decide (existing = some invitation) then { invitation with revokedAt := some now } else invitation := by
  cases existing with
  | none => simp
  | some existing =>
    obtain ⟨hfound, hactive⟩ := hexisting existing rfl
    refine (updateInvitation_get? _ hfound hactive id).trans ?_
    cases hget : invitations.get? id with
    | none => rfl
    | some other =>
      have hid : other.id = id := (Table.get?_eq_some.mp hget).2
      have hiff : id = existing.id ↔ some existing = some other := by
        constructor
        · rintro rfl
          exact hfound.symm.trans hget
        · intro heq
          rw [Option.some.inj heq, hid]
      simp only [Option.map_some, hiff, decide_eq_true_eq]

theorem expired_of_not_pending {existing : Option WorkspaceInvitation} {now : Int}
    (h : (!existing.any fun invitation => decide (invitation.expiresAt > now)) = true) {invitation : WorkspaceInvitation}
    (hexisting : existing = some invitation) : invitation.expiresAt ≤ now := by
  subst hexisting
  simpa using h

theorem activeInvitation_eq_some {store : CollaborationStore} {workspaceId email : String} {invitation : WorkspaceInvitation}
    (h : activeInvitation store workspaceId email = some invitation) :
    store.workspaceInvitations.get? invitation.id = some invitation ∧ invitation.active = true ∧
      invitation.workspaceId = workspaceId ∧ invitation.email = email := by
  obtain ⟨hget, hmatch⟩ := mem_of_find? h
  simp only [Bool.and_eq_true, decide_eq_true_eq] at hmatch
  exact ⟨hget, hmatch.2, hmatch.1⟩

section Cases

variable {ν : Type} [JsRuntime ν] [ConnectorRuntime ν] [EmailRuntime] {store : CollaborationStore}

theorem invite_step {input : InviteMember} {context : InviteContext} {result : InvitationSummary × String}
    {next : CollaborationStore} (h : createSqliteWorkspaceInvitation ν store input context = .ok (result, next)) :
    CollaborationStep ν store (.invite input context) next := by
  simp only [createSqliteWorkspaceInvitation, except_bind_eq_ok, requireThat_eq_ok, requireMembershipRole_eq_ok,
    insertInvitation_eq_ok, pure, Except.pure, Except.ok.injEq, Prod.mk.injEq] at h
  obtain ⟨email, _, actorRole, hactor, _, hallowed, _, _, _, hexpired, created, ⟨htoken, hfree, hinsert⟩, _, rfl⟩ := h
  have hget := replaced_get? context.now fun invitation (hfind : activeInvitation store input.workspaceId email = some invitation) =>
    ⟨(activeInvitation_eq_some hfind).1, (activeInvitation_eq_some hfind).2.1⟩
  have hsame : ∀ invitation ∈ store.workspaceInvitations, invitation.tokenHash ≠ hashSqliteWorkspaceInvitationToken ν context.token := by
    intro invitation hmem
    have hfound : store.workspaceInvitations.get? invitation.id = some invitation := Table.get?_eq_some.mpr ⟨hmem, rfl⟩
    have hkept := hget invitation.id
    rw [hfound, Option.map_some] at hkept
    have hnot := htoken _ (Table.get?_eq_some.mp hkept).1
    split at hnot <;> exact hnot
  refine .invited email (fun invitation => activeInvitation store input.workspaceId email = some invitation) hactor hallowed (fun invitation _ hmatch => ?_) ?_ hsame
    (fun invitation hmem hid hworkspace hemail => ?_) fun id => ?_
  · have hfind := of_decide_eq_true hmatch
    obtain ⟨_, hactive, hworkspace, hemail⟩ := activeInvitation_eq_some hfind
    exact ⟨hactive, hworkspace, hemail, expired_of_not_pending hexpired hfind⟩
  · have hnone := (Table.insert_eq_some hinsert).2
    exact Option.map_eq_none_iff.mp ((hget context.id).symm.trans hnone)
  · rcases (Table.mem_insert hinsert).mp hmem with hold | rfl
    · exact hfree invitation hold hworkspace hemail
    · exact absurd rfl hid
  · exact (Table.get?_insert hinsert id).trans (if_congr Iff.rfl rfl (hget id))

theorem accept_found {input : AcceptInvitation} {now : Int} {result : AcceptedMembership × CollaborationStore}
    (h : acceptSqliteWorkspaceInvitation ν store input now = .ok result) :
    ∃ invitation, store.workspaceInvitations.get? invitation.id = some invitation ∧
      invitation.tokenHash = hashSqliteWorkspaceInvitationToken ν input.token ∧ invitation.active = true ∧
        now < invitation.expiresAt := by
  simp only [acceptSqliteWorkspaceInvitation, except_bind_eq_ok, requireThat_eq_ok, requireSome_eq_ok,
    Option.filter_eq_some_iff, Bool.and_eq_true, decide_eq_true_eq] at h
  obtain ⟨_, _, email, hemail, invitation, ⟨hfind, hactive, hunexpired⟩, _⟩ := h
  obtain ⟨hfound, htoken⟩ := mem_of_find? hfind
  exact ⟨invitation, hfound, of_decide_eq_true htoken, hactive, hunexpired⟩

theorem accept_step {input : AcceptInvitation} {now : Int} {result : AcceptedMembership} {next : CollaborationStore}
    (h : acceptSqliteWorkspaceInvitation ν store input now = .ok (result, next)) :
    CollaborationStep ν store (.accept input now) next := by
  simp only [acceptSqliteWorkspaceInvitation, except_bind_eq_ok, requireThat_eq_ok, requireSome_eq_ok, pure, Except.pure,
    Except.ok.injEq, Prod.mk.injEq, Option.filter_eq_some_iff, Bool.and_eq_true, decide_eq_true_eq] at h
  obtain ⟨_, _, email, hemail, invitation, ⟨hfind, hactive, hunexpired⟩, _, rfl, _, _, membership, _, _, rfl⟩ := h
  obtain ⟨hfound, htoken⟩ := mem_of_find? hfind
  refine .accepted hfound (of_decide_eq_true htoken) hactive hunexpired hemail (fun key => ?_)
    fun id => updateInvitation_get? _ hfound hactive id
  cases hinsert : store.workspaceMembers.insert (acceptedMember invitation input.userId) with
  | none =>
    obtain ⟨member, hmember⟩ := Option.isSome_iff_exists.mp (Table.insert_eq_none.mp hinsert)
    by_cases hkey : key = (invitation.workspaceId, input.userId)
    · subst hkey
      rw [if_pos rfl, Option.getD_none]
      exact hmember.trans (congrArg some (congrArg (Option.getD · _) hmember).symm)
    · rw [if_neg hkey, Option.getD_none]
  | some members =>
    have hnone : store.workspaceMembers.get? (invitation.workspaceId, input.userId) = none := (Table.insert_eq_some hinsert).2
    refine (Table.get?_insert hinsert key).trans (ite_congr rfl (fun hkey => ?_) fun _ => rfl)
    rw [hkey]
    exact (congrArg some (congrArg (Option.getD · _) hnone)).symm

theorem revoke_step {input : RevokeInvitation} {now : Int} {result : InvitationSummary} {next : CollaborationStore}
    (h : revokeSqliteWorkspaceInvitation store input now = .ok (result, next)) :
    CollaborationStep ν store (.revoke input now) next := by
  simp only [revokeSqliteWorkspaceInvitation, except_bind_eq_ok, requireThat_eq_ok, requireSome_eq_ok,
    requireMembershipRole_eq_ok, pure, Except.pure, Except.ok.injEq, Prod.mk.injEq, Option.filter_eq_some_iff,
    Bool.and_eq_true, decide_eq_true_eq] at h
  obtain ⟨actorRole, hactor, invitation, ⟨hfound, hworkspace, hactive⟩, _, hallowed, _, rfl⟩ := h
  have hid : invitation.id = input.invitationId := (Table.get?_eq_some.mp hfound).2
  refine .revoked hactor hfound hworkspace hactive hallowed fun id => ?_
  rw [← hid]
  exact updateInvitation_get? _ (hid ▸ hfound) hactive id

theorem updateRole_step {input : UpdateMemberRole} {result : MemberSummary} {next : CollaborationStore}
    (h : updateSqliteWorkspaceMemberRole store input = .ok (result, next)) :
    CollaborationStep ν store (.updateRole input) next := by
  simp only [updateSqliteWorkspaceMemberRole, except_bind_eq_ok, requireThat_eq_ok, requireMembershipRole_eq_ok, pure,
    Except.pure, Except.ok.injEq, Prod.mk.injEq, Bool.and_eq_true] at h
  obtain ⟨actorRole, hactor, target, htarget, _, ⟨hmanage, hallowed⟩, _, rfl⟩ := h
  have hrole := requireMember_role htarget
  obtain ⟨member, hmember, htargetRole⟩ := Option.map_eq_some_iff.mp hrole
  have hkey : member.workspaceId = input.workspaceId ∧ member.userId = input.targetUserId :=
    Prod.mk.inj (Table.get?_eq_some.mp hmember).2
  refine .roleChanged hactor hrole hmanage hallowed fun key => ?_
  refine (Table.get?_modify_key _ hmember ?_ (fun other hother => ?_) key).trans ?_
  · simp [hkey, htargetRole]
  · simp only [Bool.and_eq_true, decide_eq_true_eq] at hother
    exact Prod.ext hother.1.1 hother.1.2
  · rw [hkey.1, hkey.2]

theorem remove_step {input : RemoveMember} {result : String} {next : CollaborationStore}
    (h : removeSqliteWorkspaceMember store input = .ok (result, next)) :
    CollaborationStep ν store (.remove input) next := by
  simp only [removeSqliteWorkspaceMember, except_bind_eq_ok, requireThat_eq_ok, requireMembershipRole_eq_ok, pure,
    Except.pure, Except.ok.injEq, Prod.mk.injEq] at h
  obtain ⟨actorRole, hactor, target, htarget, _, hmanage, _, rfl⟩ := h
  have hrole := requireMember_role htarget
  obtain ⟨member, hmember, htargetRole⟩ := Option.map_eq_some_iff.mp hrole
  refine .removed hactor hrole hmanage fun key => ?_
  by_cases hkey : key = (input.workspaceId, input.targetUserId)
  · subst hkey
    rw [if_pos rfl, Table.get?_eq_none]
    intro other hother heq
    obtain ⟨hmem, hkept⟩ := Table.mem_filter.mp hother
    obtain rfl : other = member := Option.some.inj ((Table.get?_eq_some.mpr ⟨hmem, heq⟩).symm.trans hmember)
    obtain ⟨hworkspace, huser⟩ := Prod.mk.inj heq
    simp [hworkspace, huser, htargetRole] at hkept
  · rw [if_neg hkey]
    exact Table.get?_filter_key (fun other heq => by
      have hne : other.workspaceId = input.workspaceId → ¬ other.userId = input.targetUserId :=
        fun hworkspace huser => hkey (heq ▸ Prod.ext hworkspace huser)
      grind)

theorem CollaborationStep.of_after {α : Type} {result : Except StoreError (α × CollaborationStore)} {action : CollaborationAction}
    (h : ∀ value next, result = .ok (value, next) → CollaborationStep ν store action next) :
    CollaborationStep ν store action (store.after result) := by
  cases result with
  | ok result => exact h result.1 result.2 rfl
  | error error => exact .refused action

theorem CollaborationStore.step_cases (action : CollaborationAction) :
    CollaborationStep ν store action (store.step ν action) := by
  cases action with
  | invite input context => exact .of_after fun _ _ => invite_step
  | accept input now => exact .of_after fun _ _ => accept_step
  | revoke input now => exact .of_after fun _ _ => revoke_step
  | updateRole input => exact .of_after fun _ _ => updateRole_step
  | remove input => exact .of_after fun _ _ => remove_step

end Cases

end ByokGrid
