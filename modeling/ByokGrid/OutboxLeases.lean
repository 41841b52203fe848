import ByokGrid.Leases
import ByokGrid.Outbox

/-! The outbox under any sequence of claims, completions and retries: an event is
held by its last claim, and published once. -/

namespace ByokGrid

inductive OutboxAction where
  | insert (id : String) (payload : OutboxPayload) (createdAt : Int)
  | claim (input : ClaimOutboxInput)
  | complete (claimId eventId : String) (publishedAt : Int)
  | retry (claimId eventId errorMessage : String) (retryAt : Int)

def Outbox.commit (outbox : Outbox) : Except StoreError Outbox → Outbox
  | .ok next => next
  | .error _ => outbox

def Outbox.step (outbox : Outbox) : OutboxAction → Outbox
  | .insert id payload createdAt =>
    (outbox.insert { id := id, payload := payload, createdAt := createdAt }).getD outbox
  | .claim input => outbox.commit ((claimSqliteOutboxEvents outbox input).map Prod.snd)
  | .complete claimId eventId publishedAt => outbox.commit (completeSqliteOutboxEvent outbox claimId eventId publishedAt)
  | .retry claimId eventId errorMessage retryAt =>
    outbox.commit (retrySqliteOutboxEvent outbox claimId eventId errorMessage retryAt)

def Outbox.run (actions : List OutboxAction) : Outbox :=
  runActions Outbox.step Table.empty actions

def Outbox.holder (outbox : Outbox) (eventId : String) : Option String :=
  ((outbox.get? eventId).filter fun event => event.publishedAt.isNone).bind OutboxEvent.dispatchClaimId

def Outbox.since (outbox : Outbox) (eventId : String) : Option Int :=
  (outbox.get? eventId).bind OutboxEvent.dispatchClaimedAt

def ClaimOutboxInput.grant (input : ClaimOutboxInput) : LeaseGrant String :=
  ⟨input.claimId, input.now, leaseMilliseconds input.leaseSeconds⟩

def Outbox.grant (outbox : Outbox) (action : OutboxAction) (eventId : String) : Option (LeaseGrant String) :=
  match action with
  | .claim input =>
    match claimSqliteOutboxEvents outbox input with
    | .ok (claimed, _) => if eventId ∈ claimed.map OutboxEvent.id then some input.grant else none
    | .error _ => none
  | _ => none

def outboxLeases : LeaseSystem Outbox OutboxAction String String where
  step := Outbox.step
  holder := Outbox.holder
  since := Outbox.since
  grant := Outbox.grant

def leaseEvent (claimId : String) (now : Int) (event : OutboxEvent) : OutboxEvent :=
  { event with
    dispatchAttempts := event.dispatchAttempts + 1
    dispatchClaimedAt := some now
    dispatchClaimId := some claimId
    dispatchLastError := none
    dispatchNextAttemptAt := none }

theorem leaseEvent_keepsKey (claimId : String) (now : Int) : KeepsKey (leaseEvent claimId now) :=
  ⟨fun _ => rfl⟩

def ClaimOutboxInput.eligible (input : ClaimOutboxInput) : OutboxEvent → Bool :=
  dispatchEligible input.now (input.now - leaseMilliseconds input.leaseSeconds) input.claimedTypes

theorem claimOutbox_eq_ok {outbox outbox' : Outbox} {input : ClaimOutboxInput} {claimed : List OutboxEvent}
    (h : claimSqliteOutboxEvents outbox input = .ok (claimed, outbox')) :
    (claimed.map OutboxEvent.id).Nodup ∧
      (∀ eventId ∈ claimed.map OutboxEvent.id, ∃ event, outbox.get? eventId = some event ∧
        input.eligible event = true) ∧
      outbox' = outbox.modify (fun event => event.id ∈ claimed.map OutboxEvent.id)
        (leaseEvent input.claimId input.now) (leaseEvent_keepsKey _ _) := by
  simp only [claimSqliteOutboxEvents, except_bind_eq_ok, pure, Except.pure, Except.ok.injEq, Prod.mk.injEq] at h
  obtain ⟨_, _, _, _, hclaimed, houtbox⟩ := h
  have hids : claimed.map OutboxEvent.id =
      (((outbox.records.filter input.eligible).insertionSort fun l r => dispatchOrder l r).take
        (max 1 (min (input.limit.getD 10) 100)).toNat).map OutboxEvent.id := by
    rw [← hclaimed, List.map_map]
    rfl
  refine ⟨?_, ?_, ?_⟩
  · rw [hids]
    exact Table.nodup_selection
  · intro eventId heventId
    rw [hids] at heventId
    obtain ⟨event, hevent, hid⟩ := List.mem_map.mp heventId
    obtain ⟨hmem, heligible⟩ := Table.mem_selection hevent
    exact ⟨event, Table.get?_eq_some.mpr ⟨hmem, hid⟩, heligible⟩
  · rw [hids, ← houtbox]
    exact Table.modify_selected (leaseEvent_keepsKey _ _) (fun _ hevent => Table.mem_selection hevent) fun _ => rfl

theorem dispatchOrder_total (left right : OutboxEvent) :
    dispatchOrder left right = true ∨ dispatchOrder right left = true := by
  simp only [dispatchOrder, Bool.or_eq_true, Bool.and_eq_true, decide_eq_true_eq]
  rcases lt_trichotomy left.createdAt right.createdAt with hlt | heq | hgt
  · exact Or.inl (Or.inl hlt)
  · rcases String.le_total left.id right.id with hle | hge
    · exact Or.inl (Or.inr ⟨heq, hle⟩)
    · exact Or.inr (Or.inr ⟨heq.symm, hge⟩)
  · exact Or.inr (Or.inl hgt)

theorem dispatchOrder_trans {a b c : OutboxEvent} (hab : dispatchOrder a b = true) (hbc : dispatchOrder b c = true) :
    dispatchOrder a c = true := by
  simp only [dispatchOrder, Bool.or_eq_true, Bool.and_eq_true, decide_eq_true_eq] at hab hbc ⊢
  rcases hab with hab | ⟨hab, hidab⟩ <;> rcases hbc with hbc | ⟨hbc, hidbc⟩
  · exact Or.inl (by omega)
  · exact Or.inl (by omega)
  · exact Or.inl (by omega)
  · exact Or.inr ⟨hab.trans hbc, String.le_trans hidab hidbc⟩

theorem claimOutbox_selection {outbox outbox' : Outbox} {input : ClaimOutboxInput} {claimed : List OutboxEvent}
    (h : claimSqliteOutboxEvents outbox input = .ok (claimed, outbox')) :
    ∃ selected : List OutboxEvent, claimed = selected.map (leaseEvent input.claimId input.now) ∧
      isClaimId input.claimId = true ∧ (selected.Pairwise fun left right => dispatchOrder left right = true) ∧
      (∀ event ∈ selected, event ∈ outbox ∧ input.eligible event = true) ∧
      ∀ event ∈ outbox, input.eligible event = true → event ∉ selected →
        ∀ earlier ∈ selected, dispatchOrder earlier event = true := by
  simp only [claimSqliteOutboxEvents, except_bind_eq_ok, requireThat_eq_ok, pure, Except.pure, Except.ok.injEq,
    Prod.mk.injEq] at h
  obtain ⟨_, hclaimId, _, _, hclaimed, _⟩ := h
  have htotal : Std.Total fun left right : OutboxEvent => dispatchOrder left right = true := ⟨dispatchOrder_total⟩
  have htrans : IsTrans OutboxEvent fun left right => dispatchOrder left right = true :=
    ⟨fun _ _ _ => dispatchOrder_trans⟩
  have hsorted : ((outbox.records.filter input.eligible).insertionSort fun left right => dispatchOrder left right).Pairwise
      fun left right => dispatchOrder left right = true := List.pairwise_insertionSort _ _
  refine ⟨_, hclaimed.symm, hclaimId, hsorted.sublist (List.take_sublist _ _), fun _ => Table.mem_selection, ?_⟩
  intro event hevent heligible hleft earlier hearlier
  have hmem : event ∈ (outbox.records.filter input.eligible).insertionSort fun left right => dispatchOrder left right :=
    List.mem_insertionSort _ |>.mpr (List.mem_filter.mpr ⟨hevent, heligible⟩)
  have hparts := List.take_append_drop (max 1 (min (input.limit.getD 10) 100)).toNat
    ((outbox.records.filter input.eligible).insertionSort fun left right => dispatchOrder left right)
  rw [← hparts] at hsorted hmem
  rcases List.mem_append.mp hmem with htaken | hrest
  · exact absurd htaken hleft
  · exact (List.pairwise_append.mp hsorted).2.2 earlier hearlier event hrest

theorem ClaimOutboxInput.eligible_open {input : ClaimOutboxInput} {event : OutboxEvent}
    (h : input.eligible event = true) : event.publishedAt = none ∧
      ∀ claimId, event.dispatchClaimId = some claimId →
        ∃ t, event.dispatchClaimedAt = some t ∧ t + leaseMilliseconds input.leaseSeconds < input.now := by
  simp only [ClaimOutboxInput.eligible, dispatchEligible, Bool.and_eq_true, Bool.or_eq_true,
    Option.isNone_iff_eq_none, Option.any_eq_true, decide_eq_true_eq] at h
  obtain ⟨⟨⟨_, hopen⟩, _⟩, hfree⟩ := h
  refine ⟨hopen, fun claimId hclaim => ?_⟩
  rcases hfree with hnone | ⟨t, ht, hlt⟩
  · rw [hclaim] at hnone
    cases hnone
  · exact ⟨t, ht, by omega⟩

theorem holder_eq_some {outbox : Outbox} {eventId claimId : String} : outbox.holder eventId = some claimId ↔
    ∃ event, outbox.get? eventId = some event ∧ event.publishedAt = none ∧ event.dispatchClaimId = some claimId := by
  unfold Outbox.holder
  rw [Option.bind_eq_some_iff]
  simp only [Option.filter_eq_some_iff, Option.isNone_iff_eq_none, and_assoc]

theorem heldEvent_iff {claimId eventId : String} {event : OutboxEvent} : heldEvent claimId eventId event = true ↔
    event.id = eventId ∧ event.dispatchClaimId = some claimId ∧ event.publishedAt = none := by
  simp [heldEvent, and_assoc]

theorem any_heldEvent {outbox : Outbox} {claimId eventId : String} :
    outbox.records.any (heldEvent claimId eventId) = true ↔ outbox.holder eventId = some claimId := by
  rw [List.any_eq_true, holder_eq_some]
  constructor
  · intro hany
    obtain ⟨event, hevent, hheld⟩ := hany
    obtain ⟨hid, hclaim, hopen⟩ := heldEvent_iff.mp hheld
    exact ⟨event, Table.get?_eq_some.mpr ⟨hevent, hid⟩, hopen, hclaim⟩
  · intro hany
    obtain ⟨event, hget, hopen, hclaim⟩ := hany
    obtain ⟨hevent, hid⟩ := Table.get?_eq_some.mp hget
    exact ⟨event, hevent, heldEvent_iff.mpr ⟨hid, hclaim, hopen⟩⟩

theorem release_cases {outbox : Outbox} {claimId heldId : String} {f : OutboxEvent → OutboxEvent} (hf : KeepsKey f)
    (hclaim : ∀ event, (f event).dispatchClaimId = none) (eventId : String) :
    Outbox.holder (outbox.modify (heldEvent claimId heldId) f hf) eventId = none ∨
      Outbox.holder (outbox.modify (heldEvent claimId heldId) f hf) eventId = outbox.holder eventId ∧
        Outbox.since (outbox.modify (heldEvent claimId heldId) f hf) eventId = outbox.since eventId := by
  unfold Outbox.holder Outbox.since
  rw [Table.get?_modify]
  cases outbox.get? eventId with
  | none => exact Or.inl rfl
  | some event =>
    rw [Option.map_some]
    split
    · left
      cases hfilter : (some (f event)).filter fun event => event.publishedAt.isNone with
      | none => rfl
      | some other =>
        have hother := (Option.filter_eq_some_iff.mp hfilter).1
        rw [Option.some.injEq] at hother
        rw [← hother]
        exact hclaim event
    · exact Or.inr ⟨rfl, rfl⟩

def OutboxEvent.Closed (event : OutboxEvent) : Prop :=
  event.publishedAt ≠ none → event.dispatchClaimId = none ∧ event.dispatchClaimedAt = none ∧
    event.dispatchNextAttemptAt = none

theorem step_cases (outbox : Outbox) (action : OutboxAction) :
    outbox.step action = outbox ∨
      (∃ id payload createdAt,
        outbox.insert { id := id, payload := payload, createdAt := createdAt } = some (outbox.step action)) ∨
      (∃ input claimed, action = .claim input ∧ claimSqliteOutboxEvents outbox input = .ok (claimed, outbox.step action)) ∨
      ∃ claimId eventId f, ∃ hf : KeepsKey f, outbox.holder eventId = some claimId ∧
        (∀ event, (f event).dispatchClaimId = none) ∧ (∀ event, event.publishedAt = none → (f event).Closed) ∧
        outbox.step action = outbox.modify (heldEvent claimId eventId) f hf := by
  cases action with
  | insert id payload createdAt =>
    cases hinsert : outbox.insert { id := id, payload := payload, createdAt := createdAt } with
    | none =>
      left
      rw [Outbox.step, hinsert]
      rfl
    | some outbox' =>
      refine Or.inr (Or.inl ⟨id, payload, createdAt, ?_⟩)
      rw [Outbox.step, hinsert]
      rfl
  | claim input =>
    cases hok : claimSqliteOutboxEvents outbox input with
    | error _ =>
      left
      rw [Outbox.step, hok]
      rfl
    | ok result =>
      refine Or.inr (Or.inr (Or.inl ⟨input, result.1, rfl, ?_⟩))
      rw [Outbox.step, hok]
      rfl
  | complete claimId eventId publishedAt =>
    cases hok : completeSqliteOutboxEvent outbox claimId eventId publishedAt with
    | error _ =>
      left
      rw [Outbox.step, hok]
      rfl
    | ok outbox' =>
      rw [Outbox.step, hok, Outbox.commit]
      simp only [completeSqliteOutboxEvent, except_bind_eq_ok, requireThat_eq_ok, any_heldEvent, pure, Except.pure,
        Except.ok.injEq] at hok
      obtain ⟨_, _, _, hheld, rfl⟩ := hok
      refine Or.inr (Or.inr (Or.inr ⟨claimId, eventId, _, _, hheld, fun _ => rfl, ?_, rfl⟩))
      intro event _ _
      exact ⟨rfl, rfl, rfl⟩
  | retry claimId eventId errorMessage retryAt =>
    cases hok : retrySqliteOutboxEvent outbox claimId eventId errorMessage retryAt with
    | error _ =>
      left
      rw [Outbox.step, hok]
      rfl
    | ok outbox' =>
      rw [Outbox.step, hok, Outbox.commit]
      simp only [retrySqliteOutboxEvent, except_bind_eq_ok, requireThat_eq_ok, any_heldEvent, pure, Except.pure,
        Except.ok.injEq] at hok
      obtain ⟨_, _, _, hheld, rfl⟩ := hok
      refine Or.inr (Or.inr (Or.inr ⟨claimId, eventId, _, _, hheld, fun _ => rfl, ?_, rfl⟩))
      intro event hopen hpublished
      exact absurd hopen hpublished

theorem grant_eq_some {outbox : Outbox} {action : OutboxAction} {eventId : String} {g : LeaseGrant String}
    (h : outbox.grant action eventId = some g) : ∃ input claimed outbox', action = .claim input ∧
      claimSqliteOutboxEvents outbox input = .ok (claimed, outbox') ∧ eventId ∈ claimed.map OutboxEvent.id ∧
        g = input.grant := by
  cases action with
  | claim input =>
    simp only [Outbox.grant] at h
    split at h
    · rename_i claimed outbox' hok
      split at h
      · rename_i hmem
        exact ⟨input, claimed, outbox', rfl, hok, hmem, (Option.some.inj h).symm⟩
      · cases h
    · cases h
  | _ => cases h

theorem grant_event {outbox : Outbox} {action : OutboxAction} {eventId : String} {g : LeaseGrant String}
    (h : outbox.grant action eventId = some g) : ∃ event, outbox.get? eventId = some event ∧
      event.publishedAt = none ∧
      (outbox.step action).get? eventId = some (leaseEvent g.claimId g.takenAt event) ∧ 0 ≤ g.lease ∧
      ∀ claimId, event.dispatchClaimId = some claimId →
        ∃ t, event.dispatchClaimedAt = some t ∧ t + g.lease < g.takenAt := by
  obtain ⟨input, claimed, outbox', rfl, hok, hmem, rfl⟩ := grant_eq_some h
  obtain ⟨_, heligible, hnext⟩ := claimOutbox_eq_ok hok
  obtain ⟨event, hget, hevent⟩ := heligible eventId hmem
  obtain ⟨hopen, hexpired⟩ := ClaimOutboxInput.eligible_open hevent
  refine ⟨event, hget, hopen, ?_, ?_, hexpired⟩
  · have hstep : outbox.step (.claim input) = outbox' := by
      simp only [Outbox.step, hok, Except.map, Outbox.commit]
    have hid : event.id = eventId := (Table.get?_eq_some.mp hget).2
    rw [hstep, hnext, Table.get?_modify, hget, Option.map_some, hid, if_pos (decide_eq_true hmem)]
    rfl
  · simp only [ClaimOutboxInput.grant, leaseMilliseconds]
    omega

theorem outboxLeases_lawful : outboxLeases.Lawful := by
  refine ⟨?_, ?_, ?_, ?_⟩
  · intro outbox action eventId g h
    obtain ⟨event, _, hopen, hnext, _⟩ := grant_event h
    refine ⟨holder_eq_some.mpr ⟨_, hnext, hopen, rfl⟩, ?_⟩
    show Outbox.since _ _ = _
    unfold Outbox.since
    exact Option.bind_eq_some_iff.mpr ⟨_, hnext, rfl⟩
  · intro outbox action eventId g h
    obtain ⟨_, _, _, _, hlease, _⟩ := grant_event h
    exact hlease
  · intro outbox action eventId g h hheld
    obtain ⟨claimId, hclaimId⟩ := Option.ne_none_iff_exists'.mp hheld
    obtain ⟨event, hget, _, hclaim⟩ := holder_eq_some.mp hclaimId
    obtain ⟨event', hget', _, _, _, hexpired⟩ := grant_event h
    rw [hget, Option.some.injEq] at hget'
    subst hget'
    obtain ⟨t, ht, hlt⟩ := hexpired claimId hclaim
    exact ⟨t, Option.bind_eq_some_iff.mpr ⟨event, hget, ht⟩, hlt⟩
  · intro outbox action eventId hgrant
    show Outbox.holder (outbox.step action) eventId = none ∨
      Outbox.holder (outbox.step action) eventId = outbox.holder eventId ∧
        Outbox.since (outbox.step action) eventId = outbox.since eventId
    have hsame : ∀ outbox' : Outbox, outbox'.get? eventId = outbox.get? eventId →
        outbox'.holder eventId = none ∨
          outbox'.holder eventId = outbox.holder eventId ∧ outbox'.since eventId = outbox.since eventId := by
      intro outbox' hget
      exact Or.inr ⟨by rw [Outbox.holder, Outbox.holder, hget], by rw [Outbox.since, Outbox.since, hget]⟩
    rcases step_cases outbox action with hnone | ⟨id, payload, createdAt, hinsert⟩ | ⟨input, claimed, rfl, hok⟩ |
      ⟨claimId, heldId, f, hf, _, hclaim, _, hstep⟩
    · exact hsame _ (by rw [hnone])
    · have hget := Table.get?_insert hinsert eventId
      by_cases hid : eventId = id
      · left
        unfold Outbox.holder
        rw [hget, if_pos (show eventId = Keyed.key _ from hid)]
        rfl
      · apply hsame
        rw [hget]
        exact if_neg hid
    · apply hsame
      have hnot : eventId ∉ claimed.map OutboxEvent.id := by
        intro hmem
        have hsome : outbox.grant (.claim input) eventId = some input.grant := by
          simp only [Outbox.grant, hok, if_pos hmem]
        rw [show outbox.grant (.claim input) eventId = none from hgrant] at hsome
        cases hsome
      rw [(claimOutbox_eq_ok hok).2.2, Table.get?_modify]
      cases hget : outbox.get? eventId with
      | none => rfl
      | some event =>
        have hid : event.id = eventId := (Table.get?_eq_some.mp hget).2
        rw [Option.map_some, hid, decide_eq_false hnot]
        rfl
    · rw [hstep]
      exact release_cases hf hclaim eventId

def Outbox.published (outbox : Outbox) : OutboxAction → List String
  | .complete claimId eventId publishedAt =>
    match completeSqliteOutboxEvent outbox claimId eventId publishedAt with
    | .ok _ => [eventId]
    | .error _ => []
  | _ => []

theorem step_closed {outbox : Outbox} (h : ∀ event ∈ outbox, event.Closed) (action : OutboxAction) :
    ∀ event ∈ outbox.step action, event.Closed := by
  rcases step_cases outbox action with hnone | ⟨id, payload, createdAt, hinsert⟩ | ⟨input, claimed, _, hok⟩ |
    ⟨claimId, eventId, f, hf, _, _, hclosed, hstep⟩
  · rw [hnone]
    exact h
  · intro event hevent
    rcases (Table.mem_insert hinsert).mp hevent with hold | rfl
    · exact h event hold
    · intro hpublished
      exact absurd rfl hpublished
  · intro event hevent hpublished
    obtain ⟨_, heligible, hnext⟩ := claimOutbox_eq_ok hok
    rw [hnext] at hevent
    obtain ⟨stored, hstored, heq⟩ := (Table.mem_modify (leaseEvent_keepsKey _ _)).mp hevent
    split at heq
    · rename_i hclaimed
      obtain ⟨other, hother, hopen⟩ := heligible stored.id (of_decide_eq_true hclaimed)
      have hsame : other = stored := Option.some.inj (hother.symm.trans (Table.get?_of_mem hstored))
      rw [hsame] at hopen
      rw [heq] at hpublished
      exact absurd (ClaimOutboxInput.eligible_open hopen).1 hpublished
    · rw [heq] at hpublished ⊢
      exact h stored hstored hpublished
  · intro event hevent hpublished
    rw [hstep] at hevent
    obtain ⟨stored, hstored, heq⟩ := (Table.mem_modify hf).mp hevent
    split at heq
    · rename_i hheld
      rw [heq] at hpublished ⊢
      exact hclosed stored (heldEvent_iff.mp hheld).2.2 hpublished
    · rw [heq] at hpublished ⊢
      exact h stored hstored hpublished

theorem claim_not_published {outbox outbox' : Outbox} {input : ClaimOutboxInput} {claimed : List OutboxEvent}
    (hok : claimSqliteOutboxEvents outbox input = .ok (claimed, outbox')) {event : OutboxEvent}
    (hevent : event ∈ outbox) (hpublished : event.publishedAt ≠ none) : event.id ∉ claimed.map OutboxEvent.id := by
  intro hclaimed
  obtain ⟨other, hother, hopen⟩ := (claimOutbox_eq_ok hok).2.1 event.id hclaimed
  have hsame : other = event := Option.some.inj (hother.symm.trans (Table.get?_of_mem hevent))
  rw [hsame] at hopen
  exact hpublished (ClaimOutboxInput.eligible_open hopen).1

theorem step_published {outbox : Outbox} {event : OutboxEvent} (hevent : event ∈ outbox)
    (hpublished : event.publishedAt ≠ none) (action : OutboxAction) : event ∈ outbox.step action := by
  rcases step_cases outbox action with hnone | ⟨id, payload, createdAt, hinsert⟩ | ⟨input, claimed, _, hok⟩ |
    ⟨claimId, eventId, f, hf, _, _, _, hstep⟩
  · rw [hnone]
    exact hevent
  · exact (Table.mem_insert hinsert).mpr (Or.inl hevent)
  · rw [(claimOutbox_eq_ok hok).2.2]
    refine (Table.mem_modify (leaseEvent_keepsKey _ _)).mpr ⟨event, hevent, ?_⟩
    rw [decide_eq_false (claim_not_published hok hevent hpublished)]
    rfl
  · rw [hstep]
    refine (Table.mem_modify hf).mpr ⟨event, hevent, ?_⟩
    rw [if_neg]
    intro hheld
    exact hpublished (heldEvent_iff.mp hheld).2.2

def Outbox.AllClosed (outbox : Outbox) : Prop :=
  ∀ event ∈ outbox, event.Closed

theorem run_closed (actions : List OutboxAction) : (Outbox.run actions).AllClosed := by
  have hstep : ∀ (outbox : Outbox) action, outbox.AllClosed → (outbox.step action).AllClosed :=
    fun _ action h => step_closed h action
  have hempty : Outbox.AllClosed Table.empty := by
    intro event hevent
    cases hevent
  exact runActions_invariant hstep hempty actions

theorem published_kept {outbox : Outbox} {event : OutboxEvent} (hevent : event ∈ outbox)
    (hpublished : event.publishedAt ≠ none) (actions : List OutboxAction) :
    event ∈ runActions Outbox.step outbox actions := by
  induction actions generalizing outbox with
  | nil => exact hevent
  | cons action actions ih => exact ih (step_published hevent hpublished action)

theorem complete_publishes {outbox outbox' : Outbox} {claimId eventId : String} {publishedAt : Int}
    (hok : completeSqliteOutboxEvent outbox claimId eventId publishedAt = .ok outbox') :
    (∃ event ∈ outbox, event.id = eventId ∧ event.publishedAt = none) ∧
      ∃ event ∈ outbox', event.id = eventId ∧ event.publishedAt ≠ none := by
  simp only [completeSqliteOutboxEvent, except_bind_eq_ok, requireThat_eq_ok, pure, Except.pure, Except.ok.injEq] at hok
  obtain ⟨_, _, _, hheld, rfl⟩ := hok
  obtain ⟨event, hevent, hholds⟩ := List.any_eq_true.mp hheld
  obtain ⟨hid, _, hopen⟩ := heldEvent_iff.mp hholds
  refine ⟨⟨event, hevent, hid, hopen⟩, _, (Table.mem_modify _).mpr ⟨event, hevent, rfl⟩, ?_, ?_⟩
  · rw [hholds]
    exact hid
  · rw [hholds]
    exact Option.some_ne_none publishedAt

def Outbox.PublicationLog (outbox : Outbox) (log : List String) : Prop :=
  log.Nodup ∧ ∀ id ∈ log, ∃ event ∈ outbox, event.id = id ∧ event.publishedAt ≠ none

theorem published_once (actions : List OutboxAction) :
    (runOutputs Outbox.step Outbox.published Table.empty actions).Nodup := by
  have hstep : ∀ (outbox : Outbox) action log, outbox.PublicationLog log →
      (outbox.step action).PublicationLog (log ++ outbox.published action) := by
    intro outbox action log h
    obtain ⟨hnodup, hlog⟩ := h
    have hkept : ∀ id ∈ log, ∃ event ∈ outbox.step action, event.id = id ∧ event.publishedAt ≠ none := by
      intro id hid
      obtain ⟨event, hevent, heq, hpublished⟩ := hlog id hid
      exact ⟨event, step_published hevent hpublished action, heq, hpublished⟩
    have hnothing : outbox.published action = [] ∨ ∃ claimId eventId publishedAt outbox',
        action = .complete claimId eventId publishedAt ∧ outbox.published action = [eventId] ∧
          completeSqliteOutboxEvent outbox claimId eventId publishedAt = .ok outbox' := by
      cases action with
      | complete claimId eventId publishedAt =>
        cases hok : completeSqliteOutboxEvent outbox claimId eventId publishedAt with
        | error _ => exact Or.inl (by rw [Outbox.published, hok])
        | ok outbox' =>
          exact Or.inr ⟨claimId, eventId, publishedAt, outbox', rfl, by rw [Outbox.published, hok], hok⟩
      | _ => exact Or.inl rfl
    rcases hnothing with hnil | ⟨claimId, eventId, publishedAt, outbox', rfl, hone, hok⟩
    · rw [hnil, List.append_nil]
      exact ⟨hnodup, hkept⟩
    obtain ⟨⟨event, hevent, hid, hopen⟩, hnow⟩ := complete_publishes hok
    rw [hone]
    refine ⟨List.nodup_append.mpr ⟨hnodup, List.nodup_singleton eventId, ?_⟩, ?_⟩
    · intro id hmem other hother heq
      rw [List.mem_singleton] at hother
      obtain ⟨stored, hstored, hstoredId, hpublished⟩ := hlog id hmem
      have hsame : stored = event :=
        Table.eq_of_key hstored hevent (hstoredId.trans (heq.trans (hother.trans hid.symm)))
      rw [hsame] at hpublished
      exact hpublished hopen
    · intro id hmem
      rcases List.mem_append.mp hmem with hold | hnew
      · exact hkept id hold
      · rw [List.mem_singleton] at hnew
        rw [hnew, Outbox.step, hok]
        exact hnow
  have hempty : Outbox.PublicationLog Table.empty [] := ⟨List.nodup_nil, nofun⟩
  have hrun := runOutputs_invariant hstep hempty actions
  rw [List.nil_append] at hrun
  exact hrun.1

/-- What holds after any sequence of actions. The lease of a claim is the one of the
call which asks for the event. -/
structure OutboxExclusivity (actions : List OutboxAction) : Prop where
  unexpired : ∀ input claimed outbox', claimSqliteOutboxEvents (Outbox.run actions) input = .ok (claimed, outbox') →
    ∀ event ∈ claimed, ∀ claimId, (Outbox.run actions).holder event.id = some claimId →
      ∃ t, (Outbox.run actions).since event.id = some t ∧ t + leaseMilliseconds input.leaseSeconds < input.now
  exclusive : ∀ earlier first between next eventId g g', actions = earlier ++ first :: between →
    (Outbox.run earlier).grant first eventId = some g → (Outbox.run actions).grant next eventId = some g' →
    (∀ before after, between = before ++ after → (Outbox.run (earlier ++ first :: before)).holder eventId ≠ none) →
    g.takenAt + g'.lease < g'.takenAt
  fenced : ∀ claimId eventId, (∀ g, outboxLeases.lastGrant Table.empty actions eventId = some g → g.claimId ≠ claimId) →
    (∀ publishedAt, ∃ error, completeSqliteOutboxEvent (Outbox.run actions) claimId eventId publishedAt = .error error) ∧
      ∀ errorMessage retryAt, ∃ error,
        retrySqliteOutboxEvent (Outbox.run actions) claimId eventId errorMessage retryAt = .error error
  published : ∀ event ∈ Outbox.run actions, event.publishedAt ≠ none →
    (event.dispatchClaimId = none ∧ event.dispatchClaimedAt = none ∧ event.dispatchNextAttemptAt = none) ∧
      (∀ input claimed outbox', claimSqliteOutboxEvents (Outbox.run actions) input = .ok (claimed, outbox') →
        event.id ∉ claimed.map OutboxEvent.id) ∧
      ∀ further, event ∈ Outbox.run (actions ++ further)
  once : (runOutputs Outbox.step Outbox.published Table.empty actions).Nodup

theorem outboxExclusivity_run (actions : List OutboxAction) : OutboxExclusivity actions := by
  refine ⟨?_, ?_, ?_, ?_, published_once actions⟩
  · intro input claimed outbox' hok event hevent claimId hheld
    have hgrant : (Outbox.run actions).grant (.claim input) event.id = some input.grant := by
      simp only [Outbox.grant, hok, if_pos (List.mem_map_of_mem hevent)]
    refine outboxLeases_lawful.expired (Outbox.run actions) (.claim input) event.id input.grant hgrant ?_
    intro hnone
    rw [show (Outbox.run actions).holder event.id = none from hnone] at hheld
    cases hheld
  · intro earlier first between next eventId g g' hactions hfirst hnext hheld
    rw [hactions, Outbox.run, runActions_append] at hnext
    refine outboxLeases_lawful.exclusive hfirst ?_ hnext
    intro before after hbetween
    have hnow := hheld before after hbetween
    rw [Outbox.run, runActions_append] at hnow
    exact hnow
  · intro claimId eventId hlast
    have hfree : outboxLeases.holder (Table.empty : Outbox) eventId = none := rfl
    have hnot : (Outbox.run actions).holder eventId ≠ some claimId := outboxLeases_lawful.superseded hfree hlast
    have hguard : (Outbox.run actions).records.any (heldEvent claimId eventId) = false := by
      rw [← Bool.not_eq_true, any_heldEvent]
      exact hnot
    refine ⟨fun publishedAt => ?_, fun errorMessage retryAt => ?_⟩
    · cases hok : completeSqliteOutboxEvent (Outbox.run actions) claimId eventId publishedAt with
      | error error => exact ⟨error, rfl⟩
      | ok outbox' =>
        simp only [completeSqliteOutboxEvent, except_bind_eq_ok, requireThat_eq_ok, hguard] at hok
        obtain ⟨_, _, _, hheld, _⟩ := hok
        cases hheld
    · cases hok : retrySqliteOutboxEvent (Outbox.run actions) claimId eventId errorMessage retryAt with
      | error error => exact ⟨error, rfl⟩
      | ok outbox' =>
        simp only [retrySqliteOutboxEvent, except_bind_eq_ok, requireThat_eq_ok, hguard] at hok
        obtain ⟨_, _, _, hheld, _⟩ := hok
        cases hheld
  · intro event hevent hpublished
    refine ⟨run_closed actions event hevent hpublished, ?_, ?_⟩
    · intro input claimed outbox' hok
      exact claim_not_published hok hevent hpublished
    · intro further
      rw [Outbox.run, runActions_append]
      exact published_kept hevent hpublished further

end ByokGrid
