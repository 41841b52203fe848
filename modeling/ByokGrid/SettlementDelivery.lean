import ByokGrid.SettlementDispatch

/-! The deliveries a settlement queues: when the payload of every destination can
be built, and what is stored for each of them. -/

namespace ByokGrid

structure NewIds {α β κ : Type} [Keyed β κ] [DecidableEq κ] (t : Table β) (f : α → κ) (xs : List α) : Prop where
  fresh : ∀ x ∈ xs, t.get? (f x) = none
  injective : ∀ x ∈ xs, ∀ y ∈ xs, f x = f y → x = y

namespace NewIds

variable {α β κ : Type} [Keyed β κ] [DecidableEq κ] {t t' : Table β} {f : α → κ}

theorem nil : NewIds t f [] where
  fresh _ hx := absurd hx List.not_mem_nil
  injective _ hx := absurd hx List.not_mem_nil

theorem singleton {x : α} (h : t.get? (f x) = none) : NewIds t f [x] where
  fresh y hy := by
    rw [List.mem_singleton.mp hy]
    exact h
  injective y hy z hz _ := by
    rw [List.mem_singleton.mp hy, List.mem_singleton.mp hz]

theorem mono {xs ys : List α} (h : NewIds t f xs) (hsub : ∀ y ∈ ys, y ∈ xs) : NewIds t f ys where
  fresh y hy := h.fresh y (hsub y hy)
  injective y hy z hz := h.injective y (hsub y hy) z (hsub z hz)

theorem insert {xs : List α} {record : β} (h : NewIds t f xs) (hinsert : t.insert record = some t')
    (hother : ∀ x ∈ xs, f x ≠ Keyed.key record) : NewIds t' f xs where
  fresh x hx := by
    rw [Table.get?_insert hinsert, if_neg (hother x hx)]
    exact h.fresh x hx
  injective := h.injective

theorem tail {x : α} {xs : List α} {record : β} (h : NewIds t f (x :: xs)) (hnew : x ∉ xs)
    (hinsert : t.insert record = some t') (hkey : Keyed.key record = f x) : NewIds t' f xs := by
  have hrest := h.mono fun y hy => List.mem_cons_of_mem x hy
  apply hrest.insert hinsert
  intro y hy hsame
  have hxy := h.injective y (List.mem_cons_of_mem x hy) x List.mem_cons_self (hsame.trans hkey)
  exact hnew (hxy ▸ hy)

end NewIds

def StoreError.unready : StoreError → Bool
  | .conflict _ | .validation _ => true
  | _ => false

theorem leaveOutUnready_isOk {α : Type} (result : Except StoreError α) :
    (∃ value, leaveOutUnready result = .ok value) ↔ ∀ error, result = .error error → error.unready = true := by
  cases result with
  | ok value => simp [leaveOutUnready]
  | error error => cases error <;> simp [leaveOutUnready, StoreError.unready]

theorem leaveOutUnready_eq_some {α : Type} {result : Except StoreError α} {value : α} :
    leaveOutUnready result = .ok (some value) ↔ result = .ok value := by
  cases result with
  | ok value => simp [leaveOutUnready]
  | error error => cases error <;> simp [leaveOutUnready]

theorem unready_bind {α β : Type} {x : Except StoreError α} {f : α → Except StoreError β}
    (hx : ∀ error, x = .error error → error.unready = true)
    (hf : ∀ a, x = .ok a → ∀ error, f a = .error error → error.unready = true) :
    ∀ error, (x >>= f) = .error error → error.unready = true := by
  intro error herror
  cases x with
  | error thrown =>
    cases herror
    exact hx error rfl
  | ok a => exact hf a rfl error herror

theorem unready_requireThat {condition : Bool} {thrown : StoreError} (h : thrown.unready = true) :
    ∀ error, requireThat condition thrown = .error error → error.unready = true := by
  intro error herror
  unfold requireThat at herror
  split at herror
  · cases herror
  · cases herror
    exact h

section Writebacks

variable {ν : Type} [JsRuntime ν] [ConnectorRuntime ν] [NumberComparison ν]

omit [ConnectorRuntime ν] [NumberComparison ν] in
theorem hubSpotPropertyValue_unready (value : CellValue ν) :
    ∀ error, hubSpotPropertyValue value = .error error → error.unready = true := by
  intro error herror
  cases value <;> cases herror
  rfl

omit [ConnectorRuntime ν] [NumberComparison ν] in
theorem hubSpotRecordId_unready (value : CellValue ν) :
    ∀ error, hubSpotRecordId value = .error error → error.unready = true := by
  apply unready_bind (unready_requireThat rfl)
  intro _ _
  apply unready_bind (hubSpotPropertyValue_unready value)
  intro _ _
  apply unready_bind (unready_requireThat rfl)
  intro _ _ error herror
  cases herror

omit [ConnectorRuntime ν] [NumberComparison ν] in
theorem writebackProperties_unready (grid : Grid ν) (rowId : String) (mappings : List WritebackFieldMapping) :
    ∀ error, writebackProperties grid rowId mappings = .error error → error.unready = true := by
  induction mappings with
  | nil =>
    intro error herror
    cases herror
  | cons mapping mappings ih =>
    apply unready_bind (hubSpotPropertyValue_unready _)
    intro _ _
    apply unready_bind ih
    intro _ _ error herror
    cases herror

omit [ConnectorRuntime ν] [NumberComparison ν] in
theorem writebackContent_unready (grid : Grid ν) (rowId : String) {destination : WritebackDestination ν}
    (haccepted : destination.accepted = true) :
    ∀ error, writebackContent grid rowId destination = .error error → error.unready = true := by
  unfold writebackContent
  rw [haccepted]
  apply unready_bind
  · intro error herror
    cases herror
  · intro _ _
    apply unready_bind (unready_requireThat rfl)
    intro _ _
    apply unready_bind (hubSpotRecordId_unready _)
    intro _ _
    apply unready_bind (writebackProperties_unready grid rowId _)
    intro _ _ error herror
    cases herror

omit [ConnectorRuntime ν] [NumberComparison ν] in
/-- The stored destination is well formed, and the payload of a row which is ready is within its limits. -/
def WritebackDestination.fits (destination : WritebackDestination ν) (grid : Grid ν) (row : Row)
    (stamp : SettlementStamp) : Bool :=
  destination.accepted &&
    match writebackContent grid row.id destination with
    | .ok content => (writebackPayload stamp.context (stamp.writebackId destination.id) content row).accepted
    | .error _ => true

omit [NumberComparison ν] in
theorem leaveOutUnready_prepare (grid : Grid ν) (row : Row) (stamp : SettlementStamp)
    (destination : WritebackDestination ν) :
    (∃ prepared, leaveOutUnready (prepareSqliteWritebackDelivery grid stamp.context (stamp.writebackId destination.id)
      destination row) = .ok prepared) ↔ destination.fits grid row stamp = true := by
  rw [leaveOutUnready_isOk, WritebackDestination.fits, Bool.and_eq_true]
  unfold prepareSqliteWritebackDelivery
  by_cases haccepted : destination.accepted = true
  · cases hcontent : writebackContent grid row.id destination with
    | error error =>
      have hunready := writebackContent_unready grid row.id haccepted error hcontent
      simp [haccepted, bind, Except.bind, hunready]
    | ok content =>
      simp only [haccepted, bind, Except.bind, requireThat]
      cases (writebackPayload stamp.context (stamp.writebackId destination.id) content row).accepted with
      | true => simp [pure, Except.pure]
      | false => simp [StoreError.unready]
  · have hrefused : writebackContent grid row.id destination = .error .request := by
      simp [writebackContent, haccepted, requireThat, bind, Except.bind]
    simp [hrefused, haccepted, bind, Except.bind, StoreError.unready]

theorem writebackCandidates_isOk (grid : Grid ν) (settled : SettledRow) (stamp : SettlementStamp)
    (destinations : List (WritebackDestination ν)) :
    (∃ candidates, writebackCandidates grid settled stamp destinations = .ok candidates) ↔
      ∀ destination ∈ destinations, destination.selects grid settled = true →
        destination.fits grid settled.row stamp = true := by
  induction destinations with
  | nil => simp [writebackCandidates]
  | cons destination destinations ih =>
    unfold writebackCandidates
    rw [List.forall_mem_cons, ← ih, ← leaveOutUnready_prepare]
    by_cases hselects : destination.selects grid settled = true
    · simp only [if_pos hselects, except_bind_eq_ok, pure, Except.pure, Except.ok.injEq]
      constructor
      · intro hok
        obtain ⟨_, prepared, hprepared, candidates, hcandidates, _⟩ := hok
        exact ⟨fun _ => ⟨prepared, hprepared⟩, candidates, hcandidates⟩
      · intro hok
        obtain ⟨hhead, candidates, hcandidates⟩ := hok
        obtain ⟨prepared, hprepared⟩ := hhead hselects
        exact ⟨_, prepared, hprepared, candidates, hcandidates, rfl⟩
    · simp only [if_neg hselects]
      constructor
      · intro hok
        exact ⟨fun hselected => absurd hselected hselects, hok⟩
      · intro hok
        exact hok.2

theorem mem_writebackCandidates {grid : Grid ν} {settled : SettledRow} {stamp : SettlementStamp}
    {destinations : List (WritebackDestination ν)} {candidates : List (WritebackCandidate ν)}
    (h : writebackCandidates grid settled stamp destinations = .ok candidates) (candidate : WritebackCandidate ν) :
    candidate ∈ candidates ↔ candidate.destination ∈ destinations ∧
      candidate.destination.selects grid settled = true ∧
      prepareSqliteWritebackDelivery grid stamp.context (stamp.writebackId candidate.destination.id)
        candidate.destination settled.row = .ok candidate.prepared := by
  induction destinations generalizing candidates with
  | nil =>
    cases h
    simp
  | cons destination destinations ih =>
    unfold writebackCandidates at h
    by_cases hselects : destination.selects grid settled = true
    · simp only [if_pos hselects, except_bind_eq_ok, pure, Except.pure, Except.ok.injEq] at h
      obtain ⟨prepared, hprepared, rest, hrest, rfl⟩ := h
      have hhead : candidate ∈ (prepared.map (WritebackCandidate.mk destination)).toList ↔
          candidate.destination = destination ∧ prepared = some candidate.prepared := by
        cases prepared with
        | none => simp
        | some value =>
          obtain ⟨chosen, filled⟩ := candidate
          simp [eq_comm]
      have hsome : prepared = some candidate.prepared ↔ prepareSqliteWritebackDelivery grid stamp.context
          (stamp.writebackId destination.id) destination settled.row = .ok candidate.prepared := by
        rw [← leaveOutUnready_eq_some, hprepared, Except.ok.injEq]
      rw [List.mem_append, hhead, ih hrest, List.mem_cons, hsome]
      constructor
      · intro hmem
        rcases hmem with ⟨rfl, hok⟩ | ⟨hlater, hselected, hok⟩
        · exact ⟨Or.inl rfl, hselects, hok⟩
        · exact ⟨Or.inr hlater, hselected, hok⟩
      · intro hmem
        obtain ⟨hdestination | hlater, hselected, hok⟩ := hmem
        · exact Or.inl ⟨hdestination, hdestination ▸ hok⟩
        · exact Or.inr ⟨hlater, hselected, hok⟩
    · rw [if_neg hselects] at h
      rw [ih h, List.mem_cons]
      constructor
      · intro hmem
        exact ⟨Or.inr hmem.1, hmem.2⟩
      · intro hmem
        obtain ⟨hdestination | hlater, hselected, hok⟩ := hmem
        · exact absurd (hdestination ▸ hselected) hselects
        · exact ⟨hlater, hselected, hok⟩

theorem writebackCandidates_sublist {grid : Grid ν} {settled : SettledRow} {stamp : SettlementStamp}
    {destinations : List (WritebackDestination ν)} {candidates : List (WritebackCandidate ν)}
    (h : writebackCandidates grid settled stamp destinations = .ok candidates) :
    (candidates.map WritebackCandidate.destination).Sublist destinations := by
  induction destinations generalizing candidates with
  | nil =>
    cases h
    exact List.Sublist.refl _
  | cons destination destinations ih =>
    unfold writebackCandidates at h
    by_cases hselects : destination.selects grid settled = true
    · simp only [if_pos hselects, except_bind_eq_ok, pure, Except.pure, Except.ok.injEq] at h
      obtain ⟨prepared, _, rest, hrest, rfl⟩ := h
      cases prepared with
      | none => exact (ih hrest).cons destination
      | some value => exact (ih hrest).cons_cons destination
    · rw [if_neg hselects] at h
      exact (ih h).cons destination

omit [JsRuntime ν] [ConnectorRuntime ν] [NumberComparison ν] in
theorem WritebackDelivery.conflicts_insert {deliveries deliveries' : Table (WritebackDelivery ν)}
    {queued delivery : WritebackDelivery ν} (hinsert : deliveries.insert queued = some deliveries')
    (hother : queued.destinationId ≠ delivery.destinationId) :
    delivery.conflicts deliveries' = delivery.conflicts deliveries := by
  unfold WritebackDelivery.conflicts
  rw [(Table.insert_eq_some hinsert).1, List.any_append]
  have hqueued : queued.automaticFor delivery.destinationId delivery.rowId = false := by
    simp [WritebackDelivery.automaticFor, hother]
  simp [hqueued]

def deliveryEvent (candidate : WritebackCandidate ν) (row : Row) (stamp : SettlementStamp) : OutboxEvent where
  id := stamp.writebackEventId candidate.destination.id
  payload := .writebackDeliveryRequested (candidate.delivery row stamp).input
  createdAt := stamp.context.now

/-- What the queue of these destinations leaves: each candidate conflicts with a
delivery there was before, or its delivery is stored. -/
structure WritebacksQueued (candidates : List (WritebackCandidate ν)) (row : Row) (stamp : SettlementStamp)
    (destinationIds : List String) (before after : DeliveryWorkspace ν) : Prop where
  frame : after = { before with
    db := { before.db with outbox := after.db.outbox }
    writebackDeliveries := after.writebackDeliveries }
  kept : ∀ delivery ∈ before.writebackDeliveries, delivery ∈ after.writebackDeliveries
  origin : ∀ delivery ∈ after.writebackDeliveries, delivery ∈ before.writebackDeliveries ∨
    ∃ candidate ∈ candidates, candidate.destination.id ∈ destinationIds ∧
      delivery = candidate.delivery row stamp ∧ delivery.conflicts before.writebackDeliveries = false
  queued : ∀ destinationId ∈ destinationIds, ∀ candidate,
    (candidates.find? fun candidate => candidate.destination.id = destinationId) = some candidate →
      (candidate.delivery row stamp).conflicts before.writebackDeliveries = true ∨
        candidate.delivery row stamp ∈ after.writebackDeliveries
  events : ∀ id, before.db.outbox.get? id = none →
    (∀ destinationId ∈ destinationIds, stamp.writebackEventId destinationId ≠ id) → after.db.outbox.get? id = none

omit [JsRuntime ν] [ConnectorRuntime ν] [NumberComparison ν] in
theorem WritebacksQueued.refl (candidates : List (WritebackCandidate ν)) (row : Row) (stamp : SettlementStamp)
    (workspace : DeliveryWorkspace ν) : WritebacksQueued candidates row stamp [] workspace workspace where
  frame := rfl
  kept _ hdelivery := hdelivery
  origin _ hdelivery := Or.inl hdelivery
  queued _ hmem := absurd hmem List.not_mem_nil
  events _ hnew _ := hnew

omit [JsRuntime ν] [ConnectorRuntime ν] [NumberComparison ν] in
theorem WritebacksQueued.cons_skip {candidates : List (WritebackCandidate ν)} {row : Row} {stamp : SettlementStamp}
    {destinationId : String} {destinationIds : List String} {before after : DeliveryWorkspace ν}
    (h : WritebacksQueued candidates row stamp destinationIds before after)
    (hskip : ∀ candidate, (candidates.find? fun candidate => candidate.destination.id = destinationId) = some candidate →
      (candidate.delivery row stamp).conflicts before.writebackDeliveries = true) :
    WritebacksQueued candidates row stamp (destinationId :: destinationIds) before after := by
  refine ⟨h.frame, h.kept, ?_, ?_, ?_⟩
  · intro delivery hdelivery
    rcases h.origin delivery hdelivery with hbefore | ⟨candidate, hcandidate, hmem, hrest⟩
    · exact Or.inl hbefore
    · exact Or.inr ⟨candidate, hcandidate, List.mem_cons_of_mem destinationId hmem, hrest⟩
  · intro id hid candidate hfind
    rcases List.mem_cons.mp hid with rfl | hlater
    · exact Or.inl (hskip candidate hfind)
    · exact h.queued id hlater candidate hfind
  · intro id hfresh hother
    exact h.events id hfresh fun other hlater => hother other (List.mem_cons_of_mem destinationId hlater)

omit [JsRuntime ν] [ConnectorRuntime ν] [NumberComparison ν] in
theorem WritebacksQueued.cons_insert {candidates : List (WritebackCandidate ν)} {row : Row} {stamp : SettlementStamp}
    {candidate : WritebackCandidate ν} {destinationIds : List String} {before next after : DeliveryWorkspace ν}
    (hnew : candidate.destination.id ∉ destinationIds)
    (hfind : (candidates.find? fun other => other.destination.id = candidate.destination.id) = some candidate)
    (hconflicts : (candidate.delivery row stamp).conflicts before.writebackDeliveries = false)
    (hinsert : before.writebackDeliveries.insert (candidate.delivery row stamp) = some next.writebackDeliveries)
    (hnext : next = { before with
      db := { before.db with outbox := next.db.outbox }
      writebackDeliveries := next.writebackDeliveries })
    (hevent : before.db.outbox.insert (deliveryEvent candidate row stamp) = some next.db.outbox)
    (h : WritebacksQueued candidates row stamp destinationIds next after) :
    WritebacksQueued candidates row stamp (candidate.destination.id :: destinationIds) before after := by
  have hsame : ∀ delivery : WritebackDelivery ν, delivery.destinationId ∈ destinationIds →
      delivery.conflicts next.writebackDeliveries = delivery.conflicts before.writebackDeliveries := by
    intro delivery hmem
    apply WritebackDelivery.conflicts_insert hinsert
    intro heq
    have hid : candidate.destination.id = delivery.destinationId := heq
    exact hnew (hid ▸ hmem)
  refine ⟨?_, ?_, ?_, ?_, ?_⟩
  · rw [h.frame, hnext]
  · intro delivery hdelivery
    exact h.kept delivery ((Table.mem_insert hinsert).mpr (Or.inl hdelivery))
  · intro delivery hdelivery
    rcases h.origin delivery hdelivery with hbefore | ⟨later, hlater, hmem, heq, hfree⟩
    · rcases (Table.mem_insert hinsert).mp hbefore with hold | rfl
      · exact Or.inl hold
      · exact Or.inr ⟨candidate, List.mem_of_find?_eq_some hfind, List.mem_cons_self, rfl, hconflicts⟩
    · have hdestination : delivery.destinationId ∈ destinationIds := heq ▸ hmem
      rw [hsame delivery hdestination] at hfree
      exact Or.inr ⟨later, hlater, List.mem_cons_of_mem _ hmem, heq, hfree⟩
  · intro id hid later hlater
    rcases List.mem_cons.mp hid with rfl | hrest
    · rw [hfind, Option.some.injEq] at hlater
      subst hlater
      exact Or.inr (h.kept _ ((Table.mem_insert hinsert).mpr (Or.inr rfl)))
    · have hid' : later.destination.id = id := by simpa using List.find?_some hlater
      have hdestination : later.destination.id ∈ destinationIds := hid' ▸ hrest
      rw [← hsame (later.delivery row stamp) hdestination]
      exact h.queued id hrest later hlater
  · intro id hfresh hother
    apply h.events id
    · rw [Table.get?_insert hevent, if_neg fun hsame => hother _ List.mem_cons_self hsame.symm]
      exact hfresh
    · intro other hlater
      exact hother other (List.mem_cons_of_mem _ hlater)

omit [JsRuntime ν] [ConnectorRuntime ν] [NumberComparison ν] in
theorem queueWriteback_conflict {candidate : WritebackCandidate ν} {row : Row} {stamp : SettlementStamp}
    {state : Queued ν} (h : (candidate.delivery row stamp).conflicts state.2.writebackDeliveries = true) :
    queueWriteback candidate row stamp state = .ok state := by
  unfold queueWriteback
  exact if_pos h

omit [JsRuntime ν] [ConnectorRuntime ν] [NumberComparison ν] in
theorem queueWriteback_stored {candidate : WritebackCandidate ν} {row : Row} {stamp : SettlementStamp}
    {state : Queued ν} {deliveries : Table (WritebackDelivery ν)} {events : Outbox}
    (hconflicts : (candidate.delivery row stamp).conflicts state.2.writebackDeliveries = false)
    (hinsert : state.2.writebackDeliveries.insert (candidate.delivery row stamp) = some deliveries)
    (hevent : state.2.db.outbox.insert (deliveryEvent candidate row stamp) = some events) :
    queueWriteback candidate row stamp state = .ok (state.1 + 1, { state.2 with
      db := { state.2.db with outbox := events }
      writebackDeliveries := deliveries }) := by
  unfold queueWriteback enqueueWritebackDelivery
  rw [if_neg (Bool.eq_false_iff.mp hconflicts), hinsert]
  unfold deliveryEvent at hevent
  simp only [WritebackCandidate.delivery] at hevent
  simp only [WritebackCandidate.delivery, hevent]
  rfl

omit [JsRuntime ν] [ConnectorRuntime ν] [NumberComparison ν] in
theorem queueWritebacks_isOk (candidates : List (WritebackCandidate ν)) (row : Row) {stamp : SettlementStamp}
    {destinationIds : List String} (hnd : destinationIds.Nodup) (state : Queued ν)
    (hdeliveries : NewIds state.2.writebackDeliveries stamp.writebackId destinationIds)
    (hevents : NewIds state.2.db.outbox stamp.writebackEventId destinationIds) :
    ∃ state', queueWritebacks candidates row stamp destinationIds state = .ok state' ∧
      WritebacksQueued candidates row stamp destinationIds state.2 state'.2 := by
  induction destinationIds generalizing state with
  | nil => exact ⟨state, rfl, WritebacksQueued.refl candidates row stamp state.2⟩
  | cons destinationId destinationIds ih =>
    obtain ⟨hnew, hrest⟩ := List.nodup_cons.mp hnd
    unfold queueWritebacks
    have hlater := ih hrest state (hdeliveries.mono fun _ hid => List.mem_cons_of_mem _ hid)
      (hevents.mono fun _ hid => List.mem_cons_of_mem _ hid)
    cases hfind : candidates.find? fun candidate => candidate.destination.id = destinationId with
    | none =>
      obtain ⟨state', hqueue, hqueued⟩ := hlater
      refine ⟨state', hqueue, hqueued.cons_skip ?_⟩
      intro candidate hsome
      rw [hfind] at hsome
      cases hsome
    | some candidate =>
      have hid : candidate.destination.id = destinationId := by simpa using List.find?_some hfind
      subst hid
      by_cases hconflicts : (candidate.delivery row stamp).conflicts state.2.writebackDeliveries = true
      · obtain ⟨state', hqueue, hqueued⟩ := hlater
        refine ⟨state', ?_, hqueued.cons_skip ?_⟩
        · simp only [queueWriteback_conflict hconflicts]
          exact hqueue
        · intro other hsome
          rw [hfind, Option.some.injEq] at hsome
          exact hsome ▸ hconflicts
      · obtain ⟨deliveries, hinsert⟩ := insert_isSome (t := state.2.writebackDeliveries)
          (x := candidate.delivery row stamp) (hdeliveries.fresh _ List.mem_cons_self)
        obtain ⟨events, hevent⟩ := insert_isSome (t := state.2.db.outbox)
          (x := deliveryEvent candidate row stamp) (hevents.fresh _ List.mem_cons_self)
        let next : Queued ν := (state.1 + 1, { state.2 with
          db := { state.2.db with outbox := events }
          writebackDeliveries := deliveries })
        obtain ⟨state', hqueue, hqueued⟩ := ih hrest next (hdeliveries.tail hnew hinsert rfl)
          (hevents.tail hnew hevent rfl)
        refine ⟨state', ?_, hqueued.cons_insert hnew hfind (Bool.eq_false_iff.mpr hconflicts) hinsert rfl hevent⟩
        simp only [queueWriteback_stored (Bool.eq_false_iff.mpr hconflicts) hinsert hevent]
        exact hqueue

end Writebacks

section Webhooks

variable {ν : Type} [JsRuntime ν]

def webhookDelivery (snapshot : WebhookRowSnapshot ν) (stamp : SettlementStamp) (destinationId : String) :
    WebhookDelivery ν where
  id := stamp.webhookId destinationId
  destinationId := destinationId
  tableId := snapshot.tableId
  rowId := snapshot.rowId
  rowVersion := snapshot.rowVersion
  triggerMode := .rowSettled
  payload := buildWebhookPayload snapshot stamp destinationId

def webhookEvent (snapshot : WebhookRowSnapshot ν) (stamp : SettlementStamp) (destinationId : String) : OutboxEvent where
  id := stamp.webhookEventId destinationId
  payload := .webhookDeliveryRequested ⟨stamp.webhookId destinationId, destinationId, snapshot.tableId⟩
  createdAt := stamp.context.now

omit [JsRuntime ν] in
def WebhookDelivered (workspace : DeliveryWorkspace ν) (rowId : String) (rowVersion : Nat) (destinationId : String) :
    Prop :=
  ∃ delivery ∈ workspace.webhookDeliveries, delivery.triggerMode = .rowSettled ∧
    delivery.destinationId = destinationId ∧ delivery.rowId = rowId ∧ delivery.rowVersion = rowVersion

structure WebhooksQueued (snapshot : WebhookRowSnapshot ν) (destinations : List WebhookDestination)
    (before after : DeliveryWorkspace ν) : Prop where
  frame : after = { before with
    db := { before.db with outbox := after.db.outbox }
    webhookDeliveries := after.webhookDeliveries }
  kept : ∀ delivery ∈ before.webhookDeliveries, delivery ∈ after.webhookDeliveries
  delivered : ∀ destination ∈ destinations, WebhookDelivered after snapshot.rowId snapshot.rowVersion destination.id

omit [JsRuntime ν] in
theorem WebhooksQueued.cons {snapshot : WebhookRowSnapshot ν} {destination : WebhookDestination}
    {destinations : List WebhookDestination} {before next after : DeliveryWorkspace ν}
    (hhead : WebhooksQueued snapshot [destination] before next) (h : WebhooksQueued snapshot destinations next after) :
    WebhooksQueued snapshot (destination :: destinations) before after := by
  refine ⟨?_, ?_, ?_⟩
  · rw [h.frame, hhead.frame]
  · intro delivery hdelivery
    exact h.kept delivery (hhead.kept delivery hdelivery)
  · intro other hother
    rcases List.mem_cons.mp hother with rfl | hlater
    · obtain ⟨delivery, hmem, hrest⟩ := hhead.delivered other List.mem_cons_self
      exact ⟨delivery, h.kept delivery hmem, hrest⟩
    · exact h.delivered other hlater

theorem queueWebhook_conflict {snapshot : WebhookRowSnapshot ν} {stamp : SettlementStamp}
    {destination : WebhookDestination} {state : Queued ν}
    (haccepted : (buildWebhookPayload snapshot stamp destination.id).accepted = true)
    (h : (webhookDelivery snapshot stamp destination.id).conflicts state.2.webhookDeliveries = true) :
    queueWebhook snapshot stamp destination state = .ok state := by
  unfold webhookDelivery at h
  simp only [queueWebhook, haccepted, requireThat, h, if_true, bind, Except.bind, pure, Except.pure]

theorem queueWebhook_stored {snapshot : WebhookRowSnapshot ν} {stamp : SettlementStamp}
    {destination : WebhookDestination} {state : Queued ν} {deliveries : Table (WebhookDelivery ν)} {events : Outbox}
    (haccepted : (buildWebhookPayload snapshot stamp destination.id).accepted = true)
    (hconflicts : (webhookDelivery snapshot stamp destination.id).conflicts state.2.webhookDeliveries = false)
    (hinsert : state.2.webhookDeliveries.insert (webhookDelivery snapshot stamp destination.id) = some deliveries)
    (hevent : state.2.db.outbox.insert (webhookEvent snapshot stamp destination.id) = some events) :
    queueWebhook snapshot stamp destination state = .ok (state.1 + 1, { state.2 with
      db := { state.2.db with outbox := events }
      webhookDeliveries := deliveries }) := by
  unfold webhookDelivery at hconflicts hinsert
  unfold webhookEvent at hevent
  simp only [queueWebhook, haccepted, requireThat, hconflicts, hinsert, hevent, requireSome, if_true, bind, Except.bind,
    pure, Except.pure]
  rfl

omit [JsRuntime ν] in
theorem WebhookDelivery.delivered_of_conflicts {workspace : DeliveryWorkspace ν} {delivery : WebhookDelivery ν}
    (h : delivery.conflicts workspace.webhookDeliveries = true) :
    WebhookDelivered workspace delivery.rowId delivery.rowVersion delivery.destinationId := by
  simp only [WebhookDelivery.conflicts, Bool.and_eq_true, List.any_eq_true, decide_eq_true_eq] at h
  obtain ⟨_, existing, hmem, ⟨⟨hmode, hdestination⟩, hrow⟩, hversion⟩ := h
  exact ⟨existing, hmem, hmode, hdestination, hrow, hversion⟩

theorem queueWebhook_queued {snapshot : WebhookRowSnapshot ν} {stamp : SettlementStamp}
    {destination : WebhookDestination} {ids : List String} {state : Queued ν}
    (haccepted : (buildWebhookPayload snapshot stamp destination.id).accepted = true) (hnew : destination.id ∉ ids)
    (hdeliveries : NewIds state.2.webhookDeliveries stamp.webhookId (destination.id :: ids))
    (hevents : NewIds state.2.db.outbox stamp.webhookEventId (destination.id :: ids)) :
    ∃ next, queueWebhook snapshot stamp destination state = .ok next ∧
      WebhooksQueued snapshot [destination] state.2 next.2 ∧
      NewIds next.2.webhookDeliveries stamp.webhookId ids ∧ NewIds next.2.db.outbox stamp.webhookEventId ids := by
  by_cases hconflicts : (webhookDelivery snapshot stamp destination.id).conflicts state.2.webhookDeliveries = true
  · refine ⟨state, queueWebhook_conflict haccepted hconflicts, ⟨rfl, fun _ hdelivery => hdelivery, ?_⟩,
      hdeliveries.mono fun _ hid => List.mem_cons_of_mem _ hid, hevents.mono fun _ hid => List.mem_cons_of_mem _ hid⟩
    intro other hother
    obtain rfl := List.mem_singleton.mp hother
    exact WebhookDelivery.delivered_of_conflicts hconflicts
  · obtain ⟨deliveries, hinsert⟩ := insert_isSome (t := state.2.webhookDeliveries)
      (x := webhookDelivery snapshot stamp destination.id) (hdeliveries.fresh _ List.mem_cons_self)
    obtain ⟨events, hevent⟩ := insert_isSome (t := state.2.db.outbox)
      (x := webhookEvent snapshot stamp destination.id) (hevents.fresh _ List.mem_cons_self)
    refine ⟨_, queueWebhook_stored haccepted (Bool.eq_false_iff.mpr hconflicts) hinsert hevent, ⟨rfl, ?_, ?_⟩,
      hdeliveries.tail hnew hinsert rfl, hevents.tail hnew hevent rfl⟩
    · intro delivery hdelivery
      exact (Table.mem_insert hinsert).mpr (Or.inl hdelivery)
    · intro other hother
      obtain rfl := List.mem_singleton.mp hother
      exact ⟨_, (Table.mem_insert hinsert).mpr (Or.inr rfl), rfl, rfl, rfl, rfl⟩

theorem queueWebhooks_queued {snapshot : WebhookRowSnapshot ν} {stamp : SettlementStamp}
    {destinations : List WebhookDestination} (hnd : (destinations.map WebhookDestination.id).Nodup)
    (haccepted : ∀ destination ∈ destinations, (buildWebhookPayload snapshot stamp destination.id).accepted = true)
    (state : Queued ν)
    (hdeliveries : NewIds state.2.webhookDeliveries stamp.webhookId (destinations.map WebhookDestination.id))
    (hevents : NewIds state.2.db.outbox stamp.webhookEventId (destinations.map WebhookDestination.id)) :
    ∃ state', queueWebhooks snapshot stamp destinations state = .ok state' ∧
      WebhooksQueued snapshot destinations state.2 state'.2 := by
  induction destinations generalizing state with
  | nil => exact ⟨state, rfl, rfl, fun _ hdelivery => hdelivery, fun _ hmem => absurd hmem List.not_mem_nil⟩
  | cons destination destinations ih =>
    obtain ⟨hnew, hrest⟩ := List.nodup_cons.mp hnd
    obtain ⟨hhead, htail⟩ := List.forall_mem_cons.mp haccepted
    obtain ⟨next, hnext, hqueued, hlaterDeliveries, hlaterEvents⟩ :=
      queueWebhook_queued hhead hnew hdeliveries hevents
    obtain ⟨state', hqueue, hall⟩ := ih hrest htail next hlaterDeliveries hlaterEvents
    refine ⟨state', ?_, hqueued.cons hall⟩
    simp only [queueWebhooks, hnext, bind, Except.bind]
    exact hqueue

theorem queueWebhooks_accepted {snapshot : WebhookRowSnapshot ν} {stamp : SettlementStamp}
    {destinations : List WebhookDestination} {state state' : Queued ν}
    (h : queueWebhooks snapshot stamp destinations state = .ok state') :
    ∀ destination ∈ destinations, (buildWebhookPayload snapshot stamp destination.id).accepted = true := by
  induction destinations generalizing state with
  | nil =>
    intro destination hmem
    exact absurd hmem List.not_mem_nil
  | cons destination destinations ih =>
    simp only [queueWebhooks, except_bind_eq_ok] at h
    obtain ⟨next, hnext, hrest⟩ := h
    simp only [queueWebhook, except_bind_eq_ok, requireThat_eq_ok] at hnext
    obtain ⟨_, haccepted, _⟩ := hnext
    exact List.forall_mem_cons.mpr ⟨haccepted, ih hrest⟩

end Webhooks

end ByokGrid
