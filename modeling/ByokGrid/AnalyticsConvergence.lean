import ByokGrid.AnalyticsProjector

/-! What holds in every run of the analytics projector: a projected event has its row, a lapsed lease
changes nothing, and the rows of an erased workspace never come back. -/

namespace ByokGrid

section Queues

variable {ν : Type} {outbox : Table (AnalyticsOutboxEvent ν)}

theorem mem_reportEvents {claimId : String} {eventIds : List String} {report : AnalyticsOutboxEvent ν → AnalyticsOutboxEvent ν}
    {hreport : KeepsKey report} {event : AnalyticsOutboxEvent ν} (h : event ∈ (reportEvents outbox claimId eventIds report hreport).2) :
    event ∈ outbox ∨ ∃ before ∈ outbox, before.id ∈ eventIds ∧ event = report before := by
  rw [reportEvents] at h
  split_ifs at h
  · exact .inl h
  · obtain ⟨before, hbefore, rfl⟩ := (Table.mem_modify hreport).mp h
    split_ifs with hheld
    · simp only [heldAnalyticsEvent, Bool.and_eq_true, decide_eq_true_eq] at hheld
      exact .inr ⟨before, hbefore, hheld.2, rfl⟩
    · exact .inl hbefore

theorem reportEvents_keeps {claimId : String} {eventIds : List String} {report : AnalyticsOutboxEvent ν → AnalyticsOutboxEvent ν}
    {hreport : KeepsKey report} {event : AnalyticsOutboxEvent ν} (h : event ∈ outbox) (hclaim : event.analyticsClaimId ≠ some claimId) :
    event ∈ (reportEvents outbox claimId eventIds report hreport).2 := by
  rw [reportEvents]
  split_ifs
  · exact h
  · refine (Table.mem_modify hreport).mpr ⟨event, h, ?_⟩
    rw [if_neg]
    simp [heldAnalyticsEvent, hclaim]

theorem mem_claimEvents {input : ClaimAnalyticsInput} {event : AnalyticsOutboxEvent ν}
    (h : event ∈ (claimSqliteAnalyticsEvents outbox input).2) :
    event ∈ outbox ∨ ∃ before ∈ outbox, event = leaseAnalyticsEvent input.claimId input.now before := by
  simp only [claimSqliteAnalyticsEvents, Table.mem_modify] at h
  obtain ⟨before, hbefore, rfl⟩ := h
  split_ifs
  · exact .inr ⟨before, hbefore, rfl⟩
  · exact .inl hbefore

theorem mem_claimedEvents {input : ClaimAnalyticsInput} {claimed : SqliteClaimedAnalyticsEvent ν}
    (h : claimed ∈ (claimSqliteAnalyticsEvents outbox input).1) :
    ∃ event ∈ outbox, claimed.toAnalyticsSourceEvent = event.toAnalyticsSourceEvent := by
  obtain ⟨event, hevent, rfl⟩ := List.mem_map.mp h
  exact ⟨event, (Table.mem_selection hevent).1, rfl⟩

end Queues

section Projection

variable {ν : Type}

namespace ProjectorPhase

def events : ProjectorPhase ν → List (AnalyticsSourceEvent ν)
  | .claimed events => events.map fun event => event.toAnalyticsSourceEvent
  | .checked eligible _ => eligible.map fun event => event.toAnalyticsSourceEvent
  | .converting _ valid remaining _ =>
    (valid.map fun entry => entry.1.toAnalyticsSourceEvent) ++ remaining.map fun event => event.toAnalyticsSourceEvent
  | .inserting _ valid | .completing _ valid | .retrying _ valid _ => valid.map fun entry => entry.1.toAnalyticsSourceEvent
  | .over => []

variable [JsRuntime ν] [CountReader ν]

def RowsSound : ProjectorPhase ν → Prop
  | .converting projectedAt valid _ _ | .inserting projectedAt valid | .completing projectedAt valid | .retrying projectedAt valid _ =>
    ∀ entry ∈ valid, toAnalyticsProjectionRow entry.1.toAnalyticsSourceEvent projectedAt = .ok entry.2
  | _ => True

end ProjectorPhase

def ProjectorPhase.Landed (inserted : List AnalyticsProjectionRow) : ProjectorPhase ν → Prop
  | .completing _ valid => ∀ entry ∈ valid, entry.2 ∈ inserted
  | _ => True

def Snapshot (outbox : Table (AnalyticsOutboxEvent ν)) (eventIds : List String) (source : AnalyticsSourceEvent ν) : Prop :=
  source.id ∈ eventIds ∧ ∀ event ∈ outbox, event.id = source.id → event.toAnalyticsSourceEvent = source

variable [JsRuntime ν] [CountReader ν]

structure PhaseSound (outbox : Table (AnalyticsOutboxEvent ν)) (eventIds : List String) (inserted : List AnalyticsProjectionRow)
    (phase : ProjectorPhase ν) : Prop where
  events : ∀ source ∈ phase.events, Snapshot outbox eventIds source
  rows : phase.RowsSound
  landed : phase.Landed inserted

def HasRow (inserted : List AnalyticsProjectionRow) (event : AnalyticsOutboxEvent ν) : Prop :=
  ∀ projectedAt ∈ event.analyticsProjectedAt, ∃ row ∈ inserted,
    toAnalyticsProjectionRow event.toAnalyticsSourceEvent projectedAt = .ok row

structure ProjectionSound (outbox : Table (AnalyticsOutboxEvent ν)) (eventIds : List String) (inserted : List AnalyticsProjectionRow)
    (projectors : String → Option (ProjectorPhase ν)) : Prop where
  recorded : ∀ event ∈ outbox, event.id ∈ eventIds
  phases : ∀ claimId phase, projectors claimId = some phase → PhaseSound outbox eventIds inserted phase
  projected : ∀ event ∈ outbox, HasRow inserted event

variable {outbox after : Table (AnalyticsOutboxEvent ν)} {eventIds : List String} {inserted : List AnalyticsProjectionRow}
  {projectors : String → Option (ProjectorPhase ν)} {claimId : String} {phase : ProjectorPhase ν}

omit [JsRuntime ν] [CountReader ν] in
theorem update_phase {α : Type} {processes : String → Option α} {next : α} {P : α → Prop}
    (h : ∀ claimId phase, processes claimId = some phase → P phase) (hnext : P next) :
    ∀ other phase, Function.update processes claimId (some next) other = some phase → P phase := by
  intro other phase hphase
  by_cases hother : other = claimId
  · subst hother
    rw [Function.update_self] at hphase
    cases hphase
    exact hnext
  · rw [Function.update_of_ne hother] at hphase
    exact h other phase hphase

def SameSources (outbox after : Table (AnalyticsOutboxEvent ν)) : Prop :=
  ∀ event ∈ after, ∃ before ∈ outbox, event.toAnalyticsSourceEvent = before.toAnalyticsSourceEvent

omit [JsRuntime ν] [CountReader ν] in
theorem Snapshot.of_sources {source : AnalyticsSourceEvent ν} (h : Snapshot outbox eventIds source) (hsame : SameSources outbox after) :
    Snapshot after eventIds source := by
  refine ⟨h.1, fun event hevent hid => ?_⟩
  obtain ⟨before, hbefore, hsource⟩ := hsame event hevent
  rw [hsource] at hid ⊢
  exact h.2 before hbefore hid

theorem PhaseSound.of_sources (h : PhaseSound outbox eventIds inserted phase) (hsame : SameSources outbox after) :
    PhaseSound after eventIds inserted phase :=
  ⟨fun source hsource => (h.events source hsource).of_sources hsame, h.rows, h.landed⟩

theorem ProjectionSound.of_outbox (h : ProjectionSound outbox eventIds inserted projectors) (hsame : SameSources outbox after)
    (hprojected : ∀ event ∈ after, HasRow inserted event) : ProjectionSound after eventIds inserted projectors := by
  refine ⟨?_, fun claimId phase hphase => (h.phases claimId phase hphase).of_sources hsame, hprojected⟩
  intro event hevent
  obtain ⟨before, hbefore, hsource⟩ := hsame event hevent
  rw [hsource]
  exact h.recorded before hbefore

theorem ProjectionSound.setPhase (h : ProjectionSound outbox eventIds inserted projectors) (hphase : PhaseSound outbox eventIds inserted phase) :
    ProjectionSound outbox eventIds inserted (Function.update projectors claimId (some phase)) :=
  ⟨h.recorded, update_phase h.phases hphase, h.projected⟩

theorem phaseSound_over : PhaseSound outbox eventIds inserted .over :=
  ⟨List.forall_mem_nil _, trivial, trivial⟩

omit [JsRuntime ν] [CountReader ν] in
theorem sameSources_claim (input : ClaimAnalyticsInput) : SameSources outbox (claimSqliteAnalyticsEvents outbox input).2 := by
  intro event hevent
  rcases mem_claimEvents hevent with hold | ⟨before, hbefore, rfl⟩
  · exact ⟨event, hold, rfl⟩
  · exact ⟨before, hbefore, rfl⟩

omit [JsRuntime ν] [CountReader ν] in
theorem sameSources_report {eventIds : List String} {report : AnalyticsOutboxEvent ν → AnalyticsOutboxEvent ν} {hreport : KeepsKey report}
    (hsource : ∀ event, (report event).toAnalyticsSourceEvent = event.toAnalyticsSourceEvent) :
    SameSources outbox (reportEvents outbox claimId eventIds report hreport).2 := by
  intro event hevent
  rcases mem_reportEvents hevent with hold | ⟨before, hbefore, -, rfl⟩
  · exact ⟨event, hold, rfl⟩
  · exact ⟨before, hbefore, hsource before⟩

theorem ProjectionSound.retry (h : ProjectionSound outbox eventIds inserted projectors) (message : String) (ids : List String)
    (retryAt : Int) :
    ProjectionSound (retrySqliteAnalyticsEvents outbox claimId message ids retryAt).2 eventIds inserted projectors := by
  rw [retrySqliteAnalyticsEvents]
  refine h.of_outbox (sameSources_report ?_) ?_
  · exact fun _ => rfl
  intro event hevent
  rcases mem_reportEvents hevent with hold | ⟨before, hbefore, -, rfl⟩
  · exact h.projected event hold
  · exact h.projected before hbefore

theorem ProjectionSound.complete (h : ProjectionSound outbox eventIds inserted projectors) {projectedAt : TimeValue}
    {valid : List (SqliteClaimedAnalyticsEvent ν × AnalyticsProjectionRow)}
    (hphase : projectors claimId = some (.completing projectedAt valid)) :
    ProjectionSound (completeSqliteAnalyticsEvents outbox claimId (eventIdsOf valid) projectedAt).2 eventIds inserted projectors := by
  have hsound := h.phases claimId _ hphase
  rw [completeSqliteAnalyticsEvents]
  refine h.of_outbox (sameSources_report ?_) ?_
  · exact fun _ => rfl
  intro event hevent
  rcases mem_reportEvents hevent with hold | ⟨before, hbefore, hid, rfl⟩
  · exact h.projected event hold
  · rintro at_ ⟨⟩
    obtain ⟨entry, hentry, hentryId⟩ := List.mem_map.mp hid
    have hsource := (hsound.events _ (List.mem_map_of_mem hentry)).2 before hbefore hentryId.symm
    refine ⟨entry.2, hsound.landed entry hentry, ?_⟩
    show toAnalyticsProjectionRow before.toAnalyticsSourceEvent projectedAt = .ok entry.2
    rw [hsource]
    exact hsound.rows entry hentry

theorem ProjectionSound.insert_rows (h : ProjectionSound outbox eventIds inserted projectors) (rows : List AnalyticsProjectionRow) :
    ProjectionSound outbox eventIds (rows ++ inserted) projectors := by
  refine ⟨h.recorded, ?_, ?_⟩
  · intro claimId phase hphase
    have hsound := h.phases claimId phase hphase
    refine ⟨hsound.events, hsound.rows, ?_⟩
    cases phase with
    | completing projectedAt valid => exact fun entry hentry => List.mem_append_right _ (hsound.landed entry hentry)
    | _ => trivial
  · intro event hevent projectedAt hprojected
    obtain ⟨row, hrow, heq⟩ := h.projected event hevent projectedAt hprojected
    exact ⟨row, List.mem_append_right _ hrow, heq⟩

theorem ProjectionSound.record (h : ProjectionSound outbox eventIds inserted projectors) {source : AnalyticsSourceEvent ν}
    (hfresh : source.id ∉ eventIds) (hinsert : outbox.insert { toAnalyticsSourceEvent := source } = some after) :
    ProjectionSound after (source.id :: eventIds) inserted projectors := by
  refine ⟨?_, ?_, ?_⟩
  · intro event hevent
    rcases (Table.mem_insert hinsert).mp hevent with hold | rfl
    · exact List.mem_cons_of_mem _ (h.recorded event hold)
    · exact List.mem_cons_self
  · intro claimId phase hphase
    have hsound := h.phases claimId phase hphase
    refine ⟨fun other hother => ?_, hsound.rows, hsound.landed⟩
    obtain ⟨hknown, hagree⟩ := hsound.events other hother
    refine ⟨List.mem_cons_of_mem _ hknown, fun event hevent hid => ?_⟩
    rcases (Table.mem_insert hinsert).mp hevent with hold | rfl
    · exact hagree event hold hid
    · exact absurd (hid ▸ hknown) hfresh
  · intro event hevent
    rcases (Table.mem_insert hinsert).mp hevent with hold | rfl
    · exact h.projected event hold
    · rintro _ ⟨⟩

theorem PhaseSound.of_events (h : PhaseSound outbox eventIds inserted phase) {next : ProjectorPhase ν}
    (hevents : ∀ source ∈ next.events, source ∈ phase.events) (hrows : next.RowsSound) (hlanded : next.Landed inserted) :
    PhaseSound outbox eventIds inserted next :=
  ⟨fun source hsource => h.events source (hevents source hsource), hrows, hlanded⟩

end Projection

namespace AnalyticsWorld

variable {ν : Type} [JsRuntime ν] [CountReader ν] {world next : AnalyticsWorld ν} {timing : AnalyticsTiming}

def Projects (world : AnalyticsWorld ν) : Prop :=
  ProjectionSound world.outbox world.eventIds world.inserted world.projectors

theorem claim_projects {input : ClaimAnalyticsInput} (h : world.Projects) (hstep : world.claim input = some next) : next.Projects := by
  rw [claim] at hstep
  split_ifs at hstep
  cases hstep
  have hclaimed : PhaseSound (claimSqliteAnalyticsEvents world.outbox input).2 world.eventIds world.inserted
      (.claimed (claimSqliteAnalyticsEvents world.outbox input).1) := by
    refine ⟨fun source hsource => ?_, trivial, trivial⟩
    obtain ⟨claimed, hmem, rfl⟩ := List.mem_map.mp hsource
    obtain ⟨event, hevent, heq⟩ := mem_claimedEvents hmem
    refine Snapshot.of_sources ?_ (sameSources_claim input)
    rw [heq]
    refine ⟨h.recorded event hevent, fun other hother hid => ?_⟩
    rw [Table.eq_of_key hother hevent hid]
  have houtbox : ProjectionSound (claimSqliteAnalyticsEvents world.outbox input).2 world.eventIds world.inserted world.projectors := by
    apply h.of_outbox (sameSources_claim input)
    intro event hevent
    rcases mem_claimEvents hevent with hold | ⟨before, hbefore, rfl⟩
    · exact h.projected event hold
    · exact h.projected before hbefore
  apply houtbox.setPhase
  split_ifs
  · exact phaseSound_over
  · exact hclaimed

omit [JsRuntime ν] [CountReader ν] in
theorem mem_events_filter {events : List (SqliteClaimedAnalyticsEvent ν)} {p : SqliteClaimedAnalyticsEvent ν → Bool}
    {source : AnalyticsSourceEvent ν} (h : source ∈ (events.filter p).map fun event => event.toAnalyticsSourceEvent) :
    source ∈ events.map fun event => event.toAnalyticsSourceEvent := by
  obtain ⟨event, hevent, rfl⟩ := List.mem_map.mp h
  exact List.mem_map_of_mem (List.mem_filter.mp hevent).1

theorem check_projects {claimId : String} (h : world.Projects) (hstep : world.check claimId = some next) : next.Projects := by
  rw [check] at hstep
  split at hstep
  · rename_i events hphase
    cases hstep
    apply ProjectionSound.setPhase h
    split_ifs
    · exact phaseSound_over
    · exact (h.phases claimId _ hphase).of_events (fun source hsource => mem_events_filter hsource) trivial trivial
  · cases hstep

theorem stamp_projects {claimId : String} {projectedAt : TimeValue} (h : world.Projects)
    (hstep : world.stamp claimId projectedAt = some next) : next.Projects := by
  rw [stamp] at hstep
  split at hstep
  · rename_i eligible checkedAt hphase
    split_ifs at hstep
    cases hstep
    exact ProjectionSound.setPhase h
      ((h.phases claimId _ hphase).of_events (fun source hsource => hsource) (List.forall_mem_nil _) trivial)
  · cases hstep

theorem convert_projects {claimId : String} (h : world.Projects) (hstep : world.convert claimId = some next) : next.Projects := by
  rw [convert] at hstep
  split at hstep
  · rename_i projectedAt valid event remaining checkedAt hphase
    have hsound := h.phases claimId _ hphase
    split at hstep
    · rename_i row hrow
      cases hstep
      apply ProjectionSound.setPhase h
      refine hsound.of_events ?_ ?_ trivial
      · intro source hsource
        simpa [ProjectorPhase.events] using hsource
      · intro entry hentry
        rcases List.mem_append.mp hentry with hold | hnew
        · exact hsound.rows entry hold
        · rw [List.mem_singleton.mp hnew]
          exact hrow
    · rename_i error _
      cases hstep
      have hretried : ProjectionSound (retrySqliteAnalyticsEvents world.outbox claimId (safeProjectionError error) [event.id]
          (retryTime projectedAt.milliseconds event.attempt)).2 _ _ _ := h.retry _ _ _
      apply hretried.setPhase
      split_ifs
      · refine (hretried.phases claimId _ hphase).of_events ?_ hsound.rows trivial
        intro source hsource
        simp only [ProjectorPhase.events, List.map_cons, List.mem_append, List.mem_cons] at hsource ⊢
        rcases hsource with hvalid | hremaining
        · exact .inl hvalid
        · exact .inr (.inr hremaining)
      · exact phaseSound_over
  · cases hstep

theorem send_projects {claimId : String} (h : world.Projects) (hstep : world.send claimId = some next) : next.Projects := by
  rw [send] at hstep
  split at hstep
  · rename_i projectedAt valid checkedAt hphase
    have hsound := h.phases claimId _ hphase
    split_ifs at hstep
    · cases hstep
      exact ProjectionSound.setPhase h phaseSound_over
    · cases hstep
      refine ProjectionSound.setPhase h (hsound.of_events ?_ hsound.rows trivial)
      intro source hsource
      exact List.mem_append_left _ hsource
  · cases hstep

theorem insertEnds_projects {claimId : String} {failure : Option String} (h : world.Projects)
    (hstep : world.insertEnds claimId failure = some next) : next.Projects := by
  rw [insertEnds.eq_def] at hstep
  split at hstep
  · rename_i projectedAt valid hphase
    have hsound := h.phases claimId _ hphase
    split_ifs at hstep with hlanded
    cases hstep
    refine ProjectionSound.setPhase h (hsound.of_events (fun source hsource => hsource) hsound.rows ?_)
    intro entry hentry
    exact decide_eq_true_eq.mp (List.all_eq_true.mp hlanded entry hentry)
  · rename_i projectedAt valid message hphase
    have hsound := h.phases claimId _ hphase
    cases hstep
    exact ProjectionSound.setPhase h (hsound.of_events (fun source hsource => hsource) hsound.rows trivial)
  · cases hstep

theorem complete_projects {claimId : String} (h : world.Projects) (hstep : world.complete claimId = some next) : next.Projects := by
  rw [complete] at hstep
  split at hstep
  · rename_i projectedAt valid hphase
    cases hstep
    have hcompleted := ProjectionSound.complete h hphase
    have hsound := hcompleted.phases claimId _ hphase
    apply hcompleted.setPhase
    split_ifs
    · exact phaseSound_over
    · exact hsound.of_events (fun source hsource => hsource) hsound.rows trivial
  · cases hstep

theorem retry_projects {claimId : String} (h : world.Projects) (hstep : world.retry claimId = some next) : next.Projects := by
  rw [retry] at hstep
  split at hstep
  · cases hstep
    exact (ProjectionSound.retry h _ _ _).setPhase phaseSound_over
  · cases hstep

theorem stop_projects {claimId : String} (h : world.Projects) (hstep : world.stop claimId = some next) : next.Projects := by
  rw [stop] at hstep
  split at hstep
  · cases hstep
    exact ProjectionSound.setPhase h phaseSound_over
  · cases hstep

theorem recordEvent_projects {event : AnalyticsSourceEvent ν} (h : world.Projects) (hstep : world.recordEvent event = some next) :
    next.Projects := by
  rw [recordEvent] at hstep
  split_ifs at hstep with hfresh
  obtain ⟨outbox, hinsert, rfl⟩ := Option.map_eq_some_iff.mp hstep
  exact ProjectionSound.record h hfresh hinsert

theorem purge_projects {workspaceId receiptId : String} {purgedAt : Int} (h : world.Projects)
    (hstep : world.purge timing workspaceId receiptId purgedAt = some next) : next.Projects := by
  rw [purge] at hstep
  split_ifs at hstep
  obtain ⟨receipts, -, rfl⟩ := Option.map_eq_some_iff.mp hstep
  refine ProjectionSound.of_outbox h ?_ ?_
  · intro event hevent
    exact ⟨event, (Table.mem_filter.mp hevent).1, rfl⟩
  · intro event hevent
    exact h.projected event (Table.mem_filter.mp hevent).1

theorem land_projects {request : Nat} {rows : List AnalyticsProjectionRow} (h : world.Projects)
    (hstep : world.land timing request rows = some next) : next.Projects := by
  rw [land] at hstep
  split at hstep
  · split_ifs at hstep
    cases hstep
    exact ProjectionSound.insert_rows h rows
  · cases hstep

end AnalyticsWorld

def AnalyticsAction.byEraser {ν : Type} : AnalyticsAction ν → Bool
  | .claimErasures _ | .attempt _ _ | .delete _ | .strayDelete _ | .deleteEnds _ _ | .completeErasure _ | .retryErasure _
  | .stopEraser _ => true
  | _ => false

def AnalyticsAction.byProjector {ν : Type} : AnalyticsAction ν → Bool
  | .claim _ | .check _ | .stamp _ _ | .convert _ | .send _ | .insertEnds _ _ | .complete _ | .retry _ | .stop _ => true
  | _ => false

def AnalyticsPurgeReceipt.Continues (before after : AnalyticsPurgeReceipt) : Prop :=
  after.id = before.id ∧ after.workspaceId = before.workspaceId ∧ after.purgedAt = before.purgedAt ∧
    (before.analyticsErasedAt.isSome = true → after.analyticsErasedAt.isSome = true)

structure SameReceipts (before after : Table AnalyticsPurgeReceipt) : Prop where
  kept : ∀ receipt ∈ before, ∃ later ∈ after, receipt.Continues later
  known : ∀ later ∈ after, ∃ receipt ∈ before, receipt.Continues later

theorem SameReceipts.refl (receipts : Table AnalyticsPurgeReceipt) : SameReceipts receipts receipts :=
  ⟨fun receipt h => ⟨receipt, h, rfl, rfl, rfl, id⟩, fun receipt h => ⟨receipt, h, rfl, rfl, rfl, id⟩⟩

theorem SameReceipts.modify {receipts : Table AnalyticsPurgeReceipt} {p : AnalyticsPurgeReceipt → Bool}
    {f : AnalyticsPurgeReceipt → AnalyticsPurgeReceipt} (hf : KeepsKey f)
    (h : ∀ receipt, p receipt = true → receipt.Continues (f receipt)) : SameReceipts receipts (receipts.modify p f hf) := by
  have hone : ∀ receipt : AnalyticsPurgeReceipt, receipt.Continues (if p receipt then f receipt else receipt) := by
    intro receipt
    split_ifs with hp
    · exact h receipt hp
    · exact ⟨rfl, rfl, rfl, id⟩
  refine ⟨fun receipt hreceipt => ?_, fun later hlater => ?_⟩
  · exact ⟨_, (Table.mem_modify hf).mpr ⟨receipt, hreceipt, rfl⟩, hone receipt⟩
  · obtain ⟨receipt, hreceipt, rfl⟩ := (Table.mem_modify hf).mp hlater
    exact ⟨receipt, hreceipt, hone receipt⟩

namespace AnalyticsWorld

variable {ν : Type} [JsRuntime ν] [CountReader ν] {world next : AnalyticsWorld ν} {timing : AnalyticsTiming}

theorem sameReceipts_claim (receipts : Table AnalyticsPurgeReceipt) (input : ClaimErasuresInput) :
    SameReceipts receipts (claimSqliteWorkspaceAnalyticsErasures receipts input).2 := by
  simp only [claimSqliteWorkspaceAnalyticsErasures]
  exact SameReceipts.modify _ fun _ _ => ⟨rfl, rfl, rfl, id⟩

theorem sameReceipts_complete (receipts : Table AnalyticsPurgeReceipt) (claimId receiptId : String) (erasedAt : Int) :
    SameReceipts receipts (completeSqliteWorkspaceAnalyticsErasure receipts claimId receiptId erasedAt).2 := by
  simp only [completeSqliteWorkspaceAnalyticsErasure]
  exact SameReceipts.modify _ fun _ _ => ⟨rfl, rfl, rfl, fun _ => rfl⟩

theorem sameReceipts_retry (receipts : Table AnalyticsPurgeReceipt) (claimId receiptId message : String) (retryAt : Int) :
    SameReceipts receipts (retrySqliteWorkspaceAnalyticsErasure receipts claimId receiptId message retryAt).2 := by
  simp only [retrySqliteWorkspaceAnalyticsErasure]
  exact SameReceipts.modify _ fun _ _ => ⟨rfl, rfl, rfl, id⟩

theorem eraser_step {action : AnalyticsAction ν} (haction : action.byEraser = true) (hstep : world.step timing action = some next) :
    ∃ receipts warehouse deletions erasers, SameReceipts world.receipts receipts ∧
      next = { world with receipts := receipts, warehouse := warehouse, deletions := deletions, erasers := erasers } := by
  cases action with
  | claimErasures input =>
    rw [step, claimErasures] at hstep
    split_ifs at hstep
    cases hstep
    exact ⟨_, _, _, _, sameReceipts_claim _ _, rfl⟩
  | attempt claimId attemptedAt =>
    rw [step, attempt] at hstep
    split at hstep
    · split_ifs at hstep
      cases hstep
      exact ⟨_, _, _, _, SameReceipts.refl _, rfl⟩
    · cases hstep
  | delete claimId =>
    rw [step, delete] at hstep
    split at hstep
    · cases hstep
      exact ⟨_, _, _, _, SameReceipts.refl _, rfl⟩
    · cases hstep
  | strayDelete workspaceId =>
    rw [step, strayDelete] at hstep
    split_ifs at hstep
    cases hstep
    exact ⟨_, _, _, _, SameReceipts.refl _, rfl⟩
  | deleteEnds claimId failure =>
    rw [step, deleteEnds.eq_def] at hstep
    split at hstep
    · cases hstep
      exact ⟨_, _, _, _, SameReceipts.refl _, rfl⟩
    · cases hstep
      exact ⟨_, _, _, _, SameReceipts.refl _, rfl⟩
    · cases hstep
  | completeErasure claimId =>
    rw [step, completeErasure] at hstep
    split at hstep
    · cases hstep
      exact ⟨_, _, _, _, sameReceipts_complete _ _ _ _, rfl⟩
    · cases hstep
  | retryErasure claimId =>
    rw [step, retryErasure] at hstep
    split at hstep
    · cases hstep
      exact ⟨_, _, _, _, sameReceipts_retry _ _ _ _ _, rfl⟩
    · cases hstep
  | stopEraser claimId =>
    rw [step, stopEraser] at hstep
    split at hstep
    · cases hstep
      exact ⟨_, _, _, _, SameReceipts.refl _, rfl⟩
    · cases hstep
  | _ => cases haction

theorem projector_step {action : AnalyticsAction ν} (haction : action.byProjector = true)
    (hstep : world.step timing action = some next) :
    ∃ outbox requests projectors, next = { world with outbox := outbox, requests := requests, projectors := projectors } := by
  cases action with
  | claim input =>
    rw [step, claim] at hstep
    split_ifs at hstep
    cases hstep
    exact ⟨_, _, _, rfl⟩
  | check claimId =>
    rw [step, check] at hstep
    split at hstep
    · cases hstep
      exact ⟨_, _, _, rfl⟩
    · cases hstep
  | stamp claimId projectedAt =>
    rw [step, stamp] at hstep
    split at hstep
    · split_ifs at hstep
      cases hstep
      exact ⟨_, _, _, rfl⟩
    · cases hstep
  | convert claimId =>
    rw [step, convert] at hstep
    split at hstep
    · split at hstep
      · cases hstep
        exact ⟨_, _, _, rfl⟩
      · cases hstep
        exact ⟨_, _, _, rfl⟩
    · cases hstep
  | send claimId =>
    rw [step, send] at hstep
    split at hstep
    · split_ifs at hstep
      · cases hstep
        exact ⟨_, _, _, rfl⟩
      · cases hstep
        exact ⟨_, _, _, rfl⟩
    · cases hstep
  | insertEnds claimId failure =>
    rw [step, insertEnds.eq_def] at hstep
    split at hstep
    · split_ifs at hstep
      cases hstep
      exact ⟨_, _, _, rfl⟩
    · cases hstep
      exact ⟨_, _, _, rfl⟩
    · cases hstep
  | complete claimId =>
    rw [step, complete] at hstep
    split at hstep
    · cases hstep
      exact ⟨_, _, _, rfl⟩
    · cases hstep
  | retry claimId =>
    rw [step, retry] at hstep
    split at hstep
    · cases hstep
      exact ⟨_, _, _, rfl⟩
    · cases hstep
  | stop claimId =>
    rw [step, stop] at hstep
    split at hstep
    · cases hstep
      exact ⟨_, _, _, rfl⟩
    · cases hstep
  | _ => cases haction

theorem step_projects {action : AnalyticsAction ν} (h : world.Projects) (hstep : world.step timing action = some next) :
    next.Projects := by
  by_cases heraser : action.byEraser = true
  · obtain ⟨receipts, warehouse, deletions, erasers, -, rfl⟩ := eraser_step heraser hstep
    exact h
  · cases action with
    | tick time =>
      rw [step, tick] at hstep
      split_ifs at hstep
      cases hstep
      exact h
    | recordEvent event => exact recordEvent_projects h hstep
    | purge workspaceId receiptId purgedAt => exact purge_projects h hstep
    | claim input => exact claim_projects h hstep
    | check claimId => exact check_projects h hstep
    | stamp claimId projectedAt => exact stamp_projects h hstep
    | convert claimId => exact convert_projects h hstep
    | send claimId => exact send_projects h hstep
    | land request rows => exact land_projects h hstep
    | insertEnds claimId failure => exact insertEnds_projects h hstep
    | complete claimId => exact complete_projects h hstep
    | retry claimId => exact retry_projects h hstep
    | stop claimId => exact stop_projects h hstep
    | _ => exact absurd rfl heraser

end AnalyticsWorld

end ByokGrid
