import ByokGrid.Calendar
import ByokGrid.SourceWindows
import Mathlib.Order.Bounds.Basic

/-! Sources which are due: the time they are due next, the run each of them gets, and
the sources which one without a window keeps from theirs. -/

namespace ByokGrid

def laterTimes (scheduledFor intervalMs now : Int) : Set Int :=
  {t | now < t ∧ ∃ k : Int, 1 ≤ k ∧ t = scheduledFor + k * intervalMs}

theorem isLeast_laterTimes {scheduledFor intervalMs now : Int} (hinterval : 0 < intervalMs) (hdue : scheduledFor ≤ now) :
    IsLeast (laterTimes scheduledFor intervalMs now)
      (scheduledFor + max 1 ((now - scheduledFor) / intervalMs + 1) * intervalMs) := by
  have hquotient : 0 ≤ (now - scheduledFor) / intervalMs := Int.ediv_nonneg (by omega) hinterval.le
  rw [max_eq_right (by omega)]
  constructor
  · refine ⟨?_, _, by omega, rfl⟩
    have hlast := Int.lt_ediv_add_one_mul_self (now - scheduledFor) hinterval
    omega
  · rintro t ⟨hlater, k, -, rfl⟩
    have hk : (now - scheduledFor) / intervalMs < k := Int.ediv_lt_of_lt_mul hinterval (by omega)
    have hle := Int.mul_le_mul_of_nonneg_right (Int.add_one_le_of_lt hk) hinterval.le
    omega

theorem nextScheduledSourceRun_least {scheduledFor now : Int} {intervalMinutes : Nat} (hinterval : 5 ≤ intervalMinutes)
    (hdue : scheduledFor ≤ now) :
    ∃ next, nextScheduledSourceRun scheduledFor intervalMinutes now = .ok next ∧
      IsLeast (laterTimes scheduledFor (intervalMinutes * 60000) now) next := by
  refine ⟨_, ?_, isLeast_laterTimes (by omega) hdue⟩
  rw [nextScheduledSourceRun, requireThat, if_pos (decide_eq_true hinterval)]
  rfl

def runsOf (runs : Table SourceRun) (sourceId : String) : List SourceRun :=
  runs.records.filter fun run => run.sourceId = sourceId

theorem activeSourceRun_eq (runs : Table SourceRun) (sourceId : String) :
    activeSourceRun runs sourceId = (runsOf runs sourceId).any fun run => run.status.active := by
  rw [activeSourceRun, runsOf, List.any_filter]

theorem scheduledBefore_eq (runs : Table SourceRun) (sourceId : String) (scheduledFor : Int) :
    scheduledBefore runs sourceId scheduledFor = (runsOf runs sourceId).any fun run => run.scheduledFor = scheduledFor := by
  rw [scheduledBefore, runsOf, List.any_filter]

theorem runsOf_insert {runs runs' : Table SourceRun} {run : SourceRun} (h : runs.insert run = some runs')
    (sourceId : String) :
    runsOf runs' sourceId = if run.sourceId = sourceId then runsOf runs sourceId ++ [run] else runsOf runs sourceId := by
  rw [runsOf, (Table.insert_eq_some h).1, List.filter_append]
  by_cases hid : run.sourceId = sourceId
  · simp [runsOf, hid]
  · simp [runsOf, hid]

section Due

variable {ν : Type} [JsRuntime ν]

/-- The source has a window to ask for: it is not incremental, or the time up to the safety lag has moved on. -/
def WindowOpen (ν : Type) [JsRuntime ν] (source : SourceDefinition) (now : Int) : Prop :=
  match source.adapter with
  | .httpJson => True
  | .hubSpotContacts initialSyncFrom =>
    JsRuntime.isIsoDatetime ν initialSyncFrom = true ∧ syncedUntil ν source < now - HUBSPOT_INCREMENTAL_SAFETY_LAG_MS

theorem sourceIncrementalWindow_open {source : SourceDefinition} {now : Int} :
    (∃ window, sourceIncrementalWindow ν source now = .ok window) ↔ WindowOpen ν source now := by
  cases hadapter : source.adapter with
  | httpJson =>
    simp only [sourceIncrementalWindow, WindowOpen, hadapter]
    exact ⟨fun _ => trivial, fun _ => ⟨none, rfl⟩⟩
  | hubSpotContacts initialSyncFrom =>
    simp only [sourceIncrementalWindow, WindowOpen, syncedUntil, initialSync, hadapter, except_bind_eq_ok, requireThat_eq_ok,
      exists_and_left, exists_const]
    refine and_congr_right fun _ => ?_
    split_ifs with hforward
    · exact ⟨fun _ => hforward, fun _ => ⟨_, rfl⟩⟩
    · refine ⟨fun hwindow => ?_, fun h => absurd h hforward⟩
      obtain ⟨_, h⟩ := hwindow
      cases h

/-- Nothing keeps a due source from a run: it has an active one, or it has a window and had no run at its time. -/
def SourceReady (ν : Type) [JsRuntime ν] (runs : Table SourceRun) (now : Int) (source : SourceDefinition) : Prop :=
  activeSourceRun runs source.id = true ∨
    WindowOpen ν source now ∧ ∀ scheduledFor, source.nextRunAt = some scheduledFor →
      scheduledBefore runs source.id scheduledFor = false

def SourceBlocked (ν : Type) [JsRuntime ν] (runs : Table SourceRun) (now : Int) (source : SourceDefinition) : Prop :=
  activeSourceRun runs source.id = false ∧ ¬ WindowOpen ν source now

structure SourceServed (now : Int) (before after : SourceStore) (source : SourceDefinition) : Prop where
  next : ∃ moved nextRunAt, after.definitions.get? source.id = some moved ∧ moved.nextRunAt = some nextRunAt ∧ now < nextRunAt
  run : activeSourceRun before.runs source.id = true ∧ runsOf after.runs source.id = runsOf before.runs source.id ∨
    ∃ run, run.status = .queued ∧ run.trigger = .schedule ∧
      runsOf after.runs source.id = runsOf before.runs source.id ++ [run]

/-- A due source, as the checks of the table have it: one with a next time has an interval of five minutes or more. -/
structure ScheduledSource (now : Int) (source : SourceDefinition) : Prop where
  due : dueSource now source = true
  interval : source.nextRunAt ≠ none → ∃ minutes, source.scheduleIntervalMinutes = some minutes ∧ 5 ≤ minutes

structure FreshIds (input : QueueDueSourceRuns) (workspace : SourceWorkspace ν) (sources : List SourceDefinition) : Prop where
  runs : ∀ source ∈ sources, workspace.sources.runs.get? (input.runId source.id) = none
  events : ∀ source ∈ sources, workspace.db.outbox.get? (input.eventId source.id) = none
  distinctRuns : (sources.map fun source => input.runId source.id).Nodup
  distinctEvents : (sources.map fun source => input.eventId source.id).Nodup

variable (ν) in
structure DueResult (now : Int) (before after : SourceStore) (source : SourceDefinition) : Prop where
  next : ∃ moved nextRunAt, after.definitions.get? source.id = some moved ∧ moved.nextRunAt = some nextRunAt ∧ now < nextRunAt
  queued : SourceReady ν before.runs now source → activeSourceRun before.runs source.id = false →
    ∃ run, run.status = .queued ∧ run.trigger = .schedule ∧ runsOf after.runs source.id = runsOf before.runs source.id ++ [run]
  kept : ¬ (SourceReady ν before.runs now source ∧ activeSourceRun before.runs source.id = false) →
    runsOf after.runs source.id = runsOf before.runs source.id

structure DueStep (input : QueueDueSourceRuns) (before after : SourceWorkspace ν) (source : SourceDefinition) : Prop where
  result : DueResult ν input.now before.sources after.sources source
  others : ∀ id, id ≠ source.id → after.sources.definitions.get? id = before.sources.definitions.get? id ∧
    runsOf after.sources.runs id = runsOf before.sources.runs id
  runIds : ∀ id, id ≠ input.runId source.id → after.sources.runs.get? id = before.sources.runs.get? id
  eventIds : ∀ id, id ≠ input.eventId source.id → after.db.outbox.get? id = before.db.outbox.get? id

theorem updateDefinition_runs (store : SourceStore) (sourceId : String) {f : SourceDefinition → SourceDefinition}
    (hf : KeepsKey f) : (store.updateDefinition sourceId f hf).runs = store.runs := rfl

theorem updateDefinition_next {store : SourceStore} {source : SourceDefinition} (nextRunAt : Int)
    (hf : KeepsKey fun candidate : SourceDefinition => { candidate with nextRunAt := some nextRunAt })
    (hget : store.definitions.get? source.id = some source) (id : String) :
    (store.updateDefinition source.id _ hf).definitions.get? id =
      if id = source.id then some { source with nextRunAt := some nextRunAt } else store.definitions.get? id := by
  rw [get?_updateDefinition hf]
  by_cases hid : id = source.id
  · rw [if_pos hid, hid, hget, Option.map_some, redefineSource, if_pos rfl]
  · rw [if_neg hid]
    cases hother : store.definitions.get? id with
    | none => rfl
    | some other =>
      have hkey : other.id = id := (Table.get?_eq_some.mp hother).2
      rw [Option.map_some, redefineSource, if_neg (hkey ▸ hid)]

theorem queueDueSource_spec {input : QueueDueSourceRuns} {source : SourceDefinition} {workspace : SourceWorkspace ν}
    (hscheduled : ScheduledSource input.now source)
    (hget : workspace.sources.definitions.get? source.id = some source)
    (hrun : workspace.sources.runs.get? (input.runId source.id) = none)
    (hevent : workspace.db.outbox.get? (input.eventId source.id) = none) :
    (SourceBlocked ν workspace.sources.runs input.now source ∧ ∃ e, queueDueSource input source workspace = .error e) ∨
      ¬ SourceBlocked ν workspace.sources.runs input.now source ∧
        ∃ after, queueDueSource input source workspace = .ok after ∧ DueStep input workspace after source := by
  obtain ⟨hdue, hinterval⟩ := hscheduled
  rw [dueSource, Bool.and_eq_true, Option.any_eq_true] at hdue
  obtain ⟨-, scheduledFor, hscheduledFor, hle⟩ := hdue
  obtain ⟨minutes, hminutes, hfive⟩ := hinterval (by rw [hscheduledFor]; exact Option.some_ne_none _)
  obtain ⟨next, hnext, hleast⟩ := nextScheduledSourceRun_least hfive (of_decide_eq_true hle)
  have hkeeps : KeepsKey fun candidate : SourceDefinition => { candidate with nextRunAt := some next } := ⟨fun _ => rfl⟩
  have hmoved := updateDefinition_next next hkeeps hget
  have hready : SourceReady ν workspace.sources.runs input.now source ↔ activeSourceRun workspace.sources.runs source.id = true ∨
      WindowOpen ν source input.now ∧ scheduledBefore workspace.sources.runs source.id scheduledFor = false := by
    rw [SourceReady, hscheduledFor]
    simp
  have hstay : ∀ after : SourceWorkspace ν, after.sources.runs = workspace.sources.runs → after.db = workspace.db →
      (∀ id, after.sources.definitions.get? id = if id = source.id then some { source with nextRunAt := some next }
        else workspace.sources.definitions.get? id) →
      ¬ (SourceReady ν workspace.sources.runs input.now source ∧ activeSourceRun workspace.sources.runs source.id = false) →
      DueStep input workspace after source := by
    intro after hruns hdb hdefinitions hnone
    refine ⟨⟨⟨_, next, (hdefinitions source.id).trans (if_pos rfl), rfl, hleast.1.1⟩, ?_, ?_⟩, fun id hid => ⟨?_, ?_⟩, ?_, ?_⟩
    · exact fun hone htwo => absurd ⟨hone, htwo⟩ hnone
    · exact fun _ => by rw [hruns]
    · rw [hdefinitions, if_neg hid]
    · rw [hruns]
    · exact fun _ _ => by rw [hruns]
    · exact fun _ _ => by rw [hdb]
  rw [queueDueSource, hscheduledFor, hminutes]
  simp only [queueScheduledRun, hnext, updateDefinition_runs, bind, Except.bind, pure, Except.pure]
  by_cases hactive : activeSourceRun workspace.sources.runs source.id = true
  · simp only [hactive, ↓reduceIte]
    refine .inr ⟨fun hblocked => absurd (hactive.symm.trans hblocked.1) (by decide), _, rfl, ?_⟩
    exact hstay _ rfl rfl hmoved fun h => absurd (hactive.symm.trans h.2) (by decide)
  · have hinactive := Bool.eq_false_iff.mpr hactive
    simp only [hinactive, Bool.false_eq_true, ↓reduceIte]
    by_cases hopen : WindowOpen ν source input.now
    · obtain ⟨window, hwindow⟩ := sourceIncrementalWindow_open.mpr hopen
      rw [hwindow]
      refine .inr ⟨fun hblocked => hblocked.2 hopen, ?_⟩
      by_cases hbefore : scheduledBefore workspace.sources.runs source.id scheduledFor = true
      · simp only [hbefore, ↓reduceIte]
        refine ⟨_, rfl, hstay _ rfl rfl hmoved fun h => ?_⟩
        rcases hready.mp h.1 with hrunning | hfresh
        · exact hactive hrunning
        · exact absurd (hbefore.symm.trans hfresh.2) (by decide)
      · have hunused := Bool.eq_false_iff.mpr hbefore
        simp only [hunused, Bool.false_eq_true, ↓reduceIte]
        obtain ⟨run, hrunFields⟩ : ∃ run : SourceRun, run = { id := input.runId source.id, sourceId := source.id, tableId := source.tableId, trigger := .schedule, scheduledFor := scheduledFor, incrementalWindow := window } := ⟨_, rfl⟩
        have hrunId : Keyed.key run = input.runId source.id := by rw [hrunFields]; rfl
        have hsourceId : run.sourceId = source.id := by rw [hrunFields]
        obtain ⟨runs, hruns⟩ : ∃ runs, workspace.sources.runs.insert run = some runs := insert_isSome (hrunId ▸ hrun)
        rw [← hrunFields, hruns]
        simp only [requireSome, insertSourceRun, bind, Except.bind, pure, Except.pure]
        obtain ⟨event, heventFields⟩ : ∃ event : OutboxEvent, event = { id := input.eventId source.id, payload := .sourceRunRequested { sourceId := run.sourceId, sourceRunId := run.id, tableId := run.tableId }, createdAt := input.now } := ⟨_, rfl⟩
        have heventId : Keyed.key event = input.eventId source.id := by rw [heventFields]; rfl
        obtain ⟨events, hevents⟩ : ∃ events, workspace.db.outbox.insert event = some events := insert_isSome (heventId ▸ hevent)
        rw [← heventFields, hevents]
        refine ⟨_, rfl, ⟨⟨_, next, (hmoved source.id).trans (if_pos rfl), rfl, hleast.1.1⟩, ?_, ?_⟩,
          fun id hid => ⟨?_, ?_⟩, fun id hid => ?_, fun id hid => ?_⟩
        · exact fun _ _ => ⟨run, by rw [hrunFields], by rw [hrunFields],
            (runsOf_insert hruns source.id).trans (if_pos hsourceId)⟩
        · exact fun hnone => absurd ⟨hready.mpr (.inr ⟨hopen, hunused⟩), hinactive⟩ hnone
        · exact (hmoved id).trans (if_neg hid)
        · exact (runsOf_insert hruns id).trans (if_neg (hsourceId ▸ Ne.symm hid))
        · exact (Table.get?_insert hruns id).trans (if_neg (hrunId ▸ hid))
        · exact (Table.get?_insert hevents id).trans (if_neg (heventId ▸ hid))
    · refine .inl ⟨⟨hinactive, hopen⟩, ?_⟩
      cases hwindow : sourceIncrementalWindow ν source input.now with
      | error e => exact ⟨e, rfl⟩
      | ok window => exact absurd (sourceIncrementalWindow_open.mp ⟨window, hwindow⟩) hopen

theorem SourceReady.congr {runs runs' : Table SourceRun} {now : Int} {source : SourceDefinition}
    (h : runsOf runs' source.id = runsOf runs source.id) : SourceReady ν runs' now source ↔ SourceReady ν runs now source := by
  simp only [SourceReady, activeSourceRun_eq, scheduledBefore_eq, h]

theorem SourceBlocked.congr {runs runs' : Table SourceRun} {now : Int} {source : SourceDefinition}
    (h : runsOf runs' source.id = runsOf runs source.id) : SourceBlocked ν runs' now source ↔ SourceBlocked ν runs now source := by
  simp only [SourceBlocked, activeSourceRun_eq, h]

theorem DueResult.from {now : Int} {store before after : SourceStore} {source : SourceDefinition}
    (h : DueResult ν now before after source) (hruns : runsOf before.runs source.id = runsOf store.runs source.id) :
    DueResult ν now store after source := by
  obtain ⟨hnext, hqueued, hkept⟩ := h
  simp only [SourceReady.congr hruns, activeSourceRun_eq, hruns] at hqueued hkept
  exact ⟨hnext, by simpa only [activeSourceRun_eq] using hqueued, by simpa only [activeSourceRun_eq] using hkept⟩

theorem DueResult.upTo {now : Int} {before after store : SourceStore} {source : SourceDefinition}
    (h : DueResult ν now before after source) (hdefinitions : store.definitions.get? source.id = after.definitions.get? source.id)
    (hruns : runsOf store.runs source.id = runsOf after.runs source.id) : DueResult ν now before store source := by
  obtain ⟨hnext, hqueued, hkept⟩ := h
  rw [← hdefinitions] at hnext
  rw [← hruns] at hqueued hkept
  exact ⟨hnext, hqueued, hkept⟩

theorem FreshIds.step {input : QueueDueSourceRuns} {before after : SourceWorkspace ν} {source : SourceDefinition}
    {sources : List SourceDefinition} (h : FreshIds input before (source :: sources)) (hstep : DueStep input before after source) :
    FreshIds input after sources := by
  obtain ⟨hruns, hevents, hdistinctRuns, hdistinctEvents⟩ := h
  obtain ⟨hrun, hdistinctRuns⟩ := List.nodup_cons.mp hdistinctRuns
  obtain ⟨hevent, hdistinctEvents⟩ := List.nodup_cons.mp hdistinctEvents
  refine ⟨fun other hother => ?_, fun other hother => ?_, hdistinctRuns, hdistinctEvents⟩
  · rw [hstep.runIds _ fun heq => hrun (List.mem_map.mpr ⟨other, hother, heq⟩)]
    exact hruns other (List.mem_cons_of_mem _ hother)
  · rw [hstep.eventIds _ fun heq => hevent (List.mem_map.mpr ⟨other, hother, heq⟩)]
    exact hevents other (List.mem_cons_of_mem _ hother)

theorem queueDueSources_spec {input : QueueDueSourceRuns} {sources : List SourceDefinition} {workspace : SourceWorkspace ν}
    (hscheduled : ∀ source ∈ sources, ScheduledSource input.now source)
    (hget : ∀ source ∈ sources, workspace.sources.definitions.get? source.id = some source)
    (hnodup : (sources.map SourceDefinition.id).Nodup) (hfresh : FreshIds input workspace sources) :
    ((∃ source ∈ sources, SourceBlocked ν workspace.sources.runs input.now source) ∧
        ∃ e, queueDueSources input sources workspace = .error e) ∨
      (∀ source ∈ sources, ¬ SourceBlocked ν workspace.sources.runs input.now source) ∧
        ∃ after, queueDueSources input sources workspace = .ok after ∧
          (∀ source ∈ sources, DueResult ν input.now workspace.sources after.sources source) ∧
          ∀ id, id ∉ sources.map SourceDefinition.id →
            after.sources.definitions.get? id = workspace.sources.definitions.get? id ∧
              runsOf after.sources.runs id = runsOf workspace.sources.runs id := by
  induction sources generalizing workspace with
  | nil => exact .inr ⟨List.forall_mem_nil _, workspace, rfl, List.forall_mem_nil _, fun _ _ => ⟨rfl, rfl⟩⟩
  | cons source sources ih =>
    obtain ⟨hfirst, hlater⟩ := List.forall_mem_cons.mp hscheduled
    obtain ⟨hgetFirst, hgetLater⟩ := List.forall_mem_cons.mp hget
    obtain ⟨hnew, hrest⟩ := List.nodup_cons.mp hnodup
    have hne : ∀ other ∈ sources, other.id ≠ source.id := fun other hother heq => hnew (heq ▸ List.mem_map_of_mem hother)
    rcases queueDueSource_spec hfirst hgetFirst (hfresh.runs source List.mem_cons_self)
      (hfresh.events source List.mem_cons_self) with ⟨hblocked, e, he⟩ | ⟨hserved, next, hnext, hstep⟩
    · refine .inl ⟨⟨source, List.mem_cons_self, hblocked⟩, e, ?_⟩
      rw [queueDueSources, he]
      rfl
    · have hrun : queueDueSources input (source :: sources) workspace = queueDueSources input sources next := by
        rw [queueDueSources, hnext]
        rfl
      have hsame : ∀ other ∈ sources, runsOf next.sources.runs other.id = runsOf workspace.sources.runs other.id :=
        fun other hother => (hstep.others other.id (hne other hother)).2
      rw [hrun]
      rcases ih hlater (fun other hother => (hstep.others other.id (hne other hother)).1.trans (hgetLater other hother)) hrest
        (hfresh.step hstep) with ⟨⟨other, hother, hblocked⟩, e, he⟩ | ⟨hall, after, hafter, hresults, hframe⟩
      · exact .inl ⟨⟨other, List.mem_cons_of_mem _ hother, (SourceBlocked.congr (hsame other hother)).mp hblocked⟩, e, he⟩
      · refine .inr ⟨List.forall_mem_cons.mpr ⟨hserved, fun other hother => ?_⟩, after, hafter,
          List.forall_mem_cons.mpr ⟨?_, fun other hother => ?_⟩, fun id hid => ?_⟩
        · rw [← SourceBlocked.congr (hsame other hother)]
          exact hall other hother
        · obtain ⟨hdefinitions, hruns⟩ := hframe source.id hnew
          exact hstep.result.upTo hdefinitions hruns
        · exact (hresults other hother).from (hsame other hother)
        · rw [List.map_cons, List.mem_cons, not_or] at hid
          obtain ⟨hdefinitions, hruns⟩ := hframe id hid.2
          obtain ⟨hdefinition, hrunsOf⟩ := hstep.others id hid.1
          exact ⟨hdefinitions.trans hdefinition, hruns.trans hrunsOf⟩

def dueSelection (workspace : SourceWorkspace ν) (input : QueueDueSourceRuns) : List SourceDefinition :=
  ((workspace.sources.definitions.records.filter (dueSource input.now)).insertionSort
    fun left right => dueOrder left right).take (max 1 (min input.limit 100)).toNat

def afterQueueDue (workspace : SourceWorkspace ν) (input : QueueDueSourceRuns) : SourceWorkspace ν :=
  match queueDueSqliteSourceRuns workspace input with
  | .ok after => after
  | .error _ => workspace

/-- The checks of the definitions table: a source with a next time has an interval, of five minutes or more. -/
def ScheduleChecks (workspace : SourceWorkspace ν) : Prop :=
  ∀ source ∈ workspace.sources.definitions, source.nextRunAt ≠ none →
    ∃ minutes, source.scheduleIntervalMinutes = some minutes ∧ 5 ≤ minutes

theorem DueResult.served_iff {now : Int} {before after : SourceStore} {source : SourceDefinition}
    (h : DueResult ν now before after source) : SourceServed now before after source ↔ SourceReady ν before.runs now source := by
  constructor
  · rintro ⟨-, hrun⟩
    by_contra hready
    have hkept := h.kept fun hboth => hready hboth.1
    rcases hrun with ⟨hactive, -⟩ | ⟨run, -, -, hnew⟩
    · exact hready (.inl hactive)
    · rw [hkept] at hnew
      simp at hnew
  · intro hready
    refine ⟨h.next, ?_⟩
    by_cases hactive : activeSourceRun before.runs source.id = true
    · exact .inl ⟨hactive, h.kept fun hboth => absurd (hactive.symm.trans hboth.2) (by decide)⟩
    · exact .inr (h.queued hready (Bool.eq_false_iff.mpr hactive))

theorem SourceReady.not_blocked {runs : Table SourceRun} {now : Int} {source : SourceDefinition}
    (h : SourceReady ν runs now source) : ¬ SourceBlocked ν runs now source := by
  rintro ⟨hinactive, hclosed⟩
  rcases h with hactive | ⟨hopen, -⟩
  · exact absurd (hactive.symm.trans hinactive) (by decide)
  · exact hclosed hopen

end Due

def contactsSource (initialSyncFrom : String) : SourceDefinition where
  id := "contacts"
  tableId := "table"
  name := "Contacts"
  adapter := .hubSpotContacts initialSyncFrom
  credentialId := some "token"
  maxRecords := 1000
  maxPages := 10
  missingRecordMode := .preserve
  paginationMode := .cursor
  scheduleIntervalMinutes := some 60
  nextRunAt := some 1767225600000

def ordersSource : SourceDefinition where
  id := "orders"
  tableId := "table"
  name := "Orders"
  adapter := .httpJson
  credentialId := none
  maxRecords := 1000
  maxPages := 1
  missingRecordMode := .preserve
  paginationMode := .none
  scheduleIntervalMinutes := some 15
  nextRunAt := some 1767225600000

def twoSources (initialSyncFrom : String) : SourceWorkspace CalendarInteger where
  db :=
    { grid := .empty
      workspaceMembers := .empty, credentials := .empty, connectorRevocations := .empty, cellRuns := .empty
      bulkRunBatches := .empty, bulkRunItems := .empty, rowSettlements := .empty, webhookDestinations := .empty
      writebackDestinations := .empty, outbox := .empty }
  sources := ⟨⟨[contactsSource initialSyncFrom, ordersSource], by simp [Keyed.key, contactsSource, ordersSource]⟩, .empty, .empty⟩

def newYear : QueueDueSourceRuns where
  runId sourceId := sourceId ++ "-run"
  eventId sourceId := sourceId ++ "-event"
  now := 1767225600000

theorem twoSources_checks (initialSyncFrom : String) : ScheduleChecks (twoSources initialSyncFrom) := by
  intro source hsource _
  rcases List.mem_cons.mp hsource with rfl | hsource
  · exact ⟨60, rfl, by decide⟩
  · rw [List.mem_singleton.mp hsource]
    exact ⟨15, rfl, by decide⟩

theorem dueSelection_newYear (initialSyncFrom : String) :
    dueSelection (twoSources initialSyncFrom) newYear = [contactsSource initialSyncFrom, ordersSource] := by
  simp [dueSelection, twoSources, newYear, dueSource, contactsSource, ordersSource, dueOrder]

theorem twoSources_fresh (initialSyncFrom : String) :
    FreshIds newYear (twoSources initialSyncFrom) (dueSelection (twoSources initialSyncFrom) newYear) := by
  rw [dueSelection_newYear]
  refine ⟨fun _ _ => rfl, fun _ _ => rfl, ?_, ?_⟩ <;> simp [newYear, contactsSource, ordersSource]

end ByokGrid
