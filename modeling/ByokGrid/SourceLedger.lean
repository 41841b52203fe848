import ByokGrid.SourceRecords
import ByokGrid.SourceWindows

/-! The applied pages of all source runs in one log: what the counters of a run,
its end and the identities of its source say about the pages in the log. -/

namespace ByokGrid

section Log

variable {ν : Type} [JsRuntime ν]

def pageCountOf (store : SourceStore) (sourceRunId : String) : Nat :=
  ((store.runs.get? sourceRunId).map SourceRun.pageCount).getD 0

def appliedPages (workspace : SourceWorkspace ν) (action : SourceAction ν) : List SourcePage :=
  match action with
  | .applyPage input =>
    if pageCountOf (workspace.step (.applyPage input)).sources input.sourceRunId =
      pageCountOf workspace.sources input.sourceRunId then [] else [input]
  | _ => []

def SourceWorkspace.pageLog (workspace : SourceWorkspace ν) (actions : List (SourceAction ν)) : List SourcePage :=
  runOutputs SourceWorkspace.step appliedPages workspace actions

end Log

def runPages (log : List SourcePage) (sourceRunId : String) : List SourcePage :=
  log.filter fun page => page.sourceRunId = sourceRunId

def Unseen (log : List SourcePage) (sourceRunId key : String) : Prop :=
  ∀ page ∈ log, page.sourceRunId = sourceRunId → key ∉ page.keys

def Missed (log : List SourcePage) (sourceId key : String) : Prop :=
  ∃ before page after, log = before ++ page :: after ∧ page.sourceId = sourceId ∧ page.completed = true ∧
    Unseen (before ++ [page]) page.sourceRunId key ∧ ∀ later ∈ after, later.sourceId = sourceId → key ∉ later.keys

structure RunsAgree (ν : Type) [JsRuntime ν] (store : SourceStore) (log : List SourcePage) : Prop where
  windows : WindowInvariant ν store
  known : ∀ page ∈ log, ∃ run ∈ store.runs, run.id = page.sourceRunId ∧ run.sourceId = page.sourceId
  pages : ∀ run ∈ store.runs, (runPages log run.id).map SourcePage.expectedPage =
    (List.range run.pageCount).map fun page : Nat => (page : Int) + 1
  received : ∀ run ∈ store.runs, run.receivedRecordCount = run.createdRowCount + run.updatedRowCount
  restored : ∀ run ∈ store.runs, run.restoredRowCount ≤ run.updatedRowCount
  limit : ∀ run ∈ store.runs, ∀ source, store.definitions.get? run.sourceId = some source →
    run.receivedRecordCount ≤ source.maxRecords
  succeeded : ∀ run ∈ store.runs, run.status = .succeeded ↔
    ∃ page ∈ log, page.sourceRunId = run.id ∧ page.completed = true

structure RecordsAgree (store : SourceStore) (log : List SourcePage) : Prop where
  unique : RowsUnique store.records
  owned : ∀ record ∈ store.records, ∃ page ∈ log, page.sourceId = record.sourceId ∧ record.recordKey ∈ page.keys
  recorded : ∀ page ∈ log, ∀ key ∈ page.keys,
    ∃ record ∈ store.records, record.sourceId = page.sourceId ∧ record.recordKey = key
  seen : ∀ record ∈ store.records, ∀ sourceRunId, record.lastSeenRunId = some sourceRunId →
    ¬ Unseen log sourceRunId record.recordKey
  sighted : ∀ record ∈ store.records, ∀ run ∈ store.runs, run.status.active = true → run.sourceId = record.sourceId →
    ¬ Unseen log run.id record.recordKey → record.lastSeenRunId = some run.id
  archived : ∀ record ∈ store.records, ∀ source, store.definitions.get? record.sourceId = some source →
    (record.archivedAt ≠ none ↔ source.missingRecordMode = .archive ∧ Missed log record.sourceId record.recordKey)
  full : ∀ source ∈ store.definitions, source.incremental = true → source.missingRecordMode = .preserve

section Quiet

structure SameProgress (run run' : SourceRun) : Prop where
  id : run'.id = run.id
  sourceId : run'.sourceId = run.sourceId
  pageCount : run'.pageCount = run.pageCount
  received : run'.receivedRecordCount = run.receivedRecordCount
  created : run'.createdRowCount = run.createdRowCount
  updated : run'.updatedRowCount = run.updatedRowCount
  restored : run'.restoredRowCount = run.restoredRowCount
  succeeded : run'.status = .succeeded ↔ run.status = .succeeded
  active : run'.status.active = true → run.status.active = true

theorem SameProgress.refl (run : SourceRun) : SameProgress run run :=
  ⟨rfl, rfl, rfl, rfl, rfl, rfl, rfl, Iff.rfl, fun hactive => hactive⟩

structure RunsKept (ν : Type) [JsRuntime ν] (store store' : SourceStore) : Prop where
  known : ∀ run ∈ store.runs, ∃ run' ∈ store'.runs, SameProgress run run'
  old : ∀ run' ∈ store'.runs, (∃ run ∈ store.runs, SameProgress run run') ∨
    store.runs.get? run'.id = none ∧ ∃ source observedAt, NewRun ν store run' source observedAt

variable {ν : Type} [JsRuntime ν] {store store' : SourceStore} {log : List SourcePage}

theorem Reports.sameProgress {p : SourceRun → Bool} {f : SourceRun → SourceRun} (h : Reports p f) (run : SourceRun) :
    SameProgress run (if p run then f run else run) := by
  split
  · rename_i hp
    have hactive := h.active run hp
    have hsucceeded : (f run).status = .succeeded ↔ run.status = .succeeded := by
      constructor
      · intro hstatus
        exact absurd hstatus (h.unfinished run)
      · intro hstatus
        exact absurd hstatus (active_ne_succeeded hactive)
    have hframe := h.frame run
    constructor
    · exact h.keepsKey.key run
    · exact h.sourceId run
    · rw [hframe]
    · rw [hframe]
    · rw [hframe]
    · rw [hframe]
    · rw [hframe]
    · exact hsucceeded
    · intro _
      exact hactive
  · exact SameProgress.refl run

theorem QuietChange.runsKept (h : QuietChange ν store store') : RunsKept ν store store' := by
  have hsame : RunsKept ν store store := by
    constructor
    · intro run hrun
      exact ⟨run, hrun, SameProgress.refl run⟩
    · intro run hrun
      exact Or.inl ⟨run, hrun, SameProgress.refl run⟩
  cases h with
  | defined _ _ _ _ _ _ => exact ⟨hsame.known, hsame.old⟩
  | redefined _ _ _ _ _ _ => exact ⟨hsame.known, hsame.old⟩
  | queued run source observedAt runs hnew hinsert =>
    constructor
    · intro other hother
      exact ⟨other, (Table.mem_insert hinsert).mpr (Or.inl hother), SameProgress.refl other⟩
    · intro other hother
      rcases (Table.mem_insert hinsert).mp hother with hold | rfl
      · exact Or.inl ⟨other, hold, SameProgress.refl other⟩
      · exact Or.inr ⟨(Table.insert_eq_some hinsert).2, source, observedAt, hnew⟩
  | reported p f hreports =>
    constructor
    · intro run hrun
      exact ⟨_, (Table.mem_modify hreports.keepsKey).mpr ⟨run, hrun, rfl⟩, hreports.sameProgress run⟩
    · intro run' hrun'
      obtain ⟨run, hrun, rfl⟩ := (Table.mem_modify hreports.keepsKey).mp hrun'
      exact Or.inl ⟨run, hrun, hreports.sameProgress run⟩

theorem QuietChange.records (h : QuietChange ν store store') : store'.records = store.records := by
  cases h <;> rfl

theorem RunsAgree.unseen_fresh (h : RunsAgree ν store log) {sourceRunId : String}
    (hfresh : store.runs.get? sourceRunId = none) {page : SourcePage} (hpage : page ∈ log) :
    page.sourceRunId ≠ sourceRunId := by
  intro hid
  obtain ⟨run, hrun, hrun_id, _⟩ := h.known page hpage
  exact Table.get?_eq_none.mp hfresh run hrun (hrun_id.trans hid)

theorem RunsAgree.quiet (h : RunsAgree ν store log) (hchange : QuietChange ν store store') :
    RunsAgree ν store' log := by
  have hkept := hchange.runsKept
  have hwindows := h.windows.quiet hchange.quiet
  constructor
  · exact hwindows
  · intro page hpage
    obtain ⟨run, hrun, hid, hsource⟩ := h.known page hpage
    obtain ⟨run', hrun', hsame⟩ := hkept.known run hrun
    exact ⟨run', hrun', hsame.id.trans hid, hsame.sourceId.trans hsource⟩
  · intro run' hrun'
    rcases hkept.old run' hrun' with ⟨run, hrun, hsame⟩ | ⟨hfresh, _, _, hnew⟩
    · rw [hsame.id, hsame.pageCount]
      exact h.pages run hrun
    · have hnone : runPages log run'.id = [] := by
        apply List.filter_eq_nil_iff.mpr
        intro page hpage
        rw [decide_eq_true_eq]
        exact h.unseen_fresh hfresh hpage
      rw [hnone, hnew.pageCount]
      rfl
  · intro run' hrun'
    rcases hkept.old run' hrun' with ⟨run, hrun, hsame⟩ | ⟨_, _, _, hnew⟩
    · rw [hsame.received, hsame.created, hsame.updated]
      exact h.received run hrun
    · rw [hnew.received, hnew.created, hnew.updated]
  · intro run' hrun'
    rcases hkept.old run' hrun' with ⟨run, hrun, hsame⟩ | ⟨_, _, _, hnew⟩
    · rw [hsame.restored, hsame.updated]
      exact h.restored run hrun
    · rw [hnew.restored, hnew.updated]
  · intro run' hrun' source' hsource'
    rcases hkept.old run' hrun' with ⟨run, hrun, hsame⟩ | ⟨_, _, _, hnew⟩
    · obtain ⟨source, hsource⟩ := h.windows.defined run hrun
      obtain ⟨after, hafter, hkeeps, _⟩ := hchange.keepsWindows.definition _ _ hsource
      rw [hsame.sourceId, hafter, Option.some.injEq] at hsource'
      rw [hsame.received, ← hsource', hkeeps.maxRecords]
      exact h.limit run hrun source hsource
    · rw [hnew.received]
      exact Nat.zero_le _
  · intro run' hrun'
    rcases hkept.old run' hrun' with ⟨run, hrun, hsame⟩ | ⟨hfresh, _, _, hnew⟩
    · rw [hsame.id, hsame.succeeded]
      exact h.succeeded run hrun
    · constructor
      · intro hstatus
        rw [hnew.status] at hstatus
        cases hstatus
      · intro hpage
        obtain ⟨page, hmem, hid, _⟩ := hpage
        exact absurd hid (h.unseen_fresh hfresh hmem)

theorem QuietChange.full (h : QuietChange ν store store')
    (hfull : ∀ source ∈ store.definitions, source.incremental = true → source.missingRecordMode = .preserve) :
    ∀ source ∈ store'.definitions, source.incremental = true → source.missingRecordMode = .preserve := by
  cases h with
  | defined definition definitions hinsert _ _ hdefinition =>
    intro source hsource
    rcases (Table.mem_insert hinsert).mp hsource with hold | rfl
    · exact hfull source hold
    · exact hdefinition
  | redefined sourceId f hf hsame _ _ =>
    intro source' hsource' hincremental
    obtain ⟨source, hsource, rfl⟩ := (Table.mem_modify hf).mp hsource'
    have hkept := @redefineSource_same sourceId f hsame source
    simp only [decide_eq_true_eq] at hincremental ⊢
    rw [show (if source.id = sourceId then f source else source) = redefineSource sourceId f source from rfl] at *
    rw [hkept.missingRecordMode]
    rw [hkept.incremental] at hincremental
    exact hfull source hsource hincremental
  | queued _ _ _ _ _ _ => exact hfull
  | reported _ _ _ => exact hfull

theorem RecordsAgree.quiet (h : RecordsAgree store log) (hruns : RunsAgree ν store log)
    (hchange : QuietChange ν store store') : RecordsAgree store' log := by
  have hkept := hchange.runsKept
  have hrecords := hchange.records
  constructor
  · rw [hrecords]
    exact h.unique
  · rw [hrecords]
    exact h.owned
  · rw [hrecords]
    exact h.recorded
  · rw [hrecords]
    exact h.seen
  · intro record hrecord run' hrun' hactive hsource hseen
    rw [hrecords] at hrecord
    rcases hkept.old run' hrun' with ⟨run, hrun, hsame⟩ | ⟨hfresh, _, _, _⟩
    · rw [hsame.id] at hseen ⊢
      exact h.sighted record hrecord run hrun (hsame.active hactive) (hsame.sourceId ▸ hsource) hseen
    · refine absurd ?_ hseen
      intro page hpage hid
      exact absurd hid (hruns.unseen_fresh hfresh hpage)
  · intro record hrecord source' hsource'
    rw [hrecords] at hrecord
    obtain ⟨page, hpage, hpage_source, _⟩ := h.owned record hrecord
    obtain ⟨run, hrun, _, hrun_source⟩ := hruns.known page hpage
    obtain ⟨source, hsource⟩ := hruns.windows.defined run hrun
    rw [hrun_source, hpage_source] at hsource
    obtain ⟨after, hafter, hsame, _⟩ := hchange.keepsWindows.definition _ _ hsource
    rw [hafter, Option.some.injEq] at hsource'
    rw [← hsource', hsame.missingRecordMode]
    exact h.archived record hrecord source hsource
  · exact hchange.full h.full

end Quiet

section Missed

variable {log : List SourcePage} {input : SourcePage} {sourceId sourceRunId key : String}

theorem unseen_append : Unseen (log ++ [input]) sourceRunId key ↔
    Unseen log sourceRunId key ∧ (input.sourceRunId = sourceRunId → key ∉ input.keys) := by
  simp [Unseen, or_imp, forall_and]

theorem missed_append : Missed (log ++ [input]) sourceId key ↔
    Missed log sourceId key ∧ (input.sourceId = sourceId → key ∉ input.keys) ∨
      input.sourceId = sourceId ∧ input.completed = true ∧ Unseen (log ++ [input]) input.sourceRunId key := by
  constructor
  · intro hmissed
    obtain ⟨before, page, after, hlog, hsource, hcompleted, hunseen, hlater⟩ := hmissed
    rcases List.eq_nil_or_concat after with rfl | ⟨front, last, rfl⟩
    · obtain ⟨hbefore, hpage⟩ := List.append_inj' hlog rfl
      rw [List.singleton_inj] at hpage
      subst hbefore hpage
      exact Or.inr ⟨hsource, hcompleted, hunseen⟩
    · rw [List.concat_eq_append] at hlog hlater
      rw [← List.cons_append, ← List.append_assoc] at hlog
      obtain ⟨hfront, hlast⟩ := List.append_inj' hlog rfl
      rw [List.singleton_inj] at hlast
      subst hlast
      left
      constructor
      · refine ⟨before, page, front, hfront, hsource, hcompleted, hunseen, ?_⟩
        intro later hmem
        exact hlater later (List.mem_append_left _ hmem)
      · exact hlater input (List.mem_append_right _ (List.mem_singleton.mpr rfl))
  · intro hmissed
    rcases hmissed with ⟨⟨before, page, after, rfl, hsource, hcompleted, hunseen, hlater⟩, hinput⟩ |
      ⟨hsource, hcompleted, hunseen⟩
    · refine ⟨before, page, after ++ [input], by simp, hsource, hcompleted, hunseen, ?_⟩
      intro later hmem
      rcases List.mem_append.mp hmem with hmem | hmem
      · exact hlater later hmem
      · rw [List.mem_singleton.mp hmem]
        exact hinput
    · exact ⟨log, input, [], rfl, hsource, hcompleted, hunseen, nofun⟩

end Missed

section Apply

variable {ν : Type} [JsRuntime ν] {workspace workspace' : SourceWorkspace ν} {input : SourcePage} {run : SourceRun}
  {source : SourceDefinition} {counts : PageCounts} {mapping : List SourceField} {log : List SourcePage}

theorem PageApplied.run_id (h : PageApplied workspace input run source counts mapping workspace') :
    run.id = input.sourceRunId :=
  (Table.get?_eq_some.mp h.found).2

theorem PageApplied.run_mem (h : PageApplied workspace input run source counts mapping workspace') :
    run ∈ workspace.sources.runs :=
  (Table.get?_eq_some.mp h.found).1

theorem runPages_append_other {sourceRunId : String} (h : input.sourceRunId ≠ sourceRunId) :
    runPages (log ++ [input]) sourceRunId = runPages log sourceRunId := by
  unfold runPages
  rw [List.filter_append, List.filter_cons_of_neg, List.filter_nil, List.append_nil]
  rw [decide_eq_true_eq]
  exact h

theorem PageApplied.other_run (h : PageApplied workspace input run source counts mapping workspace')
    {after : SourceRun} (hafter : after ∈ workspace.sources.runs) (hne : after ≠ run) :
    input.sourceRunId ≠ after.id := by
  intro hid
  exact hne (Table.eq_of_key hafter h.run_mem (hid.symm.trans h.run_id.symm))

theorem PageApplied.runsAgree (h : PageApplied workspace input run source counts mapping workspace')
    (hruns : RunsAgree ν workspace.sources log) (htally : PageTally input counts) :
    RunsAgree ν workspace'.sources (log ++ [input]) := by
  have hreceived := hruns.received run h.run_mem
  have hrestored := hruns.restored run h.run_mem
  constructor
  · exact h.windowInvariant hruns.windows
  · intro page hpage
    rcases List.mem_append.mp hpage with hpage | hpage
    · obtain ⟨other, hother, hid, hsource⟩ := hruns.known page hpage
      by_cases hrun : other = run
      · refine ⟨advanceSourceRun input counts run, h.mem_runs.mpr (Or.inl rfl), ?_, ?_⟩
        · rw [← hid, hrun]
          rfl
        · rw [← hsource, hrun]
          rfl
      · exact ⟨other, h.mem_runs.mpr (Or.inr ⟨hother, hrun⟩), hid, hsource⟩
    · rw [List.mem_singleton.mp hpage]
      exact ⟨advanceSourceRun input counts run, h.mem_runs.mpr (Or.inl rfl), h.run_id, h.sourceId⟩
  · intro after hafter
    rcases h.mem_runs.mp hafter with rfl | ⟨hother, hne⟩
    · have hcount : input.expectedPage.toNat = run.pageCount + 1 := by
        have := h.page
        omega
      show (runPages (log ++ [input]) run.id).map SourcePage.expectedPage =
        (List.range input.expectedPage.toNat).map fun page : Nat => (page : Int) + 1
      have hlast : runPages (log ++ [input]) run.id = runPages log run.id ++ [input] := by
        unfold runPages
        rw [List.filter_append, List.filter_cons_of_pos, List.filter_nil]
        rw [decide_eq_true_eq]
        exact h.run_id.symm
      rw [hlast, List.map_append, hruns.pages run h.run_mem, hcount, List.range_succ, List.map_append,
        List.map_singleton, List.map_singleton, h.page]
    · rw [runPages_append_other (h.other_run hother hne)]
      exact hruns.pages after hother
  · intro after hafter
    rcases h.mem_runs.mp hafter with rfl | ⟨hother, _⟩
    · show run.receivedRecordCount + counts.received =
        run.createdRowCount + counts.created + (run.updatedRowCount + counts.received - counts.created)
      have := htally.created
      omega
    · exact hruns.received after hother
  · intro after hafter
    rcases h.mem_runs.mp hafter with rfl | ⟨hother, _⟩
    · show run.restoredRowCount + counts.restored ≤ run.updatedRowCount + counts.received - counts.created
      have := htally.created
      have := htally.restored
      omega
    · exact hruns.restored after hother
  · intro after hafter definition hdefinition
    obtain ⟨before, hbefore, hid, hsame⟩ := h.same hdefinition
    rw [hsame.maxRecords]
    rcases h.mem_runs.mp hafter with rfl | ⟨hother, _⟩
    · have hsource : before = source := by
        have hdefined := h.defined
        rw [← h.sourceId, show run.sourceId = before.id from hid.symm, hbefore, Option.some.injEq] at hdefined
        exact hdefined
      show run.receivedRecordCount + counts.received ≤ before.maxRecords
      rw [htally.received, hsource]
      exact h.limit
    · exact hruns.limit after hother before (hid ▸ hbefore)
  · intro after hafter
    rcases h.mem_runs.mp hafter with rfl | ⟨hother, hne⟩
    · show (if input.completed then SourceRunStatus.succeeded else .running) = .succeeded ↔ _
      have hlog : ∀ page ∈ log, ¬ (page.sourceRunId = run.id ∧ page.completed = true) := by
        intro page hpage hboth
        have hsucceeded := (hruns.succeeded run h.run_mem).mpr ⟨page, hpage, hboth⟩
        rw [h.running] at hsucceeded
        cases hsucceeded
      constructor
      · intro hstatus
        split at hstatus
        · exact ⟨input, List.mem_append_right _ (List.mem_singleton.mpr rfl), h.run_id.symm, ‹_›⟩
        · cases hstatus
      · intro hpage
        obtain ⟨page, hmem, hboth⟩ := hpage
        rcases List.mem_append.mp hmem with hmem | hmem
        · exact absurd hboth (hlog page hmem)
        · rw [List.mem_singleton.mp hmem] at hboth
          rw [if_pos hboth.2]
    · rw [hruns.succeeded after hother]
      constructor
      · intro hpage
        obtain ⟨page, hmem, hboth⟩ := hpage
        exact ⟨page, List.mem_append_left _ hmem, hboth⟩
      · intro hpage
        obtain ⟨page, hmem, hboth⟩ := hpage
        rcases List.mem_append.mp hmem with hmem | hmem
        · exact ⟨page, hmem, hboth⟩
        · rw [List.mem_singleton.mp hmem] at hboth
          exact absurd hboth.1 (h.other_run hother hne)

theorem PageApplied.unseen_other (h : PageApplied workspace input run source counts mapping workspace')
    {after : SourceRun} (hafter : after ∈ workspace.sources.runs) (hne : after ≠ run) {key : String} :
    Unseen (log ++ [input]) after.id key ↔ Unseen log after.id key := by
  rw [unseen_append]
  constructor
  · intro hboth
    exact hboth.1
  · intro hunseen
    exact ⟨hunseen, fun hid => absurd hid (h.other_run hafter hne)⟩

theorem pageIdentity_eq_false {record : SourceRecord} (hkey : record.recordKey ∉ input.keys) : pageIdentity input record = false := by
  rw [Bool.eq_false_iff]
  intro hpage
  exact hkey (pageIdentity_iff.mp hpage).2

theorem pageIdentity_other {record : SourceRecord} (hsource : record.sourceId ≠ input.sourceId) :
    pageIdentity input record = false := by
  rw [Bool.eq_false_iff]
  intro hpage
  exact hsource (pageIdentity_iff.mp hpage).1

theorem not_missed_page {key : String} (hkey : key ∈ input.keys) : ¬ Missed (log ++ [input]) input.sourceId key := by
  intro hmissed
  rcases missed_append.mp hmissed with hbefore | ⟨_, _, hunseen⟩
  · exact hbefore.2 rfl hkey
  · exact hunseen input (List.mem_append_right _ (List.mem_singleton.mpr rfl)) rfl hkey

theorem missed_append_other {sourceId key : String} (h : input.sourceId ≠ sourceId) :
    Missed (log ++ [input]) sourceId key ↔ Missed log sourceId key := by
  rw [missed_append]
  constructor
  · intro hmissed
    rcases hmissed with hbefore | hlast
    · exact hbefore.1
    · exact absurd hlast.1 h
  · intro hmissed
    exact Or.inl ⟨hmissed, fun hsource => absurd hsource h⟩

theorem PageApplied.archived_iff (h : PageApplied workspace input run source counts mapping workspace')
    (hagree : RecordsAgree workspace.sources log) {record : SourceRecord}
    (hrecord : record ∈ workspace.sources.records) {before : SourceDefinition}
    (hbefore : workspace.sources.definitions.get? record.sourceId = some before) :
    (recordAfter input source.missingRecordMode record).archivedAt ≠ none ↔
      before.missingRecordMode = .archive ∧ Missed (log ++ [input]) record.sourceId record.recordKey := by
  have harchived := hagree.archived record hrecord before hbefore
  by_cases hsource : record.sourceId = input.sourceId
  · have hmode : before = source := by
      have hdefined := h.defined
      rw [← hsource, hbefore, Option.some.injEq] at hdefined
      exact hdefined
    subst hmode
    by_cases hkey : record.recordKey ∈ input.keys
    · have hafter := recordAfter_page before.missingRecordMode (pageIdentity_iff.mpr ⟨hsource, hkey⟩)
      have hnot : ¬ Missed (log ++ [input]) input.sourceId _ := not_missed_page hkey
      rw [hafter.2, hsource]
      simp [hnot]
    · -- the sweep archives the identity when no page of the run has had its key
      have hseen : record.lastSeenRunId = some input.sourceRunId ↔
          ¬ Unseen (log ++ [input]) input.sourceRunId record.recordKey := by
        rw [unseen_append]
        constructor
        · intro hlast hunseen
          exact hagree.seen record hrecord _ hlast hunseen.1
        · intro hsome
          rw [← h.run_id]
          apply hagree.sighted record hrecord run h.run_mem h.run_active (h.sourceId.trans hsource.symm)
          intro hunseen
          rw [h.run_id] at hunseen
          exact hsome ⟨hunseen, fun _ => hkey⟩
      rw [recordAfter_other _ (pageIdentity_eq_false hkey), sweptRecord_archived, harchived, missed_append, ne_eq,
        hseen, not_not]
      constructor
      · intro hcases
        rcases hcases with hmissed | ⟨hcompleted, hmode, _, hunseen⟩
        · exact ⟨hmissed.1, Or.inl ⟨hmissed.2, fun _ => hkey⟩⟩
        · exact ⟨hmode, Or.inr ⟨hsource.symm, hcompleted, hunseen⟩⟩
      · intro hcases
        obtain ⟨hmode, hmissed | ⟨_, hcompleted, hunseen⟩⟩ := hcases
        · exact Or.inl ⟨hmode, hmissed.1⟩
        · exact Or.inr ⟨hcompleted, hmode, hsource, hunseen⟩
  · rw [recordAfter_other _ (pageIdentity_other hsource), sweptRecord_archived, harchived,
      missed_append_other (Ne.symm hsource)]
    simp [hsource]

theorem PageApplied.recordsAgree (h : PageApplied workspace input run source counts mapping workspace')
    (hruns : RunsAgree ν workspace.sources log) (hagree : RecordsAgree workspace.sources log)
    (happlied : RecordsApplied input source.missingRecordMode workspace.sources.records workspace'.sources.records) :
    RecordsAgree workspace'.sources (log ++ [input]) := by
  have hkeeps := recordAfter_keeps input source.missingRecordMode
  have hlast : input ∈ log ++ [input] := List.mem_append_right _ (List.mem_singleton.mpr rfl)
  constructor
  · exact happlied.unique
  · intro record' hrecord'
    rcases happlied.new record' hrecord' with ⟨record, hrecord, rfl⟩ | ⟨key, hkey, rowId, rfl, _⟩
    · obtain ⟨page, hpage, hsource, hkey⟩ := hagree.owned record hrecord
      refine ⟨page, List.mem_append_left _ hpage, ?_, ?_⟩
      · rw [hkeeps.sourceId]
        exact hsource
      · rw [hkeeps.recordKey]
        exact hkey
    · exact ⟨input, hlast, rfl, hkey⟩
  · intro page hpage key hkey
    rcases List.mem_append.mp hpage with hpage | hpage
    · obtain ⟨record, hrecord, hsource, hrecord_key⟩ := hagree.recorded page hpage key hkey
      refine ⟨_, happlied.old record hrecord, ?_, ?_⟩
      · rw [hkeeps.sourceId]
        exact hsource
      · rw [hkeeps.recordKey]
        exact hrecord_key
    · rw [List.mem_singleton.mp hpage] at hkey ⊢
      exact happlied.all key hkey
  · intro record' hrecord' sourceRunId hseen hunseen
    rw [unseen_append] at hunseen
    rcases happlied.new record' hrecord' with ⟨record, hrecord, rfl⟩ | ⟨key, hkey, rowId, rfl, _⟩
    · rw [hkeeps.recordKey] at hunseen
      by_cases hpage : pageIdentity input record = true
      · rw [(recordAfter_page _ hpage).1, Option.some.injEq] at hseen
        exact hunseen.2 hseen (pageIdentity_iff.mp hpage).2
      · rw [recordAfter_other _ (Bool.eq_false_iff.mpr hpage), sweptRecord_lastSeen] at hseen
        exact hagree.seen record hrecord sourceRunId hseen hunseen.1
    · exact hunseen.2 (Option.some.inj hseen) hkey
  · intro record' hrecord' after hafter hactive hsource hseen
    rcases h.mem_runs.mp hafter with rfl | ⟨hother, hne⟩
    · show record'.lastSeenRunId = some run.id
      have hseen : ¬ Unseen (log ++ [input]) run.id record'.recordKey := hseen
      rcases happlied.new record' hrecord' with ⟨record, hrecord, rfl⟩ | ⟨key, hkey, rowId, rfl, _⟩
      · rw [hkeeps.recordKey] at hseen
        have hsource : run.sourceId = record.sourceId := hsource.trans (hkeeps.sourceId record)
        by_cases hpage : pageIdentity input record = true
        · rw [(recordAfter_page _ hpage).1, h.run_id]
        · have hother := recordAfter_other source.missingRecordMode (Bool.eq_false_iff.mpr hpage)
          rw [hother, sweptRecord_lastSeen]
          apply hagree.sighted record hrecord run h.run_mem h.run_active hsource
          intro hunseen
          apply hseen
          rw [unseen_append]
          refine ⟨hunseen, fun _ hkey => hpage ?_⟩
          exact pageIdentity_iff.mpr ⟨hsource.symm.trans h.sourceId, hkey⟩
      · rw [h.run_id]
        rfl
    · have hapart : after.sourceId ≠ input.sourceId := by
        intro hsame
        exact hne (hruns.windows.one_active hother h.run_mem ⟨hsame.trans h.sourceId.symm, hactive, h.run_active⟩)
      rw [h.unseen_other hother hne] at hseen
      rcases happlied.new record' hrecord' with ⟨record, hrecord, rfl⟩ | ⟨key, hkey, rowId, rfl, _⟩
      · rw [hkeeps.recordKey] at hseen
        rw [hkeeps.sourceId] at hsource
        have hpage : pageIdentity input record = false := pageIdentity_other (hsource ▸ hapart)
        rw [recordAfter_other _ hpage, sweptRecord_lastSeen]
        exact hagree.sighted record hrecord after hother hactive hsource hseen
      · exact absurd hsource hapart
  · intro record' hrecord' definition hdefinition
    obtain ⟨before, hbefore, hid, hsame⟩ := h.same hdefinition
    rw [hsame.missingRecordMode]
    rcases happlied.new record' hrecord' with ⟨record, hrecord, rfl⟩ | ⟨key, hkey, rowId, rfl, _⟩
    · rw [hkeeps.recordKey, hkeeps.sourceId]
      rw [hkeeps.sourceId] at hid
      exact h.archived_iff hagree hrecord (hid ▸ hbefore)
    · have hnot : ¬ Missed (log ++ [input]) input.sourceId _ := not_missed_page hkey
      show (none : Option Int) ≠ none ↔ before.missingRecordMode = .archive ∧ Missed (log ++ [input]) input.sourceId key
      simp [hnot]
  · intro definition hdefinition hincremental
    obtain ⟨before, hbefore, _, hsame⟩ := h.same (Table.get?_of_mem hdefinition)
    rw [hsame.missingRecordMode]
    rw [hsame.incremental] at hincremental
    exact hagree.full before (Table.get?_eq_some.mp hbefore).1 hincremental

end Apply

section Runs

variable {ν : Type} [JsRuntime ν]

theorem QuietChange.pageCountOf {store store' : SourceStore} (h : QuietChange ν store store') (sourceRunId : String) :
    pageCountOf store' sourceRunId = pageCountOf store sourceRunId := by
  have hkept := h.runsKept
  unfold ByokGrid.pageCountOf
  cases hget' : store'.runs.get? sourceRunId with
  | none =>
    cases hget : store.runs.get? sourceRunId with
    | none => rfl
    | some run =>
      obtain ⟨hrun, hid⟩ := Table.get?_eq_some.mp hget
      obtain ⟨run', hrun', hsame⟩ := hkept.known run hrun
      exact absurd (hsame.id.trans hid) (Table.get?_eq_none.mp hget' run' hrun')
  | some run' =>
    obtain ⟨hrun', hid⟩ := Table.get?_eq_some.mp hget'
    rcases hkept.old run' hrun' with ⟨run, hrun, hsame⟩ | ⟨hfresh, _, _, hnew⟩
    · have hget : store.runs.get? sourceRunId = some run := by
        rw [← hid]
        exact Table.get?_eq_some.mpr ⟨hrun, hsame.id.symm⟩
      rw [hget]
      exact hsame.pageCount
    · rw [show run'.id = sourceRunId from hid] at hfresh
      rw [hfresh]
      exact hnew.pageCount

theorem Quiet.pageCountOf {store store' : SourceStore} (h : Quiet ν store store') (sourceRunId : String) :
    pageCountOf store' sourceRunId = pageCountOf store sourceRunId := by
  induction h with
  | refl => rfl
  | tail _ hchange ih => exact (hchange.pageCountOf sourceRunId).trans ih

theorem appliedPages_of_quiet {workspace : SourceWorkspace ν} {action : SourceAction ν}
    (h : Quiet ν workspace.sources (workspace.step action).sources) : appliedPages workspace action = [] := by
  cases action with
  | applyPage input => exact if_pos (h.pageCountOf input.sourceRunId)
  | _ => rfl

theorem PageApplied.appliedPages {workspace : SourceWorkspace ν} {input : SourcePage} {run : SourceRun}
    {source : SourceDefinition} {counts : PageCounts} {mapping : List SourceField}
    (h : PageApplied workspace input run source counts mapping (workspace.step (.applyPage input))) :
    appliedPages workspace (.applyPage input) = [input] := by
  apply if_neg
  have hafter : (workspace.step (.applyPage input)).sources.runs.get? input.sourceRunId =
      some (advanceSourceRun input counts run) := by
    rw [h.runs, Table.get?_modify, h.found, Option.map_some, if_pos h.checkpointed]
  have hcount : pageCountOf (workspace.step (.applyPage input)).sources input.sourceRunId =
      input.expectedPage.toNat := by
    rw [pageCountOf, hafter]
    rfl
  have hbefore : pageCountOf workspace.sources input.sourceRunId = run.pageCount := by
    rw [pageCountOf, h.found]
    rfl
  have hpage := h.page
  rw [hcount, hbefore]
  omega

structure SourceWorkspace.LogHolds (workspace : SourceWorkspace ν) (log : List SourcePage) : Prop where
  runs : RunsAgree ν workspace.sources log
  records : RecordsAgree workspace.sources log

theorem SourceWorkspace.LogHolds.quiet {workspace : SourceWorkspace ν} {log : List SourcePage}
    (h : workspace.LogHolds log) {store : SourceStore} (hquiet : Quiet ν workspace.sources store) :
    RunsAgree ν store log ∧ RecordsAgree store log := by
  induction hquiet with
  | refl => exact ⟨h.runs, h.records⟩
  | tail _ hchange ih => exact ⟨ih.1.quiet hchange, ih.2.quiet ih.1 hchange⟩

theorem PageApplied.records {workspace workspace' : SourceWorkspace ν} {input : SourcePage} {run : SourceRun}
    {source : SourceDefinition} {counts : PageCounts} {mapping : List SourceField}
    (h : PageApplied workspace input run source counts mapping workspace')
    (hunique : RowsUnique workspace.sources.records) :
    RecordsApplied input source.missingRecordMode workspace.sources.records workspace'.sources.records ∧
      RowsRestored input workspace.sources.records workspace.db.grid.rows workspace'.db.grid.rows ∧
        PageTally input counts := by
  obtain ⟨db, happlied, hdb⟩ := h.applied
  have hgrid : workspace'.db.grid = db.grid := by
    rw [hdb]
  rw [hgrid]
  exact applyPageRecords_eq_ok hunique happlied

theorem step_logHolds (workspace : SourceWorkspace ν) (action : SourceAction ν) (log : List SourcePage)
    (h : workspace.LogHolds log) : (workspace.step action).LogHolds (log ++ appliedPages workspace action) := by
  rcases step_sources workspace action with hquiet | ⟨input, run, source, counts, mapping, rfl, happlied⟩
  · rw [appliedPages_of_quiet hquiet, List.append_nil]
    obtain ⟨hruns, hrecords⟩ := h.quiet hquiet
    exact ⟨hruns, hrecords⟩
  · obtain ⟨hrecords, _, htally⟩ := happlied.records h.records.unique
    rw [happlied.appliedPages]
    constructor
    · exact happlied.runsAgree h.runs htally
    · exact happlied.recordsAgree h.runs h.records hrecords

theorem initial_logHolds (db : Database ν) : (SourceWorkspace.initial db).LogHolds [] := by
  constructor
  · constructor
    · exact initial_windowsHold db
    · exact nofun
    · exact fun _ hrun => absurd hrun Table.not_mem_empty
    · exact fun _ hrun => absurd hrun Table.not_mem_empty
    · exact fun _ hrun => absurd hrun Table.not_mem_empty
    · exact fun _ hrun => absurd hrun Table.not_mem_empty
    · exact fun _ hrun => absurd hrun Table.not_mem_empty
  · constructor
    · exact fun _ hrecord => absurd hrecord Table.not_mem_empty
    · exact fun _ hrecord => absurd hrecord Table.not_mem_empty
    · exact nofun
    · exact fun _ hrecord => absurd hrecord Table.not_mem_empty
    · exact fun _ hrecord => absurd hrecord Table.not_mem_empty
    · exact fun _ hrecord => absurd hrecord Table.not_mem_empty
    · exact fun _ hsource => absurd hsource Table.not_mem_empty

theorem logHolds_run (db : Database ν) (actions : List (SourceAction ν)) :
    ((SourceWorkspace.initial db).run actions).LogHolds ((SourceWorkspace.initial db).pageLog actions) :=
  runOutputs_invariant step_logHolds (initial_logHolds db) actions

def SameIdentity (record record' : SourceRecord) : Prop :=
  record'.sourceId = record.sourceId ∧ record'.recordKey = record.recordKey ∧ record'.rowId = record.rowId

theorem step_sameIdentity {workspace : SourceWorkspace ν} {log : List SourcePage} (h : workspace.LogHolds log)
    (action : SourceAction ν) {record : SourceRecord} (hrecord : record ∈ workspace.sources.records) :
    ∃ record' ∈ (workspace.step action).sources.records, SameIdentity record record' := by
  rcases step_sources workspace action with hquiet | ⟨input, run, source, counts, mapping, rfl, happlied⟩
  · have hrecords : ∀ store, Quiet ν workspace.sources store → store.records = workspace.sources.records := by
      intro store hquiet
      induction hquiet with
      | refl => rfl
      | tail _ hchange ih => exact hchange.records.trans ih
    refine ⟨record, ?_, rfl, rfl, rfl⟩
    rw [hrecords _ hquiet]
    exact hrecord
  · obtain ⟨hrecords, _, _⟩ := happlied.records h.records.unique
    have hkeeps := recordAfter_keeps input source.missingRecordMode
    exact ⟨_, hrecords.old record hrecord, hkeeps.sourceId record, hkeeps.recordKey record, hkeeps.rowId record⟩

theorem step_replayed {workspace : SourceWorkspace ν} {input : SourcePage}
    (h : appliedPages workspace (.applyPage input) = []) : workspace.step (.applyPage input) = workspace := by
  cases hok : applySqliteSourceRunPage workspace input with
  | error _ =>
    rw [SourceWorkspace.step, hok]
    rfl
  | ok workspace' =>
    rcases applyPage_eq_ok hok with hsame | ⟨run, source, counts, mapping, happlied⟩
    · rw [SourceWorkspace.step, hok]
      exact hsame
    · have hstep : workspace.step (.applyPage input) = workspace' := by
        rw [SourceWorkspace.step, hok]
        rfl
      rw [← hstep] at happlied
      rw [happlied.appliedPages] at h
      cases h

theorem step_restored {workspace : SourceWorkspace ν} {log : List SourcePage} (h : workspace.LogHolds log)
    {input : SourcePage} (happly : appliedPages workspace (.applyPage input) = [input]) {record : SourceRecord}
    (hrecord : record ∈ workspace.sources.records) (hpage : pageIdentity input record = true)
    (harchived : record.archivedAt ≠ none) :
    (∃ record' ∈ (workspace.step (.applyPage input)).sources.records, SameIdentity record record' ∧
        record'.archivedAt = none) ∧
      ∀ row, workspace.db.grid.rows.get? record.rowId = some row → row.tableId = input.tableId →
        ∃ row', (workspace.step (.applyPage input)).db.grid.rows.get? record.rowId = some row' ∧
          row'.archivedAt = none := by
  rcases step_sources workspace (.applyPage input) with hquiet | ⟨page, run, source, counts, mapping, heq, happlied⟩
  · rw [appliedPages_of_quiet hquiet] at happly
    cases happly
  · cases heq
    obtain ⟨hrecords, hrows, _⟩ := happlied.records h.records.unique
    have hkeeps := recordAfter_keeps input source.missingRecordMode
    constructor
    · exact ⟨_, hrecords.old record hrecord,
        ⟨hkeeps.sourceId record, hkeeps.recordKey record, hkeeps.rowId record⟩, (recordAfter_page _ hpage).2⟩
    · apply hrows record hrecord
      rw [restorable, hpage, Bool.true_and, Option.isSome_iff_ne_none]
      exact harchived

/-- What any sequence of transactions promises of the runs of the sources: their
pages come in order and once each, the counters and the end of a run tell its
pages, and an identity is in use unless a completed run in archive mode missed it. -/
structure PageContract (workspace : SourceWorkspace ν) (actions : List (SourceAction ν)) : Prop where
  ordered : ∀ earlier later, actions = earlier ++ later → ∀ run ∈ (workspace.run earlier).sources.runs,
    (runPages (workspace.pageLog earlier) run.id).map SourcePage.expectedPage =
      (List.range run.pageCount).map fun page : Nat => (page : Int) + 1
  replayed : ∀ earlier input later, actions = earlier ++ .applyPage input :: later →
    appliedPages (workspace.run earlier) (.applyPage input) = [] →
      (workspace.run earlier).step (.applyPage input) = workspace.run earlier
  counted : ∀ earlier later, actions = earlier ++ later → ∀ run ∈ (workspace.run earlier).sources.runs,
    run.receivedRecordCount = run.createdRowCount + run.updatedRowCount ∧
      run.restoredRowCount ≤ run.updatedRowCount ∧
        ∃ source ∈ (workspace.run earlier).sources.definitions, source.id = run.sourceId ∧
          run.receivedRecordCount ≤ source.maxRecords
  succeeded : ∀ earlier later, actions = earlier ++ later → ∀ run ∈ (workspace.run earlier).sources.runs,
    run.status = .succeeded ↔
      ∃ page ∈ workspace.pageLog earlier, page.sourceRunId = run.id ∧ page.nextCursorEncrypted = none
  oneToOne : ∀ earlier later, actions = earlier ++ later → ∀ a ∈ (workspace.run earlier).sources.records,
    ∀ b ∈ (workspace.run earlier).sources.records, a.sourceId = b.sourceId →
      (a.recordKey = b.recordKey ↔ a.rowId = b.rowId)
  recorded : ∀ earlier later, actions = earlier ++ later → ∀ sourceId key,
    (∃ record ∈ (workspace.run earlier).sources.records, record.sourceId = sourceId ∧ record.recordKey = key) ↔
      ∃ page ∈ workspace.pageLog earlier, page.sourceId = sourceId ∧ key ∈ page.keys
  kept : ∀ earlier action later, actions = earlier ++ action :: later →
    ∀ record ∈ (workspace.run earlier).sources.records,
      ∃ record' ∈ ((workspace.run earlier).step action).sources.records, SameIdentity record record'
  archived : ∀ earlier later, actions = earlier ++ later → ∀ record ∈ (workspace.run earlier).sources.records,
    ∃ source ∈ (workspace.run earlier).sources.definitions, source.id = record.sourceId ∧
      (source.incremental = true → source.missingRecordMode = .preserve) ∧
        (record.archivedAt ≠ none ↔ source.missingRecordMode = .archive ∧
          Missed (workspace.pageLog earlier) record.sourceId record.recordKey)
  restored : ∀ earlier input later, actions = earlier ++ .applyPage input :: later →
    appliedPages (workspace.run earlier) (.applyPage input) = [input] →
      ∀ record ∈ (workspace.run earlier).sources.records, record.sourceId = input.sourceId →
        record.recordKey ∈ input.keys → record.archivedAt ≠ none →
          (∃ record' ∈ ((workspace.run earlier).step (.applyPage input)).sources.records,
              SameIdentity record record' ∧ record'.archivedAt = none) ∧
            ∀ row, (workspace.run earlier).db.grid.rows.get? record.rowId = some row → row.tableId = input.tableId →
              ∃ row', ((workspace.run earlier).step (.applyPage input)).db.grid.rows.get? record.rowId = some row' ∧
                row'.archivedAt = none

/-- Every source run applies each page exactly once, whatever happens in between. -/
theorem pageContract_run (db : Database ν) (actions : List (SourceAction ν)) :
    PageContract (SourceWorkspace.initial db) actions := by
  constructor
  · intro earlier _ _
    exact (logHolds_run db earlier).runs.pages
  · intro earlier input _ _
    exact step_replayed
  · intro earlier _ _ run hrun
    have hruns := (logHolds_run db earlier).runs
    obtain ⟨source, hsource⟩ := hruns.windows.defined run hrun
    obtain ⟨hmem, hid⟩ := Table.get?_eq_some.mp hsource
    exact ⟨hruns.received run hrun, hruns.restored run hrun, source, hmem, hid, hruns.limit run hrun source hsource⟩
  · intro earlier _ _ run hrun
    rw [(logHolds_run db earlier).runs.succeeded run hrun]
    simp only [SourcePage.completed, Option.isNone_iff_eq_none]
  · intro earlier _ _ a ha b hb hsource
    constructor
    · intro hkey
      have heq : a = b := Table.eq_of_key ha hb (Prod.ext hsource hkey)
      rw [heq]
    · intro hrow
      rw [(logHolds_run db earlier).records.unique a ha b hb hsource hrow]
  · intro earlier _ _ sourceId key
    have hrecords := (logHolds_run db earlier).records
    constructor
    · intro hrecord
      obtain ⟨record, hmem, rfl, rfl⟩ := hrecord
      exact hrecords.owned record hmem
    · intro hpage
      obtain ⟨page, hmem, rfl, hkey⟩ := hpage
      exact hrecords.recorded page hmem key hkey
  · intro earlier action _ _ record hrecord
    exact step_sameIdentity (logHolds_run db earlier) action hrecord
  · intro earlier _ _ record hrecord
    obtain ⟨hruns, hrecords⟩ := logHolds_run db earlier
    obtain ⟨page, hpage, hpage_source, _⟩ := hrecords.owned record hrecord
    obtain ⟨run, hrun, _, hrun_source⟩ := hruns.known page hpage
    obtain ⟨source, hsource⟩ := hruns.windows.defined run hrun
    rw [hrun_source, hpage_source] at hsource
    obtain ⟨hmem, hid⟩ := Table.get?_eq_some.mp hsource
    exact ⟨source, hmem, hid, hrecords.full source hmem, hrecords.archived record hrecord source hsource⟩
  · intro earlier input _ _ happly record hrecord hsource hkey
    exact step_restored (logHolds_run db earlier) happly hrecord (pageIdentity_iff.mpr ⟨hsource, hkey⟩)

end Runs

end ByokGrid
