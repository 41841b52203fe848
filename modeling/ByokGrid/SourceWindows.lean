import ByokGrid.SourceSystem
import ByokGrid.Tiling
import Mathlib.Data.List.Pairwise

/-! The windows of an incremental source: its succeeded runs tile the time from
the initial synchronization up to the watermark, whatever happens in between. -/

namespace ByokGrid

section Windows

variable (ν : Type) [JsRuntime ν]

def initialSync (source : SourceDefinition) : Int :=
  match source.adapter with
  | .hubSpotContacts initialSyncFrom => (JsRuntime.parseDate ν initialSyncFrom).milliseconds
  | .httpJson => 0

def syncedUntil (source : SourceDefinition) : Int :=
  source.incrementalWatermark.getD (initialSync ν source)

def succeededWindow (sourceId : String) (run : SourceRun) : Option IncrementalWindow :=
  if run.sourceId = sourceId ∧ run.status = .succeeded then run.incrementalWindow else none

def succeededWindows (runs : Table SourceRun) (sourceId : String) : List IncrementalWindow :=
  runs.records.filterMap (succeededWindow sourceId)

def WindowsTile (source : SourceDefinition) (windows : List IncrementalWindow) : Prop :=
  Tiles IncrementalWindow.windowStart IncrementalWindow.windowEnd (initialSync ν source) windows (syncedUntil ν source)

/-- An active run is the last one of its source, and asks for the time from the
watermark on; the succeeded ones tile the time before. -/
structure WindowInvariant (store : SourceStore) : Prop where
  defined : ∀ run ∈ store.runs, ∃ source, store.definitions.get? run.sourceId = some source
  last : store.runs.records.Pairwise fun left right => left.sourceId = right.sourceId → left.status.active = false
  windowed : ∀ run ∈ store.runs, ∀ source, store.definitions.get? run.sourceId = some source →
    source.incremental = true → run.incrementalWindow ≠ none
  next : ∀ run ∈ store.runs, run.status.active = true → ∀ source,
    store.definitions.get? run.sourceId = some source → source.incremental = true →
      ∀ window, run.incrementalWindow = some window → window.windowStart = syncedUntil ν source
  tiles : ∀ source ∈ store.definitions, source.incremental = true →
    WindowsTile ν source (succeededWindows store.runs source.id)

variable {ν}

theorem sourceIncrementalWindow_eq_ok {source : SourceDefinition} {observedAt : Int}
    {window : Option IncrementalWindow} (hincremental : source.incremental = true)
    (h : sourceIncrementalWindow ν source observedAt = .ok window) :
    ∃ w, window = some w ∧ w.windowStart = syncedUntil ν source := by
  unfold sourceIncrementalWindow at h
  unfold syncedUntil initialSync
  split at h
  · rename_i hadapter
    simp only [SourceDefinition.incremental, hadapter] at hincremental
    cases hincremental
  · rename_i initialSyncFrom hadapter
    simp only [except_bind_eq_ok] at h
    obtain ⟨_, _, h⟩ := h
    split at h
    · cases h
      exact ⟨_, rfl, by simp only [hadapter]⟩
    · cases h

theorem SameSource.incremental {source source' : SourceDefinition} (h : SameSource source source') :
    source'.incremental = source.incremental := by
  simp only [SourceDefinition.incremental, h.adapter]

theorem SameSource.initialSync {source source' : SourceDefinition} (h : SameSource source source') :
    initialSync ν source' = initialSync ν source := by
  simp only [ByokGrid.initialSync, h.adapter]

theorem succeededWindows_modify {runs : Table SourceRun} {p : SourceRun → Bool} {f : SourceRun → SourceRun}
    (hf : KeepsKey f) {sourceId : String}
    (h : ∀ run ∈ runs, p run = true → succeededWindow sourceId (f run) = succeededWindow sourceId run) :
    succeededWindows (runs.modify p f hf) sourceId = succeededWindows runs sourceId := by
  show (runs.records.map fun run => if p run then f run else run).filterMap (succeededWindow sourceId) =
    runs.records.filterMap (succeededWindow sourceId)
  rw [List.filterMap_map]
  apply List.filterMap_congr
  intro run hrun
  show succeededWindow sourceId (if p run then f run else run) = _
  split
  · rename_i hp
    exact h run hrun hp
  · rfl

theorem succeededWindow_of_unfinished {sourceId : String} {run : SourceRun} (h : run.status ≠ .succeeded) :
    succeededWindow sourceId run = none := by
  unfold succeededWindow
  rw [if_neg fun hboth => h hboth.2]

theorem active_ne_succeeded {run : SourceRun} (h : run.status.active = true) : run.status ≠ .succeeded := by
  intro hsucceeded
  rw [hsucceeded] at h
  cases h

theorem succeededWindows_insert {runs runs' : Table SourceRun} {run : SourceRun} (h : runs.insert run = some runs')
    (hstatus : run.status ≠ .succeeded) (sourceId : String) :
    succeededWindows runs' sourceId = succeededWindows runs sourceId := by
  unfold succeededWindows
  rw [(Table.insert_eq_some h).1, List.filterMap_append, List.filterMap_cons, List.filterMap_nil,
    succeededWindow_of_unfinished hstatus, List.append_nil]

end Windows

section Quiet

variable {ν : Type} [JsRuntime ν] {store : SourceStore}

theorem WindowInvariant.define (h : WindowInvariant ν store) {definition : SourceDefinition}
    {definitions : Table SourceDefinition} (hinsert : store.definitions.insert definition = some definitions)
    (hwatermark : definition.incrementalWatermark = none) :
    WindowInvariant ν { store with definitions := definitions } := by
  have hfresh : store.definitions.get? definition.id = none := (Table.insert_eq_some hinsert).2
  have hother : ∀ run ∈ store.runs, run.sourceId ≠ definition.id := by
    intro run hrun hid
    obtain ⟨source, hsource⟩ := h.defined run hrun
    rw [hid, hfresh] at hsource
    cases hsource
  have hget : ∀ run ∈ store.runs, definitions.get? run.sourceId = store.definitions.get? run.sourceId := by
    intro run hrun
    rw [Table.get?_insert hinsert]
    exact if_neg (hother run hrun)
  refine ⟨?_, h.last, ?_, ?_, ?_⟩
  · intro run hrun
    rw [hget run hrun]
    exact h.defined run hrun
  · intro run hrun source hsource
    exact h.windowed run hrun source (hget run hrun ▸ hsource)
  · intro run hrun hactive source hsource
    exact h.next run hrun hactive source (hget run hrun ▸ hsource)
  · intro source hsource hincremental
    rcases (Table.mem_insert hinsert).mp hsource with hold | rfl
    · exact h.tiles source hold hincremental
    · have hnone : succeededWindows store.runs source.id = [] := by
        rw [succeededWindows, List.filterMap_eq_nil_iff]
        intro run hrun
        exact if_neg fun hboth => hother run hrun hboth.1
      rw [hnone]
      show initialSync ν source = syncedUntil ν source
      rw [syncedUntil, hwatermark, Option.getD_none]

section Redefine

variable {sourceId : String} {f : SourceDefinition → SourceDefinition}

def redefineSource (sourceId : String) (f : SourceDefinition → SourceDefinition) (source : SourceDefinition) :
    SourceDefinition :=
  if source.id = sourceId then f source else source

theorem get?_updateDefinition (hf : KeepsKey f) (id : String) :
    (store.updateDefinition sourceId f hf).definitions.get? id =
      (store.definitions.get? id).map (redefineSource sourceId f) := by
  rw [SourceStore.updateDefinition, Table.get?_modify]
  simp only [decide_eq_true_eq]
  rfl

theorem redefineSource_same (hsame : ∀ source, SameSource source (f source)) (source : SourceDefinition) :
    SameSource source (redefineSource sourceId f source) := by
  unfold redefineSource
  split
  · exact hsame source
  · exact ⟨rfl, rfl, rfl, rfl, rfl, rfl⟩

theorem WindowInvariant.redefine (h : WindowInvariant ν store) (hf : KeepsKey f)
    (hsame : ∀ source, SameSource source (f source))
    (hwatermark : ∀ source, (f source).incrementalWatermark = source.incrementalWatermark) :
    WindowInvariant ν (store.updateDefinition sourceId f hf) := by
  have hkept : ∀ source, SameSource source (redefineSource sourceId f source) := redefineSource_same hsame
  have hsynced : ∀ source, syncedUntil ν (redefineSource sourceId f source) = syncedUntil ν source := by
    intro source
    unfold redefineSource
    split
    · rw [syncedUntil, syncedUntil, hwatermark, (hsame source).initialSync]
    · rfl
  have hget : ∀ id source, (store.updateDefinition sourceId f hf).definitions.get? id = some source →
      ∃ before, store.definitions.get? id = some before ∧ redefineSource sourceId f before = source := by
    intro id source hsource
    rw [get?_updateDefinition, Option.map_eq_some_iff] at hsource
    exact hsource
  refine ⟨?_, h.last, ?_, ?_, ?_⟩
  · intro run hrun
    obtain ⟨source, hsource⟩ := h.defined run hrun
    refine ⟨redefineSource sourceId f source, ?_⟩
    rw [get?_updateDefinition, show store.definitions.get? run.sourceId = some source from hsource]
    rfl
  · intro run hrun source hsource hincremental
    obtain ⟨before, hbefore, rfl⟩ := hget _ _ hsource
    rw [(hkept before).incremental] at hincremental
    exact h.windowed run hrun before hbefore hincremental
  · intro run hrun hactive source hsource hincremental window hwindow
    obtain ⟨before, hbefore, rfl⟩ := hget _ _ hsource
    rw [(hkept before).incremental] at hincremental
    rw [hsynced]
    exact h.next run hrun hactive before hbefore hincremental window hwindow
  · intro source hsource hincremental
    obtain ⟨before, hbefore, rfl⟩ := hget source.id source (Table.get?_of_mem hsource)
    rw [(hkept before).incremental] at hincremental
    rw [WindowsTile, (hkept before).id, (hkept before).initialSync, hsynced]
    exact h.tiles before (Table.get?_eq_some.mp hbefore).1 hincremental

end Redefine

theorem WindowInvariant.queue (h : WindowInvariant ν store) {run : SourceRun} {source : SourceDefinition}
    {observedAt : Int} {runs : Table SourceRun} (hnew : NewRun ν store run source observedAt)
    (hinsert : store.runs.insert run = some runs) : WindowInvariant ν { store with runs := runs } := by
  have hunfinished : run.status ≠ .succeeded := by
    rw [hnew.status]
    intro hqueued
    cases hqueued
  have hwindow : ∀ definition, store.definitions.get? run.sourceId = some definition →
      definition.incremental = true →
        ∃ w, run.incrementalWindow = some w ∧ w.windowStart = syncedUntil ν definition := by
    intro definition hdefinition hincremental
    rw [hnew.definition, Option.some.injEq] at hdefinition
    subst hdefinition
    exact sourceIncrementalWindow_eq_ok hincremental hnew.window
  refine ⟨?_, ?_, ?_, ?_, ?_⟩
  · intro other hother
    rcases (Table.mem_insert hinsert).mp hother with hold | rfl
    · exact h.defined other hold
    · exact ⟨source, hnew.definition⟩
  · rw [(Table.insert_eq_some hinsert).1, List.pairwise_append]
    refine ⟨h.last, List.pairwise_singleton _ _, ?_⟩
    intro left hleft right hright hsame
    have hfree := List.any_eq_false.mp hnew.free left hleft
    rw [List.mem_singleton.mp hright] at hsame
    simpa [hsame] using hfree
  · intro other hother definition hdefinition hincremental
    rcases (Table.mem_insert hinsert).mp hother with hold | rfl
    · exact h.windowed other hold definition hdefinition hincremental
    · obtain ⟨w, hw, _⟩ := hwindow definition hdefinition hincremental
      rw [hw]
      exact Option.some_ne_none w
  · intro other hother hactive definition hdefinition hincremental window hother_window
    rcases (Table.mem_insert hinsert).mp hother with hold | rfl
    · exact h.next other hold hactive definition hdefinition hincremental window hother_window
    · obtain ⟨w, hw, hstart⟩ := hwindow definition hdefinition hincremental
      rw [hw, Option.some.injEq] at hother_window
      rw [← hother_window]
      exact hstart
  · intro definition hdefinition hincremental
    show WindowsTile ν definition (succeededWindows runs definition.id)
    rw [succeededWindows_insert hinsert hunfinished]
    exact h.tiles definition hdefinition hincremental

theorem Reports.sourceId {p : SourceRun → Bool} {f : SourceRun → SourceRun} (h : Reports p f) (run : SourceRun) :
    (f run).sourceId = run.sourceId := by
  rw [h.frame run]

theorem Reports.incrementalWindow {p : SourceRun → Bool} {f : SourceRun → SourceRun} (h : Reports p f)
    (run : SourceRun) : (f run).incrementalWindow = run.incrementalWindow := by
  rw [h.frame run]

theorem WindowInvariant.report (h : WindowInvariant ν store) {p : SourceRun → Bool} {f : SourceRun → SourceRun}
    (hreports : Reports p f) : WindowInvariant ν (store.updateRun p f hreports.keepsKey) := by
  have hsource : ∀ run : SourceRun, (if p run then f run else run).sourceId = run.sourceId := by
    intro run
    split
    · exact hreports.sourceId run
    · rfl
  have hwindow : ∀ run : SourceRun, (if p run then f run else run).incrementalWindow = run.incrementalWindow := by
    intro run
    split
    · exact hreports.incrementalWindow run
    · rfl
  refine ⟨?_, ?_, ?_, ?_, ?_⟩
  · intro after hafter
    obtain ⟨run, hrun, rfl⟩ := (Table.mem_modify hreports.keepsKey).mp hafter
    rw [hsource]
    exact h.defined run hrun
  · apply Table.pairwise_modify hreports.keepsKey
    intro left right hpair
    rw [hsource, hsource]
    intro hsame
    have hinactive := List.pairwise_iff_forall_sublist.mp h.last hpair hsame
    rw [if_neg]
    · exact hinactive
    · intro hp
      rw [hreports.active left hp] at hinactive
      cases hinactive
  · intro after hafter source hdefinition hincremental
    obtain ⟨run, hrun, rfl⟩ := (Table.mem_modify hreports.keepsKey).mp hafter
    rw [hsource] at hdefinition
    rw [hwindow]
    exact h.windowed run hrun source hdefinition hincremental
  · intro after hafter hactive source hdefinition hincremental window hrun_window
    obtain ⟨run, hrun, rfl⟩ := (Table.mem_modify hreports.keepsKey).mp hafter
    rw [hsource] at hdefinition
    rw [hwindow] at hrun_window
    have hbefore : run.status.active = true := by
      by_cases hp : p run = true
      · exact hreports.active run hp
      · rw [if_neg hp] at hactive
        exact hactive
    exact h.next run hrun hbefore source hdefinition hincremental window hrun_window
  · intro source hdefinition hincremental
    have hwindows : succeededWindows (store.runs.modify p f hreports.keepsKey) source.id =
        succeededWindows store.runs source.id := by
      apply succeededWindows_modify
      intro run _ hp
      rw [succeededWindow_of_unfinished (hreports.unfinished run),
        succeededWindow_of_unfinished (active_ne_succeeded (hreports.active run hp))]
    show WindowsTile ν source (succeededWindows (store.runs.modify p f hreports.keepsKey) source.id)
    rw [hwindows]
    exact h.tiles source hdefinition hincremental

theorem WindowInvariant.quiet {store' : SourceStore} (h : WindowInvariant ν store) (hquiet : Quiet ν store store') :
    WindowInvariant ν store' := by
  induction hquiet with
  | refl => exact h
  | tail _ hchange ih =>
    cases hchange with
    | defined _ _ hinsert hwatermark _ _ => exact ih.define hinsert hwatermark
    | redefined _ _ hf hsame hwatermark _ => exact ih.redefine hf hsame hwatermark
    | queued _ _ _ _ hnew hinsert => exact ih.queue hnew hinsert
    | reported _ _ hreports => exact ih.report hreports

end Quiet

section Apply

variable {ν : Type} [JsRuntime ν]

def BothActive (left right : SourceRun) : Prop :=
  left.sourceId = right.sourceId ∧ left.status.active = true ∧ right.status.active = true

instance : Std.Symm fun left right : SourceRun => ¬ BothActive left right :=
  ⟨fun _ _ h hflip => h ⟨hflip.1.symm, hflip.2.2, hflip.2.1⟩⟩

theorem WindowInvariant.one_active {store : SourceStore} (h : WindowInvariant ν store) {a b : SourceRun}
    (ha : a ∈ store.runs) (hb : b ∈ store.runs) (hboth : BothActive a b) : a = b := by
  by_contra hne
  have hapart : store.runs.records.Pairwise fun left right => ¬ BothActive left right := by
    refine h.last.imp ?_
    intro left right hlast hboth
    have hinactive := hlast hboth.1
    rw [hboth.2.1] at hinactive
    cases hinactive
  exact hapart.forall ha hb hne hboth

theorem succeededWindows_succeed {runs : Table SourceRun} {p : SourceRun → Bool} {f : SourceRun → SourceRun}
    (hf : KeepsKey f) {run : SourceRun} {w : IncrementalWindow} (hrun : run ∈ runs)
    (hlast : runs.records.Pairwise fun left right => left.sourceId = right.sourceId → left.status.active = false)
    (hactive : run.status.active = true) (hx : p run = true) (hp : ∀ other ∈ runs, p other = true → other = run)
    (hwindow : succeededWindow run.sourceId (f run) = some w) :
    succeededWindows (runs.modify p f hf) run.sourceId = succeededWindows runs run.sourceId ++ [w] := by
  obtain ⟨before, after, hrecords⟩ := List.append_of_mem hrun
  have hnone : after.filterMap (succeededWindow run.sourceId) = [] := by
    rw [List.filterMap_eq_nil_iff]
    intro other hother
    rw [hrecords, List.pairwise_append] at hlast
    refine if_neg fun hboth => ?_
    have hinactive := (List.pairwise_cons.mp hlast.2.1).1 other hother hboth.1.symm
    rw [hactive] at hinactive
    cases hinactive
  have hunfinished := @succeededWindow_of_unfinished run.sourceId run (active_ne_succeeded hactive)
  unfold succeededWindows
  rw [Table.modify_one hf hrecords hx hp, hrecords, List.filterMap_append, List.filterMap_append, List.filterMap_cons,
    List.filterMap_cons, hwindow, hunfinished, hnone, List.append_nil]

variable {workspace workspace' : SourceWorkspace ν} {input : SourcePage} {run : SourceRun} {source : SourceDefinition}
  {counts : PageCounts} {mapping : List SourceField}

theorem PageApplied.run_active (h : PageApplied workspace input run source counts mapping workspace') :
    run.status.active = true := by
  rw [h.running]
  rfl

theorem PageApplied.checkpointed (h : PageApplied workspace input run source counts mapping workspace') :
    checkpointedRun input run run = true := by
  have hid : run.id = input.sourceRunId := (Table.get?_eq_some.mp h.found).2
  simp [checkpointedRun, hid, h.running]

theorem PageApplied.only_run (h : PageApplied workspace input run source counts mapping workspace')
    {other : SourceRun} (hother : other ∈ workspace.sources.runs) (hp : checkpointedRun input run other = true) :
    other = run := by
  obtain ⟨hmem, hid⟩ := Table.get?_eq_some.mp h.found
  simp only [checkpointedRun, Bool.and_eq_true, decide_eq_true_eq] at hp
  exact Table.eq_of_key hother hmem (hp.1.1.trans hid.symm)

theorem PageApplied.mem_runs (h : PageApplied workspace input run source counts mapping workspace')
    {after : SourceRun} : after ∈ workspace'.sources.runs ↔
      after = advanceSourceRun input counts run ∨ after ∈ workspace.sources.runs ∧ after ≠ run := by
  have hmem : run ∈ workspace.sources.runs := (Table.get?_eq_some.mp h.found).1
  rw [h.runs, Table.mem_modify]
  constructor
  · intro hafter
    obtain ⟨other, hother, rfl⟩ := hafter
    by_cases hp : checkpointedRun input run other = true
    · left
      rw [if_pos hp, h.only_run hother hp]
    · rw [if_neg hp]
      exact Or.inr ⟨hother, fun heq => hp (heq ▸ h.checkpointed)⟩
  · intro hafter
    rcases hafter with rfl | ⟨hother, hne⟩
    · exact ⟨run, hmem, by rw [if_pos h.checkpointed]⟩
    · exact ⟨after, hother, by rw [if_neg fun hp => hne (h.only_run hother hp)]⟩

theorem PageApplied.get?_definition (h : PageApplied workspace input run source counts mapping workspace')
    (id : String) : workspace'.sources.definitions.get? id =
      (workspace.sources.definitions.get? id).map fun definition =>
        if definition.id = input.sourceId then advanceDefinition input run source mapping definition else definition := by
  rw [h.definitions, Table.get?_modify]
  simp only [decide_eq_true_eq]

theorem advanceDefinition_same (definition : SourceDefinition) :
    SameSource definition (advanceDefinition input run source mapping definition) :=
  ⟨rfl, rfl, rfl, rfl, rfl, rfl⟩

def completedWindow (input : SourcePage) (run : SourceRun) (sourceId : String) : List IncrementalWindow :=
  if input.sourceId = sourceId ∧ input.completed = true then run.incrementalWindow.toList else []

theorem succeededWindow_advance (sourceId : String) (h : run.sourceId = input.sourceId) :
    succeededWindow sourceId (advanceSourceRun input counts run) =
      if input.sourceId = sourceId ∧ input.completed = true then run.incrementalWindow else none := by
  show (if run.sourceId = sourceId ∧ (if input.completed then SourceRunStatus.succeeded else .running) = .succeeded then
    run.incrementalWindow else none) = _
  rw [h]
  cases input.completed <;> simp

theorem PageApplied.windows (h : PageApplied workspace input run source counts mapping workspace')
    (hinv : WindowInvariant ν workspace.sources) (sourceId : String) :
    succeededWindows workspace'.sources.runs sourceId =
      succeededWindows workspace.sources.runs sourceId ++ completedWindow input run sourceId := by
  have hmem : run ∈ workspace.sources.runs := (Table.get?_eq_some.mp h.found).1
  have hunfinished : succeededWindow sourceId run = none :=
    succeededWindow_of_unfinished (active_ne_succeeded h.run_active)
  have hadvance := @succeededWindow_advance input run counts sourceId h.sourceId
  have hsame : succeededWindow sourceId (advanceSourceRun input counts run) = none →
      succeededWindows workspace'.sources.runs sourceId = succeededWindows workspace.sources.runs sourceId := by
    intro hnone
    rw [h.runs]
    apply succeededWindows_modify
    intro other hother hp
    rw [h.only_run hother hp, hnone, hunfinished]
  unfold completedWindow
  by_cases hcompleted : input.sourceId = sourceId ∧ input.completed = true
  · rw [if_pos hcompleted] at hadvance ⊢
    cases hwindow : run.incrementalWindow with
    | none =>
      rw [hwindow] at hadvance
      rw [hsame hadvance]
      exact (List.append_nil _).symm
    | some w =>
      have hsource : run.sourceId = sourceId := h.sourceId.trans hcompleted.1
      rw [hwindow, ← hsource] at hadvance
      rw [h.runs, ← hsource]
      exact succeededWindows_succeed _ hmem hinv.last h.run_active h.checkpointed (fun _ => h.only_run) hadvance
  · rw [if_neg hcompleted] at hadvance ⊢
    rw [hsame hadvance, List.append_nil]

theorem PageApplied.same (h : PageApplied workspace input run source counts mapping workspace') {id : String}
    {after : SourceDefinition} (hafter : workspace'.sources.definitions.get? id = some after) :
    ∃ before, workspace.sources.definitions.get? before.id = some before ∧ before.id = id ∧
      SameSource before after := by
  rw [h.get?_definition, Option.map_eq_some_iff] at hafter
  obtain ⟨before, hget, rfl⟩ := hafter
  have hid : before.id = id := (Table.get?_eq_some.mp hget).2
  refine ⟨before, hid ▸ hget, hid, ?_⟩
  split
  · exact advanceDefinition_same before
  · exact ⟨rfl, rfl, rfl, rfl, rfl, rfl⟩

theorem PageApplied.synced (h : PageApplied workspace input run source counts mapping workspace')
    (hinv : WindowInvariant ν workspace.sources) {before after : SourceDefinition}
    (hbefore : workspace.sources.definitions.get? before.id = some before)
    (hafter : workspace'.sources.definitions.get? before.id = some after) (hincremental : before.incremental = true) :
    after.incrementalWatermark = before.incrementalWatermark ∧ completedWindow input run before.id = [] ∨
      ∃ w, input.completed = true ∧ run.sourceId = before.id ∧ run.incrementalWindow = some w ∧
        w.windowStart = syncedUntil ν before ∧ after.incrementalWatermark = some w.windowEnd ∧
          completedWindow input run before.id = [w] := by
  have hmem : run ∈ workspace.sources.runs := (Table.get?_eq_some.mp h.found).1
  rw [h.get?_definition, hbefore, Option.map_some, Option.some.injEq] at hafter
  by_cases hid : before.id = input.sourceId
  · have hsource : before = source := by
      have hdefined := h.defined
      rw [← hid, hbefore, Option.some.injEq] at hdefined
      exact hdefined
    rw [if_pos hid] at hafter
    subst hafter
    cases hcompleted : input.completed with
    | false =>
      left
      constructor
      · show (if input.completed && source.incremental then _ else source.incrementalWatermark) = _
        rw [hcompleted, Bool.false_and, if_neg Bool.false_ne_true, hsource]
      · exact if_neg fun hboth => by rw [hcompleted] at hboth; cases hboth.2
    | true =>
      right
      have hrun : workspace.sources.definitions.get? run.sourceId = some before := by
        rw [h.sourceId, ← hid]
        exact hbefore
      cases hwindow : run.incrementalWindow with
      | none => exact absurd hwindow (hinv.windowed run hmem before hrun hincremental)
      | some w =>
        refine ⟨w, rfl, h.sourceId.trans hid.symm, rfl, ?_, ?_, ?_⟩
        · exact hinv.next run hmem h.run_active before hrun hincremental w hwindow
        · show (if input.completed && source.incremental then run.incrementalWindow.map IncrementalWindow.windowEnd
            else source.incrementalWatermark) = _
          rw [hcompleted, ← hsource, hincremental, hwindow]
          rfl
        · unfold completedWindow
          rw [if_pos ⟨hid.symm, hcompleted⟩, hwindow]
          rfl
  · rw [if_neg hid] at hafter
    subst hafter
    exact Or.inl ⟨rfl, if_neg fun hboth => hid hboth.1.symm⟩

theorem PageApplied.windowInvariant (h : PageApplied workspace input run source counts mapping workspace')
    (hinv : WindowInvariant ν workspace.sources) : WindowInvariant ν workspace'.sources := by
  have hmem : run ∈ workspace.sources.runs := (Table.get?_eq_some.mp h.found).1
  -- the run before the page, with the source and the window which the page leaves alone
  have hrun : ∀ after ∈ workspace'.sources.runs, ∃ other ∈ workspace.sources.runs,
      other.sourceId = after.sourceId ∧ other.incrementalWindow = after.incrementalWindow ∧
        (after.status.active = true → other.status.active = true) := by
    intro after hafter
    rcases h.mem_runs.mp hafter with rfl | ⟨hother, _⟩
    · exact ⟨run, hmem, rfl, rfl, fun _ => h.run_active⟩
    · exact ⟨after, hother, rfl, rfl, id⟩
  refine ⟨?_, ?_, ?_, ?_, ?_⟩
  · intro after hafter
    obtain ⟨other, hother, hsame, _⟩ := hrun after hafter
    obtain ⟨definition, hdefinition⟩ := hinv.defined other hother
    rw [← hsame, h.get?_definition, hdefinition]
    exact ⟨_, rfl⟩
  · rw [h.runs]
    apply Table.pairwise_modify
    intro left right hpair
    have hsource : ∀ other : SourceRun, (if checkpointedRun input run other then advanceSourceRun input counts other
        else other).sourceId = other.sourceId := by
      intro other
      split <;> rfl
    rw [hsource, hsource]
    intro hsame
    have hinactive := List.pairwise_iff_forall_sublist.mp hinv.last hpair hsame
    rw [if_neg]
    · exact hinactive
    · intro hp
      rw [h.only_run (hpair.subset List.mem_cons_self) hp, h.run_active] at hinactive
      cases hinactive
  · intro after hafter definition hdefinition hincremental
    obtain ⟨other, hother, hsame, hwindow, _⟩ := hrun after hafter
    obtain ⟨before, hget, hid, hsource⟩ := h.same hdefinition
    rw [← hwindow]
    apply hinv.windowed other hother before
    · rw [hsame, ← hid]
      exact hget
    · rw [← hsource.incremental]
      exact hincremental
  · intro after hafter hactive definition hdefinition hincremental window hwindow
    obtain ⟨other, hother, hsame, hother_window, hother_active⟩ := hrun after hafter
    obtain ⟨before, hget, hid, hsource⟩ := h.same hdefinition
    rw [hsource.incremental] at hincremental
    have hstart : window.windowStart = syncedUntil ν before := by
      apply hinv.next other hother (hother_active hactive) before
      · rw [hsame, ← hid]
        exact hget
      · exact hincremental
      · rw [hother_window, hwindow]
    rcases h.synced hinv hget (hid ▸ hdefinition) hincremental with ⟨hwatermark, _⟩ | ⟨w, hcompleted, hrun_source, _⟩
    · rw [hstart, syncedUntil, syncedUntil, hwatermark, hsource.initialSync]
    · rcases h.mem_runs.mp hafter with rfl | ⟨hmem_after, hne⟩
      · simp [advanceSourceRun, hcompleted, SourceRunStatus.active] at hactive
      · refine absurd (hinv.one_active hmem_after hmem ⟨?_, hactive, h.run_active⟩) hne
        rw [hrun_source, hid]
  · intro definition hdefinition hincremental
    obtain ⟨before, hget, hid, hsource⟩ := h.same (Table.get?_of_mem hdefinition)
    rw [hsource.incremental] at hincremental
    have htiles := hinv.tiles before (Table.get?_eq_some.mp hget).1 hincremental
    rw [h.windows hinv, WindowsTile, hsource.initialSync, hsource.id]
    rcases h.synced hinv hget (hid ▸ Table.get?_of_mem hdefinition) hincremental with
      ⟨hwatermark, hnone⟩ | ⟨w, _, _, _, hstart, hwatermark, hwindow⟩
    · rw [hnone, List.append_nil, syncedUntil, hwatermark, hsource.initialSync]
      exact htiles
    · rw [hwindow, syncedUntil, hwatermark, Option.getD_some]
      exact htiles.extend hstart w.forward

end Apply

section Runs

variable {ν : Type} [JsRuntime ν]

theorem SameSource.trans {a b c : SourceDefinition} (hab : SameSource a b) (hbc : SameSource b c) : SameSource a c :=
  ⟨hbc.id.trans hab.id, hbc.tableId.trans hab.tableId, hbc.adapter.trans hab.adapter,
    hbc.maxRecords.trans hab.maxRecords, hbc.maxPages.trans hab.maxPages,
    hbc.missingRecordMode.trans hab.missingRecordMode⟩

structure KeepsWindows (store store' : SourceStore) : Prop where
  definition : ∀ id source, store.definitions.get? id = some source →
    ∃ source', store'.definitions.get? id = some source' ∧ SameSource source source' ∧
      source'.incrementalWatermark = source.incrementalWatermark
  windows : ∀ sourceId, succeededWindows store'.runs sourceId = succeededWindows store.runs sourceId

theorem QuietChange.keepsWindows {store store' : SourceStore} (h : QuietChange ν store store') :
    KeepsWindows store store' := by
  have hkept : ∀ (id : String) (source : SourceDefinition), store.definitions.get? id = some source →
      ∃ source', store.definitions.get? id = some source' ∧ SameSource source source' ∧
        source'.incrementalWatermark = source.incrementalWatermark :=
    fun _ source hsource => ⟨source, hsource, ⟨rfl, rfl, rfl, rfl, rfl, rfl⟩, rfl⟩
  cases h with
  | defined definition definitions hinsert _ _ _ =>
    refine ⟨fun id source hsource => ⟨source, ?_, ⟨rfl, rfl, rfl, rfl, rfl, rfl⟩, rfl⟩, fun _ => rfl⟩
    rw [Table.get?_insert hinsert, if_neg]
    · exact hsource
    · intro hid
      rw [hid, (Table.insert_eq_some hinsert).2] at hsource
      cases hsource
  | redefined sourceId f hf hsame hwatermark _ =>
    refine ⟨fun id source hsource => ⟨redefineSource sourceId f source, ?_, redefineSource_same hsame source, ?_⟩, fun _ => rfl⟩
    · rw [get?_updateDefinition, hsource]
      rfl
    · unfold redefineSource
      split
      · exact hwatermark source
      · rfl
  | queued run _ _ runs hnew hinsert =>
    refine ⟨hkept, fun sourceId => succeededWindows_insert hinsert ?_ sourceId⟩
    rw [hnew.status]
    intro hqueued
    cases hqueued
  | reported p f hreports =>
    refine ⟨hkept, fun sourceId => succeededWindows_modify hreports.keepsKey fun run _ hp => ?_⟩
    rw [succeededWindow_of_unfinished (hreports.unfinished run),
      succeededWindow_of_unfinished (active_ne_succeeded (hreports.active run hp))]

theorem Quiet.keepsWindows {store store' : SourceStore} (h : Quiet ν store store') : KeepsWindows store store' := by
  induction h with
  | refl => exact ⟨fun _ source hsource => ⟨source, hsource, ⟨rfl, rfl, rfl, rfl, rfl, rfl⟩, rfl⟩, fun _ => rfl⟩
  | tail _ hchange ih =>
    constructor
    · intro id source hsource
      obtain ⟨middle, hmiddle, hsame, hwatermark⟩ := ih.definition id source hsource
      obtain ⟨after, hafter, hsame', hwatermark'⟩ := hchange.keepsWindows.definition id middle hmiddle
      exact ⟨after, hafter, hsame.trans hsame', hwatermark'.trans hwatermark⟩
    · intro sourceId
      exact (hchange.keepsWindows.windows sourceId).trans (ih.windows sourceId)

def SourceWorkspace.initial (db : Database ν) : SourceWorkspace ν :=
  ⟨db, ⟨Table.empty, Table.empty, Table.empty⟩⟩

def SourceWorkspace.WindowsHold (workspace : SourceWorkspace ν) : Prop :=
  WindowInvariant ν workspace.sources

theorem initial_windowsHold (db : Database ν) : (SourceWorkspace.initial db).WindowsHold where
  defined _ hrun := absurd hrun Table.not_mem_empty
  last := List.Pairwise.nil
  windowed _ hrun := absurd hrun Table.not_mem_empty
  next _ hrun := absurd hrun Table.not_mem_empty
  tiles _ hsource := absurd hsource Table.not_mem_empty

theorem step_windowsHold (workspace : SourceWorkspace ν) (action : SourceAction ν) (h : workspace.WindowsHold) :
    (workspace.step action).WindowsHold := by
  rcases step_sources workspace action with hquiet | ⟨input, run, source, counts, mapping, _, happlied⟩
  · exact WindowInvariant.quiet h hquiet
  · exact happlied.windowInvariant h

theorem windowsHold_run (db : Database ν) (actions : List (SourceAction ν)) :
    ((SourceWorkspace.initial db).run actions).WindowsHold :=
  runActions_invariant step_windowsHold (initial_windowsHold db) actions

structure WatermarkAdvance (ν : Type) [JsRuntime ν] (before after : SourceStore) (source source' : SourceDefinition)
    (run : SourceRun) (window : IncrementalWindow) : Prop where
  mem : run ∈ before.runs
  running : run.status = .running
  sourceId : run.sourceId = source.id
  succeeded : ∃ run' ∈ after.runs, run'.id = run.id ∧ run'.status = .succeeded
  windowed : run.incrementalWindow = some window
  start : window.windowStart = syncedUntil ν source
  watermark : source'.incrementalWatermark = some window.windowEnd
  windows : succeededWindows after.runs source.id = succeededWindows before.runs source.id ++ [window]

/-- What a run promises of its incremental sources: one active run at a time, and
succeeded runs whose windows tile the time up to a watermark which only they move. -/
structure WindowContract (workspace : SourceWorkspace ν) (actions : List (SourceAction ν)) : Prop where
  oneActive : ∀ earlier later, actions = earlier ++ later → ∀ a ∈ (workspace.run earlier).sources.runs,
    ∀ b ∈ (workspace.run earlier).sources.runs, BothActive a b → a = b
  windowed : ∀ earlier later, actions = earlier ++ later → ∀ run ∈ (workspace.run earlier).sources.runs,
    ∃ source ∈ (workspace.run earlier).sources.definitions, source.id = run.sourceId ∧
      (source.incremental = true → run.incrementalWindow ≠ none)
  tiles : ∀ earlier later, actions = earlier ++ later → ∀ source ∈ (workspace.run earlier).sources.definitions,
    source.incremental = true →
      WindowsTile ν source (succeededWindows (workspace.run earlier).sources.runs source.id)
  covers : ∀ earlier later, actions = earlier ++ later → ∀ source ∈ (workspace.run earlier).sources.definitions,
    source.incremental = true → ∀ t, initialSync ν source ≤ t → t < syncedUntil ν source →
      ∃ window ∈ succeededWindows (workspace.run earlier).sources.runs source.id,
        window.windowStart ≤ t ∧ t < window.windowEnd
  apart : ∀ earlier later, actions = earlier ++ later → ∀ source ∈ (workspace.run earlier).sources.definitions,
    source.incremental = true → (succeededWindows (workspace.run earlier).sources.runs source.id).Pairwise
      fun left right => left.windowEnd ≤ right.windowStart
  advances : ∀ earlier action later, actions = earlier ++ action :: later →
    ∀ source ∈ (workspace.run earlier).sources.definitions, source.incremental = true →
      ∃ source' ∈ ((workspace.run earlier).step action).sources.definitions, SameSource source source' ∧
        syncedUntil ν source ≤ syncedUntil ν source' ∧
          (source'.incrementalWatermark = source.incrementalWatermark ∧
              succeededWindows ((workspace.run earlier).step action).sources.runs source.id =
                succeededWindows (workspace.run earlier).sources.runs source.id ∨
            ∃ run window, WatermarkAdvance ν (workspace.run earlier).sources
              ((workspace.run earlier).step action).sources source source' run window)

theorem step_advances {workspace : SourceWorkspace ν} (h : workspace.WindowsHold) (action : SourceAction ν)
    {source : SourceDefinition} (hsource : source ∈ workspace.sources.definitions)
    (hincremental : source.incremental = true) :
    ∃ source' ∈ (workspace.step action).sources.definitions, SameSource source source' ∧
      syncedUntil ν source ≤ syncedUntil ν source' ∧
        (source'.incrementalWatermark = source.incrementalWatermark ∧
            succeededWindows (workspace.step action).sources.runs source.id =
              succeededWindows workspace.sources.runs source.id ∨
          ∃ run window, WatermarkAdvance ν workspace.sources (workspace.step action).sources source source' run
            window) := by
  have hget : workspace.sources.definitions.get? source.id = some source := Table.get?_of_mem hsource
  have hsynced : ∀ source', SameSource source source' →
      source'.incrementalWatermark = source.incrementalWatermark → syncedUntil ν source ≤ syncedUntil ν source' := by
    intro source' hsame hwatermark
    rw [syncedUntil, syncedUntil, hwatermark, hsame.initialSync]
  rcases step_sources workspace action with hquiet | ⟨input, run, definition, counts, mapping, _, happlied⟩
  · obtain ⟨source', hget', hsame, hwatermark⟩ := hquiet.keepsWindows.definition source.id source hget
    exact ⟨source', (Table.get?_eq_some.mp hget').1, hsame, hsynced source' hsame hwatermark,
      Or.inl ⟨hwatermark, hquiet.keepsWindows.windows source.id⟩⟩
  · have hafter := happlied.get?_definition source.id
    rw [hget, Option.map_some] at hafter
    obtain ⟨before, _, hid, hsame⟩ := happlied.same hafter
    obtain rfl : before = source := Table.eq_of_key (Table.get?_eq_some.mp ‹_›).1 hsource hid
    refine ⟨_, (Table.get?_eq_some.mp hafter).1, hsame, ?_⟩
    have hwindows := happlied.windows h before.id
    rcases happlied.synced h hget hafter hincremental with
      ⟨hwatermark, hnone⟩ | ⟨w, hcompleted, hrun, hwindow, hstart, hwatermark, hone⟩
    · rw [hnone, List.append_nil] at hwindows
      exact ⟨hsynced _ hsame hwatermark, Or.inl ⟨hwatermark, hwindows⟩⟩
    · rw [hone] at hwindows
      have hmem := (Table.get?_eq_some.mp happlied.found).1
      refine ⟨?_, Or.inr ⟨run, w, hmem, happlied.running, hrun, ?_, hwindow, hstart, hwatermark, hwindows⟩⟩
      · rw [← hstart, syncedUntil, hwatermark, Option.getD_some]
        exact le_of_lt w.forward
      · refine ⟨_, happlied.mem_runs.mpr (Or.inl rfl), rfl, ?_⟩
        show (if input.completed then SourceRunStatus.succeeded else .running) = .succeeded
        rw [hcompleted, if_pos rfl]

/-- The windows of every source tile time under any sequence of transactions. -/
theorem windowContract_run (db : Database ν) (actions : List (SourceAction ν)) :
    WindowContract (SourceWorkspace.initial db) actions where
  oneActive earlier _ _ a ha b hb hboth := WindowInvariant.one_active (windowsHold_run db earlier) ha hb hboth
  windowed earlier _ _ run hrun := by
    have hhold := windowsHold_run db earlier
    obtain ⟨source, hsource⟩ := WindowInvariant.defined hhold run hrun
    obtain ⟨hmem, hid⟩ := Table.get?_eq_some.mp hsource
    exact ⟨source, hmem, hid, WindowInvariant.windowed hhold run hrun source hsource⟩
  tiles earlier _ _ := WindowInvariant.tiles (windowsHold_run db earlier)
  covers earlier _ _ source hsource hincremental _ hstart hend :=
    (WindowInvariant.tiles (windowsHold_run db earlier) source hsource hincremental).exists_window hstart hend
  apart earlier _ _ source hsource hincremental :=
    (WindowInvariant.tiles (windowsHold_run db earlier) source hsource hincremental).pairwise
  advances earlier action _ _ _ hsource hincremental :=
    step_advances (windowsHold_run db earlier) action hsource hincremental

end Runs

end ByokGrid
