import ByokGrid.BulkRunContract
import ByokGrid.DraftHistory

/-! No update of a draft is lost, and what a publication stores is the confirmed draft
exactly where the names of that draft have no outer white space. -/

namespace ByokGrid

section Contract

variable {ν : Type} [JsRuntime ν] [NumberBounds ν] [CountNumbers ν] [ConnectorRuntime ν]

structure HoldsDraft (record : StoredWorkflowVersion ν) (draft : AuthoredWorkflowGraph ν) : Prop where
  graph : record.graph = draft
  graphDigest : record.graphDigest = digestWorkflowGraph record.graph
  compiled : compileAuthoredGraph record.graph = .ok record.compiledPlan

/-- The saves of every workflow are one chain, each built on the revision its author
had read; the versions count from one and stay; and every version holds the draft which
its publisher confirmed. -/
structure LosesNoUpdate (actions : List (EditorAction ν)) : Prop where
  chain : ∀ id, (savesOf id (editorLog actions)).map SavedDraft.revision =
    List.range' 1 (savesOf id (editorLog actions)).length
  read : ∀ draft, .saved draft ∈ editorLog actions → draft.read + 1 = draft.revision
  consecutive : ∀ id, (publicationsOf id (editorLog actions)).map PublishedDraft.version =
    List.range' 1 (publicationsOf id (editorLog actions)).length
  fixed : ∀ xs ys, actions = xs ++ ys → ∀ key record, (editorRun xs).versions.get? key = some record →
    (editorRun actions).versions.get? key = some record
  records : ∀ id version record, (editorRun actions).versions.get? (id, version) = some record →
    ∃ publication, .published publication ∈ editorLog actions ∧ publication.workflowId = id ∧
      publication.version = version
  content : ∀ publication, .published publication ∈ editorLog actions →
    ∃ draft, .saved draft ∈ editorLog actions ∧ draft.workflowId = publication.workflowId ∧
      draft.revision = publication.confirmed ∧ ∃ record,
        (editorRun actions).versions.get? (publication.workflowId, publication.version) = some record ∧
          HoldsDraft record draft.graph

def ConfirmsTrimmed (store : WorkflowStore ν) (action : EditorAction ν) : Prop :=
  ∀ userId workflowId expectedRevision, action = .publish userId workflowId expectedRevision →
    ∀ current, store.selectScopedWorkflow userId workflowId = some current →
      current.draftRevision = expectedRevision → (∃ graph, parsePublishableGraph current.draftGraph = .ok graph) →
        current.draftGraph.NamesTrimmed

theorem step_versions (store : WorkflowStore ν) (action : EditorAction ν) {key : String × Nat}
    {record : StoredWorkflowVersion ν} (h : store.versions.get? key = some record) :
    (store.step action).versions.get? key = some record := by
  have hmove := editorMove store action
  generalize store.step action = next, editorEntries store action = entries at hmove ⊢
  cases hmove with
  | same _ hversions => rwa [hversions]
  | created _ _ hversions _ => rwa [hversions]
  | updated _ _ hversions _ => rwa [hversions]
  | published _ _ _ hversions _ =>
    rw [Table.get?_insert hversions, if_neg, h]
    intro hkey
    rw [hkey, (Table.insert_eq_some hversions).2] at h
    cases h

theorem run_versions (store : WorkflowStore ν) (actions : List (EditorAction ν)) {key : String × Nat}
    {record : StoredWorkflowVersion ν} (h : store.versions.get? key = some record) :
    (runActions WorkflowStore.step store actions).versions.get? key = some record := by
  induction actions generalizing store with
  | nil => exact h
  | cons action actions ih => exact ih _ (step_versions store action h)

theorem nodup_of_chain {α : Type} {f : α → Nat} {xs : List α} {n : Nat} (h : xs.map f = List.range' 1 n) :
    ∀ x ∈ xs, ∀ y ∈ xs, f x = f y → x = y :=
  fun _ hx _ hy => List.inj_on_of_nodup_map (h ▸ List.nodup_range') hx hy

theorem DraftLedger.saved_unique {store : WorkflowStore ν} {log : List (EditorEntry ν)} (h : DraftLedger store log)
    {draft other : SavedDraft ν} (hdraft : .saved draft ∈ log) (hother : .saved other ∈ log)
    (hid : draft.workflowId = other.workflowId) (hrevision : draft.revision = other.revision) : draft = other :=
  nodup_of_chain (h.saves other.workflowId) draft (mem_savesOf.mpr ⟨hdraft, hid⟩) other
    (mem_savesOf.mpr ⟨hother, rfl⟩) hrevision

theorem editorLog_append (xs ys : List (EditorAction ν)) : editorLog (xs ++ ys) =
    editorLog xs ++ runOutputs WorkflowStore.step editorEntries (editorRun xs) ys :=
  runOutputs_append editorEntries WorkflowStore.empty xs ys

theorem mem_editorLog_append {xs ys : List (EditorAction ν)} {entry : EditorEntry ν} (h : entry ∈ editorLog xs) :
    entry ∈ editorLog (xs ++ ys) := by
  rw [editorLog_append]
  exact List.mem_append_left _ h

theorem published_entry {store : WorkflowStore ν} {action : EditorAction ν} {publication : PublishedDraft}
    (h : .published publication ∈ editorEntries store action) :
    ∃ userId current, action = .publish userId publication.workflowId publication.confirmed ∧
      store.selectScopedWorkflow userId publication.workflowId = some current ∧
      current.draftRevision = publication.confirmed ∧
      ∃ graph, parsePublishableGraph current.draftGraph = .ok graph := by
  cases hcommit : store.commit action with
  | error _ => cases action <;> simp [editorEntries, hcommit] at h
  | ok next =>
    cases action with
    | create userId id name graph => simp [editorEntries, hcommit, savedEntry] at h
    | update userId workflowId name expectedRevision graph => simp [editorEntries, hcommit, savedEntry] at h
    | setMembers members => simp [editorEntries] at h
    | publish userId workflowId expectedRevision =>
      obtain ⟨⟨summary, _⟩, hpublish, rfl⟩ := except_map_eq_ok.mp hcommit
      obtain ⟨current, graph, _, hselected, hrevision, hparsed, _⟩ := publishSqliteWorkflow_ok hpublish
      simp only [editorEntries, hcommit, publishedEntry, List.mem_map] at h
      obtain ⟨version, _, hentry⟩ := h
      cases hentry
      exact ⟨userId, current, rfl, hselected, hrevision, graph, hparsed⟩

variable [CanvasNumbers ν]

theorem confirmed_draft {xs ys : List (EditorAction ν)} {userId workflowId : String} {current : StoredWorkflow ν}
    {draft : SavedDraft ν} (hselected : (editorRun xs).selectScopedWorkflow userId workflowId = some current)
    (hdraft : .saved draft ∈ editorLog (xs ++ ys)) (hid : draft.workflowId = workflowId)
    (hrevision : draft.revision = current.draftRevision) : draft.graph = current.draftGraph := by
  obtain ⟨_, _, read, hsaved⟩ := (editorLedger xs).drafts workflowId current (selectScopedWorkflow_eq_some.mp hselected).2
  have hsame := (editorLedger (xs ++ ys)).saved_unique hdraft (mem_editorLog_append hsaved) hid hrevision
  rw [hsame]

theorem length_of_chain {α : Type} {f : α → Nat} {xs : List α} {n : Nat} (h : xs.map f = List.range' 1 n) :
    xs.map f = List.range' 1 xs.length := by
  have hlength := congrArg List.length h
  rw [List.length_map, List.length_range'] at hlength
  rw [h, hlength]

theorem publish_commits {store : WorkflowStore ν} {log : List (EditorEntry ν)} (h : DraftLedger store log)
    {userId workflowId : String} {current : StoredWorkflow ν} {graph : AuthoredWorkflowGraph ν}
    (hselected : store.selectScopedWorkflow userId workflowId = some current)
    (hparsed : parsePublishableGraph current.draftGraph = .ok graph) :
    .published ⟨workflowId, current.draftRevision, current.nextVersion⟩ ∈
      editorEntries store (.publish userId workflowId current.draftRevision) := by
  have hstored := (selectScopedWorkflow_eq_some.mp hselected).2
  have hid : current.id = workflowId := (Table.get?_eq_some.mp hstored).2
  obtain ⟨haccepted, _⟩ := h.drafts workflowId current hstored
  obtain ⟨compiledPlan, hcompiled⟩ := haccepted.compiles hparsed
  have hfree : store.versions.get? (workflowId, current.nextVersion) = none := by
    cases hrecord : store.versions.get? (workflowId, current.nextVersion) with
    | none => rfl
    | some record =>
      obtain ⟨publication, hmem, hpublication, hversion⟩ := h.records workflowId current.nextVersion record hrecord
      have hin := List.mem_map_of_mem (f := PublishedDraft.version) (mem_publicationsOf.mpr ⟨hmem, hpublication⟩)
      have hversionOf : store.versionOf workflowId = current.publishedVersion.getD 0 := by
        simp [WorkflowStore.versionOf, hstored]
      rw [h.versions, hversion, hversionOf, List.mem_range'_1, StoredWorkflow.nextVersion] at hin
      omega
  obtain ⟨versions, hversions⟩ := insert_isSome (x := publishedVersionOf current graph compiledPlan) (hid ▸ hfree)
  obtain ⟨summary, next, hpublish⟩ : ∃ summary next,
      store.publishSqliteWorkflow userId workflowId current.draftRevision = .ok (summary, next) := by
    simp [WorkflowStore.publishSqliteWorkflow, hselected, requireSome, requireThat, hparsed, hcompiled, hversions,
      mapWorkflow, haccepted.again, bind, Except.bind, pure, Except.pure]
  obtain ⟨_, _, _, hselected', _, _, _, _, hworkflows⟩ := publishSqliteWorkflow_ok hpublish
  obtain rfl := Option.some.inj (hselected.symm.trans hselected')
  have hcommit : store.commit (.publish userId workflowId current.draftRevision) = .ok next :=
    except_map_eq_ok.mpr ⟨_, hpublish, rfl⟩
  simp [editorEntries, hcommit, publishedEntry, hworkflows, StoredWorkflow.withVersion]

theorem losesNoUpdate_of_confirms {actions : List (EditorAction ν)}
    (h : EachStep WorkflowStore.step ConfirmsTrimmed WorkflowStore.empty actions) : LosesNoUpdate actions where
  chain id := length_of_chain ((editorLedger actions).saves id)
  read := (editorLedger actions).reads
  consecutive id := length_of_chain ((editorLedger actions).versions id)
  fixed xs ys hsplit key record hrecord := by
    rw [hsplit, editorRun, runActions_append]
    exact run_versions _ ys hrecord
  records := (editorLedger actions).records
  content publication hpublication := by
    obtain ⟨draft, hdraft, hid, hconfirmed, record, hrecord, hfrom⟩ := (editorLedger actions).published publication hpublication
    obtain ⟨xs, _, ys, rfl, hentry⟩ := mem_runOutputs.mp hpublication
    obtain ⟨userId, current, rfl, hselected, hrevision, hparsed⟩ := published_entry hentry
    have htrimmed : current.draftGraph.NamesTrimmed :=
      eachStep_iff.mp h xs _ ys rfl userId _ _ rfl current hselected hrevision hparsed
    have hgraph := confirmed_draft hselected hdraft hid (hconfirmed.trans hrevision.symm)
    have hsame : draft.graph.trimNames = draft.graph := by
      rw [hgraph]
      exact AuthoredWorkflowGraph.namesTrimmed_iff.mp htrimmed
    have hstored : record.graph = draft.graph := hfrom.graph.trans hsame
    exact ⟨draft, hdraft, hid, hconfirmed, record, hrecord, hstored, hstored ▸ hfrom.graphDigest, hfrom.compiled⟩

theorem LosesNoUpdate.confirms {actions : List (EditorAction ν)} (h : LosesNoUpdate actions) :
    EachStep WorkflowStore.step ConfirmsTrimmed WorkflowStore.empty actions := by
  refine eachStep_iff.mpr fun xs action ys hsplit => ?_
  rintro userId workflowId _ rfl current hselected rfl ⟨graph, hparsed⟩
  have hentry : .published ⟨workflowId, current.draftRevision, current.nextVersion⟩ ∈ editorLog actions :=
    mem_runOutputs.mpr ⟨xs, _, ys, hsplit, publish_commits (editorLedger xs) hselected hparsed⟩
  obtain ⟨draft, hdraft, hid, hconfirmed, record, hrecord, hholds⟩ := h.content _ hentry
  obtain ⟨saved, hsaved, hsavedId, hsavedRevision, record', hrecord', hfrom⟩ := (editorLedger actions).published _ hentry
  obtain rfl : draft = saved := (editorLedger actions).saved_unique hdraft hsaved (hid.trans hsavedId.symm)
    (hconfirmed.trans hsavedRevision.symm)
  obtain rfl : record = record' := Option.some.inj (hrecord.symm.trans hrecord')
  have hgraph : draft.graph = current.draftGraph :=
    confirmed_draft hselected (hsplit ▸ hdraft) hid hconfirmed
  refine AuthoredWorkflowGraph.namesTrimmed_iff.mpr ?_
  rw [← hgraph]
  exact hfrom.graph.symm.trans hholds.graph

/-- Publishing under the revision of the draft loses no update exactly when every
confirmed draft has names without outer white space: these the second parse keeps. -/
theorem drafts_lose_no_update (actions : List (EditorAction ν)) :
    LosesNoUpdate actions ↔ EachStep WorkflowStore.step ConfirmsTrimmed WorkflowStore.empty actions :=
  ⟨LosesNoUpdate.confirms, losesNoUpdate_of_confirms⟩

end Contract

section Sample

def decomposeAcute (s : String) : String :=
  String.ofList (s.toList.flatMap fun c => if c = '\u00B4' then [' ', '\u0301'] else [c])

theorem decomposeAcute_eq_self {s : String} (h : '\u00B4' ∉ s.toList) : decomposeAcute s = s := by
  have hchars : ∀ cs : List Char, '\u00B4' ∉ cs →
      (cs.flatMap fun c => if c = '\u00B4' then [' ', '\u0301'] else [c]) = cs := by
    intro cs hcs
    induction cs with
    | nil => rfl
    | cons c cs ih =>
      have hc : c ≠ '\u00B4' := fun h => hcs (h ▸ List.mem_cons_self)
      rw [List.flatMap_cons, if_neg hc, ih (List.not_mem_of_not_mem_cons hcs)]
      rfl
  rw [decomposeAcute, hchars s.toList h, String.ofList_toList]

theorem not_mem_decomposeAcute (s : String) : '\u00B4' ∉ (decomposeAcute s).toList := by
  rw [decomposeAcute, String.toList_ofList, List.mem_flatMap]
  rintro ⟨c, _, hc⟩
  split at hc
  · simp at hc
  · rename_i hne
    exact hne (List.mem_singleton.mp hc).symm

theorem not_mem_jsTrim {c : Char} {s : String} (h : c ∉ s.toList) : c ∉ (jsTrim s).toList :=
  fun hc => h ((jsTrim_sublist s).subset hc)

theorem decomposeAcute_visible (s : String) (h : jsTrim s ≠ "") : jsTrim (decomposeAcute s) ≠ "" := by
  obtain ⟨c, hmem, hvisible⟩ := jsTrim_ne_empty.mp h
  rw [jsTrim_ne_empty, decomposeAcute, String.toList_ofList]
  by_cases hc : c = '\u00B4'
  · exact ⟨'\u0301', List.mem_flatMap.mpr ⟨c, hmem, by simp [hc]⟩, by decide⟩
  · exact ⟨c, List.mem_flatMap.mpr ⟨c, hmem, by simp [hc]⟩, hvisible⟩

local instance acuteRuntime : JsRuntime SafeInteger :=
  { (inferInstance : JsRuntime SafeInteger) with
    normalizeNFKC := decomposeAcute
    normalizeNFKC_empty := rfl
    normalizeNFKC_trim := fun s => decomposeAcute_eq_self (not_mem_jsTrim (not_mem_decomposeAcute s))
    normalizeNFKC_collapse := fun s => decomposeAcute_eq_self fun hmem => by
      rw [collapseWhitespace, String.toList_ofList] at hmem
      rcases mem_collapseChars hmem with hspace | hold
      · exact absurd hspace (by decide)
      · exact not_mem_jsTrim (not_mem_decomposeAcute s) hold
    normalizeNFKC_visible := decomposeAcute_visible }

instance : CanvasNumbers SafeInteger where
  defaultViewport := by decide +kernel

def hookGraph (name : String) : AuthoredWorkflowGraph SafeInteger where
  edges := [⟨"00000000-0000-4000-8000-00000000000a", "rows", sampleTriggerId, "rows", sampleWebhookId⟩]
  nodes :=
    [(⟨sampleTriggerId, name, .tableRows none "00000000-0000-4000-8000-0000000000d2" none⟩, ⟨some 0, some 0⟩),
      (⟨sampleWebhookId, "Send", .sendWebhook "00000000-0000-4000-8000-0000000000d1"⟩, ⟨some 200, some 0⟩)]
  schemaVersion := 1
  viewport := none

def hookRun (name : String) : List (EditorAction SafeInteger) :=
  [.setMembers ["ada"], .create "ada" "hook" "Hook" (hookGraph name), .publish "ada" "hook" 1]

theorem drafts_lose_no_update_hook : LosesNoUpdate (hookRun "Rows") := by
  refine (drafts_lose_no_update (hookRun "Rows")).mpr ⟨?_, ?_, ?_, trivial⟩
  · rintro _ _ _ ⟨⟩
  · rintro _ _ _ ⟨⟩
  · rintro _ _ _ ⟨⟩ current hselected _ _
    have hnames : ((editorRun ((hookRun "Rows").take 2)).selectScopedWorkflow "ada" "hook").all (fun current =>
        current.draftGraph.nodes.all fun node => jsTrim node.1.name == node.1.name) = true := by decide +kernel
    have hstore : (editorRun ((hookRun "Rows").take 2)).selectScopedWorkflow "ada" "hook" = some current := hselected
    rw [hstore, Option.all_some, List.all_eq_true] at hnames
    exact fun node hnode => eq_of_beq (hnames node hnode)

/-- The trigger is named by an acute accent: its stored name begins with a space, which
the parse of the publication removes. -/
theorem drafts_lose_no_update_accent : ¬ LosesNoUpdate (hookRun "\u00B4") := by
  intro h
  have hconfirms := eachStep_iff.mp h.confirms ((hookRun "\u00B4").take 2) (.publish "ada" "hook" 1) [] rfl
  have hdraft : ((editorRun ((hookRun "\u00B4").take 2)).selectScopedWorkflow "ada" "hook").any (fun current =>
      current.draftRevision == 1 && (parsePublishableGraph current.draftGraph).toOption.isSome &&
        current.draftGraph.nodes.any fun node => jsTrim node.1.name != node.1.name) = true := by decide +kernel
  obtain ⟨current, hselected, hcurrent⟩ := (Option.any_eq_true _ _).mp hdraft
  simp only [Bool.and_eq_true, List.any_eq_true, beq_iff_eq, bne_iff_ne] at hcurrent
  obtain ⟨⟨hrevision, hparsed⟩, node, hnode, hname⟩ := hcurrent
  have hgraph : ∃ graph, parsePublishableGraph current.draftGraph = .ok graph := by
    cases hparse : parsePublishableGraph current.draftGraph with
    | ok graph => exact ⟨graph, rfl⟩
    | error _ =>
      rw [hparse] at hparsed
      cases hparsed
  exact hname (hconfirms "ada" "hook" 1 rfl current hselected hrevision hgraph node hnode)

end Sample

end ByokGrid
