import ByokGrid.CellRunAgreement

/-! The contract of the cell runs, kept by every run of timely reports, and the
worker, whose reports are timely unless its bookkeeping fails. -/

namespace ByokGrid

section Contract

variable {ν : Type} [JsRuntime ν] [ConnectorRuntime ν]

/-- Cells and runs agree in every state, ended runs stay as they are, and the
report of a run which is no longer running is ignored. -/
structure CellRunContract (start : Database ν) (actions : List (CellRunAction ν)) : Prop where
  agreement : ∀ earlier later, actions = earlier ++ later →
    CellRunAgreement (runActions Database.stepCellRun start earlier)
  final : ∀ earlier middle later, actions = earlier ++ middle ++ later →
    Endures (runActions Database.stepCellRun start earlier) (runActions Database.stepCellRun start (earlier ++ middle))
  late : ∀ earlier action later input, actions = earlier ++ action :: later → action.reported = some input →
    ¬ ReportsRunning (runActions Database.stepCellRun start earlier) input →
    ReportIgnored (runActions Database.stepCellRun start earlier)
      (runActions Database.stepCellRun start (earlier ++ [action])) input

theorem runActions_endures (db : Database ν) (actions : List (CellRunAction ν)) :
    Endures db (runActions Database.stepCellRun db actions) := by
  induction actions generalizing db with
  | nil => exact endures_refl db
  | cons action actions ih => exact (stepCellRun_endures db action).trans (ih (db.stepCellRun action))

theorem cellRunContract_of_timely {start : Database ν} {actions : List (CellRunAction ν)} (hfresh : FreshRuns start)
    (hrun : EachStep Database.stepCellRun TimelyReport start actions) : CellRunContract start actions := by
  refine ⟨?_, ?_, ?_⟩
  · intro earlier later hactions
    rw [hactions] at hrun
    have hinv : CellRunInvariant (runActions Database.stepCellRun start earlier) :=
      hrun.append.1.invariant (fun _ _ h htimely => h.step htimely) hfresh.invariant
    exact hinv.agreement
  · intro earlier middle later _
    rw [runActions_append]
    exact runActions_endures _ middle
  · intro earlier action later input hactions hreported hlate
    rw [hactions] at hrun
    have htimely := hrun.append.2.1
    have hsame := late_report hreported hlate htimely
    have hnext : runActions Database.stepCellRun start (earlier ++ [action]) =
        runActions Database.stepCellRun start earlier := by
      rw [runActions_append]
      exact hsame
    rw [hnext]
    exact ⟨rfl, rfl⟩

theorem timely_of_cellRunContract {start : Database ν} {actions : List (CellRunAction ν)}
    (haccepted : EachStep Database.stepCellRun (fun db action => ∀ input failure stamp,
      action = .fail input failure stamp → setSqliteCellRunFailure db input failure stamp = .ok (db.stepCellRun action))
      start actions) (h : CellRunContract start actions) :
    EachStep Database.stepCellRun TimelyReport start actions := by
  have hlate : ∀ earlier later, actions = earlier ++ later →
      EachStep Database.stepCellRun TimelyReport (runActions Database.stepCellRun start earlier) later := by
    intro earlier later hactions
    induction later generalizing earlier with
    | nil => trivial
    | cons action later ih =>
      have hstep : runActions Database.stepCellRun start (earlier ++ [action]) =
          (runActions Database.stepCellRun start earlier).stepCellRun action := runActions_append start earlier [action]
      refine ⟨?_, ?_⟩
      · cases action with
        | fail input failure stamp =>
          by_cases hrunning : ReportsRunning (runActions Database.stepCellRun start earlier) input
          · exact Or.inl hrunning
          have hignored := h.late earlier _ later input hactions rfl hrunning
          rw [hactions] at haccepted
          rw [hstep] at hignored
          exact Or.inr (reportRepeats_of_ignored hrunning (haccepted.append.2.1 input failure stamp rfl) hignored)
        | _ => trivial
      · rw [← hstep]
        apply ih
        rw [hactions, List.append_assoc]
        rfl
  exact hlate [] actions rfl

def ConnectorOutcome.settled : ConnectorOutcome ν → Prop
  | .failed _ => True
  | .produced _ _ bookkeeping => bookkeeping = .ok ()

omit [JsRuntime ν] [ConnectorRuntime ν] in
theorem mark_outcome {db started : Database ν} {input : CellRunInput} {now : Int} {start : CellRunStart}
    (h : markSqliteCellRunRunning db input now = .ok (start, started)) :
    start ≠ .ready ∧ started = db ∨ start = .ready ∧ ReportsRunning started input := by
  simp only [markSqliteCellRunRunning, except_bind_eq_ok, requireSome_eq_ok] at h
  obtain ⟨run, hscope, h⟩ := h
  split at h
  · cases h
    refine Or.inl ⟨?_, rfl⟩
    intro hready
    cases hready
  · cases h
    refine Or.inl ⟨?_, rfl⟩
    intro hready
    cases hready
  · cases h
  · cases h
  · cases h
    obtain ⟨hrun, hmatch⟩ := runInScope_eq_some.mp hscope
    refine Or.inr ⟨rfl, startCellRun now run, runInScope_eq_some.mpr ⟨?_, hmatch⟩, rfl⟩
    have hkeeps : KeepsKey (@startCellRun ν now) := ⟨fun _ => rfl⟩
    apply (Table.mem_modify hkeeps).mpr
    refine ⟨run, hrun, ?_⟩
    rw [if_pos (decide_eq_true rfl)]

omit [JsRuntime ν] [ConnectorRuntime ν] in
theorem touchCredential_none (db : Database ν) (now : Int) : touchCredential db none now = db := by
  rw [touchCredential, Table.modify_eq_self]
  intro credential _ hsame
  cases of_decide_eq_true hsame

omit [JsRuntime ν] [ConnectorRuntime ν] in
theorem runConnector_settled {db : Database ν} {input : CellRunInput} {outcome : ConnectorOutcome ν}
    {execution : CellRun ν × Option Credential} {success : CellRunSuccess ν} {bookkeeping : Except StoreError Unit}
    (h : runConnector db input outcome = .ok (execution, success, bookkeeping)) (hsettled : outcome.settled) :
    bookkeeping = .ok () := by
  simp only [runConnector, except_bind_eq_ok] at h
  obtain ⟨_, _, h⟩ := h
  split at h
  · cases h
  · cases outcome with
    | failed _ => cases h
    | produced _ _ _ =>
      cases h
      exact hsettled

end Contract

section Sample

instance : ConnectorRuntime SafeInteger where
  sha256 text :=
    if text = "\x7b\"prompt\":\"hello\"\x7d" then "8a44725210b9dcd4fefd9f0eca07b70ae45e69274a3105fb25eb426a2cf8bbf4"
    else if text = "run:write:people:ada" then "e393ccf186bc78f0c80ecea4daa5112da0ac07f483290a154a628eacb2b27825"
    else ""
  requestUrl baseUrl queryParameter value := baseUrl ++ "?" ++ queryParameter ++ "=" ++ value
  hostname requestUrl := requestUrl

def greetingColumn : Column SafeInteger where
  id := "greeting"
  tableId := "people"
  name := "Greeting"
  kind := .connector
  valueType := .text
  configuration := .connectorAction
    { actionId := "greet"
      artifactSha256 := none
      connectorId := "acme.greeter"
      connectorVersion := "1.0.0"
      credentialId := some "key"
      inputBindings := [("prompt", .literal (.string "hello"))]
      outputValueType := .text
      publisherKeyIds := []
      runMode := .manual }
  archivedAt := none

def greetingDatabase : Database SafeInteger where
  grid :=
    { dataTables := ⟨[⟨"people", none⟩], by decide⟩
      columns := ⟨[greetingColumn], by decide⟩
      columnDependencies := Table.empty
      rows := ⟨[⟨"ada", "people", 1, none⟩], by decide⟩
      cells := fun _ _ => none }
  workspaceMembers := Table.empty
  credentials := ⟨[{ id := "key", connectorId := "acme.greeter" }], by decide⟩
  connectorRevocations := Table.empty
  cellRuns := Table.empty
  bulkRunBatches := Table.empty
  bulkRunItems := Table.empty
  rowSettlements := Table.empty
  webhookDestinations := Table.empty
  writebackDestinations := Table.empty
  outbox := Table.empty

def greetingInput : CellRunInput where
  columnId := "greeting"
  credentialId := some "key"
  inputFingerprint := "8a44725210b9dcd4fefd9f0eca07b70ae45e69274a3105fb25eb426a2cf8bbf4"
  rowId := "ada"
  runId := "run"

def greetingStamp (now : Int) : MutationStamp := ⟨"settlement", "event", now⟩

def greetingSuccess : CellRunSuccess SafeInteger := ⟨"acme.greeter", .string "hi", .text "hi"⟩

def greetingQueued : CellRunAction SafeInteger :=
  .queueAutomatic
    { columnId := "greeting", rowId := "ada", tableId := "people", runId := "run", eventId := "event", now := 0 }

def greetingFailure (now : Int) : CellRunAction SafeInteger :=
  .fail greetingInput ⟨"internal", "The connector run failed unexpectedly.", true⟩ (greetingStamp now)

theorem greetingDatabase_fresh : FreshRuns greetingDatabase := ⟨rfl, nofun⟩

/-- The first attempt fails, the second one succeeds. -/
theorem cellRunContract_of_timely_greeting : CellRunContract greetingDatabase
    [greetingQueued, .mark greetingInput 1, greetingFailure 2, .mark greetingInput 3,
      .succeed greetingInput greetingSuccess (greetingStamp 4)] :=
  cellRunContract_of_timely greetingDatabase_fresh ⟨trivial, trivial, Or.inl ⟨_, rfl, rfl⟩, trivial, trivial, trivial⟩

def greetingActions : List (CellRunAction SafeInteger) :=
  [greetingQueued, .mark greetingInput 1, .succeed greetingInput greetingSuccess (greetingStamp 2), greetingFailure 3]

def greetingAbandoned : Database SafeInteger :=
  executeSqliteCellRun (greetingDatabase.stepCellRun greetingQueued) greetingInput 0
    (.produced (.string "hi") (.text "hi") (.error (.failure "The store is busy."))) (greetingStamp 1)

theorem cellRunContract_broken : FreshRuns greetingDatabase ∧ ¬ CellRunContract greetingDatabase greetingActions ∧
    (greetingAbandoned.cellRuns.get? "run").map CellRun.status = some .succeeded ∧
    (greetingAbandoned.grid.cells "ada" "greeting").map Cell.status = some .queued := by
  refine ⟨greetingDatabase_fresh, fun h => ?_, rfl, rfl⟩
  have hagreement := h.agreement greetingActions [] rfl
  obtain ⟨run, hrun, _, _, hactive, _⟩ := hagreement.taken "ada" "greeting" ⟨.text "hi", .queued, 2⟩ rfl rfl
  have hstatus : (runActions Database.stepCellRun greetingDatabase greetingActions).cellRuns.records.map
    CellRun.status = [.succeeded] := rfl
  have hmem := List.mem_map_of_mem hrun (f := CellRun.status)
  rw [hstatus, List.mem_singleton] at hmem
  rw [hmem] at hactive
  cases hactive

end Sample

end ByokGrid
