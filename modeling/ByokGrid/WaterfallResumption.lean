import ByokGrid.Transition
import ByokGrid.Waterfall

/-! The attempts of a waterfall: each goes on after the providers whose outcome is saved, and a result
is that of the first provider which matched. -/

namespace ByokGrid

def WaterfallAttempt.decisive {ν : Type} (attempt : WaterfallAttempt ν) : Bool :=
  attempt.outcome ≠ .rateLimited

def lastOutcome (calls : List ProviderCall) (index : Nat) : Option ProviderOutcome :=
  ((calls.filter fun call => call.index = index).getLast?).bind ProviderCall.outcome

theorem lastOutcome_append {calls more : List ProviderCall} {index : Nat} (h : ∀ call ∈ more, call.index ≠ index) :
    lastOutcome (calls ++ more) index = lastOutcome calls index := by
  have hnone : (more.filter fun call => call.index = index) = [] :=
    List.filter_eq_nil_iff.mpr fun call hcall hindex => h call hcall (of_decide_eq_true hindex)
  rw [lastOutcome, lastOutcome, List.filter_append, hnone, List.append_nil]

@[simp] theorem lastOutcome_concat (calls : List ProviderCall) (call : ProviderCall) :
    lastOutcome (calls ++ [call]) call.index = call.outcome := by
  simp [lastOutcome, List.filter_append]

section Records

variable {ν : Type} (plan : HttpWaterfallRunPlan)

def decisiveEntries (log : List (WaterfallAttempt ν)) : List (String × String × Option ProviderOutcome) :=
  (log.filter WaterfallAttempt.decisive).map fun attempt => (attempt.providerId, attempt.providerName, some attempt.outcome)

def providerEntries (calls : List ProviderCall) (count : Nat) : List (String × String × Option ProviderOutcome) :=
  (plan.providers.take count).mapIdx fun index provider => (provider.providerId, provider.name, lastOutcome calls index)

/-- The log has the decisive outcomes of the first providers, in their order, and none of them matched. -/
structure RecordsOutcomes (calls : List ProviderCall) (log : List (WaterfallAttempt ν)) (count : Nat) : Prop where
  count_le : count ≤ plan.providers.length
  entries : decisiveEntries log = providerEntries plan calls count
  unmatched : ∀ attempt ∈ log, attempt.outcome ≠ .matched

variable {plan}

theorem providerEntries_append {calls more : List ProviderCall} {count : Nat} (h : ∀ call ∈ more, count ≤ call.index) :
    providerEntries plan (calls ++ more) count = providerEntries plan calls count := by
  rw [providerEntries, providerEntries, List.mapIdx_eq_mapIdx_iff]
  intro index hindex
  rw [List.length_take] at hindex
  rw [lastOutcome_append]
  intro call hcall heq
  have := h call hcall
  omega

theorem RecordsOutcomes.append {calls more : List ProviderCall} {log : List (WaterfallAttempt ν)} {count : Nat}
    (h : RecordsOutcomes plan calls log count) (hmore : ∀ call ∈ more, count ≤ call.index) :
    RecordsOutcomes plan (calls ++ more) log count :=
  ⟨h.count_le, h.entries.trans (providerEntries_append hmore).symm, h.unmatched⟩

variable {calls : List ProviderCall} {log : List (WaterfallAttempt ν)} {index : Nat} {provider : WaterfallProvider}
  {remaining : List WaterfallProvider}

theorem getElem?_of_drop (hdrop : plan.providers.drop index = provider :: remaining) : plan.providers[index]? = some provider := by
  have hhead := congrArg List.head? hdrop
  simpa [List.head?_drop] using hhead

theorem lt_of_drop (hdrop : plan.providers.drop index = provider :: remaining) : index < plan.providers.length :=
  (List.getElem?_eq_some_iff.mp (getElem?_of_drop hdrop)).1

theorem providerEntries_succ (hdrop : plan.providers.drop index = provider :: remaining) {outcome : Option ProviderOutcome} :
    providerEntries plan (calls ++ [⟨index, outcome⟩]) (index + 1) =
      providerEntries plan calls index ++ [(provider.providerId, provider.name, outcome)] := by
  have hbefore : providerEntries plan (calls ++ [⟨index, outcome⟩]) index = providerEntries plan calls index :=
    providerEntries_append fun call hcall => by rw [List.mem_singleton.mp hcall]
  have hlength : (plan.providers.take index).length = index := by
    have hlt := lt_of_drop hdrop
    rw [List.length_take]
    omega
  rw [providerEntries, List.take_add_one, getElem?_of_drop hdrop, Option.toList_some, List.mapIdx_append, hlength]
  rw [← hbefore, providerEntries]
  simp [lastOutcome, List.filter_append]

theorem RecordsOutcomes.limited (h : RecordsOutcomes plan calls log index) {attempt : WaterfallAttempt ν}
    (hlimited : attempt.outcome = .rateLimited) {outcome : Option ProviderOutcome} :
    RecordsOutcomes plan (calls ++ [⟨index, outcome⟩]) (log ++ [attempt]) index := by
  have happended : RecordsOutcomes plan (calls ++ [⟨index, outcome⟩]) log index :=
    h.append fun call hcall => by rw [List.mem_singleton.mp hcall]
  refine ⟨happended.count_le, ?_, ?_⟩
  · rw [← happended.entries]
    simp [decisiveEntries, WaterfallAttempt.decisive, hlimited]
  · intro logged hlogged
    rcases List.mem_append.mp hlogged with hold | hnew
    · exact h.unmatched logged hold
    · rw [List.mem_singleton.mp hnew, hlimited]
      decide

theorem decisiveEntries_concat (h : RecordsOutcomes plan calls log index)
    (hdrop : plan.providers.drop index = provider :: remaining) {attempt : WaterfallAttempt ν}
    (hid : attempt.providerId = provider.providerId) (hname : attempt.providerName = provider.name)
    (hdecisive : attempt.outcome ≠ .rateLimited) :
    decisiveEntries (log ++ [attempt]) = providerEntries plan (calls ++ [⟨index, some attempt.outcome⟩]) (index + 1) := by
  rw [providerEntries_succ hdrop, ← h.entries, ← hid, ← hname]
  simp [decisiveEntries, WaterfallAttempt.decisive, hdecisive]

theorem RecordsOutcomes.decided (h : RecordsOutcomes plan calls log index)
    (hdrop : plan.providers.drop index = provider :: remaining) {attempt : WaterfallAttempt ν}
    (hid : attempt.providerId = provider.providerId) (hname : attempt.providerName = provider.name)
    (hdecisive : attempt.outcome ≠ .rateLimited) (hunmatched : attempt.outcome ≠ .matched) :
    RecordsOutcomes plan (calls ++ [⟨index, some attempt.outcome⟩]) (log ++ [attempt]) (index + 1) := by
  refine ⟨lt_of_drop hdrop, decisiveEntries_concat h hdrop hid hname hdecisive, ?_⟩
  intro logged hlogged
  rcases List.mem_append.mp hlogged with hold | hnew
  · exact h.unmatched logged hold
  · rwa [List.mem_singleton.mp hnew]

end Records

section Attempts

variable {ν : Type} [WaterfallRuntime ν]

/-- The result of an attempt, given the outcomes learned of: every provider before the one which matched
was passed, and where none matched all of them were. -/
def ResultOfFirstMatch (plan : HttpWaterfallRunPlan) (world : WaterfallWorld ν) (calls : List ProviderCall)
    (result : WaterfallResult ν) : Prop :=
  (∃ index provider output value log, plan.providers[index]? = some provider ∧
      world.executeProvider index = some (.ok output) ∧ readResultPath output provider.resultPath = some value ∧
      hasMatchValue (some value) = true ∧ RecordsOutcomes plan calls log index ∧
      lastOutcome calls index = some .matched ∧
      result = ⟨log ++ [answeredAttempt provider output], some provider.providerId, some provider.name, value⟩) ∨
    ∃ log, RecordsOutcomes plan calls log plan.providers.length ∧ result = ⟨log, none, none, .null⟩

structure TraceSound (plan : HttpWaterfallRunPlan) (world : WaterfallWorld ν) (before : List ProviderCall) (index : Nat)
    (stored : StoredRunOutput ν) (trace : WaterfallTrace ν) : Prop where
  calls : trace.calls.map ProviderCall.index = List.range' index trace.calls.length
  bounded : index + trace.calls.length ≤ plan.providers.length
  output : trace.output = stored ∨ ∃ log next, trace.output = .progress ⟨log, (next : Nat)⟩ ∧ index ≤ next ∧
    RecordsOutcomes plan (before ++ trace.calls) log next
  ending : ∀ result, trace.ending = .result result → ResultOfFirstMatch plan world (before ++ trace.calls) result

variable {plan : HttpWaterfallRunPlan} {world : WaterfallWorld ν} {before : List ProviderCall} {index : Nat}
  {stored : StoredRunOutput ν} {log : List (WaterfallAttempt ν)} {provider : WaterfallProvider}
  {remaining : List WaterfallProvider}

theorem traceSound_call (hdrop : plan.providers.drop index = provider :: remaining) {outcome : Option ProviderOutcome}
    {output : StoredRunOutput ν} {ending : WaterfallEnding ν}
    (houtput : output = stored ∨ ∃ log next, output = .progress ⟨log, (next : Nat)⟩ ∧ index ≤ next ∧
      RecordsOutcomes plan (before ++ [⟨index, outcome⟩]) log next)
    (hending : ∀ result, ending = .result result → ResultOfFirstMatch plan world (before ++ [⟨index, outcome⟩]) result) :
    TraceSound plan world before index stored ⟨[⟨index, outcome⟩], output, ending⟩ :=
  ⟨rfl, lt_of_drop hdrop, houtput, hending⟩

theorem TraceSound.later {trace : WaterfallTrace ν} (h : TraceSound plan world before index stored trace) :
    ∀ call ∈ trace.calls, index ≤ call.index := by
  intro call hcall
  have hmem : call.index ∈ List.range' index trace.calls.length := by
    rw [← h.calls]
    exact List.mem_map_of_mem hcall
  exact (List.mem_range'_1.mp hmem).1

theorem TraceSound.afterCall {outcome : Option ProviderOutcome} {progress : WaterfallProgress ν} {trace : WaterfallTrace ν}
    {next : Nat} (h : TraceSound plan world (before ++ [⟨index, outcome⟩]) (index + 1) (.progress progress) trace)
    (hprogress : progress = ⟨log, (next : Nat)⟩) (hnext : next = index + 1)
    (hrecords : RecordsOutcomes plan (before ++ [⟨index, outcome⟩]) log next) :
    TraceSound plan world before index stored (trace.afterCall ⟨index, outcome⟩) := by
  subst hnext
  have hlater := h.later
  have hbounded := h.bounded
  refine ⟨?_, ?_, .inr ?_, ?_⟩
  · simp only [WaterfallTrace.afterCall, List.map_cons, List.length_cons, h.calls, List.range'_succ]
  · simp only [WaterfallTrace.afterCall, List.length_cons]
    omega
  · rcases h.output with hstored | ⟨log, next, houtput, hle, hrecorded⟩
    · refine ⟨log, index + 1, by rw [WaterfallTrace.afterCall, hstored, hprogress], by omega, ?_⟩
      simpa [WaterfallTrace.afterCall] using hrecords.append hlater
    · refine ⟨log, next, houtput, by omega, ?_⟩
      simpa [WaterfallTrace.afterCall] using hrecorded
  · intro result hresult
    simpa [WaterfallTrace.afterCall] using h.ending result hresult

theorem classifyProviderFailure_outcome (error : ProviderError) :
    (classifyProviderFailure error).outcome ≠ .matched ∧ (classifyProviderFailure error).outcome ≠ .noMatch := by
  cases error with
  | other => decide
  | connector error =>
    obtain ⟨code, message, retryable⟩ := error
    cases code <;> simp [classifyProviderFailure]

theorem decide_ne_proceed {outcome : ProviderOutcome} (h : outcome ≠ .noMatch) :
    decideWaterfallAfterProvider outcome ≠ .proceed := by
  cases outcome <;> simp_all [decideWaterfallAfterProvider]

theorem decide_retry {outcome : ProviderOutcome} :
    decideWaterfallAfterProvider outcome = .retryCurrent ↔ outcome = .rateLimited := by
  cases outcome <;> simp [decideWaterfallAfterProvider]

omit [WaterfallRuntime ν] in
theorem records_failure (h : RecordsOutcomes plan before log index)
    (hdrop : plan.providers.drop index = provider :: remaining) (error : ProviderError) :
    ∃ next : Nat, index ≤ next ∧
      (if decideWaterfallAfterProvider (classifyProviderFailure error).outcome = .retryCurrent then (index : Int)
        else index + 1) = next ∧
      RecordsOutcomes plan (before ++ [⟨index, some (classifyProviderFailure error).outcome⟩])
        (log ++ [failedAttempt provider (classifyProviderFailure error)]) next := by
  by_cases hlimited : (classifyProviderFailure error).outcome = .rateLimited
  · refine ⟨index, le_refl _, if_pos (decide_retry.mpr hlimited), ?_⟩
    exact h.limited hlimited
  · refine ⟨index + 1, by omega, if_neg fun hretry => hlimited (decide_retry.mp hretry), ?_⟩
    have hfailed : (failedAttempt provider (classifyProviderFailure error) : WaterfallAttempt ν).outcome =
      (classifyProviderFailure error).outcome := rfl
    exact hfailed ▸ h.decided hdrop rfl rfl hlimited (classifyProviderFailure_outcome error).1

theorem executeProviders_sound (hdrop : plan.providers.drop index = remaining)
    (h : RecordsOutcomes plan before log index) :
    TraceSound plan world before index stored (executeProviders world remaining index log stored) := by
  induction remaining generalizing index before log stored with
  | nil =>
    have hend : index = plan.providers.length := by
      have hlength := congrArg List.length hdrop
      have hle := h.count_le
      simp only [List.length_drop, List.length_nil] at hlength
      omega
    subst hend
    refine ⟨rfl, by simp [executeProviders], .inl rfl, ?_⟩
    rintro result ⟨⟩
    exact .inr ⟨log, by simpa [executeProviders] using h, rfl⟩
  | cons provider remaining ih =>
    have hrest : plan.providers.drop (index + 1) = remaining := by
      rw [← List.drop_drop, hdrop, List.drop_one, List.tail_cons]
    rw [executeProviders]
    cases hreply : world.executeProvider index with
    | none => exact traceSound_call hdrop (.inl rfl) nofun
    | some reply =>
      cases reply with
      | error error =>
        obtain ⟨next, hle, hnext, hrecords⟩ := records_failure h hdrop error
        have hproceed := decide_ne_proceed (classifyProviderFailure_outcome error).2
        simp only [hnext, if_neg hproceed]
        cases world.saveProgress index with
        | lost => exact traceSound_call hdrop (.inl rfl) nofun
        | savedThenStopped => exact traceSound_call hdrop (.inr ⟨_, next, rfl, hle, hrecords⟩) nofun
        | saved => exact traceSound_call hdrop (.inr ⟨_, next, rfl, hle, hrecords⟩) nofun
      | ok output =>
        cases hmatch : hasMatchValue (readResultPath output provider.resultPath) with
        | true =>
          have houtcome : providerOutcome provider output = .matched := by rw [providerOutcome, if_pos hmatch]
          obtain ⟨value, hvalue⟩ : ∃ value, readResultPath output provider.resultPath = some value := by
            cases hread : readResultPath output provider.resultPath with
            | none => rw [hread] at hmatch; cases hmatch
            | some value => exact ⟨value, rfl⟩
          simp only [houtcome, decideWaterfallAfterProvider, if_true, hvalue, Option.getD_some]
          refine traceSound_call hdrop (.inl rfl) ?_
          rintro result ⟨⟩
          refine .inl ⟨index, provider, output, value, log, getElem?_of_drop hdrop, hreply, hvalue, by rw [← hvalue]; exact hmatch, ?_, ?_, rfl⟩
          · exact h.append fun call hcall => by rw [List.mem_singleton.mp hcall]
          · exact lastOutcome_concat before ⟨index, some .matched⟩
        | false =>
          have houtcome : providerOutcome provider output = .noMatch := by
            rw [providerOutcome, if_neg (by rw [hmatch]; decide)]
          have hrecords : RecordsOutcomes plan (before ++ [⟨index, some .noMatch⟩])
              (log ++ [answeredAttempt provider output]) (index + 1) := by
            have hanswered : (answeredAttempt provider output).outcome = .noMatch := houtcome
            have hdecided : RecordsOutcomes plan (before ++ [⟨index, some (answeredAttempt provider output).outcome⟩])
                (log ++ [answeredAttempt provider output]) (index + 1) :=
              h.decided hdrop rfl rfl (by rw [hanswered]; decide) (by rw [hanswered]; decide)
            rwa [hanswered] at hdecided
          simp only [houtcome, decideWaterfallAfterProvider, reduceCtorEq, if_false]
          cases world.saveProgress index with
          | lost => exact traceSound_call hdrop (.inl rfl) nofun
          | savedThenStopped =>
            exact traceSound_call hdrop (.inr ⟨_, index + 1, by push_cast; rfl, by omega, hrecords⟩) nofun
          | saved => exact (ih hrest hrecords).afterCall (by push_cast; rfl) rfl hrecords

end Attempts

section Runs

variable {ν : Type} [WaterfallRuntime ν] (plan : HttpWaterfallRunPlan)

def WaterfallRun.progress (run : WaterfallRun ν) : WaterfallProgress ν :=
  readProgress run.output plan.providers.length

def WaterfallRun.recorded (run : WaterfallRun ν) : Nat :=
  (run.progress plan).nextProviderIndex.toNat

structure WaterfallRun.Sound (run : WaterfallRun ν) : Prop where
  nonnegative : 0 ≤ (run.progress plan).nextProviderIndex
  records : RecordsOutcomes plan run.calls (run.progress plan).attempts (run.recorded plan)

variable {plan}

omit [WaterfallRuntime ν] in
theorem WaterfallRun.sound_start : (WaterfallRun.start : WaterfallRun ν).Sound plan :=
  ⟨le_refl _, ⟨Nat.zero_le _, rfl, List.forall_mem_nil _⟩⟩

omit [WaterfallRuntime ν] in
theorem readProgress_progress {log : List (WaterfallAttempt ν)} {next count : Nat} (h : next ≤ count) :
    readProgress (.progress ⟨log, (next : Int)⟩) count = ⟨log, (next : Int)⟩ := by
  have hwithin : ¬ ((next : Int) < 0 ∨ (next : Int) > count) := by omega
  exact if_neg hwithin

theorem WaterfallRun.Sound.trace {run : WaterfallRun ν} (h : run.Sound plan) (haccepted : plan.accepted ν = true)
    (world : WaterfallWorld ν) :
    TraceSound plan world run.calls (run.recorded plan) run.output (executeWaterfallPlan plan run.output world) := by
  rw [executeWaterfallPlan, if_pos haccepted]
  exact executeProviders_sound rfl h.records

theorem WaterfallRun.Sound.attempt {run : WaterfallRun ν} (h : run.Sound plan) (world : WaterfallWorld ν) :
    (run.attempt plan world).Sound plan ∧ run.recorded plan ≤ (run.attempt plan world).recorded plan := by
  by_cases haccepted : plan.accepted ν = true
  · have htrace := h.trace haccepted world
    rw [WaterfallRun.attempt]
    rcases htrace.output with hsame | ⟨log, next, houtput, hle, hrecords⟩
    · rw [hsame]
      exact ⟨⟨h.nonnegative, h.records.append htrace.later⟩, le_refl _⟩
    · have hprogress := @readProgress_progress ν log _ _ hrecords.count_le
      rw [houtput]
      have hsound : (⟨run.calls ++ (executeWaterfallPlan plan run.output world).calls, .progress ⟨log, next⟩⟩ :
          WaterfallRun ν).Sound plan := by
        constructor
        · rw [progress, hprogress]
          exact Int.natCast_nonneg next
        · rw [recorded, progress, hprogress]
          exact hrecords
      refine ⟨hsound, ?_⟩
      rw [recorded.eq_def plan ⟨_, .progress _⟩, progress, hprogress]
      exact hle
  · rw [WaterfallRun.attempt, executeWaterfallPlan, if_neg haccepted, List.append_nil]
    exact ⟨h, le_refl _⟩

theorem WaterfallRun.sound_run (worlds : List (WaterfallWorld ν)) :
    (runActions (WaterfallRun.attempt plan) WaterfallRun.start worlds).Sound plan :=
  runActions_invariant (fun _ world h => (h.attempt world).1) sound_start worlds

theorem WaterfallRun.Sound.later {run : WaterfallRun ν} (h : run.Sound plan) (worlds : List (WaterfallWorld ν)) :
    ∃ calls, (runActions (WaterfallRun.attempt plan) run worlds).calls = run.calls ++ calls ∧
      ∀ call ∈ calls, run.recorded plan ≤ call.index := by
  induction worlds generalizing run with
  | nil => exact ⟨[], (List.append_nil _).symm, List.forall_mem_nil _⟩
  | cons world worlds ih =>
    obtain ⟨hsound, hgrows⟩ := h.attempt world
    obtain ⟨calls, hcalls, hlater⟩ := ih hsound
    refine ⟨(executeWaterfallPlan plan run.output world).calls ++ calls, ?_, ?_⟩
    · rw [← List.append_assoc]
      exact hcalls
    · intro call hcall
      rcases List.mem_append.mp hcall with hfirst | hrest
      · by_cases haccepted : plan.accepted ν = true
        · exact (h.trace haccepted world).later call hfirst
        · rw [executeWaterfallPlan, if_neg haccepted] at hfirst
          cases hfirst
      · exact hgrows.trans (hlater call hrest)

def WaterfallRun.RecordedNoMatch (plan : HttpWaterfallRunPlan) (run : WaterfallRun ν) (index : Nat) : Prop :=
  (((run.progress plan).attempts.filter WaterfallAttempt.decisive)[index]?).map WaterfallAttempt.outcome = some .noMatch

omit [WaterfallRuntime ν] in
theorem RecordsOutcomes.decisive_length {calls : List ProviderCall} {log : List (WaterfallAttempt ν)} {count : Nat}
    (h : RecordsOutcomes plan calls log count) : (log.filter WaterfallAttempt.decisive).length = count := by
  have hlength := congrArg List.length h.entries
  have hle := h.count_le
  simp only [decisiveEntries, providerEntries, List.length_map, List.length_mapIdx, List.length_take] at hlength
  omega

omit [WaterfallRuntime ν] in
theorem WaterfallRun.Sound.recorded_lt {run : WaterfallRun ν} (h : run.Sound plan) {index : Nat}
    (hrecorded : run.RecordedNoMatch plan index) : index < run.recorded plan := by
  rw [← h.records.decisive_length]
  by_contra hbeyond
  rw [RecordedNoMatch, List.getElem?_eq_none (by omega)] at hrecorded
  cases hrecorded

/-- Every attempt of a run asks the providers after the recorded ones in their order and no provider twice;
the log has the decisive outcome of each recorded provider in order; no later attempt asks a provider which is
recorded without a match, or one before it; and a result is that of the first provider which matched. -/
theorem waterfall_resumes (plan : HttpWaterfallRunPlan) (worlds : List (WaterfallWorld ν)) :
    let run := runActions (WaterfallRun.attempt plan) WaterfallRun.start worlds
    RecordsOutcomes plan run.calls (run.progress plan).attempts (run.recorded plan) ∧
      (∀ later index, run.RecordedNoMatch plan index →
        ∃ calls, (runActions (WaterfallRun.attempt plan) WaterfallRun.start (worlds ++ later)).calls = run.calls ++ calls ∧
          ∀ call ∈ calls, index < call.index) ∧
      ∀ world, let trace := executeWaterfallPlan plan run.output world
        trace.calls.map ProviderCall.index = List.range' (run.recorded plan) trace.calls.length ∧
          run.recorded plan + trace.calls.length ≤ plan.providers.length ∧
          ∀ result, trace.ending = .result result → ResultOfFirstMatch plan world (run.calls ++ trace.calls) result := by
  intro run
  have hsound : run.Sound plan := WaterfallRun.sound_run worlds
  refine ⟨hsound.records, fun later index hrecorded => ?_, fun world => ?_⟩
  · obtain ⟨calls, hcalls, hlater⟩ := hsound.later later
    refine ⟨calls, ?_, fun call hcall => (hsound.recorded_lt hrecorded).trans_le (hlater call hcall)⟩
    rw [runActions_append]
    exact hcalls
  · by_cases haccepted : plan.accepted ν = true
    · have htrace := hsound.trace haccepted world
      exact ⟨htrace.calls, htrace.bounded, htrace.ending⟩
    · rw [executeWaterfallPlan, if_neg haccepted]
      exact ⟨rfl, by simpa using hsound.records.count_le, nofun⟩

end Runs

end ByokGrid
