import ByokGrid.WriteTransactions
import Mathlib.Data.Nat.Find
import Mathlib.Algebra.GroupWithZero.Nat

/-! The transactions of a handle run one at a time in call order, whatever the driver answers
and however its steps interleave. -/

namespace ByokGrid

theorem firstCoded_of_conflict {heap : Nat → ErrorObject} {room : Nat} {seen : List Nat} {error : ErrorValue}
    (h : isConflictFrom heap room seen error = true) :
    ∃ codes, FirstCoded heap error codes ∧ codes.any sqliteLockCode = true := by
  induction room generalizing seen error with
  | zero => cases h
  | succ room ih =>
    cases error with
    | primitive => cases h
    | object id =>
      rw [isConflictFrom] at h
      split at h
      · cases h
      split at h
      · rename_i hlock
        refine ⟨_, .here fun hnone => ?_, hlock⟩
        rw [hnone] at hlock
        cases hlock
      split at h
      · cases h
      rename_i hcodes
      split at h
      · cases h
      · rename_i cause hcause
        obtain ⟨codes, hfirst, hlock⟩ := ih h
        exact ⟨codes, .cause (not_not.mp hcodes) hcause hfirst, hlock⟩

section Calls

variable {α : Type} {heap : Nat → ErrorObject}

def TransactionAttempt.Retriable (heap : Nat → ErrorObject) (attempt : TransactionAttempt α) : Prop :=
  ∃ error, attempt.outcome = .error error ∧ acquisitionConflict heap attempt.callbackStarted error = true

theorem TransactionAttempt.Retriable.not_started {attempt : TransactionAttempt α} (h : attempt.Retriable heap) :
    attempt.callbackStarted = false := by
  obtain ⟨error, _, hconflict⟩ := h
  rw [acquisitionConflict, Bool.and_eq_true, Bool.not_eq_true'] at hconflict
  exact hconflict.1

theorem TransactionAttempt.Retriable.locked {attempt : TransactionAttempt α} (h : attempt.Retriable heap) :
    ∃ error codes, attempt.outcome = .error error ∧ FirstCoded heap error codes ∧ codes.any sqliteLockCode = true := by
  obtain ⟨error, herror, hconflict⟩ := h
  rw [acquisitionConflict, Bool.and_eq_true] at hconflict
  obtain ⟨codes, hfirst, hlock⟩ := firstCoded_of_conflict hconflict.2
  exact ⟨error, codes, herror, hfirst, hlock⟩

/-- How a call ends: with the outcome of its last transaction, unless the connection could not
be reset to try again. -/
structure Concluded (heap : Nat → ErrorObject) (attempts : List (TransactionAttempt α)) (outcome : Except ErrorValue α)
    (earlier : List (TransactionAttempt α)) (last : TransactionAttempt α) : Prop where
  divided : attempts = earlier ++ [last]
  bounded : attempts.length ≤ sqliteWriteAcquisitionMaxAttempts
  retried : ∀ attempt ∈ earlier, attempt.Retriable heap
  ended : last.outcome = outcome ∨
    last.Retriable heap ∧ attempts.length < sqliteWriteAcquisitionMaxAttempts ∧ ∃ error, outcome = .error error

def WriteCall.Valid (heap : Nat → ErrorObject) (call : WriteCall α) : Prop :=
  match call.phase with
  | .waiting => call.attempts = []
  | .attempting attempt _ => call.attempts.length + 1 = attempt ∧ attempt ≤ sqliteWriteAcquisitionMaxAttempts ∧
      ∀ attempt ∈ call.attempts, attempt.Retriable heap
  | .pausing attempt => call.attempts.length = attempt ∧ attempt < sqliteWriteAcquisitionMaxAttempts ∧ call.attempts ≠ [] ∧
      ∀ attempt ∈ call.attempts, attempt.Retriable heap
  | .finishing outcome => ∃ earlier last, Concluded heap call.attempts outcome earlier last
  | .settled outcome => ∃ earlier last, Concluded heap call.attempts outcome earlier last

def CallPhase.isWaiting : CallPhase α → Bool
  | .waiting => true
  | _ => false

def CallPhase.isSettled : CallPhase α → Bool
  | .settled _ => true
  | _ => false

inductive CallStep (heap : Nat → ErrorObject) (ready : Bool) (call : WriteCall α) : CallAction α → WriteCall α → Prop
  | start (waiting : call.phase = .waiting) (turn : ready = true) :
      CallStep heap ready call .start { call with phase := .attempting 1 false }
  | enter {attempt : Nat} (attempting : call.phase = .attempting attempt false) :
      CallStep heap ready call .enter { call with phase := .attempting attempt true }
  | commit {attempt : Nat} {callbackStarted : Bool} {value : α} (attempting : call.phase = .attempting attempt callbackStarted) :
      CallStep heap ready call (.commit value)
        { call with phase := .finishing (.ok value), attempts := call.attempts ++ [⟨callbackStarted, .ok value⟩] }
  | fail {attempt : Nat} {callbackStarted : Bool} {error : ErrorValue}
      (attempting : call.phase = .attempting attempt callbackStarted) :
      CallStep heap ready call (.fail error)
        { call with
          phase := caughtPhase heap attempt callbackStarted error
          attempts := call.attempts ++ [⟨callbackStarted, .error error⟩] }
  | resetFail {attempt : Nat} {error : ErrorValue} (pausing : call.phase = .pausing attempt) :
      CallStep heap ready call (.resetFail error) { call with phase := .finishing (.error error) }
  | resume {attempt : Nat} (pausing : call.phase = .pausing attempt) :
      CallStep heap ready call .resume { call with phase := .attempting (attempt + 1) false }
  | release {outcome : Except ErrorValue α} (finishing : call.phase = .finishing outcome) :
      CallStep heap ready call .release { call with phase := .settled outcome }
  | resolveTail {outcome : Except ErrorValue α} (settled : call.phase = .settled outcome) (turn : ready = true)
      (unresolved : call.tailResolved = false) : CallStep heap ready call .resolveTail { call with tailResolved := true }

theorem WriteCall.advance_cases {ready : Bool} {call next : WriteCall α} {action : CallAction α}
    (h : call.advance heap ready action = some next) : CallStep heap ready call action next := by
  unfold WriteCall.advance at h
  split at h
  · rename_i hphase
    split at h
    · rename_i hready
      cases h
      exact .start hphase hready
    · cases h
  · rename_i hphase
    cases h
    exact .enter hphase
  · rename_i hphase
    cases h
    exact .commit hphase
  · rename_i hphase
    cases h
    exact .fail hphase
  · rename_i hphase
    cases h
    exact .resetFail hphase
  · rename_i hphase
    cases h
    exact .resume hphase
  · rename_i hphase
    cases h
    exact .release hphase
  · rename_i outcome hphase
    split at h
    · rename_i hturn
      rw [Bool.and_eq_true, Bool.not_eq_true'] at hturn
      cases h
      exact .resolveTail hphase hturn.1 hturn.2
    · cases h
  · cases h

theorem CallStep.valid {ready : Bool} {call next : WriteCall α} {action : CallAction α}
    (h : CallStep heap ready call action next) (hvalid : call.Valid heap) : next.Valid heap := by
  unfold WriteCall.Valid at hvalid
  cases h with
  | start hphase =>
    simp only [hphase] at hvalid
    exact ⟨by rw [hvalid]; rfl, by decide, by rw [hvalid]; simp⟩
  | enter hphase =>
    simp only [hphase] at hvalid
    exact hvalid
  | commit hphase =>
    simp only [hphase] at hvalid
    obtain ⟨hlength, hbound, hretried⟩ := hvalid
    exact ⟨_, _, rfl, by simpa [hlength] using hbound, hretried, .inl rfl⟩
  | @fail attempt callbackStarted error hphase =>
    simp only [hphase] at hvalid
    obtain ⟨hlength, hbound, hretried⟩ := hvalid
    unfold WriteCall.Valid caughtPhase
    cases hconflict : acquisitionConflict heap callbackStarted error with
    | false => exact ⟨_, _, rfl, by simpa [hlength] using hbound, hretried, .inl rfl⟩
    | true =>
      by_cases hlast : attempt = sqliteWriteAcquisitionMaxAttempts
      · simp only [Bool.not_true, Bool.false_eq_true, if_false, if_pos hlast]
        exact ⟨_, _, rfl, by simpa [hlength] using hbound, hretried, .inl rfl⟩
      · simp only [Bool.not_true, Bool.false_eq_true, if_false, if_neg hlast]
        refine ⟨by simpa using hlength, by omega, by simp, fun other hother => ?_⟩
        rcases List.mem_append.mp hother with hold | hnew
        · exact hretried other hold
        · obtain rfl := List.mem_singleton.mp hnew
          exact ⟨error, rfl, hconflict⟩
  | @resetFail attempt error hphase =>
    simp only [hphase] at hvalid
    obtain ⟨hlength, hbound, hsome, hretried⟩ := hvalid
    obtain ⟨earlier, last, hattempts⟩ := List.eq_nil_or_concat call.attempts |>.resolve_left hsome
    rw [List.concat_eq_append] at hattempts
    have hfewer : call.attempts.length < sqliteWriteAcquisitionMaxAttempts := hlength ▸ hbound
    refine ⟨earlier, last, hattempts, Nat.le_of_lt hfewer, fun other hother => hretried other ?_, .inr ⟨hretried last ?_, hfewer, error, rfl⟩⟩
    · rw [hattempts]
      exact List.mem_append_left _ hother
    · rw [hattempts]
      exact List.mem_append_right _ List.mem_cons_self
  | resume hphase =>
    simp only [hphase] at hvalid
    obtain ⟨hlength, hbound, _, hretried⟩ := hvalid
    exact ⟨by rw [hlength], hbound, hretried⟩
  | release hphase =>
    simp only [hphase] at hvalid
    exact hvalid
  | resolveTail hphase =>
    simp only [hphase] at hvalid
    unfold WriteCall.Valid
    simp only [hphase]
    exact hvalid

end Calls

section Queue

variable {α : Type} {heap : Nat → ErrorObject}

def WriteQueue.settledAt (queue : WriteQueue α) (index : Nat) : Prop :=
  ∃ call outcome, queue.calls[index]? = some call ∧ call.phase = .settled outcome

structure WriteQueueInvariant (heap : Nat → ErrorObject) (queue : WriteQueue α) : Prop where
  valid : ∀ (index : Nat) (call : WriteCall α), queue.calls[index]? = some call → call.Valid heap
  ordered : ∀ (index : Nat) (call : WriteCall α), queue.calls[index]? = some call → call.phase ≠ .waiting →
    ∀ earlier < index, queue.settledAt earlier
  previous : ∀ (index : Nat) (call : WriteCall α), queue.calls[index]? = some call →
    call.previous = none ∧ (∀ earlier < index, queue.settledAt earlier) ∨ ∃ previous, call.previous = some previous ∧ previous + 1 = index
  tail : queue.tail = none ∧ (∀ earlier < queue.calls.length, queue.settledAt earlier) ∨
    ∃ last, queue.tail = some last ∧ last + 1 = queue.calls.length
  resolved : ∀ (index : Nat) (call : WriteCall α), queue.calls[index]? = some call → call.tailResolved = true →
    queue.settledAt index

structure WriteQueueStep (heap : Nat → ErrorObject) (queue : WriteQueue α) (index : Nat) (action : CallAction α)
    (call changed : WriteCall α) (next : WriteQueue α) : Prop where
  found : queue.calls[index]? = some call
  step : CallStep heap (queue.ready call) call action changed
  calls : next.calls = queue.calls.set index changed
  tail : next.tail = tailAfter queue.tail index action

theorem WriteQueue.run_cases {queue next : WriteQueue α} {index : Nat} {action : CallAction α}
    (h : queue.step heap (.run index action) = some next) :
    ∃ call changed, WriteQueueStep heap queue index action call changed next := by
  simp only [WriteQueue.step, Option.bind_eq_bind, Option.bind_eq_some_iff] at h
  obtain ⟨call, hcall, changed, hchanged, hnext⟩ := h
  cases hnext
  exact ⟨call, changed, hcall, WriteCall.advance_cases hchanged, rfl, rfl⟩

theorem WriteQueueStep.get? {queue next : WriteQueue α} {index : Nat} {action : CallAction α} {call changed : WriteCall α}
    (h : WriteQueueStep heap queue index action call changed next) (other : Nat) :
    next.calls[other]? = if other = index then some changed else queue.calls[other]? := by
  obtain ⟨hlength, _⟩ := List.getElem?_eq_some_iff.mp h.found
  rw [h.calls, List.getElem?_set]
  by_cases hother : index = other
  · rw [if_pos hother, if_pos hother.symm, if_pos hlength]
  · rw [if_neg hother, if_neg (Ne.symm hother)]

theorem CallStep.previous {ready : Bool} {call changed : WriteCall α} {action : CallAction α}
    (h : CallStep heap ready call action changed) : changed.previous = call.previous := by
  cases h <;> rfl

theorem CallStep.settled {ready : Bool} {call changed : WriteCall α} {action : CallAction α} {outcome : Except ErrorValue α}
    (h : CallStep heap ready call action changed) (hsettled : call.phase = .settled outcome) :
    changed.phase = .settled outcome := by
  cases h with
  | resolveTail hphase => exact hsettled
  | start hphase | enter hphase | commit hphase | fail hphase | resetFail hphase | resume hphase | release hphase =>
    cases hsettled.symm.trans hphase

theorem WriteQueueStep.settledAt {queue next : WriteQueue α} {index : Nat} {action : CallAction α} {call changed : WriteCall α}
    (h : WriteQueueStep heap queue index action call changed next) {other : Nat} (hsettled : queue.settledAt other) :
    next.settledAt other := by
  obtain ⟨found, outcome, hfound, hphase⟩ := hsettled
  have hget := h.get? other
  by_cases hother : other = index
  · subst hother
    rw [h.found, Option.some.injEq] at hfound
    subst hfound
    exact ⟨changed, outcome, by rw [hget, if_pos rfl], h.step.settled hphase⟩
  · exact ⟨found, outcome, by rw [hget, if_neg hother, hfound], hphase⟩

theorem settledAt_append {queue : WriteQueue α} {call : WriteCall α} {tail : Option Nat} {index : Nat}
    (h : queue.settledAt index) : ({ queue with calls := queue.calls ++ [call], tail := tail } : WriteQueue α).settledAt index := by
  obtain ⟨found, outcome, hfound, hphase⟩ := h
  exact ⟨found, outcome, List.getElem?_append_left (List.getElem?_eq_some_iff.mp hfound).1 ▸ hfound, hphase⟩

theorem WriteQueueInvariant.initial : WriteQueueInvariant heap ({} : WriteQueue α) where
  valid index call h := by simp at h
  ordered index call h := by simp at h
  previous index call h := by simp at h
  tail := .inl ⟨rfl, fun earlier h => absurd h (Nat.not_lt_zero earlier)⟩
  resolved index call h := by simp at h

theorem WriteQueueInvariant.call {queue : WriteQueue α} (h : WriteQueueInvariant heap queue) :
    WriteQueueInvariant heap { queue with calls := queue.calls ++ [{ previous := queue.tail }], tail := some queue.calls.length } := by
  have hcases : ∀ index call, (queue.calls ++ [{ previous := queue.tail }])[index]? = some call →
      queue.calls[index]? = some call ∨ index = queue.calls.length ∧ call = { previous := queue.tail } := by
    intro index call hcall
    rw [List.getElem?_append] at hcall
    split at hcall
    · exact .inl hcall
    · rename_i hlength
      obtain ⟨hindex, hget⟩ := List.getElem?_eq_some_iff.mp hcall
      rw [List.length_singleton] at hindex
      refine .inr ⟨by omega, ?_⟩
      rw [← hget]
      simp
  constructor
  · intro index call hcall
    rcases hcases index call hcall with hold | ⟨rfl, rfl⟩
    · exact h.valid index call hold
    · rfl
  · intro index call hcall hphase earlier hearlier
    rcases hcases index call hcall with hold | ⟨rfl, rfl⟩
    · exact settledAt_append (h.ordered index call hold hphase earlier hearlier)
    · exact absurd rfl hphase
  · intro index call hcall
    rcases hcases index call hcall with hold | ⟨rfl, rfl⟩
    · rcases h.previous index call hold with ⟨hnone, hsettled⟩ | hsome
      · exact .inl ⟨hnone, fun earlier hearlier => settledAt_append (hsettled earlier hearlier)⟩
      · exact .inr hsome
    · rcases h.tail with ⟨hnone, hsettled⟩ | hsome
      · exact .inl ⟨hnone, fun earlier hearlier => settledAt_append (hsettled earlier hearlier)⟩
      · exact .inr hsome
  · exact .inr ⟨queue.calls.length, rfl, by simp⟩
  · intro index call hcall hresolved
    rcases hcases index call hcall with hold | ⟨rfl, rfl⟩
    · exact settledAt_append (h.resolved index call hold hresolved)
    · cases hresolved

theorem WriteQueueInvariant.turn {queue : WriteQueue α} (h : WriteQueueInvariant heap queue) {index : Nat} {call : WriteCall α}
    (hcall : queue.calls[index]? = some call) (hready : queue.ready call = true) : ∀ earlier < index, queue.settledAt earlier := by
  intro earlier hearlier
  rcases h.previous index call hcall with ⟨_, hsettled⟩ | ⟨previous, hprevious, hindex⟩
  · exact hsettled earlier hearlier
  · obtain ⟨before, hbefore, hresolved⟩ : ∃ before, queue.calls[previous]? = some before ∧ before.tailResolved = true := by
      simpa [WriteQueue.ready, hprevious, Option.any_eq_true] using hready
    have hsettled := h.resolved previous before hbefore hresolved
    obtain ⟨same, outcome, hsame, hphase⟩ := hsettled
    rcases Nat.lt_or_eq_of_le (Nat.le_of_lt_succ (hindex ▸ hearlier)) with hless | rfl
    · exact h.ordered previous same hsame (by rw [hphase]; nofun) earlier hless
    · exact ⟨same, outcome, hsame, hphase⟩

theorem WriteQueueInvariant.run {queue next : WriteQueue α} {index : Nat} {action : CallAction α} {call changed : WriteCall α}
    (h : WriteQueueInvariant heap queue) (hstep : WriteQueueStep heap queue index action call changed next) :
    WriteQueueInvariant heap next := by
  have hlength : next.calls.length = queue.calls.length := by rw [hstep.calls, List.length_set]
  have hcases : ∀ other found, next.calls[other]? = some found →
      other = index ∧ found = changed ∨ other ≠ index ∧ queue.calls[other]? = some found := by
    intro other found hfound
    rw [hstep.get? other] at hfound
    split at hfound
    · rename_i heq
      exact .inl ⟨heq, (Option.some.inj hfound).symm⟩
    · rename_i hne
      exact .inr ⟨hne, hfound⟩
  constructor
  · intro other found hfound
    rcases hcases other found hfound with ⟨rfl, rfl⟩ | ⟨_, hold⟩
    · exact hstep.step.valid (h.valid _ _ hstep.found)
    · exact h.valid other found hold
  · intro other found hfound hphase earlier hearlier
    rcases hcases other found hfound with ⟨rfl, rfl⟩ | ⟨_, hold⟩
    · by_cases hwaiting : call.phase = .waiting
      · cases hstep.step with
        | start _ hready => exact hstep.settledAt (h.turn hstep.found hready earlier hearlier)
        | enter hother | commit hother | fail hother | resetFail hother | resume hother | release hother | resolveTail hother =>
          cases hwaiting.symm.trans hother
      · exact hstep.settledAt (h.ordered _ _ hstep.found hwaiting earlier hearlier)
    · exact hstep.settledAt (h.ordered other found hold hphase earlier hearlier)
  · intro other found hfound
    have hprevious : ∃ old, queue.calls[other]? = some old ∧ found.previous = old.previous := by
      rcases hcases other found hfound with ⟨rfl, rfl⟩ | ⟨_, hold⟩
      · exact ⟨call, hstep.found, hstep.step.previous⟩
      · exact ⟨found, hold, rfl⟩
    obtain ⟨old, hold, hsame⟩ := hprevious
    rw [hsame]
    rcases h.previous other old hold with ⟨hnone, hsettled⟩ | hsome
    · exact .inl ⟨hnone, fun earlier hearlier => hstep.settledAt (hsettled earlier hearlier)⟩
    · exact .inr hsome
  · rw [hlength, hstep.tail]
    have hkept : tailAfter queue.tail index action = queue.tail ∨
        tailAfter queue.tail index action = none ∧ queue.tail = some index ∧ action = .release := by
      cases action with
      | release =>
        by_cases htail : queue.tail = some index
        · exact .inr ⟨if_pos htail, htail, rfl⟩
        · exact .inl (if_neg htail)
      | start | enter | commit | fail | resetFail | resume | resolveTail => exact .inl rfl
    rcases hkept with hkept | ⟨hnone, htail, rfl⟩
    · rw [hkept]
      rcases h.tail with ⟨hnone, hsettled⟩ | hsome
      · exact .inl ⟨hnone, fun earlier hearlier => hstep.settledAt (hsettled earlier hearlier)⟩
      · exact .inr hsome
    · refine .inl ⟨hnone, fun earlier hearlier => ?_⟩
      have hlast : index + 1 = queue.calls.length := by
        rcases h.tail with ⟨hnone, _⟩ | ⟨last, hsome, hlast⟩
        · cases hnone.symm.trans htail
        · cases hsome.symm.trans htail
          exact hlast
      have hget := hstep.get? index
      have hordered := h.ordered index call hstep.found
      cases hstep.step with
      | @release outcome hphase =>
        rcases Nat.lt_or_eq_of_le (Nat.le_of_lt_succ (hlast ▸ hearlier)) with hless | rfl
        · exact hstep.settledAt (hordered (by rw [hphase]; nofun) earlier hless)
        · exact ⟨_, outcome, by rw [hget, if_pos rfl], rfl⟩
  · intro other found hfound hresolved
    rcases hcases other found hfound with ⟨rfl, rfl⟩ | ⟨_, hold⟩
    · refine hstep.settledAt ?_
      have hstored := hstep.found
      cases hstep.step with
      | resolveTail hsettled => exact ⟨call, _, hstored, hsettled⟩
      | start | enter | commit | fail | resetFail | resume | release => exact h.resolved _ call hstored hresolved
    · exact hstep.settledAt (h.resolved other found hold hresolved)

theorem WriteQueueInvariant.reachable {queue : WriteQueue α} (h : queue.Reachable heap) : WriteQueueInvariant heap queue := by
  induction h with
  | start => exact .initial
  | @step queue next action _ htaken ih =>
    cases action with
    | call =>
      cases htaken
      exact ih.call
    | run index action =>
      obtain ⟨call, changed, hstep⟩ := WriteQueue.run_cases htaken
      exact ih.run hstep

def CallPhase.remaining : CallPhase α → Nat
  | .waiting => 12
  | .attempting attempt false => 3 * (sqliteWriteAcquisitionMaxAttempts - attempt) + 5
  | .attempting attempt true => 3 * (sqliteWriteAcquisitionMaxAttempts - attempt) + 4
  | .pausing attempt => 3 * (sqliteWriteAcquisitionMaxAttempts - attempt) + 3
  | .finishing _ => 2
  | .settled _ => 1

def WriteCall.remaining (call : WriteCall α) : Nat :=
  call.phase.remaining - call.tailResolved.toNat

def WriteQueue.remaining (queue : WriteQueue α) : Nat :=
  (queue.calls.map WriteCall.remaining).sum

theorem CallPhase.remaining_pos (phase : CallPhase α) : 1 ≤ phase.remaining := by
  unfold CallPhase.remaining
  split <;> omega

theorem attempting_remaining (attempt : Nat) (callbackStarted : Bool) :
    3 * (sqliteWriteAcquisitionMaxAttempts - attempt) + 4 ≤ (CallPhase.attempting attempt callbackStarted : CallPhase α).remaining := by
  cases callbackStarted
  · exact Nat.le_succ _
  · exact Nat.le_refl _

theorem caughtPhase_remaining (attempt : Nat) (callbackStarted : Bool) (error : ErrorValue) :
    (caughtPhase heap attempt callbackStarted error : CallPhase α).remaining ≤
      3 * (sqliteWriteAcquisitionMaxAttempts - attempt) + 3 := by
  unfold caughtPhase
  split
  · exact Nat.le_add_left _ _
  split
  · exact Nat.le_add_left _ _
  · exact Nat.le_refl _

theorem CallStep.phase_lt {ready : Bool} {call changed : WriteCall α} {action : CallAction α}
    (h : CallStep heap ready call action changed) (hvalid : call.Valid heap) :
    changed.phase.remaining - changed.tailResolved.toNat < call.phase.remaining - call.tailResolved.toNat := by
  have hsame : ∀ phase : CallPhase α, phase.remaining < call.phase.remaining →
      phase.remaining - call.tailResolved.toNat < call.phase.remaining - call.tailResolved.toNat := by
    intro phase hless
    have htail : call.tailResolved.toNat ≤ 1 := Bool.toNat_le _
    exact Nat.sub_lt_sub_right (Nat.le_trans htail phase.remaining_pos) hless
  unfold WriteCall.Valid at hvalid
  cases h with
  | start hphase =>
    apply hsame
    rw [hphase]
    exact Nat.lt_succ_self 11
  | enter hphase =>
    apply hsame
    rw [hphase]
    exact Nat.lt_succ_self _
  | @commit attempt callbackStarted value hphase =>
    apply hsame
    rw [hphase]
    exact Nat.lt_of_lt_of_le (by simp only [CallPhase.remaining]; omega) (attempting_remaining attempt callbackStarted)
  | @fail attempt callbackStarted error hphase =>
    apply hsame
    rw [hphase]
    exact Nat.lt_of_le_of_lt (caughtPhase_remaining attempt callbackStarted error) (attempting_remaining attempt callbackStarted)
  | resetFail hphase =>
    apply hsame
    rw [hphase]
    simp only [CallPhase.remaining]
    omega
  | @resume attempt hphase =>
    apply hsame
    simp only [hphase] at hvalid
    rw [hphase]
    simp only [CallPhase.remaining]
    omega
  | release hphase =>
    apply hsame
    rw [hphase]
    exact Nat.lt_succ_self 1
  | resolveTail hphase _ hunresolved =>
    simp [hphase, CallPhase.remaining, hunresolved]

theorem sum_map_set_lt {β : Type} {f : β → Nat} {xs : List β} {index : Nat} {x y : β} (hx : xs[index]? = some x)
    (hless : f y < f x) : ((xs.set index y).map f).sum < (xs.map f).sum := by
  induction xs generalizing index with
  | nil => cases hx
  | cons head tail ih =>
    cases index with
    | zero =>
      cases hx
      simpa using hless
    | succ index =>
      have htail := @ih index hx
      simpa using htail

theorem WriteQueueStep.remaining_lt {queue next : WriteQueue α} {index : Nat} {action : CallAction α} {call changed : WriteCall α}
    (h : WriteQueueInvariant heap queue) (hstep : WriteQueueStep heap queue index action call changed next) :
    next.remaining < queue.remaining := by
  rw [WriteQueue.remaining, hstep.calls]
  exact sum_map_set_lt hstep.found (hstep.step.phase_lt (h.valid index call hstep.found))

theorem WriteQueueInvariant.stuck {queue : WriteQueue α} (h : WriteQueueInvariant heap queue)
    (hstuck : ∀ index action, queue.step heap (.run index action) = none) (index : Nat) (call : WriteCall α)
    (hcall : queue.calls[index]? = some call) : (∃ outcome, call.phase = .settled outcome) ∧ call.tailResolved = true := by
  induction index using Nat.strongRecOn generalizing call with
  | ind index ih =>
    have hready : queue.ready call = true := by
      unfold WriteQueue.ready
      rcases h.previous index call hcall with ⟨hnone, _⟩ | ⟨previous, hprevious, rfl⟩
      · rw [hnone]
      · have hlength := (List.getElem?_eq_some_iff.mp hcall).1
        have hbefore : queue.calls[previous]? = some queue.calls[previous] :=
          List.getElem?_eq_getElem (Nat.lt_of_succ_lt hlength)
        rw [hprevious]
        simp only [hbefore, Option.any_some]
        exact (ih previous (Nat.lt_succ_self previous) _ hbefore).2
    have hnone : ∀ action, call.advance heap true action = none := by
      intro action
      have hstep := hstuck index action
      simp only [WriteQueue.step, hcall, Option.bind_eq_bind, Option.bind_some, hready, Option.bind_eq_none_iff] at hstep
      exact Option.eq_none_iff_forall_not_mem.mpr fun next hnext => Option.some_ne_none _ (hstep next hnext)
    cases hphase : call.phase with
    | waiting =>
      have hstart := hnone .start
      simp [WriteCall.advance, hphase] at hstart
    | attempting attempt callbackStarted =>
      have hfail := hnone (.fail .primitive)
      simp [WriteCall.advance, hphase] at hfail
    | pausing attempt =>
      have hresume := hnone .resume
      simp [WriteCall.advance, hphase] at hresume
    | finishing outcome =>
      have hrelease := hnone .release
      simp [WriteCall.advance, hphase] at hrelease
    | settled outcome =>
      refine ⟨⟨outcome, rfl⟩, ?_⟩
      have hresolve := hnone .resolveTail
      simpa [WriteCall.advance, hphase] using hresolve

inductive WriteQueue.Steps (heap : Nat → ErrorObject) : WriteQueue α → Nat → WriteQueue α → Prop
  | refl (queue : WriteQueue α) : WriteQueue.Steps heap queue 0 queue
  | step {queue mid next : WriteQueue α} {count index : Nat} {action : CallAction α}
      (first : queue.step heap (.run index action) = some mid) (rest : WriteQueue.Steps heap mid count next) :
      WriteQueue.Steps heap queue (count + 1) next

theorem WriteQueue.Steps.bounded {queue next : WriteQueue α} {count : Nat} (h : WriteQueue.Steps heap queue count next)
    (hinvariant : WriteQueueInvariant heap queue) :
    WriteQueueInvariant heap next ∧ count + next.remaining ≤ queue.remaining ∧ next.calls.length = queue.calls.length := by
  induction h with
  | refl queue => exact ⟨hinvariant, Nat.le_of_eq (Nat.zero_add _), rfl⟩
  | step first _ ih =>
    obtain ⟨call, changed, hstep⟩ := WriteQueue.run_cases first
    obtain ⟨hnext, hcount, hlength⟩ := ih (hinvariant.run hstep)
    have hless := WriteQueueStep.remaining_lt hinvariant hstep
    refine ⟨hnext, by omega, ?_⟩
    rw [hlength, hstep.calls, List.length_set]

def WriteCall.begins (call : WriteCall α) : Nat :=
  call.attempts.length + match call.phase with
    | .attempting _ _ => 1
    | _ => 0

def WriteCall.callbacks (call : WriteCall α) : Nat :=
  call.attempts.countP TransactionAttempt.callbackStarted + match call.phase with
    | .attempting _ true => 1
    | _ => 0

def WriteCall.running (call : WriteCall α) : Prop :=
  call.phase ≠ .waiting ∧ ∀ outcome, call.phase ≠ .settled outcome

structure CallContract (heap : Nat → ErrorObject) (call : WriteCall α) : Prop where
  begins : call.begins ≤ 3
  callbacks : call.callbacks ≤ 1
  retries : ∀ earlier attempt later, call.attempts = earlier ++ attempt :: later → earlier.length + 1 < call.begins →
    attempt.callbackStarted = false ∧ ∃ error codes, attempt.outcome = .error error ∧ FirstCoded heap error codes ∧
      codes.any sqliteLockCode = true
  rejects : ∀ earlier last error, call.attempts = earlier ++ [last] → last.outcome = .error error →
    (last.callbackStarted = true ∨ isSqliteWriteAcquisitionConflict heap error = false ∨ call.attempts.length = 3) →
      call.phase = .finishing (.error error) ∨ call.phase = .settled (.error error)
  resolves : ∀ value, call.phase = .settled (.ok value) →
    ∃ last, call.attempts.getLast? = some last ∧ last.outcome = .ok value
  original : ∀ error, call.phase = .settled (.error error) → ∃ last, call.attempts.getLast? = some last ∧
    (last.outcome = .error error ∨ last.callbackStarted = false ∧ call.attempts.length < 3 ∧ ∃ cause,
      last.outcome = .error cause ∧ isSqliteWriteAcquisitionConflict heap cause = true)

theorem countP_retriable {attempts : List (TransactionAttempt α)} (h : ∀ attempt ∈ attempts, attempt.Retriable heap) :
    attempts.countP TransactionAttempt.callbackStarted = 0 := by
  rw [List.countP_eq_zero]
  intro attempt hattempt
  rw [(h attempt hattempt).not_started]
  exact Bool.false_ne_true

theorem TransactionAttempt.Retriable.not_rejected {attempt : TransactionAttempt α} {error : ErrorValue}
    (h : attempt.Retriable heap) (herror : attempt.outcome = .error error) :
    ¬ (attempt.callbackStarted = true ∨ isSqliteWriteAcquisitionConflict heap error = false) := by
  obtain ⟨other, hother, hconflict⟩ := h
  cases herror.symm.trans hother
  rw [acquisitionConflict, Bool.and_eq_true, Bool.not_eq_true'] at hconflict
  simp [hconflict]

theorem contract_of_retriable {call : WriteCall α} (hretried : ∀ attempt ∈ call.attempts, attempt.Retriable heap)
    (hless : call.attempts.length < 3) (hphase : ∀ outcome, call.phase ≠ .settled outcome) : CallContract heap call where
  begins := by
    unfold WriteCall.begins
    split <;> omega
  callbacks := by
    unfold WriteCall.callbacks
    rw [countP_retriable hretried]
    split <;> decide
  retries earlier attempt later hattempts _ := by
    have hretriable := hretried attempt (by rw [hattempts]; simp)
    exact ⟨hretriable.not_started, hretriable.locked⟩
  rejects earlier last error hattempts herror hreason := by
    have hretriable := hretried last (by rw [hattempts]; simp)
    rcases hreason with hstarted | hother | hlength
    · exact absurd (.inl hstarted) (hretriable.not_rejected herror)
    · exact absurd (.inr hother) (hretriable.not_rejected herror)
    · omega
  resolves value hsettled := absurd hsettled (hphase _)
  original error hsettled := absurd hsettled (hphase _)

theorem contract_of_concluded {call : WriteCall α} {outcome : Except ErrorValue α} {earlier : List (TransactionAttempt α)}
    {last : TransactionAttempt α} (h : Concluded heap call.attempts outcome earlier last)
    (hphase : call.phase = .finishing outcome ∨ call.phase = .settled outcome) : CallContract heap call where
  begins := by
    have hbegins : call.begins = call.attempts.length := by
      unfold WriteCall.begins
      rcases hphase with hphase | hphase <;> rw [hphase] <;> rfl
    exact hbegins ▸ h.bounded
  callbacks := by
    have hcallbacks : call.callbacks = call.attempts.countP TransactionAttempt.callbackStarted := by
      unfold WriteCall.callbacks
      rcases hphase with hphase | hphase <;> rw [hphase] <;> rfl
    rw [hcallbacks, h.divided, List.countP_append, countP_retriable h.retried, Nat.zero_add, List.countP_singleton]
    split <;> decide
  retries before attempt later hattempts hmore := by
    have hbegins : call.begins = call.attempts.length := by
      unfold WriteCall.begins
      rcases hphase with hphase | hphase <;> rw [hphase] <;> rfl
    have hretriable : attempt.Retriable heap := by
      refine h.retried attempt ?_
      rw [hbegins, hattempts, List.length_append, List.length_cons] at hmore
      have hlater : later ≠ [] := by
        rintro rfl
        simp at hmore
      have hdrop : earlier = before ++ attempt :: later.dropLast := by
        have hlast : (earlier ++ [last]).dropLast = earlier := List.dropLast_concat
        rw [← hlast, ← h.divided, hattempts, List.dropLast_append_of_ne_nil (by simp),
          List.dropLast_cons_of_ne_nil hlater]
      rw [hdrop]
      simp
    exact ⟨hretriable.not_started, hretriable.locked⟩
  rejects before other error hattempts herror hreason := by
    obtain ⟨_, hsame⟩ := List.append_inj' (h.divided.symm.trans hattempts) rfl
    cases hsame
    rcases h.ended with hended | ⟨hretriable, hless, _⟩
    · cases hended.symm.trans herror
      exact hphase
    · rcases hreason with hstarted | hother | hlength
      · exact absurd (.inl hstarted) (hretriable.not_rejected herror)
      · exact absurd (.inr hother) (hretriable.not_rejected herror)
      · exact absurd hless (by rw [hlength]; decide)
  resolves value hsettled := by
    have houtcome : outcome = .ok value := by
      rcases hphase with hphase | hphase
      · cases hphase.symm.trans hsettled
      · cases hphase.symm.trans hsettled
        rfl
    subst houtcome
    rcases h.ended with hended | ⟨_, _, _, herror⟩
    · exact ⟨last, by rw [h.divided, List.getLast?_concat], hended⟩
    · cases herror
  original error hsettled := by
    have houtcome : outcome = .error error := by
      rcases hphase with hphase | hphase
      · cases hphase.symm.trans hsettled
      · cases hphase.symm.trans hsettled
        rfl
    subst houtcome
    refine ⟨last, by rw [h.divided, List.getLast?_concat], ?_⟩
    rcases h.ended with hended | ⟨⟨cause, hcause, hconflict⟩, hless, _⟩
    · exact .inl hended
    · rw [acquisitionConflict, Bool.and_eq_true, Bool.not_eq_true'] at hconflict
      exact .inr ⟨hconflict.1, hless, cause, hcause, hconflict.2⟩

theorem WriteCall.Valid.contract {call : WriteCall α} (h : call.Valid heap) : CallContract heap call := by
  unfold WriteCall.Valid at h
  cases hphase : call.phase with
  | waiting =>
    simp only [hphase] at h
    exact contract_of_retriable (by simp [h]) (by simp [h]) (by rw [hphase]; nofun)
  | attempting attempt callbackStarted =>
    simp only [hphase] at h
    obtain ⟨hlength, hbound, hretried⟩ := h
    rw [sqliteWriteAcquisitionMaxAttempts] at hbound
    exact contract_of_retriable hretried (by omega) (by rw [hphase]; nofun)
  | pausing attempt =>
    simp only [hphase] at h
    obtain ⟨hlength, hbound, _, hretried⟩ := h
    exact contract_of_retriable hretried (hlength ▸ hbound) (by rw [hphase]; nofun)
  | finishing outcome =>
    simp only [hphase] at h
    obtain ⟨earlier, last, hconcluded⟩ := h
    exact contract_of_concluded hconcluded (.inl hphase)
  | settled outcome =>
    simp only [hphase] at h
    obtain ⟨earlier, last, hconcluded⟩ := h
    exact contract_of_concluded hconcluded (.inr hphase)

structure WritesSerialized (heap : Nat → ErrorObject) (queue : WriteQueue α) : Prop where
  exclusive : ∀ (first second : Nat) (call other : WriteCall α), queue.calls[first]? = some call →
    queue.calls[second]? = some other → call.running → other.running → first = second
  ordered : ∀ (index : Nat) (call : WriteCall α), queue.calls[index]? = some call → call.phase ≠ .waiting →
    ∀ earlier < index, queue.settledAt earlier
  calls : ∀ (index : Nat) (call : WriteCall α), queue.calls[index]? = some call → CallContract heap call
  finite : ∀ count next, WriteQueue.Steps heap queue count next → count ≤ queue.remaining
  unblocked : ∀ count next, WriteQueue.Steps heap queue count next → (∀ index action, next.step heap (.run index action) = none) →
    ∀ index < queue.calls.length, next.settledAt index

theorem writes_serialized {queue : WriteQueue α} (h : queue.Reachable heap) : WritesSerialized heap queue := by
  have hinvariant := WriteQueueInvariant.reachable h
  constructor
  · intro first second call other hcall hother hrunning hrunning'
    rcases Nat.lt_trichotomy first second with hless | heq | hless
    · obtain ⟨found, outcome, hfound, hphase⟩ := hinvariant.ordered second other hother hrunning'.1 first hless
      cases hfound.symm.trans hcall
      exact absurd hphase (hrunning.2 outcome)
    · exact heq
    · obtain ⟨found, outcome, hfound, hphase⟩ := hinvariant.ordered first call hcall hrunning.1 second hless
      cases hfound.symm.trans hother
      exact absurd hphase (hrunning'.2 outcome)
  · exact hinvariant.ordered
  · exact fun index call hcall => (hinvariant.valid index call hcall).contract
  · exact fun count next hsteps => Nat.le_trans (Nat.le_add_right _ _) (hsteps.bounded hinvariant).2.1
  · intro count next hsteps hstuck index hindex
    obtain ⟨hnext, _, hlength⟩ := hsteps.bounded hinvariant
    have hcall : next.calls[index]? = some next.calls[index] := List.getElem?_eq_getElem (hlength ▸ hindex)
    obtain ⟨⟨outcome, hphase⟩, _⟩ := hnext.stuck hstuck index _ hcall
    exact ⟨_, outcome, hcall, hphase⟩

end Queue

section Sample

theorem WriteQueue.Reachable.run {α : Type} {heap : Nat → ErrorObject} {queue next : WriteQueue α}
    (h : queue.Reachable heap) {actions : List (WriteAction α)} (hrun : queue.run heap actions = some next) :
    next.Reachable heap := by
  induction actions generalizing queue with
  | nil =>
    cases hrun
    exact h
  | cons action actions ih =>
    simp only [WriteQueue.run, Option.bind_eq_bind, Option.bind_eq_some_iff] at hrun
    obtain ⟨mid, hmid, hrest⟩ := hrun
    exact ih (h.step hmid) hrest

def lockErrors : Nat → ErrorObject
  | 0 => { cause := some (.object 1) }
  | _ => { code := some "SQLITE_BUSY" }

def contendedSchedule : List (WriteAction String) :=
  [.call, .call, .run 0 .start, .run 0 (.fail (.object 0)), .run 0 .resume, .run 0 .enter, .run 0 (.commit "saved"),
    .run 0 .release, .run 0 .resolveTail, .run 1 .start]

def contendedQueue : WriteQueue String where
  calls :=
    [{ previous := none
       phase := .settled (.ok "saved")
       tailResolved := true
       attempts := [⟨false, .error (.object 0)⟩, ⟨true, .ok "saved"⟩] },
     { previous := some 0
       phase := .attempting 1 false }]
  tail := some 1
  acquisitionRetries := 1

theorem writes_serialized_contended : WritesSerialized lockErrors contendedQueue :=
  writes_serialized (WriteQueue.Reachable.start.run (show ({} : WriteQueue String).run lockErrors contendedSchedule = _ from rfl))

end Sample

end ByokGrid
