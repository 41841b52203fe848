import ByokGrid.AirbyteHistory
import ByokGrid.PaddedNumbers

/-! The writer keeps its history safe and its open batches within their limits, whatever
the lines and the answers of the endpoints are. -/

namespace ByokGrid

section Batches

variable (writer : AirbyteDestinationWriter)

structure OpenBatch (pending : PendingBatch) : Prop where
  records : pending.records ≠ []
  counted : Counted pending
  count : pending.records.length ≤ writer.config.batchMaximumRecords
  bytes : pending.byteCount ≤ writer.config.batchMaximumBytes

def WriterState.waiting (s : WriterState) (key : String) : List String :=
  ((s.batches.get? key).map PendingBatch.records).getD []

theorem get?_filter_ne (batches : Table PendingBatch) (key other : String) :
    (batches.filter fun batch => batch.routeKey ≠ key).get? other = if other = key then none else batches.get? other := by
  simp only [Table.get?, Table.filter, List.find?_filter]
  by_cases hother : other = key
  · rw [if_pos hother, List.find?_eq_none]
    intro batch _ hbatch
    simp only [decide_eq_true_eq] at hbatch
    obtain ⟨hne, heq⟩ := hbatch
    exact hne (heq.trans hother)
  · rw [if_neg hother]
    congr 1
    funext batch
    by_cases hbatch : batch.routeKey = other
    · simp [Keyed.key, hbatch, hother]
    · simp [Keyed.key, hbatch]

structure Silent (s t : WriterState) : Prop where
  accepted : acceptedRecords t.history = acceptedRecords s.history
  emitted : emittedLines t.history = emittedLines s.history

theorem Silent.refl (s : WriterState) : Silent s s := ⟨rfl, rfl⟩

theorem Silent.trans {s t u : WriterState} (hst : Silent s t) (htu : Silent t u) : Silent s u :=
  ⟨htu.accepted.trans hst.accepted, htu.emitted.trans hst.emitted⟩

theorem Silent.acceptedFor {s t : WriterState} (h : Silent s t) (key : String) :
    ByokGrid.acceptedFor key t.history = ByokGrid.acceptedFor key s.history := by
  rw [ByokGrid.acceptedFor, h.accepted, ByokGrid.acceptedFor]

structure Flushed (key : String) (s t : WriterState) : Prop where
  batches : ∀ other, t.batches.get? other = if other = key then none else s.batches.get? other
  silent : Silent s t

theorem mem_sortCodeUnits {names : List String} {name : String} : name ∈ sortCodeUnits names ↔ name ∈ names :=
  (List.perm_insertionSort _ names).mem_iff

theorem Ensures.ofProtocol {α : Type} {result : Except AirbyteProtocolError α} {s : WriterState}
    {post : α → WriterState → Prop} {stopped : AirbyteStop → WriterState → Prop}
    (hok : ∀ a, result = .ok a → post a s) (herror : ∀ e, result = .error e → stopped (.protocol e) s) :
    Ensures (ofProtocol result) s post stopped := by
  cases result with
  | ok a => exact hok a rfl
  | error e => exact herror e rfl

theorem checkRecord_bytes {ν : Type} [JsRuntime ν] [IntegerNumbers ν] {record : AirbyteRecordMessage ν} {checked : String × String}
    (h : writer.checkRecord ν record = .ok checked) :
    emptyEnvelopeBytes + encodedBytes checked.2 ≤ writer.config.batchMaximumBytes := by
  simp only [AirbyteDestinationWriter.checkRecord, except_bind_eq_ok] at h
  obtain ⟨_, _, h⟩ := h
  split at h
  · simp only [except_bind_eq_ok, rejectIf_eq_ok, decide_eq_false_iff_not, not_lt] at h
    obtain ⟨normalized, _, _, hbytes, h⟩ := h
    cases h
    exact hbytes
  · cases h

end Batches

section Flush

variable (ν : Type) [IntegerNumbers ν] [ConnectorRuntime ν] (writer : AirbyteDestinationWriter)

/-- Between two lines: what was posted was applied, and what is accepted and not applied waits. -/
structure Checkpointed (s : WriterState) : Prop where
  safe : SafeHistory ν writer s.history
  open_ : ∀ key pending, s.batches.get? key = some pending → OpenBatch writer pending
  applied : postedBatches s.history = appliedBatches s.history
  sequence : s.batchSequence = (postedBatches s.history).length
  waiting : ∀ key, acceptedFor key s.history = batchedFor key (appliedBatches s.history) ++ s.waiting key

structure SafeStop (s : WriterState) (e : AirbyteStop) (t : WriterState) : Prop where
  checkpoint : e ≠ .checkpoint
  safe : SafeHistory ν writer t.history
  silent : Silent s t

variable {ν writer}

theorem SafeStop.after {s t u : WriterState} {e : AirbyteStop} (h : SafeStop ν writer t e u) (hst : Silent s t) :
    SafeStop ν writer s e u :=
  ⟨h.checkpoint, h.safe, hst.trans h.silent⟩

theorem Checkpointed.allApplied {s : WriterState} (h : Checkpointed ν writer s) (hempty : ∀ key, s.batches.get? key = none) :
    AllApplied s.history := by
  intro key
  have hwaiting : s.waiting key = [] := by
    rw [WriterState.waiting, hempty]
    rfl
  rw [h.waiting key, hwaiting, List.append_nil]

section Submit

variable {s : WriterState} (h : Checkpointed ν writer s) {pending : PendingBatch}
  (hget : s.batches.get? pending.routeKey = some pending)

include h hget

theorem Checkpointed.waiting_pending : acceptedFor pending.routeKey s.history =
    batchedFor pending.routeKey (appliedBatches s.history) ++ pending.records := by
  have hwaiting : s.waiting pending.routeKey = pending.records := by
    simp [WriterState.waiting, hget]
  rw [h.waiting, hwaiting]

theorem Checkpointed.post : SafeHistory ν writer
    (s.history ++ [.posted (writer.submission ν (s.batchSequence + 1) pending)]) := by
  have hopen := h.open_ _ pending hget
  refine h.safe.post ⟨hopen.records, rfl, rfl, hopen.count, hopen.counted.byteCount ▸ hopen.bytes⟩ (congrArg (· + 1) h.sequence) ?_
  rw [h.applied]
  exact (h.waiting_pending hget) ▸ List.prefix_refl _

theorem Checkpointed.apply {route : DestinationRoute} {exchanges : List Exchange} {t : WriterState}
    (hroute : writer.routeByKey pending.routeKey = some route)
    (hconfirms : Confirms ν route (writer.submission ν (s.batchSequence + 1) pending) exchanges)
    (hbatches : t.batches = s.batches.filter fun batch => batch.routeKey ≠ pending.routeKey)
    (hsequence : t.batchSequence = s.batchSequence + 1)
    (hhistory : t.history = s.history ++ [.posted (writer.submission ν (s.batchSequence + 1) pending)] ++
      exchanges.map .exchanged ++ [.applied (writer.submission ν (s.batchSequence + 1) pending)]) :
    Checkpointed ν writer t ∧ Flushed pending.routeKey s t := by
  generalize hsubmission : writer.submission ν (s.batchSequence + 1) pending = submission at hconfirms hhistory
  have hkey : submission.key = pending.routeKey := by rw [← hsubmission]; rfl
  have hrecords : submission.records = pending.records := by rw [← hsubmission]; rfl
  have hget' : ∀ other, t.batches.get? other = if other = pending.routeKey then none else s.batches.get? other := by
    intro other
    rw [hbatches]
    exact get?_filter_ne s.batches pending.routeKey other
  have hposted : postedBatches t.history = postedBatches s.history ++ [submission] := by
    simp [hhistory]
  have happlied : appliedBatches t.history = appliedBatches s.history ++ [submission] := by
    simp [hhistory]
  have hsilent : Silent s t := by
    constructor
    · simp [hhistory]
    · simp [hhistory]
  refine ⟨⟨?_, ?_, ?_, ?_, ?_⟩, hget', hsilent⟩
  · rw [hhistory]
    refine SafeHistory.applied ((hsubmission ▸ h.post hget).exchanged exchanges) ?_
    exact ⟨s.history, exchanges, route, by simp, hkey ▸ hroute, hconfirms⟩
  · intro other batch hbatch
    rw [hget'] at hbatch
    split at hbatch
    · cases hbatch
    · exact h.open_ other batch hbatch
  · rw [hposted, happlied, h.applied]
  · rw [hsequence, hposted, h.sequence, List.length_append, List.length_singleton]
  · intro other
    rw [hsilent.acceptedFor, happlied, batchedFor_append]
    by_cases hother : other = pending.routeKey
    · have hwaiting : t.waiting other = [] := by
        simp [WriterState.waiting, hget', hother]
      rw [hwaiting, hother, h.waiting_pending hget, List.append_nil]
      simp [batchedFor, hkey, hrecords]
    · have hwaiting : t.waiting other = s.waiting other := by
        simp [WriterState.waiting, hget', hother]
      have hnone : batchedFor other [submission] = [] := by
        simp [batchedFor, hkey, Ne.symm hother]
      rw [hwaiting, hnone, List.append_nil, h.waiting]

end Submit

theorem acceptPending_spec {s : WriterState} (h : Checkpointed ν writer s) (pending : PendingBatch) {serialized : String}
    (hstored : (s.batches.get? pending.routeKey).getD (PendingBatch.empty pending.routeKey) = pending)
    (hopen : OpenBatch writer (pending.push serialized)) :
    Ensures (acceptPending pending serialized) s (fun _ t => Checkpointed ν writer t ∧
      acceptedRecords t.history = acceptedRecords s.history ++ [(pending.routeKey, serialized)] ∧
      emittedLines t.history = emittedLines s.history) (SafeStop ν writer s) := by
  refine Ensures.modify ⟨⟨h.safe.accepted _ _, fun key batch hbatch => ?_, ?_, ?_, fun key => ?_⟩, by simp, by simp⟩
  · rw [get?_setBatch] at hbatch
    split at hbatch
    · cases hbatch
      exact hopen
    · exact h.open_ key batch hbatch
  · simpa using h.applied
  · simpa using h.sequence
  · have hwaiting : s.waiting pending.routeKey = pending.records := by
      have hrecords := congrArg PendingBatch.records hstored
      cases hget : s.batches.get? pending.routeKey with
      | none => simpa [WriterState.waiting, hget, PendingBatch.empty] using hrecords
      | some batch => simpa [WriterState.waiting, hget] using hrecords
    rw [acceptedFor_append, acceptedFor_accepted, h.waiting]
    by_cases hkey : key = pending.routeKey
    · subst hkey
      rw [hwaiting]
      simp [WriterState.waiting, get?_setBatch, PendingBatch.push]
    · have hroute : key ≠ (pending.push serialized).routeKey := hkey
      simp [WriterState.waiting, get?_setBatch, hroute, Ne.symm hkey]

variable [JsRuntime ν] [UrlRuntime]

theorem flush_spec {s : WriterState} (h : Checkpointed ν writer s) (key : String) :
    Ensures (writer.flush ν key) s (fun _ t => Checkpointed ν writer t ∧ Flushed key s t) (SafeStop ν writer s) := by
  refine Ensures.bind (Ensures.get ?_)
  cases hget : s.batches.get? key with
  | none =>
    refine Ensures.pure ⟨h, fun other => ?_, Silent.refl s⟩
    split
    · rename_i heq
      rw [heq, hget]
    · rfl
  | some pending =>
    obtain rfl : pending.routeKey = key := (Table.get?_eq_some.mp hget).2
    have hopen := h.open_ _ pending hget
    have hlength : decide (pending.records.length ≠ 0) = true := by simpa using hopen.records
    simp only [Option.filter, hlength, if_true]
    refine Ensures.bind (Ensures.stopIf (fun hwrong => ?_) fun _ => ?_)
    · simp [hopen.counted.byteCount] at hwrong
    · cases hroute : writer.routeByKey pending.routeKey with
      | none => exact Ensures.throw ⟨by simp, h.safe, Silent.refl s⟩
      | some route =>
        refine Ensures.bind (Ensures.modify (Ensures.bind ((submitBatch_spec ν route _ _ _).mono ?_ ?_)))
        · rintro _ t ⟨exchanges, hconfirms, hexchanged⟩
          refine Ensures.modify (h.apply hget hroute hconfirms ?_ hexchanged.batchSequence ?_)
          · exact congrArg (fun batches => Table.filter batches fun batch => batch.routeKey ≠ pending.routeKey)
              hexchanged.batches
          · exact congrArg (· ++ [AirbyteEvent.applied _]) hexchanged.history
        · rintro e t ⟨hne, exchanges, hexchanged⟩
          refine ⟨hne, ?_, ?_, ?_⟩
          · rw [hexchanged.history]
            exact (h.post hget).exchanged exchanges
          · simp [hexchanged.history]
          · simp [hexchanged.history]

theorem flushAll_spec {s : WriterState} (h : Checkpointed ν writer s) :
    Ensures (writer.flushAll ν) s (fun _ t => Checkpointed ν writer t ∧ Silent s t ∧ ∀ key, t.batches.get? key = none)
      (SafeStop ν writer s) := by
  refine Ensures.bind (Ensures.get ?_)
  have hloop := @Ensures.forEach _ _ _ s (sortCodeUnits (s.batches.records.map PendingBatch.routeKey)) (writer.flush ν)
    (fun passed t => Checkpointed ν writer t ∧ Silent s t ∧
      ∀ key, (key ∈ passed → t.batches.get? key = none) ∧ (s.batches.get? key = none → t.batches.get? key = none))
    (fun _ e t => SafeStop ν writer s e t)
    (fun passed key rest t _ ⟨hcheckpointed, hsilent, hnone⟩ => ?_)
    ⟨h, Silent.refl s, fun key => ⟨fun hmem => absurd hmem List.not_mem_nil, fun hnone => hnone⟩⟩
  · refine hloop.mono (fun _ t ⟨hcheckpointed, hsilent, hnone⟩ => ⟨hcheckpointed, hsilent, fun key => ?_⟩)
      fun e t ⟨_, _, _, _, hstop⟩ => hstop
    cases hget : s.batches.get? key with
    | none => exact (hnone key).2 hget
    | some pending =>
      obtain ⟨hmem, hkey⟩ := Table.get?_eq_some.mp hget
      exact (hnone key).1 (mem_sortCodeUnits.mpr (List.mem_map.mpr ⟨pending, hmem, hkey⟩))
  · refine (flush_spec hcheckpointed key).mono (fun _ u ⟨hnext, hflushed⟩ => ?_) fun e u hu => hu.after hsilent
    refine ⟨hnext, hsilent.trans hflushed.silent, fun other => ?_⟩
    rw [hflushed.batches]
    by_cases hother : other = key
    · simp [hother]
    · refine ⟨fun hmem => ?_, fun hold => ?_⟩
      · rw [if_neg hother]
        rcases List.mem_append.mp hmem with hpassed | hlast
        · exact (hnone other).1 hpassed
        · exact absurd (List.mem_singleton.mp hlast) hother
      · rw [if_neg hother]
        exact (hnone other).2 hold

theorem acceptRecord_spec {s : WriterState} (h : Checkpointed ν writer s) (record : AirbyteRecordMessage ν) :
    Ensures (writer.acceptRecord ν record) s (fun _ t => Checkpointed ν writer t ∧
      acceptedRecords t.history = acceptedRecords s.history ++ (writer.checkRecord ν record).toOption.toList ∧
      emittedLines t.history = emittedLines s.history) (SafeStop ν writer s) := by
  refine Ensures.bind (Ensures.ofProtocol (fun checked hchecked => ?_) fun e he => ?_)
  · obtain ⟨key, serialized⟩ := checked
    have hbytes := checkRecord_bytes writer hchecked
    have hpositive := writer.config.records.1
    have hrecord : (writer.checkRecord ν record).toOption.toList = [(key, serialized)] := by rw [hchecked]; rfl
    rw [hrecord]
    have hfresh : OpenBatch writer ((PendingBatch.empty key).push serialized) := by
      refine ⟨List.cons_ne_nil _ _, (Counted.empty key).push serialized, hpositive, ?_⟩
      simpa [PendingBatch.push, PendingBatch.grown, PendingBatch.empty] using hbytes
    refine Ensures.bind (Ensures.get ?_)
    dsimp only
    split
    · refine Ensures.bind ((flush_spec h key).mono (fun _ t hflush => ?_) fun _ _ h => h)
      obtain ⟨hnext, hflushed⟩ := hflush
      have hnone : t.batches.get? key = none := by rw [hflushed.batches, if_pos rfl]
      refine (acceptPending_spec hnext (PendingBatch.empty key) ?_ hfresh).mono ?_ ?_
      · rw [show (PendingBatch.empty key).routeKey = key from rfl, hnone]
        rfl
      · rintro _ u ⟨hlast, haccepted, hemitted⟩
        exact ⟨hlast, haccepted.trans (by rw [hflushed.silent.accepted]; rfl), hemitted.trans hflushed.silent.emitted⟩
      · exact fun e u hu => hu.after hflushed.silent
    · rename_i hfits
      obtain ⟨hcount, hgrown⟩ := not_or.mp hfits
      cases hget : s.batches.get? key with
      | none =>
        refine (acceptPending_spec h (PendingBatch.empty key) ?_ hfresh).mono (fun _ _ h => h) fun _ _ h => h
        rw [show (PendingBatch.empty key).routeKey = key from rfl, hget]
        rfl
      | some pending =>
        rw [hget] at hcount hgrown
        obtain rfl : pending.routeKey = key := (Table.get?_eq_some.mp hget).2
        have hopen := h.open_ _ pending hget
        refine (acceptPending_spec h pending (by rw [hget]; rfl) ?_).mono (fun _ _ h => h) fun _ _ h => h
        refine ⟨by simp [PendingBatch.push], hopen.counted.push serialized, ?_, not_lt.mp hgrown⟩
        simp only [PendingBatch.push, List.length_append, List.length_singleton]
        exact not_le.mp hcount
  · exact ⟨by simp, h.safe, Silent.refl s⟩

structure Accepted (ν : Type) [JsRuntime ν] [IntegerNumbers ν] (writer : AirbyteDestinationWriter) (lines : List String)
    (history : List AirbyteEvent) : Prop where
  records : acceptedRecords history = lines.filterMap (writer.recordOf ν)
  states : emittedLines history = lines.filter (isStateLine ν)

theorem acceptLine_spec {s : WriterState} (h : Checkpointed ν writer s) {passed : List String} (line : String)
    (haccepted : Accepted ν writer passed s.history) :
    Ensures (writer.acceptLine ν line) s
      (fun _ t => Checkpointed ν writer t ∧ Accepted ν writer (passed ++ [line]) t.history) (SafeStop ν writer s) := by
  refine Ensures.bind (Ensures.ofProtocol (fun parsed hparsed => ?_) fun e he => ⟨by simp, h.safe, Silent.refl s⟩)
  have hnext : ∀ {t : WriterState}, acceptedRecords t.history = acceptedRecords s.history ++ (writer.recordOf ν line).toList →
      emittedLines t.history = emittedLines s.history ++ [line].filter (isStateLine ν) →
      Accepted ν writer (passed ++ [line]) t.history := by
    intro t hrecords hstates
    refine ⟨?_, ?_⟩
    · rw [hrecords, haccepted.records, List.filterMap_append, filterMap_cons_toList, List.filterMap_nil, List.append_nil]
    · rw [hstates, haccepted.states, List.filter_append]
  cases parsed with
  | skip =>
    refine Ensures.pure ⟨h, hnext ?_ ?_⟩
    · simp [AirbyteDestinationWriter.recordOf, hparsed]
    · simp [isStateLine, hparsed]
  | record record =>
    refine (acceptRecord_spec h record).mono (fun _ t ⟨hcheckpointed, hrecords, hstates⟩ => ?_) fun _ _ h => h
    refine ⟨hcheckpointed, hnext ?_ ?_⟩
    · rw [hrecords, AirbyteDestinationWriter.recordOf, hparsed]
    · simp [isStateLine, hparsed, hstates]
  | state =>
    refine Ensures.bind ((flushAll_spec h).mono (fun _ t ⟨hcheckpointed, hsilent, hnone⟩ => ?_) fun _ _ h => h)
    refine Ensures.modify ⟨⟨hcheckpointed.safe.emit line (hcheckpointed.allApplied hnone), ?_, ?_, ?_, ?_⟩, hnext ?_ ?_⟩
    · exact hcheckpointed.open_
    · simpa using hcheckpointed.applied
    · simpa using hcheckpointed.sequence
    · intro key
      simpa [acceptedFor, WriterState.waiting] using hcheckpointed.waiting key
    · simp [AirbyteDestinationWriter.recordOf, hparsed, hsilent.accepted]
    · simp [isStateLine, hparsed, hsilent.emitted]

structure WriteStopped (ν : Type) [JsRuntime ν] [IntegerNumbers ν] [ConnectorRuntime ν]
    (writer : AirbyteDestinationWriter) (lines : List String) (e : AirbyteStop) (t : WriterState) : Prop where
  checkpoint : e ≠ .checkpoint
  safe : SafeHistory ν writer t.history
  passed : ∃ passed rest, lines = passed ++ rest ∧ Accepted ν writer passed t.history

theorem write_spec (lines : List String) (outcomes : List FetchOutcome) (clock : List Int) :
    Ensures (writer.write ν lines) (WriterState.start outcomes clock)
      (fun _ t => SafeHistory ν writer t.history ∧ Accepted ν writer lines t.history ∧ AllApplied t.history ∧
        postedBatches t.history = appliedBatches t.history)
      (WriteStopped ν writer lines) := by
  have hstart : Checkpointed ν writer (WriterState.start outcomes clock) :=
    ⟨SafeHistory.nil ν writer, (fun _ _ h => nomatch h), rfl, rfl, fun _ => rfl⟩
  have hstop : ∀ {passed rest : List String} {s t : WriterState} {e : AirbyteStop}, lines = passed ++ rest →
      Accepted ν writer passed s.history → SafeStop ν writer s e t → WriteStopped ν writer lines e t := by
    intro passed rest s t e hsplit haccepted hsafe
    refine ⟨hsafe.checkpoint, hsafe.safe, passed, rest, hsplit, ?_⟩
    exact ⟨hsafe.silent.accepted.trans haccepted.records, hsafe.silent.emitted.trans haccepted.states⟩
  have hloop := @Ensures.forEach _ _ _ (WriterState.start outcomes clock) lines (writer.acceptLine ν)
    (fun passed t => Checkpointed ν writer t ∧ Accepted ν writer passed t.history)
    (fun _ e t => WriteStopped ν writer lines e t)
    (fun passed line rest s hsplit ⟨hcheckpointed, haccepted⟩ =>
      (acceptLine_spec hcheckpointed line haccepted).mono (fun _ _ h => h) fun _ _ h => hstop hsplit haccepted h)
    ⟨hstart, rfl, rfl⟩
  refine Ensures.bind (hloop.mono (fun _ s ⟨hcheckpointed, haccepted⟩ => ?_) fun e t ⟨_, _, _, _, h⟩ => h)
  refine (flushAll_spec hcheckpointed).mono (fun _ t ⟨hlast, hsilent, hnone⟩ => ?_) fun e t h => ?_
  · exact ⟨hlast.safe, ⟨hsilent.accepted.trans haccepted.records, hsilent.emitted.trans haccepted.states⟩,
      hlast.allApplied hnone, hlast.applied⟩
  · exact hstop (List.append_nil lines).symm haccepted h

end Flush

theorem takeWhile_digits (n : Nat) (rest : List Char) :
    ((toString n).toList ++ ':' :: rest).takeWhile Char.isDigit = (toString n).toList := by
  have hdigits : ∀ c ∈ (toString n).toList, c.isDigit = true := by
    intro c hc
    rw [Nat.toString_eq_ofList_toDigits, String.toList_ofList] at hc
    exact Nat.isDigit_of_mem_toDigits (by decide) (by decide) hc
  rw [List.takeWhile_append_of_pos hdigits]
  simp

section Keys

variable {ν : Type} [ConnectorRuntime ν] (writer : AirbyteDestinationWriter)

theorem idempotencyKey_sequence {m n : Nat} {body other : String}
    (h : writer.idempotencyKey ν m body = writer.idempotencyKey ν n other) : m = n := by
  have htexts := congrArg String.toList h
  simp only [AirbyteDestinationWriter.idempotencyKey, String.toList_append, List.append_assoc,
    List.append_cancel_left_eq] at htexts
  have hdigits := congrArg (List.takeWhile Char.isDigit) htexts
  exact toString_nat_injective ((takeWhile_digits m _).symm.trans (hdigits.trans (takeWhile_digits n _)))

theorem SafeHistory.distinctKeys [IntegerNumbers ν] {history : List AirbyteEvent} (h : SafeHistory ν writer history) :
    (postedBatches history).Pairwise fun batch other => batch.idempotencyKey ≠ other.idempotencyKey := by
  have hsequences : ((postedBatches history).map Submission.sequence).Nodup := h.sequences ▸ List.nodup_range'
  refine (List.pairwise_map.mp hsequences).imp_of_mem fun {batch other} hbatch hother hne heq => hne ?_
  rw [(h.wellFormed batch hbatch).idempotencyKey, (h.wellFormed other hother).idempotencyKey] at heq
  exact idempotencyKey_sequence writer heq

end Keys

section Contract

variable {ν : Type} [JsRuntime ν] [IntegerNumbers ν] [ConnectorRuntime ν] [UrlRuntime]

def reached (run : EStateM.Result AirbyteStop WriterState Unit) : WriterState :=
  match run with
  | .ok _ s => s
  | .error _ s => s

def Finished (run : EStateM.Result AirbyteStop WriterState Unit) : Prop :=
  ∃ s, run = .ok () s

structure CheckpointSafe (ν : Type) [JsRuntime ν] [IntegerNumbers ν] [ConnectorRuntime ν]
    (writer : AirbyteDestinationWriter) (lines : List String) (run : EStateM.Result AirbyteStop WriterState Unit) :
    Prop where
  checkpointed : ∀ before line after, (reached run).history = before ++ .emitted line :: after → AllApplied before
  applied : ∀ before submission after, (reached run).history = before ++ .applied submission :: after →
    ConfirmedBy ν writer before submission
  passed : ∃ passed rest, lines = passed ++ rest ∧ (Finished run → rest = []) ∧
    emittedLines (reached run).history = passed.filter (isStateLine ν) ∧
    acceptedRecords (reached run).history = passed.filterMap (writer.recordOf ν)
  streams : ∀ key, batchedFor key (postedBatches (reached run).history) <+: acceptedFor key (reached run).history
  finished : Finished run → ∀ key,
    batchedFor key (postedBatches (reached run).history) = acceptedFor key (reached run).history
  bounded : ∀ submission ∈ postedBatches (reached run).history, submission.body = batchBody submission.records ∧
    submission.records.length ≤ writer.config.batchMaximumRecords ∧
    encodedBytes submission.body ≤ writer.config.batchMaximumBytes
  consistent : ∀ s, run ≠ .error .checkpoint s
  keys : (postedBatches (reached run).history).Pairwise fun batch other => batch.idempotencyKey ≠ other.idempotencyKey

/-- Whatever the lines, the answers of the endpoints and the clock are, the checkpoints of
the destination are safe. -/
theorem airbyte_checkpoints_safe (writer : AirbyteDestinationWriter) (lines : List String)
    (outcomes : List FetchOutcome) (clock : List Int) :
    CheckpointSafe ν writer lines (writer.write ν lines (WriterState.start outcomes clock)) := by
  have hwrite := @write_spec ν _ _ writer _ _ lines outcomes clock
  cases hrun : writer.write ν lines (WriterState.start outcomes clock) with
  | ok u s =>
    obtain ⟨hsafe, haccepted, hall, hposted⟩ := hwrite.of_ok hrun
    exact {
      checkpointed := hsafe.emitted
      applied := hsafe.confirmed
      passed := ⟨lines, [], (List.append_nil lines).symm, fun _ => rfl, haccepted.states, haccepted.records⟩
      streams := hsafe.posted
      finished := fun _ key => hposted ▸ (hall key).symm
      bounded := fun submission hmem =>
        ⟨(hsafe.wellFormed submission hmem).body, (hsafe.wellFormed submission hmem).records,
          (hsafe.wellFormed submission hmem).bytes⟩
      consistent := fun s h => nomatch h
      keys := hsafe.distinctKeys }
  | error e s =>
    obtain ⟨hcheckpoint, hsafe, passed, rest, hsplit, haccepted⟩ := hwrite.of_error hrun
    have hnot : ¬ Finished (.error e s : EStateM.Result AirbyteStop WriterState Unit) := by
      rintro ⟨_, h⟩
      cases h
    exact {
      checkpointed := hsafe.emitted
      applied := hsafe.confirmed
      passed := ⟨passed, rest, hsplit, fun h => absurd h hnot, haccepted.states, haccepted.records⟩
      streams := hsafe.posted
      finished := fun h => absurd h hnot
      bounded := fun submission hmem =>
        ⟨(hsafe.wellFormed submission hmem).body, (hsafe.wellFormed submission hmem).records,
          (hsafe.wellFormed submission hmem).bytes⟩
      consistent := fun t h => hcheckpoint (by cases h; rfl)
      keys := hsafe.distinctKeys }

end Contract

end ByokGrid
