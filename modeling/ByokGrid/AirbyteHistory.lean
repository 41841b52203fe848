import ByokGrid.AirbyteWriter

/-! The history of a destination: what it has accepted, posted, seen applied and emitted,
and what a history has to satisfy for its checkpoints to be safe. -/

namespace ByokGrid

@[simp] def AirbyteEvent.acceptedRecord : AirbyteEvent → Option (String × String)
  | .accepted key record => some (key, record)
  | _ => none

@[simp] def AirbyteEvent.postedBatch : AirbyteEvent → Option Submission
  | .posted submission => some submission
  | _ => none

@[simp] def AirbyteEvent.appliedBatch : AirbyteEvent → Option Submission
  | .applied submission => some submission
  | _ => none

@[simp] def AirbyteEvent.emittedLine : AirbyteEvent → Option String
  | .emitted line => some line
  | _ => none

def acceptedRecords (history : List AirbyteEvent) : List (String × String) :=
  history.filterMap AirbyteEvent.acceptedRecord

def postedBatches (history : List AirbyteEvent) : List Submission :=
  history.filterMap AirbyteEvent.postedBatch

def appliedBatches (history : List AirbyteEvent) : List Submission :=
  history.filterMap AirbyteEvent.appliedBatch

def emittedLines (history : List AirbyteEvent) : List String :=
  history.filterMap AirbyteEvent.emittedLine

def acceptedFor (key : String) (history : List AirbyteEvent) : List String :=
  (acceptedRecords history).filterMap fun record => if record.1 = key then some record.2 else none

def batchedFor (key : String) (batches : List Submission) : List String :=
  (batches.filter fun batch => batch.key = key).flatMap Submission.records

section Append

variable (key : String) (history more : List AirbyteEvent)

theorem filterMap_cons_toList {α β : Type} (f : α → Option β) (x : α) (xs : List α) :
    (x :: xs).filterMap f = (f x).toList ++ xs.filterMap f := by
  cases h : f x with
  | none => simp [h]
  | some y => simp [h]

@[simp] theorem acceptedRecords_cons (event : AirbyteEvent) :
    acceptedRecords (event :: history) = event.acceptedRecord.toList ++ acceptedRecords history :=
  filterMap_cons_toList _ event history

@[simp] theorem postedBatches_cons (event : AirbyteEvent) :
    postedBatches (event :: history) = event.postedBatch.toList ++ postedBatches history :=
  filterMap_cons_toList _ event history

@[simp] theorem appliedBatches_cons (event : AirbyteEvent) :
    appliedBatches (event :: history) = event.appliedBatch.toList ++ appliedBatches history :=
  filterMap_cons_toList _ event history

@[simp] theorem emittedLines_cons (event : AirbyteEvent) :
    emittedLines (event :: history) = event.emittedLine.toList ++ emittedLines history :=
  filterMap_cons_toList _ event history

@[simp] theorem acceptedRecords_nil : acceptedRecords [] = [] := rfl

@[simp] theorem postedBatches_nil : postedBatches [] = [] := rfl

@[simp] theorem appliedBatches_nil : appliedBatches [] = [] := rfl

@[simp] theorem emittedLines_nil : emittedLines [] = [] := rfl

@[simp] theorem acceptedRecords_append :
    acceptedRecords (history ++ more) = acceptedRecords history ++ acceptedRecords more :=
  List.filterMap_append

@[simp] theorem postedBatches_append : postedBatches (history ++ more) = postedBatches history ++ postedBatches more :=
  List.filterMap_append

@[simp] theorem appliedBatches_append :
    appliedBatches (history ++ more) = appliedBatches history ++ appliedBatches more :=
  List.filterMap_append

@[simp] theorem emittedLines_append : emittedLines (history ++ more) = emittedLines history ++ emittedLines more :=
  List.filterMap_append

@[simp] theorem acceptedFor_append : acceptedFor key (history ++ more) = acceptedFor key history ++ acceptedFor key more := by
  simp [acceptedFor]

@[simp] theorem acceptedFor_accepted (route record : String) :
    acceptedFor key [.accepted route record] = if route = key then [record] else [] := by
  by_cases h : route = key
  · simp [acceptedFor, h]
  · simp [acceptedFor, h]

@[simp] theorem batchedFor_append (batches others : List Submission) :
    batchedFor key (batches ++ others) = batchedFor key batches ++ batchedFor key others := by
  simp [batchedFor]

end Append

section Exchanges

variable (exchanges : List Exchange)

theorem filterMap_exchanged {α : Type} {f : AirbyteEvent → Option α} (h : ∀ exchange, f (.exchanged exchange) = none) :
    (exchanges.map AirbyteEvent.exchanged).filterMap f = [] := by
  rw [List.filterMap_map, List.filterMap_eq_nil_iff]
  exact fun exchange _ => h exchange

@[simp] theorem acceptedRecords_exchanged : acceptedRecords (exchanges.map .exchanged) = [] :=
  filterMap_exchanged exchanges fun _ => rfl

@[simp] theorem acceptedFor_exchanged (key : String) : acceptedFor key (exchanges.map .exchanged) = [] := by
  simp [acceptedFor]

@[simp] theorem postedBatches_exchanged : postedBatches (exchanges.map .exchanged) = [] :=
  filterMap_exchanged exchanges fun _ => rfl

@[simp] theorem appliedBatches_exchanged : appliedBatches (exchanges.map .exchanged) = [] :=
  filterMap_exchanged exchanges fun _ => rfl

@[simp] theorem emittedLines_exchanged : emittedLines (exchanges.map .exchanged) = [] :=
  filterMap_exchanged exchanges fun _ => rfl

end Exchanges

theorem split_concat {α : Type} {history before after : List α} {last event : α}
    (h : history ++ [last] = before ++ event :: after) :
    (after = [] ∧ before = history ∧ event = last) ∨ ∃ rest, after = rest ++ [last] ∧ history = before ++ event :: rest := by
  rcases List.eq_nil_or_concat after with rfl | ⟨rest, x, rfl⟩
  · obtain ⟨hbefore, hlast⟩ := List.append_inj' h rfl
    exact Or.inl ⟨rfl, hbefore.symm, (List.cons.inj hlast).1.symm⟩
  · rw [List.concat_eq_append] at h ⊢
    rw [← List.cons_append, ← List.append_assoc] at h
    obtain ⟨hhistory, hlast⟩ := List.append_inj' h rfl
    rw [(List.cons.inj hlast).1]
    exact Or.inr ⟨rest, rfl, hhistory⟩

section Safe

variable (ν : Type) [IntegerNumbers ν] [ConnectorRuntime ν] (writer : AirbyteDestinationWriter)

def AllApplied (history : List AirbyteEvent) : Prop :=
  ∀ key, acceptedFor key history = batchedFor key (appliedBatches history)

def ConfirmedBy (history : List AirbyteEvent) (submission : Submission) : Prop :=
  ∃ start exchanges route, history = start ++ .posted submission :: exchanges.map .exchanged ∧
    writer.routeByKey submission.key = some route ∧ Confirms ν route submission exchanges

structure WellFormed (submission : Submission) : Prop where
  nonempty : submission.records ≠ []
  body : submission.body = batchBody submission.records
  idempotencyKey : submission.idempotencyKey = writer.idempotencyKey ν submission.sequence submission.body
  records : submission.records.length ≤ writer.config.batchMaximumRecords
  bytes : encodedBytes submission.body ≤ writer.config.batchMaximumBytes

/-- A state is emitted when all accepted records are in applied batches; a batch counts as
applied after the exchanges which confirm it; what is posted of a route is an initial part
of its accepted records; and the batches are numbered in order. -/
structure SafeHistory (history : List AirbyteEvent) : Prop where
  emitted : ∀ before line after, history = before ++ .emitted line :: after → AllApplied before
  confirmed : ∀ before submission after, history = before ++ .applied submission :: after →
    ConfirmedBy ν writer before submission
  posted : ∀ key, batchedFor key (postedBatches history) <+: acceptedFor key history
  sequences : (postedBatches history).map Submission.sequence = List.range' 1 (postedBatches history).length
  wellFormed : ∀ submission ∈ postedBatches history, WellFormed ν writer submission

theorem SafeHistory.nil : SafeHistory ν writer [] where
  emitted before _ _ h := by simp at h
  confirmed before _ _ h := by simp at h
  posted _ := List.prefix_refl _
  sequences := rfl
  wellFormed _ h := nomatch h

variable {ν writer} {history : List AirbyteEvent} (h : SafeHistory ν writer history)

include h

theorem SafeHistory.concat {event : AirbyteEvent} (hpost : postedBatches [event] = [])
    (hemitted : ∀ line, event = .emitted line → AllApplied history)
    (hconfirmed : ∀ submission, event = .applied submission → ConfirmedBy ν writer history submission) :
    SafeHistory ν writer (history ++ [event]) := by
  have hposted : postedBatches (history ++ [event]) = postedBatches history := by
    rw [postedBatches_append, hpost, List.append_nil]
  constructor
  · intro before line after hsplit
    rcases split_concat hsplit with ⟨_, rfl, hevent⟩ | ⟨rest, _, hhistory⟩
    · exact hemitted line hevent.symm
    · exact h.emitted before line rest hhistory
  · intro before submission after hsplit
    rcases split_concat hsplit with ⟨_, rfl, hevent⟩ | ⟨rest, _, hhistory⟩
    · exact hconfirmed submission hevent.symm
    · exact h.confirmed before submission rest hhistory
  · intro key
    rw [hposted, acceptedFor_append]
    exact (h.posted key).trans (List.prefix_append _ _)
  · rw [hposted]
    exact h.sequences
  · rw [hposted]
    exact h.wellFormed

theorem SafeHistory.accepted (key record : String) : SafeHistory ν writer (history ++ [.accepted key record]) :=
  h.concat rfl (fun _ h => nomatch h) (fun _ h => nomatch h)

theorem SafeHistory.exchanged (exchanges : List Exchange) : SafeHistory ν writer (history ++ exchanges.map .exchanged) := by
  induction exchanges generalizing history with
  | nil => simpa using h
  | cons exchange exchanges ih =>
    have hfirst : SafeHistory ν writer (history ++ [.exchanged exchange]) :=
      h.concat rfl (fun _ h => nomatch h) (fun _ h => nomatch h)
    simpa using ih hfirst

theorem SafeHistory.applied {submission : Submission} (hconfirmed : ConfirmedBy ν writer history submission) :
    SafeHistory ν writer (history ++ [.applied submission]) :=
  h.concat rfl (fun _ h => nomatch h) (fun _ heq => by cases heq; exact hconfirmed)

theorem SafeHistory.emit (line : String) (hall : AllApplied history) :
    SafeHistory ν writer (history ++ [.emitted line]) :=
  h.concat rfl (fun _ _ => hall) (fun _ h => nomatch h)

theorem SafeHistory.post {submission : Submission} (hwellFormed : WellFormed ν writer submission)
    (hsequence : submission.sequence = (postedBatches history).length + 1)
    (hnext : batchedFor submission.key (postedBatches history) ++ submission.records <+: acceptedFor submission.key history) :
    SafeHistory ν writer (history ++ [.posted submission]) := by
  have hposted : postedBatches (history ++ [.posted submission]) = postedBatches history ++ [submission] :=
    postedBatches_append history [.posted submission]
  constructor
  · intro before line after hsplit
    rcases split_concat hsplit with ⟨_, _, hevent⟩ | ⟨rest, _, hhistory⟩
    · cases hevent
    · exact h.emitted before line rest hhistory
  · intro before other after hsplit
    rcases split_concat hsplit with ⟨_, _, hevent⟩ | ⟨rest, _, hhistory⟩
    · cases hevent
    · exact h.confirmed before other rest hhistory
  · intro key
    have haccepted : acceptedFor key (history ++ [.posted submission]) = acceptedFor key history := by
      rw [acceptedFor_append]
      exact List.append_nil _
    rw [hposted, haccepted, batchedFor_append]
    by_cases hkey : submission.key = key
    · subst hkey
      simpa [batchedFor] using hnext
    · simpa [batchedFor, hkey] using h.posted key
  · rw [hposted, List.map_append, h.sequences, List.length_append, List.length_singleton, List.range'_1_concat,
      List.map_singleton, hsequence, Nat.add_comm 1]
  · intro other hother
    rw [hposted] at hother
    rcases List.mem_append.mp hother with hold | hnew
    · exact h.wellFormed other hold
    · rw [List.mem_singleton.mp hnew]
      exact hwellFormed

end Safe

end ByokGrid
