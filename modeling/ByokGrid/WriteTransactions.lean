import Mathlib.Data.List.Basic

/-! Write transactions on one database handle: a queue of promises in call order, and a
bounded retry of transactions which never entered their callback. -/

namespace ByokGrid

inductive ErrorValue where
  | object (id : Nat)
  | primitive
  deriving Repr, DecidableEq

/-- The properties of an error; a property which is no string is left out, and a `cause`
which is `undefined`. -/
structure ErrorObject where
  code : Option String := none
  extendedCode : Option String := none
  cause : Option ErrorValue := none
  deriving Repr, DecidableEq

/-- `[value.code, value.extendedCode]` without what is no string. -/
def ErrorObject.codes (error : ErrorObject) : List String :=
  error.code.toList ++ error.extendedCode.toList

def sqliteLockCode (value : String) : Bool :=
  value = "SQLITE_BUSY" || "SQLITE_BUSY_".toList.isPrefixOf value.toList || value = "SQLITE_LOCKED" ||
    "SQLITE_LOCKED_".toList.isPrefixOf value.toList

section Conflicts

variable (heap : Nat → ErrorObject)

/-- The loop while `room` errors may still be seen. At most one value is pending. -/
def isConflictFrom : Nat → List Nat → ErrorValue → Bool
  | 0, _, _ => false
  | _ + 1, _, .primitive => false
  | room + 1, seen, .object id =>
    if id ∈ seen then false
    else if (heap id).codes.any sqliteLockCode then true
    else if (heap id).codes ≠ [] then false
    else match (heap id).cause with
      | none => false
      | some cause => isConflictFrom room (id :: seen) cause

def isSqliteWriteAcquisitionConflict (error : ErrorValue) : Bool :=
  isConflictFrom heap 8 [] error

inductive FirstCoded : ErrorValue → List String → Prop
  | here {id : Nat} (coded : (heap id).codes ≠ []) : FirstCoded (.object id) (heap id).codes
  | cause {id : Nat} {next : ErrorValue} {codes : List String} (uncoded : (heap id).codes = [])
      (caused : (heap id).cause = some next) (rest : FirstCoded next codes) : FirstCoded (.object id) codes

end Conflicts

/-- One `db.transaction` which is over: whether it called the callback, and what it gave. -/
structure TransactionAttempt (α : Type) where
  callbackStarted : Bool
  outcome : Except ErrorValue α

inductive CallPhase (α : Type) where
  /-- `await previous`. -/
  | waiting
  | attempting (attempt : Nat) (callbackStarted : Bool)
  /-- The connection is reset, and a delay passes. -/
  | pausing (attempt : Nat)
  /-- `runSqliteWriteTransaction` is over. -/
  | finishing (outcome : Except ErrorValue α)
  | settled (outcome : Except ErrorValue α)

/-- A call of `withSqliteWriteTransaction`: the call whose tail it awaits, whether its own
tail is resolved, and the attempts which are over. -/
structure WriteCall (α : Type) where
  previous : Option Nat
  phase : CallPhase α := .waiting
  tailResolved : Bool := false
  attempts : List (TransactionAttempt α) := []

def sqliteWriteAcquisitionMaxAttempts : Nat := 3

inductive CallAction (α : Type) where
  /-- The microtask after `await previous`. -/
  | start
  /-- The driver calls the callback. -/
  | enter
  /-- `db.transaction` resolves. -/
  | commit (value : α)
  /-- `db.transaction` rejects. -/
  | fail (error : ErrorValue)
  | resetFail (error : ErrorValue)
  /-- The delay is over. -/
  | resume
  /-- The `finally` block. -/
  | release
  /-- The microtask of `previous.then(() => turn)`. -/
  | resolveTail

section Calls

variable {α : Type} (heap : Nat → ErrorObject)

def acquisitionConflict (callbackStarted : Bool) (error : ErrorValue) : Bool :=
  !callbackStarted && isSqliteWriteAcquisitionConflict heap error

/-- Where the `catch` block leads. -/
def caughtPhase (attempt : Nat) (callbackStarted : Bool) (error : ErrorValue) : CallPhase α :=
  if !acquisitionConflict heap callbackStarted error then .finishing (.error error)
  else if attempt = sqliteWriteAcquisitionMaxAttempts then .finishing (.error error)
  else .pausing attempt

/-- The next state of a call, when the action is possible; `ready` says whether the tail it
awaits is resolved. -/
def WriteCall.advance (ready : Bool) (call : WriteCall α) (action : CallAction α) : Option (WriteCall α) :=
  match action, call.phase with
  | .start, .waiting => if ready then some { call with phase := .attempting 1 false } else none
  | .enter, .attempting attempt false => some { call with phase := .attempting attempt true }
  | .commit value, .attempting _ callbackStarted =>
    some { call with phase := .finishing (.ok value), attempts := call.attempts ++ [⟨callbackStarted, .ok value⟩] }
  | .fail error, .attempting attempt callbackStarted =>
    some { call with
      phase := caughtPhase heap attempt callbackStarted error
      attempts := call.attempts ++ [⟨callbackStarted, .error error⟩] }
  | .resetFail error, .pausing _ => some { call with phase := .finishing (.error error) }
  | .resume, .pausing attempt => some { call with phase := .attempting (attempt + 1) false }
  | .release, .finishing outcome => some { call with phase := .settled outcome }
  | .resolveTail, .settled _ => if ready && !call.tailResolved then some { call with tailResolved := true } else none
  | _, _ => none

end Calls

/-- The calls in call order, the call whose tail `sqliteWriteTails` holds, and the counters. -/
structure WriteQueue (α : Type) where
  calls : List (WriteCall α) := []
  tail : Option Nat := none
  acquisitionRetries : Nat := 0
  acquisitionExhaustions : Nat := 0

inductive WriteAction (α : Type) where
  | call
  | run (index : Nat) (action : CallAction α)

section Queue

variable {α : Type}

def WriteQueue.ready (queue : WriteQueue α) (call : WriteCall α) : Bool :=
  match call.previous with
  | none => true
  | some previous => (queue.calls[previous]?).any WriteCall.tailResolved

def tailAfter (tail : Option Nat) (index : Nat) : CallAction α → Option Nat
  | .release => if tail = some index then none else tail
  | _ => tail

variable (heap : Nat → ErrorObject)

def WriteCall.retried (call : WriteCall α) : CallAction α → Bool
  | .fail error => match call.phase with
    | .attempting attempt callbackStarted =>
      acquisitionConflict heap callbackStarted error && attempt ≠ sqliteWriteAcquisitionMaxAttempts
    | _ => false
  | _ => false

def WriteCall.exhausted (call : WriteCall α) : CallAction α → Bool
  | .fail error => match call.phase with
    | .attempting attempt callbackStarted =>
      acquisitionConflict heap callbackStarted error && attempt = sqliteWriteAcquisitionMaxAttempts
    | _ => false
  | _ => false

def WriteQueue.step (queue : WriteQueue α) : WriteAction α → Option (WriteQueue α)
  | .call => some { queue with
      calls := queue.calls ++ [{ previous := queue.tail }]
      tail := some queue.calls.length }
  | .run index action => do
    let call ← queue.calls[index]?
    let next ← call.advance heap (queue.ready call) action
    return {
      calls := queue.calls.set index next
      tail := tailAfter queue.tail index action
      acquisitionRetries := queue.acquisitionRetries + (call.retried heap action).toNat
      acquisitionExhaustions := queue.acquisitionExhaustions + (call.exhausted heap action).toNat }

def WriteQueue.run (queue : WriteQueue α) : List (WriteAction α) → Option (WriteQueue α)
  | [] => some queue
  | action :: actions => do
    let next ← queue.step heap action
    next.run actions

inductive WriteQueue.Reachable : WriteQueue α → Prop
  | start : WriteQueue.Reachable {}
  | step {queue next : WriteQueue α} {action : WriteAction α} (before : WriteQueue.Reachable queue)
      (taken : queue.step heap action = some next) : WriteQueue.Reachable next

end Queue

end ByokGrid
