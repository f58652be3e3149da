/-
This file tells watchers of changes to the records.
A change log keeps every change in order. Each watcher reads at its own place, and one that
falls more than the capacity behind skips the oldest changes and is told how many.
-/

import Steward.Record.Basic

namespace Steward

/-- Why the record store does not answer as asked. -/
inductive StoreError where
  | recordNotFound (id : String)
  | storeFailed (operation reason : String)
  | channelClosed
  | lagged (skipped : Nat)
  | invalidRecord (error : RecordError)
  deriving DecidableEq, Repr

namespace StoreError

def message : StoreError → String
  | .recordNotFound id => "record '" ++ id ++ "' not found"
  | .storeFailed operation reason =>
      "record store operation '" ++ operation ++ "' failed: " ++ reason
  | .channelClosed => "record watch channel closed"
  | .lagged skipped => "record watch lagged, " ++ toString skipped ++ " notifications skipped"
  | .invalidRecord error => error.message

def isNotFound : StoreError → Bool
  | .recordNotFound _ => true
  | _ => false

end StoreError

/-- What happened to a record. -/
inductive ChangeKind where
  | created
  | updated
  | deleted
  deriving DecidableEq, Repr

/-- A change with the record as it was then. -/
structure Change where
  kind : ChangeKind
  record : Record
  deriving DecidableEq, Repr

/-- All changes so far, and how many of the last ones can still be read. -/
structure ChangeLog where
  capacity : Nat
  changes : List Change := []
  deriving DecidableEq, Repr, Inhabited

/-- The place of a watcher: the number of changes behind it. -/
structure Watcher where
  position : Nat
  deriving DecidableEq, Repr, Inhabited

/-- What a watcher finds at its place. -/
inductive Notice where
  | change (change : Change)
  | lagged (skipped : Nat)
  | none
  deriving DecidableEq, Repr

namespace ChangeLog

/-- The capacity is the next power of two, and at least one. -/
def ofCapacity (capacity : Nat) : ChangeLog :=
  ⟨(max capacity 1).nextPowerOfTwo, []⟩

def add (log : ChangeLog) (change : Change) : ChangeLog :=
  { log with changes := log.changes ++ [change] }

/-- A watcher that sees the changes from now on. -/
def subscribe (log : ChangeLog) : Watcher :=
  ⟨log.changes.length⟩

/-- Reads the next change, or jumps to the oldest one that is kept. -/
def receive (log : ChangeLog) (watcher : Watcher) : Notice × Watcher :=
  let oldest := log.changes.length - log.capacity
  if watcher.position < oldest then (.lagged (oldest - watcher.position), ⟨oldest⟩)
  else
    match log.changes[watcher.position]? with
    | some change => (.change change, ⟨watcher.position + 1⟩)
    | none => (.none, watcher)

end ChangeLog

end Steward
