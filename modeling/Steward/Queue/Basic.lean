/-
This file keeps the identities of records that wait for a pass.
An identity waits once at most, and is held by one caller at a time. One that is added while
it is held waits again as soon as its holder is done.
-/

import Steward.Record.Id
import Steward.Table

namespace Steward

/-- A set of identities. -/
abbrev IdSet := Table RecordId Unit

structure WorkQueue where
  /-- The identities that wait, the first one to be handed out first. -/
  pending : List RecordId := []
  /-- The identities that wait, as a set. -/
  queued : IdSet := ∅
  /-- The identities that are held. -/
  processing : IdSet := ∅
  /-- The held identities that have been added again. -/
  dirty : IdSet := ∅
  isShutdown : Bool := false
  deriving DecidableEq, Repr, Inhabited

namespace WorkQueue

def size (queue : WorkQueue) : Nat :=
  queue.pending.length

def isEmpty (queue : WorkQueue) : Bool :=
  queue.pending.isEmpty

def inFlight (queue : WorkQueue) : Nat :=
  queue.processing.size

/-- Lets an identity wait, and says whether it did not wait before. -/
def enqueue (queue : WorkQueue) (id : RecordId) : Bool × WorkQueue :=
  if queue.queued.contains id then (false, queue)
  else
    (true, { queue with
      pending := queue.pending ++ [id]
      queued := queue.queued.insert id () })

/-- Adds an identity, and says whether a caller has to be woken for it. -/
def add (queue : WorkQueue) (id : RecordId) : Bool × WorkQueue :=
  if queue.isShutdown then (false, queue)
  else if queue.processing.contains id then
    (false, { queue with dirty := queue.dirty.insert id () })
  else queue.enqueue id

def addAll (queue : WorkQueue) (ids : List RecordId) : WorkQueue :=
  ids.foldl (fun queue id => (queue.add id).2) queue

/-- Hands the first waiting identity to a caller. -/
def take? (queue : WorkQueue) : Option (RecordId × WorkQueue) :=
  if queue.isShutdown then none
  else
    match queue.pending with
    | [] => none
    | id :: rest =>
        some (id, { queue with
          pending := rest
          queued := queue.queued.erase id
          processing := queue.processing.insert id () })

/-- Takes an identity back from its holder, and says whether a caller has to be woken. -/
def done (queue : WorkQueue) (id : RecordId) : Bool × WorkQueue :=
  let released := { queue with
    processing := queue.processing.erase id
    dirty := queue.dirty.erase id }
  if queue.dirty.contains id ∧ ¬ queue.isShutdown then released.enqueue id
  else (false, released)

def shutdown (queue : WorkQueue) : WorkQueue :=
  { queue with isShutdown := true }

end WorkQueue

end Steward
