/-
This file turns changes of the record store into work.
The forwarder reads the changes one by one and adds what changed to the work queue. When it
has fallen behind, it adds every record instead, so that no change is lost.
-/

import Steward.Queue.Basic
import Steward.Store.Basic

namespace Steward

/-- What the forwarder does next. -/
inductive ForwarderPhase where
  | listening
  /-- Every record is to be added. -/
  | listing
  | adding (ids : List RecordId)
  deriving DecidableEq, Repr, Inhabited

structure Forwarder where
  watcher : Watcher
  phase : ForwarderPhase := .listing
  deriving DecidableEq, Repr, Inhabited

namespace Forwarder

/-- A forwarder reads the changes from now on, and begins by adding every record. -/
def start (store : Store) : Forwarder :=
  ⟨store.log.subscribe, .listing⟩

/-- The identities of all records. -/
def allIds (store : Store) : List RecordId :=
  store.list.map Record.id

/-- The next step, unless there is nothing to be read. The erasing of a record makes no work. -/
def step? (store : Store) (forwarder : Forwarder) (queue : WorkQueue) :
    Option (Forwarder × WorkQueue) :=
  match forwarder.phase with
  | .listing => some ({ forwarder with phase := .adding (allIds store) }, queue)
  | .adding [] => some ({ forwarder with phase := .listening }, queue)
  | .adding (id :: rest) =>
      some ({ forwarder with phase := .adding rest }, (queue.add id).2)
  | .listening =>
      match store.log.receive forwarder.watcher with
      | (.none, _) => none
      | (.lagged _, watcher) => some (⟨watcher, .listing⟩, queue)
      | (.change change, watcher) =>
          some (⟨watcher, .listening⟩,
            if change.kind = .deleted then queue else (queue.add change.record.id).2)

/-- The number of changes that the forwarder has not read. -/
def unread (store : Store) (forwarder : Forwarder) : Nat :=
  store.log.changes.length - forwarder.watcher.position

/-- A bound on the steps until nothing is left to be read. -/
def stepBound (store : Store) (forwarder : Forwarder) : Nat :=
  2 * (store.list.length + 2) + forwarder.unread store + 1

/-- At most the given number of steps. -/
def advance (store : Store) : Nat → Forwarder → WorkQueue → Forwarder × WorkQueue
  | 0, forwarder, queue => (forwarder, queue)
  | steps + 1, forwarder, queue =>
      match forwarder.step? store queue with
      | none => (forwarder, queue)
      | some (forwarder, queue) => advance store steps forwarder queue

/-- Reads all changes. -/
def settle (store : Store) (forwarder : Forwarder) (queue : WorkQueue) :
    Forwarder × WorkQueue :=
  advance store (forwarder.stepBound store) forwarder queue

end Forwarder

end Steward
