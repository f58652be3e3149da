/-
This file lets callers wait at a work queue for the next identity.
A caller goes through single steps, between which other callers may move. It starts to wait
before it looks at the queue, so that no identity added in between is missed.
-/

import Steward.Queue.Basic
import Steward.Queue.Notifier

namespace Steward

/-- Where a caller stands on its way to the next identity. -/
inductive CallPhase where
  | entering
  | looking
  /-- The caller has an identity, and others still wait to be handed out. -/
  | passingOn (id : RecordId)
  | leaving (result : Option RecordId)
  | waiting
  | returned (result : Option RecordId)
  deriving DecidableEq, Repr

/-- A work queue with the callers at it. -/
structure QueueRoom where
  queue : WorkQueue := {}
  notifier : Notifier := {}
  callers : Table Nat CallPhase := ∅
  deriving DecidableEq, Repr, Inhabited

namespace QueueRoom

def setPhase (room : QueueRoom) (caller : Nat) (phase : CallPhase) : QueueRoom :=
  { room with callers := room.callers.insert caller phase }

/-- Changes the queue, and wakes a caller if the change calls for it. -/
def change (room : QueueRoom) (result : Bool × WorkQueue) : QueueRoom :=
  { room with
    queue := result.2
    notifier := if result.1 then room.notifier.notifyOne else room.notifier }

def add (room : QueueRoom) (id : RecordId) : QueueRoom :=
  room.change (room.queue.add id)

def done (room : QueueRoom) (id : RecordId) : QueueRoom :=
  room.change (room.queue.done id)

def shutdown (room : QueueRoom) : QueueRoom :=
  { room with queue := room.queue.shutdown, notifier := room.notifier.notifyAll }

/-- A new caller asks for the next identity. -/
def call (room : QueueRoom) (caller : Nat) : QueueRoom :=
  room.setPhase caller .entering

/-- Looks at the queue once. -/
def look (room : QueueRoom) (caller : Nat) : QueueRoom :=
  if room.queue.isShutdown then room.setPhase caller (.leaving none)
  else
    match room.queue.take? with
    | none => room.setPhase caller .waiting
    | some (id, queue) =>
        { room with queue }.setPhase caller
          (if queue.isEmpty then .leaving (some id) else .passingOn id)

/-- The next step of a caller, unless it has to wait or has returned. -/
def step? (room : QueueRoom) (caller : Nat) : Option QueueRoom :=
  match room.callers.get? caller with
  | some .entering =>
      some ({ room with notifier := room.notifier.enter caller }.setPhase caller .looking)
  | some .looking => some (room.look caller)
  | some (.passingOn id) =>
      some ({ room with notifier := room.notifier.notifyOne }.setPhase caller
        (.leaving (some id)))
  | some (.leaving result) =>
      some ({ room with notifier := room.notifier.leave caller }.setPhase caller
        (.returned result))
  | some .waiting =>
      if room.notifier.isWaiting caller then none
      else
        some ({ room with notifier := room.notifier.notice caller }.setPhase caller .entering)
  | some (.returned _) | none => none

/-- A caller that waits gives up. -/
def abandon (room : QueueRoom) (caller : Nat) : QueueRoom :=
  { room with
    notifier := room.notifier.leave caller
    callers := room.callers.erase caller }

/-- A caller that is gone after it has returned. -/
def dismiss (room : QueueRoom) (caller : Nat) : QueueRoom :=
  { room with callers := room.callers.erase caller }

/-- What a caller has returned with, if it has. -/
def result? (room : QueueRoom) (caller : Nat) : Option (Option RecordId) :=
  match room.callers.get? caller with
  | some (.returned result) => some result
  | _ => none

/-- The steps of one caller while it can move, at most the given number. -/
def advance (caller : Nat) : Nat → QueueRoom → QueueRoom
  | 0, room => room
  | steps + 1, room =>
      match room.step? caller with
      | none => room
      | some next => advance caller steps next

/-- A caller takes at most five steps for each time it is woken, and a kept permit wakes it
once more. -/
def stepsPerCaller : Nat :=
  16

/-- Lets every caller move in turn, as often as there are callers and one time more. -/
def settle (room : QueueRoom) : QueueRoom :=
  let round := fun room : QueueRoom =>
    room.callers.keys.foldl (fun room caller => advance caller stepsPerCaller room) room
  (List.range (room.callers.size + 1)).foldl (fun room _ => round room) room

/-- Asks for the next identity without waiting for it; the caller is gone afterwards. -/
def poll (room : QueueRoom) (caller : Nat) : Option (Option RecordId) × QueueRoom :=
  let moved := advance caller stepsPerCaller (room.call caller)
  match moved.result? caller with
  | some result => (some result, moved.dismiss caller)
  | none => (none, moved.abandon caller)

end QueueRoom

end Steward
