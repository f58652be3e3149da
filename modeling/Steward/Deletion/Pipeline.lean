/-
This file empties a bucket by two workers at once.
The lister puts the objects of a listing into a queue of bounded length, and the remover takes
them out in batches. Who moves next is left open: a scheduler chooses, and every choice leads
to the end.
-/

import Steward.Engine.Program

namespace Steward

/-- The length of the queue and the size of a batch. They are such that a queue and a batch of
these sizes can be set up at all, as is the case below 2 ^ 32; zero counts as one. -/
structure DeletionSettings where
  queueCapacity : Nat
  batchSize : Nat
  deriving DecidableEq, Repr

namespace DeletionSettings

def standard : DeletionSettings :=
  ⟨1000, 1000⟩

/-- The queue has room for at least one object. -/
def capacity (settings : DeletionSettings) : Nat :=
  max settings.queueCapacity 1

/-- A batch has room for at least one object. -/
def limit (settings : DeletionSettings) : Nat :=
  max settings.batchSize 1

end DeletionSettings

/-- What the remover is at. -/
inductive Remover where
  | waiting
  | removing (batch : List String)
  | finished
  | failed (error : PassError)
  deriving DecidableEq, Repr

def Remover.hasStopped : Remover → Bool
  | .waiting | .removing _ => false
  | .finished | .failed _ => true

/-- The state of both workers and of the queue between them. -/
structure Pipeline where
  /-- The entries of the listing that are still to come. -/
  unlisted : List (Except RemoteError ObjectInfo)
  /-- The object that the lister holds until the queue has room. -/
  held : Option String := none
  isListing : Bool := true
  queue : List String := []
  remover : Remover := .waiting
  /-- The objects handed to the remover. -/
  listed : Nat := 0
  /-- The entries that could not be read. -/
  skipped : Nat := 0
  removed : Nat := 0

namespace Pipeline

def hasEnded (pipeline : Pipeline) : Bool :=
  !pipeline.isListing && pipeline.remover.hasStopped

/-- The next move of the lister, unless it has to wait or has ended. It ends after the last
entry, or when it finds that the remover has stopped. -/
def list? (settings : DeletionSettings) (pipeline : Pipeline) : Option Pipeline :=
  if ¬ pipeline.isListing then none
  else
    match pipeline.held with
    | some key =>
        if pipeline.remover.hasStopped then some { pipeline with isListing := false }
        else if pipeline.queue.length < settings.capacity then
          some { pipeline with
            held := none
            queue := pipeline.queue ++ [key]
            listed := pipeline.listed + 1 }
        else none
    | none =>
        match pipeline.unlisted with
        | [] => some { pipeline with isListing := false }
        | .error _ :: rest =>
            some { pipeline with unlisted := rest, skipped := pipeline.skipped + 1 }
        | .ok object :: rest =>
            some { pipeline with unlisted := rest, held := some object.key }

/-- Takes at least one and at most `count` objects from the queue, as a batch has room; ends
when the queue is empty and the lister has ended. -/
def receive? (settings : DeletionSettings) (count : Nat) (pipeline : Pipeline) :
    Option Pipeline :=
  match pipeline.remover with
  | .waiting =>
      if pipeline.queue.isEmpty then
        if pipeline.isListing then none else some { pipeline with remover := .finished }
      else
        let size := max 1 (min count settings.limit)
        some { pipeline with
          remover := .removing (pipeline.queue.take size)
          queue := pipeline.queue.drop size }
  | _ => none

/-- What the answer to the removal of a batch leads to; the first failure ends the removal. -/
def afterRemoval (bucket : String) (batch : List String) (pipeline : Pipeline) :
    Except RemoteError (List RemovalFailure) → Pipeline
  | .error error =>
      { pipeline with remover := .failed (.ofRemote "remove objects" bucket error) }
  | .ok (failure :: _) =>
      { pipeline with
        remover := .failed (.partialDeletion failure.key failure.error.message) }
  | .ok [] =>
      { pipeline with remover := .waiting, removed := pipeline.removed + batch.length }

end Pipeline

/-- Who moves next; the remover takes at most `count` objects. -/
inductive Turn where
  | list
  | remove (count : Nat)
  deriving DecidableEq, Repr

/-- The choice of the worker that moves at each step. -/
abbrev Scheduler := Nat → Pipeline → Turn

/-- The lister goes on as long as it can. -/
def Scheduler.listFirst (settings : DeletionSettings) : Scheduler := fun _ pipeline =>
  if (pipeline.list? settings).isSome then .list else .remove settings.limit

end Steward
