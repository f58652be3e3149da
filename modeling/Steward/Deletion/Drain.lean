/-
This file empties buckets and deletes them.
A bucket that cannot be emptied stays: no removal of the bucket is tried after a failure.
-/

import Steward.Deletion.Pipeline

namespace Steward

/-- What emptying a bucket has done. -/
structure DrainReport where
  listed : Nat
  removed : Nat
  skipped : Nat
  governanceBypass : Bool
  deriving DecidableEq, Repr

namespace Drain

/-- Whether removals need the bypass of retention; a question that fails counts as no. -/
def governanceBypass (bucket : String) : Pass Bool := do
  match ← Pass.call (.objectLockEnabled bucket) with
  | .ok enabled => return enabled
  | .error _ => return false

/-- The entries of the listing of a bucket. -/
def listing (bucket : String) : Pass (List (Except RemoteError ObjectInfo)) := do
  match ← Pass.call (.listObjects bucket) with
  | .ok entries => return entries
  | .error error => return [.error error]

/-- One move of the remover, unless it has to wait or has stopped. -/
def remove? (settings : DeletionSettings) (bucket : String) (bypass : Bool) (count : Nat)
    (pipeline : Pipeline) : Option (Pass Pipeline) :=
  match pipeline.remover with
  | .removing batch => some do
      let answer ← Pass.call (.removeObjects bucket batch bypass)
      return pipeline.afterRemoval bucket batch answer
  | _ => (pipeline.receive? settings count).map pure

/-- One move of the worker whose turn it is, or of the other one if that one cannot move. -/
def move? (settings : DeletionSettings) (bucket : String) (bypass : Bool) (turn : Turn)
    (pipeline : Pipeline) : Option (Pass Pipeline) :=
  match turn with
  | .list =>
      (pipeline.list? settings).map pure <|>
        remove? settings bucket bypass settings.limit pipeline
  | .remove count =>
      remove? settings bucket bypass count pipeline <|> (pipeline.list? settings).map pure

/-- Moves until neither worker can; each entry of the listing takes at most four moves. -/
def drive (settings : DeletionSettings) (scheduler : Scheduler) (bucket : String)
    (bypass : Bool) : Nat → Nat → Pipeline → Pass Pipeline
  | 0, _, pipeline => return pipeline
  | moves + 1, taken, pipeline =>
      match move? settings bucket bypass (scheduler taken pipeline) pipeline with
      | none => return pipeline
      | some move => do
          let next ← move
          drive settings scheduler bucket bypass moves (taken + 1) next

/-- Removes every object of a bucket. -/
def empty (settings : DeletionSettings) (scheduler : Scheduler) (bucket : String)
    (cancelled : Bool) : Pass DrainReport := do
  let bypass ← governanceBypass bucket
  let entries ← listing bucket
  if cancelled then throw .cancelled
  let pipeline ← drive settings scheduler bucket bypass (4 * entries.length + 2) 0
    { unlisted := entries }
  match pipeline.remover with
  | .failed error => throw error
  | _ => return ⟨pipeline.listed, pipeline.removed, pipeline.skipped, bypass⟩

/-- Removes every object of a bucket, and then the bucket. -/
def delete (settings : DeletionSettings) (scheduler : Scheduler) (bucket : String)
    (cancelled : Bool) : Pass DrainReport := do
  let report ← empty settings scheduler bucket cancelled
  Pass.perform "remove bucket" bucket (.removeBucket bucket)
  return report

end Drain

end Steward
