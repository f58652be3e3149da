/-
This file keeps buckets.
-/

import Steward.Deletion.Drain
import Steward.Resource.Client

namespace Steward.Bucket

def specOf (record : Record) : Except PassError BucketSpec :=
  match record.spec with
  | .bucket spec => .ok spec
  | _ => .error (wrongKind record .bucket)

def probe (record : Record) : Pass (Option Observed) := do
  let name := record.targetName
  if ¬ (← Pass.perform "bucket exists" name (.bucketExists name)) then return none
  let answer ← Pass.call (.bucketPolicy name)
  let policy ← Pass.found "get bucket policy" name answer
  return some { bucketName := some name, policy := policy.join }

def diff (record : Record) (observed : Observed) : Except PassError (List Drift) := do
  let spec ← specOf record
  return (← Drift.ofPolicy .policy spec.policy observed.policy).toList

/-- Everything that a create does once the bucket exists. -/
def configure (name : String) (spec : BucketSpec) : Pass Creation := do
  match Drift.nonBlank spec.policy with
  | some policy => Pass.perform "set bucket policy" name (.setBucketPolicy name policy)
  | none => pure ()
  return { details := Table.ofList [("bucket", name), ("region", spec.regionOrDefault)] }

def create (record : Record) : Pass Creation := do
  let spec ← specOf record
  let name := record.targetName
  Pass.perform "make bucket" name (.makeBucket name spec.regionOrDefault)
  configure name spec

def resumeCreate (record : Record) : Pass Creation := do
  let spec ← specOf record
  configure record.targetName spec

def update (record : Record) (drifts : List Drift) : Pass Unit := do
  let spec ← specOf record
  let name := record.targetName
  if Drift.flags drifts .policy then
    Pass.perform "set bucket policy" name (.setBucketPolicy name (spec.policy.getD ""))

def delete (settings : DeletionSettings) (scheduler : Scheduler) (record : Record)
    (cancelled : Bool) : Pass Unit := do
  let spec ← specOf record
  let name := record.targetName
  match spec.deletionPolicy with
  | .deleteIfEmpty => Pass.perform "remove bucket" name (.removeBucket name)
  | .deleteAll =>
      let _ ← Drain.delete settings scheduler name cancelled

def client (settings : DeletionSettings) (scheduler : Scheduler) : Client :=
  { probe, diff, create, resumeCreate, update, delete := delete settings scheduler }

end Steward.Bucket
