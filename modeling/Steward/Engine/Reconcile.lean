/-
This file brings the remote side in line with a record, one pass at a time.
A pass connects, looks at the resource, and then creates, changes or deletes it. What came of
it is written into the status of the record.
-/

import Steward.Engine.Basic

namespace Steward

/-- What a pass has done. -/
inductive Outcome where
  | created
  | updated (fields : List Field)
  | upToDate
  | deleted
  /-- The record never owned a resource and has been erased. -/
  | forgotten
  /-- There was no record. -/
  | gone
  deriving DecidableEq, Repr

def Outcome.text : Outcome → String
  | .created => "created"
  | .updated fields => "updated [" ++ String.intercalate "," (fields.map Field.text) ++ "]"
  | .upToDate => "up to date"
  | .deleted => "deleted"
  | .forgotten => "forgotten"
  | .gone => "gone"

namespace Engine

/-- Writes a success into the status of a record, with what was seen of the resource. -/
def reportSuccess (record : Record) (observed : Option Observed) : Pass Unit := do
  let seen ← match observed with
    | some observed => do
        let condition := Condition.available (← Pass.now)
        pure ({ record.status with observed }.setCondition condition)
    | none => do
        let condition := Condition.creating (← Pass.now)
        pure (record.status.setCondition condition)
  let synced := seen.setCondition (.reconcileSuccess (← Pass.now))
  let time ← Pass.now
  Pass.putStatus record.id { synced with
    observedGeneration := record.generation
    lastReconciled := some time }

/-- Whether a failure is told in the status. One of the connection, of the store, or of a
cancelled pass says nothing about the record. -/
def isReported : PassError → Bool
  | .connect _ | .cancelled | .store _ => false
  | _ => true

/-- Writes a failure into the status of a record, if it is told there. -/
def reportError (record : Record) (error : PassError) : Pass Unit := do
  if ¬ isReported error then return ()
  let failed := record.status.setCondition (.reconcileError error.message (← Pass.now))
  let status ← match error with
    | .nameCollision _ _ => do
        let condition := Condition.unavailable error.message (← Pass.now)
        pure (failed.setCondition condition)
    | _ => pure failed
  let time ← Pass.now
  let _ ← Pass.ask (.putStatus record.id { status with lastReconciled := some time })

/-- Takes back the marker of a pending create. -/
def releasePending (record : Record) : Pass Unit :=
  Pass.putMetadata record.id record.metadata.clearCreatePending

/-- What is seen of a resource, or nothing if it cannot be looked at. -/
def glance (client : Client) (record : Record) : Pass (Option Observed) := do
  match ← Pass.attempt (client.probe record) with
  | .ok observed => return observed
  | .error _ => return none

/-- The markers of a record after its create. -/
def claimedMetadata (record : Record) (creation : Creation) : Metadata :=
  match creation.externalName with
  | some name => (record.metadata.setExternalName name).claim
  | none => record.metadata.claim

/-- Claims a created resource and hands its details over. -/
def commit (client : Client) (record : Record) (creation : Creation) : Pass Outcome := do
  let record := { record with metadata := claimedMetadata record creation }
  Pass.putMetadata record.id record.metadata
  if creation.details ≠ ∅ then Pass.publish record.id creation.details
  reportSuccess record (← glance client record)
  return .created

/-- Ends a create that was cut short before the claim, unless the name has been claimed by
another record since. -/
def resume (client : Client) (record : Record) : Pass Outcome := do
  if ← Pass.hasRival record then
    releasePending record
    throw record.collision
  let creation ← client.resumeCreate record
  commit client record creation

/-- Takes the pending marker back after a failed create, if nothing was left behind. -/
def abandonCreate (client : Client) (record : Record) : Pass Unit := do
  match ← Pass.attempt (client.probe record) with
  | .ok none =>
      let _ ← Pass.attempt (releasePending record)
  | _ => return ()

/-- Marks a create as pending before it is tried. -/
def markPending (record : Record) : Pass Record := do
  if record.metadata.isCreatePending then return record
  let marked := { record with metadata := record.metadata.markCreatePending }
  Pass.putMetadata marked.id marked.metadata
  return marked

/-- Creates a resource that was not there when it was looked at. If it exists by now, it is
the record's own only when an earlier create was pending. -/
def create (client : Client) (record : Record) : Pass Outcome := do
  let wasPending := record.metadata.isCreatePending
  let record ← markPending record
  match ← Pass.attempt (client.create record) with
  | .ok creation => commit client record creation
  | .error error =>
      if ¬ error.isAlreadyExists then
        abandonCreate client record
        throw error
      else if wasPending then
        if (← client.probe record).isNone then throw error
        resume client record
      else
        releasePending record
        throw record.collision

/-- The fields of some differences, each where it first stands. -/
def driftedFields (drifts : List Drift) : List Field :=
  User.firstOccurrences (drifts.map Drift.field)

/-- Overwrites the fields that differ. -/
def update (client : Client) (record : Record) (observed : Observed) (drifts : List Drift) :
    Pass Outcome := do
  client.update record drifts
  let seen := (← glance client record).getD observed
  reportSuccess record (some seen)
  return .updated (driftedFields drifts)

/-- Deletes the resource and erases the record; a resource that is gone already is fine. -/
def delete (client : Client) (record : Record) : Pass Outcome := do
  let status := record.status.setCondition (.deleting (← Pass.now))
  let _ ← Pass.ask (.putStatus record.id status)
  match ← Pass.attempt (client.delete record false) with
  | .ok () => pure ()
  | .error error =>
      if ¬ error.isNotFound then throw error
  Pass.erase record.id
  return .deleted

/-- Does what a connected record needs. -/
def drive (client : Client) (record : Record) : Pass Outcome := do
  if record.isDeleting then delete client record
  else
    match ← client.observe record with
    | .absent => create client record
    | .unclaimed _ => resume client record
    | .owned observed [] =>
        reportSuccess record (some observed)
        return .upToDate
    | .owned observed drifts => update client record observed drifts

/-- Does what a record needs. One that is to be deleted and owns nothing is erased without a
connection. -/
def advance (engine : Engine) (record : Record) : Pass Outcome := do
  (record.validate).mapError PassError.invalidSpec
  if record.isDeleting ∧ ¬ record.isClaimed then
    Pass.erase record.id
    return .forgotten
  let client ← engine.connect record.kind record
  drive client record

/-- One pass for a record; a failure is reported before it is passed on. -/
def pass (engine : Engine) (id : RecordId) : Pass Outcome := do
  match ← Pass.ask (.readRecord id) with
  | none => return .gone
  | some record =>
      match ← Pass.attempt (engine.advance record) with
      | .ok outcome => return outcome
      | .error error =>
          reportError record error
          throw error

/-- One pass for a record, or none if it was cancelled beforehand. -/
def reconcile (engine : Engine) (id : RecordId) (cancelled : Bool) : Pass Outcome :=
  if cancelled then throw .cancelled else engine.pass id

end Engine

end Steward
