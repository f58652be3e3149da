/-
This file decides what a pass would do, without changing anything.
-/

import Steward.Engine.Reconcile

namespace Steward

/-- What a pass would do. -/
inductive Plan where
  | create
  | resumeCreate
  | update (drifts : List Drift)
  | noOp
  | delete
  | forget
  deriving DecidableEq, Repr

def Plan.text : Plan → String
  | .create => "create"
  | .resumeCreate => "resume create"
  | .update drifts => "update (" ++ String.intercalate "; " (drifts.map Drift.text) ++ ")"
  | .noOp => "no-op"
  | .delete => "delete"
  | .forget => "forget"

namespace Engine

/-- What a pass would do for a record that is not to be deleted. -/
def planOf (client : Client) (record : Record) : Pass Plan := do
  match ← client.observe record with
  | .absent => return .create
  | .unclaimed _ =>
      if ← Pass.hasRival record then throw record.collision
      return .resumeCreate
  | .owned _ [] => return .noOp
  | .owned _ drifts => return .update drifts

/-- What a pass would do for a record. -/
def plan (engine : Engine) (id : RecordId) : Pass Plan := do
  match ← Pass.ask (.readRecord id) with
  | none => throw (.store (.recordNotFound id.text))
  | some record =>
      (record.validate).mapError PassError.invalidSpec
      if record.isDeleting then
        return if record.isClaimed then .delete else .forget
      let client ← engine.connect record.kind record
      planOf client record

end Engine

end Steward
