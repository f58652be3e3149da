/-
This file sums up what passes would do and how the records stand.
-/

import Steward.Engine.Plan

namespace Steward

/-- What a pass would do for a resource, in words. -/
structure PlanEntry where
  resource : String
  decision : String
  deriving DecidableEq, Repr

namespace PlanEntry

def decisionText : Except PassError Plan → String
  | .ok plan => plan.text
  | .error (.nameCollision _ _) => "collision"
  | .error error => "error: " ++ error.message

/-- The name of the resource in a column of its own, and the decision. -/
def line (entry : PlanEntry) : String :=
  entry.resource ++ String.ofList (List.replicate (40 - entry.resource.length) ' ') ++ " " ++
    entry.decision

def toJson (entry : PlanEntry) : Json.Value :=
  .ofMembers [("resource", .string entry.resource), ("decision", .string entry.decision)]

end PlanEntry

/-- What passes would do for some records, one after the other. -/
def Engine.planAll (engine : Engine) (ids : List RecordId) : Program (List PlanEntry) :=
  ids.mapM fun id => do
    return ⟨id.text, PlanEntry.decisionText (← (engine.plan id).run)⟩

/-- How many records there are, are ready, and fail. -/
structure Summary where
  total : Nat
  ready : Nat
  failing : Nat
  deriving DecidableEq, Repr

def Summary.ofRecords (records : List Record) : Summary :=
  ⟨records.length, records.countP (·.status.isReady), records.countP (·.status.syncError.isSome)⟩

end Steward
