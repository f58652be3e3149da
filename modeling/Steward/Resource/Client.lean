/-
This file says what the engine needs from a kind of resource: to look at one, to compare it
with its record, and to create, change and delete it.
-/

import Steward.Engine.Drift
import Steward.Engine.Program

namespace Steward

/-- What a create has produced: details for the owner, and the name that the remote side gave. -/
structure Creation where
  details : Details := ∅
  externalName : Option String := none
  deriving DecidableEq, Repr, Inhabited

/-- The work on resources of one kind. -/
structure Client where
  /-- What the remote side shows of the resource, or nothing if there is none. -/
  probe : Record → Pass (Option Observed)
  /-- The differences between the record and what was seen. -/
  diff : Record → Observed → Except PassError (List Drift)
  create : Record → Pass Creation
  /-- Ends a create that was cut short after the remote side had accepted it. -/
  resumeCreate : Record → Pass Creation
  /-- Overwrites the fields that differ. -/
  update : Record → List Drift → Pass Unit
  /-- Deletes the resource; the flag says that the work was cancelled beforehand. -/
  delete : Record → Bool → Pass Unit

/-- The failure of a kind that is given the record of another one. -/
def wrongKind (record : Record) (expected : Kind) : PassError :=
  .invalidSpec (.invalidRecord record.id.text
    ("expected a " ++ expected.text ++ " spec, got " ++ record.kind.text))

/-- Whether some difference is in the given field. -/
def Drift.flags (drifts : List Drift) (field : Field) : Bool :=
  drifts.any fun drift => drift.field = field

/-- An answer in which a missing resource counts as nothing. -/
def Pass.found {α : Type} (operation resource : String) :
    Except RemoteError α → Pass (Option α)
  | .ok value => return some value
  | .error (.notFound _) => return none
  | .error error => throw (.ofRemote operation resource error)

end Steward
