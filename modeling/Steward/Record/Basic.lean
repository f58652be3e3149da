/-
This file holds records: a declared resource with all that is known about it.
-/

import Steward.Record.Id
import Steward.Record.Markers
import Steward.Record.Spec
import Steward.Record.Status
import Steward.Text.Basic

namespace Steward

/-- How a record breaks the rules of its kind. -/
inductive RecordError where
  | invalidRecord (id reason : String)
  | missingField (id field : String)
  | exclusiveFields (id fields : String)
  deriving DecidableEq, Repr

def RecordError.message : RecordError → String
  | .invalidRecord id reason => "invalid record '" ++ id ++ "': " ++ reason
  | .missingField id field => "record '" ++ id ++ "' is missing required field '" ++ field ++ "'"
  | .exclusiveFields id fields => "record '" ++ id ++ "': exactly one of " ++ fields ++ " must be set"

/-- A declared resource. -/
structure Record where
  id : RecordId
  /-- The connection profile, when it is not the default one. -/
  credentialsRef : Option String := none
  spec : Spec
  metadata : Metadata := ∅
  status : Status := {}
  /-- The time at which the user asked for deletion. -/
  deletionRequested : Option Timestamp := none
  /-- A count of the changes to the spec. -/
  generation : Nat := 1
  deriving DecidableEq, Repr, Inhabited

namespace Record

def kind (record : Record) : Kind :=
  record.spec.kind

/-- The name of the remote resource: the one asked for, or else that of the record. -/
def targetName (record : Record) : String :=
  record.spec.explicitName.getD record.id.name

def isDeleting (record : Record) : Bool :=
  record.deletionRequested.isSome

def isClaimed (record : Record) : Bool :=
  record.metadata.isClaimed

/-- Checks the rules of the kind; the name is judged before the remote name, and both before
the settings. -/
def validate (record : Record) : Except RecordError Unit :=
  if Text.isBlank record.id.name then .error (.missingField record.id.text "name")
  else if Text.isBlank record.targetName then
    .error (.invalidRecord record.id.text "remote name must not be empty")
  else
    match record.spec with
    | .policy spec =>
        let given := fun (setting : Option String) => setting.any (· ≠ "")
        if given spec.allowBucket = given spec.rawPolicy then
          .error (.exclusiveFields record.id.text "allowBucket, rawPolicy")
        else .ok ()
    | .serviceAccount spec =>
        if Text.isBlank spec.parentUser then .error (.missingField record.id.text "parentUser")
        else .ok ()
    | .bucket _ | .user _ => .ok ()

end Record

end Steward
