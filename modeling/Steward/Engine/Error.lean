/-
This file names the causes for which a pass fails, and says which of them may clear up without
a change to the record or the remote side.
-/

import Steward.Connection.Basic
import Steward.Remote.Basic
import Steward.Store.Change

namespace Steward

open Text (quoted)

/-- Whether a failure is expected to pass on its own. -/
inductive ErrorClass where
  | transient
  | terminal
  deriving DecidableEq, Repr

def ErrorClass.text : ErrorClass → String
  | .transient => "transient"
  | .terminal => "terminal"

/-- Why a pass fails. -/
inductive PassError where
  | connect (error : ConnectError)
  | transient (operation reason : String)
  | permissionDenied (resource reason : String)
  | regionMismatch (resource region : String)
  | nameCollision (kind : Kind) (resource : String)
  | malformedPolicy (reason : String)
  | partialDeletion (object reason : String)
  | alreadyExists (resource : String)
  | notFound (resource : String)
  | missingDependency (kind : Kind) (name : String)
  | immutableField (resource field : String)
  | invalidSpec (error : RecordError)
  | rejected (operation reason : String)
  | unsupportedKind (kind : Kind)
  | store (error : StoreError)
  | cancelled
  | timeout (milliseconds : Nat)
  deriving DecidableEq, Repr

namespace PassError

def message : PassError → String
  | .connect error => "connect failed: " ++ error.message
  | .transient operation reason => operation ++ " failed: " ++ reason
  | .permissionDenied resource reason =>
      "permission denied on '" ++ resource ++ "': " ++ reason
  | .regionMismatch resource region =>
      "'" ++ resource ++ "' is located in region '" ++ region ++ "'"
  | .nameCollision kind resource =>
      kind.text ++ " '" ++ resource ++ "' already exists and is not owned by this record"
  | .malformedPolicy reason => "malformed policy: " ++ reason
  | .partialDeletion object reason =>
      "object " ++ quoted object ++ " cannot be removed: " ++ reason
  | .alreadyExists resource => "'" ++ resource ++ "' already exists"
  | .notFound resource => "'" ++ resource ++ "' not found"
  | .missingDependency kind name => kind.text ++ " '" ++ name ++ "' does not exist"
  | .immutableField resource field =>
      "field '" ++ field ++ "' of '" ++ resource ++ "' cannot be changed after creation"
  | .invalidSpec error => error.message
  | .rejected operation reason => operation ++ " rejected: " ++ reason
  | .unsupportedKind kind => "no connector registered for kind '" ++ kind.text ++ "'"
  | .store error => "record store: " ++ error.message
  | .cancelled => "reconcile pass cancelled"
  | .timeout milliseconds =>
      "reconcile pass timed out after " ++ toString (milliseconds / 1000) ++ "s"

def errorClass : PassError → ErrorClass
  | .regionMismatch _ _ | .nameCollision _ _ | .malformedPolicy _ | .missingDependency _ _
  | .immutableField _ _ | .invalidSpec _ | .unsupportedKind _ => .terminal
  | .connect _ | .transient _ _ | .permissionDenied _ _ | .partialDeletion _ _
  | .alreadyExists _ | .notFound _ | .rejected _ _ | .store _ | .cancelled | .timeout _ =>
      .transient

/-- Whether another pass may succeed without a change from outside. -/
def isRetryable (error : PassError) : Bool :=
  error.errorClass = .transient

/-- The word by which a program tells the cause. -/
def reason : PassError → String
  | .connect error => error.reason
  | .transient _ _ | .timeout _ => "transient"
  | .permissionDenied _ _ => "permission-denied"
  | .regionMismatch _ _ => "region-mismatch"
  | .nameCollision _ _ => "name-collision"
  | .malformedPolicy _ => "malformed-policy"
  | .partialDeletion _ _ => "partial-deletion-failure"
  | .alreadyExists _ => "already-exists"
  | .notFound _ => "not-found"
  | .missingDependency _ _ => "missing-dependency"
  | .immutableField _ _ => "immutable-field"
  | .invalidSpec _ => "invalid-spec"
  | .rejected _ _ => "rejected"
  | .unsupportedKind _ => "unsupported-kind"
  | .store _ => "store"
  | .cancelled => "cancelled"

def isNotFound : PassError → Bool
  | .notFound _ => true
  | _ => false

def isAlreadyExists : PassError → Bool
  | .alreadyExists _ => true
  | _ => false

/-- The failure of a remote operation on a resource. -/
def ofRemote (operation resource : String) : RemoteError → PassError
  | .notFound _ => .notFound resource
  | .forbidden reason => .permissionDenied resource reason
  | .wrongRegion region => .regionMismatch resource region
  | .alreadyExists _ => .alreadyExists resource
  | .unavailable reason => .transient (operation ++ " '" ++ resource ++ "'") reason
  | .rejected reason => .rejected (operation ++ " '" ++ resource ++ "'") reason

variable {operation resource : String} {error : RemoteError}

/-- Only a refusal that says so is taken for a name that is in use. -/
theorem isAlreadyExists_ofRemote (told : (ofRemote operation resource error).isAlreadyExists = true) :
    ∃ what, error = .alreadyExists what := by
  cases error with
  | alreadyExists what => exact ⟨what, rfl⟩
  | _ => cases told

/-- Only a refusal that says so is taken for a resource that is not there. -/
theorem isNotFound_ofRemote (told : (ofRemote operation resource error).isNotFound = true) :
    ∃ what, error = .notFound what := by
  cases error with
  | notFound what => exact ⟨what, rfl⟩
  | _ => cases told

end PassError

end Steward
