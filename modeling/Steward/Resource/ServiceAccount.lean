/-
This file keeps service accounts.
The remote side gives an account its access key. The key is kept as the external name of the
record, and without it the account cannot be found again.
-/

import Steward.Resource.Client

namespace Steward.ServiceAccount

open Text (quoted quotedOption)

def specOf (record : Record) : Except PassError ServiceAccountSpec :=
  match record.spec with
  | .serviceAccount spec => .ok spec
  | _ => .error (wrongKind record .serviceAccount)

def probe (record : Record) : Pass (Option Observed) := do
  match record.metadata.externalName with
  | none => return none
  | some accessKey =>
      let answer ← Pass.call (.serviceAccountInfo accessKey)
      let account ← Pass.found "get service account" accessKey answer
      return account.map fun account =>
        { accessKey := some accessKey
          parentUser := some account.parentUser
          description := account.description
          expiry := account.expiry
          policy := account.policy
          accountStatus := some account.status }

/-- The parent is always compared, the other settings only where they are desired. -/
def diff (record : Record) (observed : Observed) : Except PassError (List Drift) := do
  let spec ← specOf record
  let parent := if observed.parentUser = some spec.parentUser then []
    else
      [⟨.parentUser, "want " ++ quoted spec.parentUser ++ ", have " ++
        quotedOption quoted observed.parentUser⟩]
  let description := Drift.ofValue .description quoted spec.description observed.description
  let expiry := Drift.ofValue .expiry Timestamp.render spec.expiry observed.expiry
  let policy ← if spec.policy.isSome then Drift.ofPolicy .policy spec.policy observed.policy
    else pure none
  return parent ++ description.toList ++ expiry.toList ++ policy.toList

/-- Makes an account; a policy that is not JSON is refused before the call. -/
def create (record : Record) : Pass Creation := do
  let spec ← specOf record
  match spec.policy with
  | some policy =>
      let _ ← Drift.sameObject policy policy
  | none => pure ()
  let credentials ← Pass.perform "add service account" spec.parentUser
    (.addServiceAccount {
      parentUser := spec.parentUser
      name := some record.targetName
      description := spec.description
      expiry := spec.expiry
      policy := spec.policy })
  return {
    details := Table.ofList
      [("accessKey", credentials.accessKey), ("secretKey", credentials.secretKey),
        ("parentUser", spec.parentUser)]
    externalName := some credentials.accessKey }

/-- The secret of an account cannot be read back, so its create cannot be ended later. -/
def resumeCreate (record : Record) : Pass Creation :=
  throw (.notFound record.targetName)

/-- Overwrites the settings that differ; the parent cannot be changed. -/
def update (record : Record) (drifts : List Drift) : Pass Unit := do
  let spec ← specOf record
  match record.metadata.externalName with
  | none => throw (.notFound record.targetName)
  | some accessKey =>
      if Drift.flags drifts .parentUser then
        throw (.immutableField accessKey "parentUser")
      let flagged := fun {α : Type} (field : Field) (value : Option α) =>
        value.filter fun _ => Drift.flags drifts field
      let update : ServiceAccountUpdate := {
        description := flagged .description spec.description
        expiry := flagged .expiry spec.expiry
        policy := flagged .policy spec.policy }
      if update.isEmpty then return ()
      Pass.perform "update service account" accessKey (.updateServiceAccount accessKey update)

def delete (record : Record) (_cancelled : Bool) : Pass Unit := do
  match record.metadata.externalName with
  | none => return ()
  | some accessKey =>
      Pass.perform "delete service account" accessKey (.deleteServiceAccount accessKey)

def client : Client :=
  { probe, diff, create, resumeCreate, update, delete }

end Steward.ServiceAccount
