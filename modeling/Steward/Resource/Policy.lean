/-
This file keeps access policies.
-/

import Steward.Json.Writer
import Steward.Resource.Client

namespace Steward.Policy

open Json (Value)

def specOf (record : Record) : Except PassError PolicySpec :=
  match record.spec with
  | .policy spec => .ok spec
  | _ => .error (wrongKind record .policy)

/-- The policy that allows everything on a bucket and its objects, as a JSON value. -/
def allowBucketValue (bucket : String) : Value :=
  let resource := "arn:aws:s3:::" ++ bucket
  .ofMembers
    [("Version", .string "2012-10-17"),
      ("Statement", .array
        [.ofMembers
          [("Effect", .string "Allow"), ("Action", .ofStrings ["s3:*"]),
            ("Resource", .ofStrings [resource, resource ++ "/*"])]])]

/-- The policy that allows everything on a bucket and its objects. -/
def allowBucketPolicy (bucket : String) : String :=
  (allowBucketValue bucket).render

/-- The document that a record asks for, made from a bucket's name or written out. -/
def desiredDocument (record : Record) : Except PassError String := do
  let spec ← specOf record
  match spec.allowBucket.filter (· ≠ ""), spec.rawPolicy.filter (· ≠ "") with
  | some bucket, none => return allowBucketPolicy bucket
  | none, some document => return document
  | _, _ =>
      throw (.invalidSpec (.exclusiveFields record.id.text "allowBucket, rawPolicy"))

def probe (record : Record) : Pass (Option Observed) := do
  let name := record.targetName
  let answer ← Pass.call (.cannedPolicy name)
  let document ← Pass.found "get policy" name answer
  return document.map fun document => { policyName := some name, policy := some document }

def diff (record : Record) (observed : Observed) : Except PassError (List Drift) := do
  let desired ← desiredDocument record
  return (← Drift.ofPolicy .policy (some desired) observed.policy).toList

/-- Writes the document, if it is JSON. -/
def create (record : Record) : Pass Creation := do
  let document ← desiredDocument record
  let _ ← Drift.sameObject document document
  let name := record.targetName
  Pass.perform "add policy" name (.addCannedPolicy name document)
  return {}

def update (record : Record) (drifts : List Drift) : Pass Unit := do
  if drifts.isEmpty then return ()
  let document ← desiredDocument record
  let name := record.targetName
  Pass.perform "update policy" name (.addCannedPolicy name document)

def delete (record : Record) (_cancelled : Bool) : Pass Unit :=
  let name := record.targetName
  Pass.perform "remove policy" name (.removeCannedPolicy name)

/-- Writing a policy overwrites it, so a create cut short is ended by another one. -/
def client : Client :=
  { probe, diff, create, resumeCreate := create, update, delete }

end Steward.Policy
