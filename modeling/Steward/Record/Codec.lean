/-
This file writes records as JSON values and reads them from documents.
What is left open is left out of the written form.
-/

import Steward.Document
import Steward.Record.Basic

namespace Steward

open Json (Value)

def Timestamp.toJson (time : Timestamp) : Value :=
  .string time.render

def Timestamp.ofDocument? (document : Document) : Option Timestamp :=
  document.string?.bind read?

def RecordId.members (id : RecordId) : List (String × Option Value) :=
  [("namespace", id.space?.map .string), ("name", some (.string id.name))]

namespace DeletionPolicy

def text : DeletionPolicy → String
  | .deleteIfEmpty => "DeleteIfEmpty"
  | .deleteAll => "DeleteAll"

def choices : List (String × DeletionPolicy) :=
  [deleteIfEmpty, deleteAll].map fun policy => (policy.text, policy)

end DeletionPolicy

namespace BucketSpec

def toJson (spec : BucketSpec) : Value :=
  .ofPresent
    [("bucketName", spec.bucketName.map .string), ("region", spec.region.map .string),
      ("deletionPolicy", some (.string spec.deletionPolicy.text)),
      ("policy", spec.policy.map .string)]

def ofDocument? (document : Document) : Option BucketSpec := do
  let fields ← document.fields? ["bucketName", "region", "deletionPolicy", "policy"]
  return {
    bucketName := ← fields.optional "bucketName" Document.string?
    region := ← fields.optional "region" Document.string?
    deletionPolicy := ← fields.withDefault "deletionPolicy" .deleteIfEmpty
      (Document.choice? DeletionPolicy.choices)
    policy := ← fields.optional "policy" Document.string? }

end BucketSpec

namespace UserSpec

def toJson (spec : UserSpec) : Value :=
  .ofPresent
    [("userName", spec.userName.map .string), ("policies", some (.ofStrings spec.policies))]

def ofDocument? (document : Document) : Option UserSpec := do
  let fields ← document.fields? ["userName", "policies"]
  return {
    userName := ← fields.optional "userName" Document.string?
    policies := ← fields.withDefault "policies" [] (Document.list? Document.string?) }

end UserSpec

namespace PolicySpec

def toJson (spec : PolicySpec) : Value :=
  .ofPresent
    [("policyName", spec.policyName.map .string), ("allowBucket", spec.allowBucket.map .string),
      ("rawPolicy", spec.rawPolicy.map .string)]

def ofDocument? (document : Document) : Option PolicySpec := do
  let fields ← document.fields? ["policyName", "allowBucket", "rawPolicy"]
  return {
    policyName := ← fields.optional "policyName" Document.string?
    allowBucket := ← fields.optional "allowBucket" Document.string?
    rawPolicy := ← fields.optional "rawPolicy" Document.string? }

end PolicySpec

namespace ServiceAccountSpec

def toJson (spec : ServiceAccountSpec) : Value :=
  .ofPresent
    [("parentUser", some (.string spec.parentUser)), ("name", spec.name.map .string),
      ("description", spec.description.map .string),
      ("expiry", spec.expiry.map Timestamp.toJson), ("policy", spec.policy.map .string)]

def ofDocument? (document : Document) : Option ServiceAccountSpec := do
  let fields ← document.fields? ["parentUser", "name", "description", "expiry", "policy"]
  return {
    parentUser := ← fields.required "parentUser" Document.string?
    name := ← fields.optional "name" Document.string?
    description := ← fields.optional "description" Document.string?
    expiry := ← fields.optional "expiry" Timestamp.ofDocument?
    policy := ← fields.optional "policy" Document.string? }

end ServiceAccountSpec

namespace Spec

def toJson : Spec → Value
  | .bucket spec => .ofMembers [("bucket", spec.toJson)]
  | .user spec => .ofMembers [("user", spec.toJson)]
  | .policy spec => .ofMembers [("policy", spec.toJson)]
  | .serviceAccount spec => .ofMembers [("serviceAccount", spec.toJson)]

def ofDocument? (document : Document) : Option Spec := do
  let (kind, content) ← document.variant? ["bucket", "user", "policy", "serviceAccount"]
  let content ← content
  match kind with
  | "bucket" => (BucketSpec.ofDocument? content).map .bucket
  | "user" => (UserSpec.ofDocument? content).map .user
  | "policy" => (PolicySpec.ofDocument? content).map .policy
  | "serviceAccount" => (ServiceAccountSpec.ofDocument? content).map .serviceAccount
  | _ => none

end Spec

namespace Observed

def toJson (observed : Observed) : Value :=
  .ofPresent
    [("bucketName", observed.bucketName.map .string),
      ("userName", observed.userName.map .string),
      ("policyName", observed.policyName.map .string),
      ("accessKey", observed.accessKey.map .string),
      ("parentUser", observed.parentUser.map .string),
      ("description", observed.description.map .string),
      ("expiry", observed.expiry.map Timestamp.toJson),
      ("policy", observed.policy.map .string),
      ("policies", if observed.policies = [] then none else some (.ofStrings observed.policies)),
      ("accountStatus", observed.accountStatus.map .string)]

def ofDocument? (document : Document) : Option Observed := do
  let fields ← document.fields?
    ["bucketName", "userName", "policyName", "accessKey", "parentUser", "description", "expiry",
      "policy", "policies", "accountStatus"]
  return {
    bucketName := ← fields.optional "bucketName" Document.string?
    userName := ← fields.optional "userName" Document.string?
    policyName := ← fields.optional "policyName" Document.string?
    accessKey := ← fields.optional "accessKey" Document.string?
    parentUser := ← fields.optional "parentUser" Document.string?
    description := ← fields.optional "description" Document.string?
    expiry := ← fields.optional "expiry" Timestamp.ofDocument?
    policy := ← fields.optional "policy" Document.string?
    policies := ← fields.withDefault "policies" [] (Document.list? Document.string?)
    accountStatus := ← fields.optional "accountStatus" Document.string? }

end Observed

namespace Aspect

def text : Aspect → String
  | .ready => "Ready"
  | .synced => "Synced"

def choices : List (String × Aspect) :=
  [ready, synced].map fun aspect => (aspect.text, aspect)

end Aspect

namespace Reason

def text : Reason → String
  | .available => "Available"
  | .creating => "Creating"
  | .deleting => "Deleting"
  | .unavailable => "Unavailable"
  | .reconcileSuccess => "ReconcileSuccess"
  | .reconcileError => "ReconcileError"

def choices : List (String × Reason) :=
  [available, creating, deleting, unavailable, reconcileSuccess, reconcileError].map
    fun reason => (reason.text, reason)

end Reason

namespace Condition

def toJson (condition : Condition) : Value :=
  .ofPresent
    [("kind", some (.string condition.aspect.text)), ("status", some (.bool condition.status)),
      ("reason", some (.string condition.reason.text)),
      ("message", condition.message.map .string),
      ("lastTransition", some condition.lastTransition.toJson)]

def ofDocument? (document : Document) : Option Condition := do
  let fields ← document.fields? ["kind", "status", "reason", "message", "lastTransition"]
  return {
    aspect := ← fields.required "kind" (Document.choice? Aspect.choices)
    status := ← fields.required "status" Document.bool?
    reason := ← fields.required "reason" (Document.choice? Reason.choices)
    message := ← fields.optional "message" Document.string?
    lastTransition := ← fields.required "lastTransition" Timestamp.ofDocument? }

end Condition

namespace Status

def toJson (status : Status) : Value :=
  .ofPresent
    [("atProvider", some status.observed.toJson),
      ("conditions", if status.conditions = [] then none
        else some (.array (status.conditions.map Condition.toJson))),
      ("lastReconciled", status.lastReconciled.map Timestamp.toJson),
      ("observedGeneration", some (.ofNat status.observedGeneration))]

def ofDocument? (document : Document) : Option Status := do
  let fields ← document.fields?
    ["atProvider", "conditions", "lastReconciled", "observedGeneration"]
  return {
    observed := ← fields.withDefault "atProvider" {} Observed.ofDocument?
    conditions := ← fields.withDefault "conditions" [] (Document.list? Condition.ofDocument?)
    lastReconciled := ← fields.optional "lastReconciled" Timestamp.ofDocument?
    observedGeneration := ← fields.withDefault "observedGeneration" 0 Document.unsigned? }

end Status

namespace Metadata

def toJson (metadata : Metadata) : Value :=
  .object (metadata.entries.map fun entry => (entry.1, .string entry.2))

def ofDocument? (document : Document) : Option Metadata :=
  document.tableOf? Document.string?

end Metadata

namespace Record

def toJson (record : Record) : Value :=
  .ofPresent <| record.id.members ++
    [("credentialsRef", record.credentialsRef.map .string), ("spec", some record.spec.toJson),
      ("metadata", if record.metadata.isEmpty then none else some record.metadata.toJson),
      ("status", some record.status.toJson),
      ("deletionRequested", record.deletionRequested.map Timestamp.toJson),
      ("generation", some (.ofNat record.generation))]

/-- The fields of a record that are not those of its identity. -/
def ownFields : List String :=
  ["credentialsRef", "spec", "metadata", "status", "deletionRequested", "generation"]

/-- A record is a table whose fields stand beside those of its identity; what the latter stand
for is settled before they are read. -/
def ofDocument? (document : Document) : Option Record := do
  let fields ← document.namedFields? ownFields
  let loose ← document.looseFields? ownFields
  let identity : Document.Fields :=
    loose.filter fun field => field.1 ∈ ["namespace", "name"]
  if ¬ (identity.map Prod.fst).Nodup then none
  return {
    id := {
      space? := ← identity.optional "namespace" Document.string?
      name := ← identity.required "name" Document.string? }
    credentialsRef := ← fields.optional "credentialsRef" Document.string?
    spec := ← fields.required "spec" Spec.ofDocument?
    metadata := ← fields.withDefault "metadata" ∅ Metadata.ofDocument?
    status := ← fields.withDefault "status" {} Status.ofDocument?
    deletionRequested := ← fields.optional "deletionRequested" Timestamp.ofDocument?
    generation := ← fields.withDefault "generation" 0 Document.unsigned? }

end Record

end Steward
