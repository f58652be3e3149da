/-
This file sets an engine up: the kinds it keeps, the profiles it connects with, and how it
deletes objects and sets policies. It also says what an engine makes of a remote resource that
it looks at.
-/

import Steward.Resource.Bucket
import Steward.Resource.Policy
import Steward.Resource.ServiceAccount
import Steward.Resource.User

namespace Steward

structure Engine where
  /-- The kinds that are kept. -/
  kinds : List Kind := Kind.all
  resolver : Resolver
  environment : Environment
  deletion : DeletionSettings := .standard
  /-- The order in which the two workers of a bulk deletion move. -/
  scheduler : Scheduler := .listFirst deletion
  binding : PolicyBinding := .replace

namespace Engine

/-- The kinds that are kept, in the order of their names. -/
def keptKinds (engine : Engine) : List Kind :=
  [.bucket, .policy, .serviceAccount, .user].filter (· ∈ engine.kinds)

/-- Fails unless the kind is kept. -/
def checkKind (engine : Engine) (kind : Kind) : Except PassError Unit :=
  if kind ∈ engine.kinds then .ok () else .error (.unsupportedKind kind)

def clientOf (engine : Engine) : Kind → Client
  | .bucket => Bucket.client engine.deletion engine.scheduler
  | .user => User.client engine.binding
  | .policy => Policy.client
  | .serviceAccount => ServiceAccount.client

/-- The client of a kind, connected with the settings of a record. -/
def connect (engine : Engine) (kind : Kind) (record : Record) : Except PassError Client := do
  engine.checkKind kind
  let _ ← (engine.resolver.connect engine.environment record).mapError .connect
  return engine.clientOf kind

end Engine

/-- What a look at the remote side has shown. -/
inductive Observation where
  | absent
  /-- The resource exists, and the record has begun to create it but has not claimed it. -/
  | unclaimed (observed : Observed)
  | owned (observed : Observed) (drifts : List Drift)
  deriving DecidableEq, Repr

/-- The failure of a record whose remote name belongs to somebody else. -/
def Record.collision (record : Record) : PassError :=
  .nameCollision record.kind record.targetName

/-- Looks at the resource of a record. One that exists without a claim or a pending create
belongs to somebody else. -/
def Client.observe (client : Client) (record : Record) : Pass Observation := do
  match ← client.probe record with
  | none => return .absent
  | some observed =>
      if record.isClaimed then
        let drifts ← client.diff record observed
        return .owned observed drifts
      else if record.metadata.isCreatePending then return .unclaimed observed
      else throw record.collision

/-- Whether another record claims the same remote resource. -/
def Record.isRivalOf (other record : Record) : Bool :=
  other.id ≠ record.id && other.kind = record.kind &&
    other.targetName = record.targetName && other.isClaimed

/-- Whether the store holds a rival of a record. -/
def Pass.hasRival (record : Record) : Pass Bool := do
  return (← Pass.ask .listRecords).any (·.isRivalOf record)

end Steward
