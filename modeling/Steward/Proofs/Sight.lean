/-
This file says what a probe shows of the remote side.
To look changes nothing, and what is seen depends on the markers and the spec of a record, but
never on its status.
-/

import Steward.Engine.Basic
import Steward.Proofs.Resource.Bucket
import Steward.Proofs.Resource.Policy
import Steward.Proofs.Resource.ServiceAccount
import Steward.Proofs.Resource.User

namespace Steward

open Pass

variable {world : World} {bad : PassError → World → Prop}

/-- What a probe for a record shows of a calm remote side. -/
def Plane.sight (plane : Plane) (record : Record) : Except PassError (Option Observed) :=
  match record.kind with
  | .bucket => Bucket.seenOf plane record.targetName
  | .user => .ok (User.seenOf plane record.targetName)
  | .policy => .ok (Policy.seenOf plane record.targetName)
  | .serviceAccount => .ok (record.metadata.externalName.bind (ServiceAccount.seenOf plane))

namespace Engine

/-- To look for a resource of any kind only reads. -/
theorem only_probe (engine : Engine) (kind : Kind) (record : Record) :
    Only Request.Reads ((engine.clientOf kind).probe record) := by
  cases kind with
  | bucket => exact Bucket.only_probe record
  | user => exact User.only_probe record
  | policy => exact Policy.only_probe record
  | serviceAccount => exact ServiceAccount.only_probe record

/-- In a calm world, a look for a resource shows what the remote side has. -/
theorem answer_probe (engine : Engine) (calm : world.plane.IsCalm) (record : Record) :
    ((engine.clientOf record.kind).probe record).answer world = world.plane.sight record := by
  unfold Plane.sight
  cases record.kind with
  | bucket => exact Bucket.answer_probe calm record
  | user => exact User.answer_probe calm record
  | policy => exact Policy.answer_probe calm record
  | serviceAccount => exact ServiceAccount.answer_probe calm record

end Engine

namespace Client

/-- What a client makes of a resource that was seen for a record. -/
def regard (client : Client) (record : Record) : Option Observed → Except PassError Observation
  | none => .ok .absent
  | some observed =>
      if record.isClaimed then (client.diff record observed).map (.owned observed)
      else if record.metadata.isCreatePending then .ok (.unclaimed observed)
      else .error record.collision

end Client

namespace Engine

/-- To observe a resource only reads. -/
theorem only_observe (engine : Engine) (kind : Kind) (record : Record) :
    Only Request.Reads ((engine.clientOf kind).observe record) := by
  apply (engine.only_probe kind record).bind
  intro seen
  split
  · exact only_pure _
  · split
    · exact (only_lift _).bind fun _ => only_pure _
    · split
      · exact only_pure _
      · exact only_throw _

/-- In a calm world, what is observed is what the remote side shows, as the kind regards it. -/
theorem answer_observe (engine : Engine) (calm : world.plane.IsCalm) (record : Record) :
    ((engine.clientOf record.kind).observe record).answer world =
      (world.plane.sight record).bind ((engine.clientOf record.kind).regard record) := by
  apply Ends.answer_eq
  rw [Client.observe, (engine.only_probe record.kind record).ends_bind_of_reads calm,
    engine.answer_probe calm record]
  cases world.plane.sight record with
  | error error => rfl
  | ok seen =>
      cases seen with
      | none => rfl
      | some observed =>
          simp only [Except.bind, Client.regard, ends_ite]
          split
          · cases (engine.clientOf record.kind).diff record observed
            · rfl
            · rfl
          · split
            · rfl
            · rfl

/-- Whichever profile a record connects by, its kind has one client. -/
theorem client_of_connect {engine : Engine} {kind : Kind} {record : Record} {client : Client}
    (connected : engine.connect kind record = .ok client) : client = engine.clientOf kind := by
  unfold connect at connected
  cases kept : engine.checkKind kind with
  | error unsupported => simp [kept, bind, Except.bind] at connected
  | ok _ =>
      cases reached : engine.resolver.connect engine.environment record with
      | error unreachable => simp [kept, reached, bind, Except.bind, mapError_error] at connected
      | ok connection =>
          simp only [kept, reached, bind, Except.bind, mapError_ok] at connected
          cases connected
          rfl

end Engine

end Steward
