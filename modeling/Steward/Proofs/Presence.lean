/-
This file says which resources are on the remote side, and which of them passes leave there.
A create or an update takes nothing away, and a delete takes away no more than the resource of
its own record.
-/

import Steward.Proofs.Effects
import Steward.Proofs.Pipeline

namespace Steward

open Pass

namespace Plane

/-- A resource of this kind and name is there. Service accounts go by their keys and not by the
names of their records, so none counts. -/
def Holds (plane : Plane) : Kind → String → Prop
  | .bucket, name => plane.buckets.contains name = true
  | .user, name => plane.users.contains name = true
  | .policy, name => plane.policies.contains name = true
  | .serviceAccount, _ => False

/-- Every resource of the one remote side is on the other. -/
def Keeps (before after : Plane) : Prop :=
  ∀ kind name, before.Holds kind name → after.Holds kind name

/-- Every resource of the one remote side is on the other, but for that of a record. -/
def KeepsBut (before : Plane) (record : Record) (after : Plane) : Prop :=
  ∀ kind name, before.Holds kind name → (kind = record.kind → name ≠ record.targetName) →
    after.Holds kind name

variable {before middle after : Plane} {record : Record}

theorem Keeps.refl (plane : Plane) : plane.Keeps plane :=
  fun _ _ held => held

theorem Keeps.trans (first : before.Keeps middle) (second : middle.Keeps after) :
    before.Keeps after :=
  fun kind name held => second kind name (first kind name held)

theorem Keeps.keepsBut (keeps : before.Keeps after) : before.KeepsBut record after :=
  fun kind name held _ => keeps kind name held

/-- To hold a resource is to have it, but for service accounts, which go by their keys. -/
theorem holds_iff {plane : Plane} {kind : Kind} {name : String} :
    plane.Holds kind name ↔ kind ≠ .serviceAccount ∧ plane.Has kind name := by
  cases kind with
  | serviceAccount => simp [Holds]
  | _ => simp [Holds, Has]

section Calls

variable {call : RemoteCall} {answer : Except RemoteError call.Result}

/-- A call that takes nothing away leaves every resource where it is. -/
theorem Responds.keeps (responds : before.Responds call answer after)
    (left : call.taken? = none) : before.Keeps after := by
  intro kind name held
  obtain ⟨named, there⟩ := holds_iff.1 held
  refine holds_iff.2 ⟨named, responds.has there ?_⟩
  rw [left]
  exact nofun

/-- A call that fails takes nothing away. -/
theorem Responds.keeps_of_error {error : RemoteError}
    (responds : before.Responds call (.error error) after) : before.Keeps after := by
  obtain rfl | ⟨keys, rfl⟩ := responds.of_error
  · exact Keeps.refl _
  · intro kind name held
    cases kind
    all_goals exact held

end Calls

theorem keeps_withBucket {name : String} {bucket : Bucket} {mutations : Nat} :
    before.Keeps (before.withBucket name bucket mutations) := by
  intro kind other held
  cases kind with
  | bucket => exact Table.contains_insert held
  | _ => exact held

theorem keeps_withUser {name : String} {user : User} {mutations : Nat} :
    before.Keeps (before.withUser name user mutations) := by
  intro kind other held
  cases kind with
  | user => exact Table.contains_insert held
  | _ => exact held

theorem keeps_withPolicy {name document : String} {mutations : Nat} :
    before.Keeps (before.withPolicy name document mutations) := by
  intro kind other held
  cases kind with
  | policy => exact Table.contains_insert held
  | _ => exact held

/-- To provide a resource takes no other away. -/
theorem Provides.keeps {creation : Creation} (provided : before.Provides record creation after) :
    before.Keeps after := by
  unfold Provides at provided
  split at provided
  · obtain ⟨-, -, mutations, rfl⟩ := provided
    exact keeps_withBucket
  · obtain ⟨secret, policies, mutations, -, -, -, rfl⟩ := provided
    exact keeps_withUser
  · obtain ⟨-, document, mutations, -, rfl⟩ := provided
    exact keeps_withPolicy
  · obtain ⟨-, mutations, rfl⟩ := provided
    exact Keeps.refl _

/-- What has been provided is there. -/
theorem Provides.holds {creation : Creation} (provided : before.Provides record creation after)
    (named : record.kind ≠ .serviceAccount) : after.Holds record.kind record.targetName := by
  unfold Provides at provided
  rw [Record.kind] at named ⊢
  cases asked : record.spec with
  | bucket spec =>
      rw [asked] at provided
      obtain ⟨-, -, mutations, rfl⟩ := provided
      change (before.buckets.insert _ _).contains _ = true
      exact Table.contains_insert_self
  | user spec =>
      rw [asked] at provided
      obtain ⟨secret, policies, mutations, -, -, -, rfl⟩ := provided
      change (before.users.insert _ _).contains _ = true
      exact Table.contains_insert_self
  | policy spec =>
      rw [asked] at provided
      obtain ⟨-, document, mutations, -, rfl⟩ := provided
      change (before.policies.insert _ _).contains _ = true
      exact Table.contains_insert_self
  | serviceAccount spec =>
      rw [asked] at named
      exact absurd rfl named

/-- To amend a resource takes none away. -/
theorem Amends.keeps {drifts : List Drift} (amended : before.Amends record drifts after) :
    before.Keeps after := by
  unfold Amends at amended
  split at amended
  · obtain ⟨bucket, mutations, -, rfl⟩ := amended
    exact keeps_withBucket
  · obtain ⟨user, policies, mutations, -, -, rfl⟩ := amended
    exact keeps_withUser
  · obtain ⟨document, mutations, -, rfl⟩ := amended
    exact keeps_withPolicy
  · obtain ⟨accessKey, account, mutations, -, -, -, rfl⟩ := amended
    exact Keeps.refl _

/-- A resource that a probe does not find is not there. -/
theorem not_holds_of_sight (sight : before.sight record = .ok none) :
    ¬ before.Holds record.kind record.targetName := by
  unfold Plane.sight at sight
  intro held
  cases kind : record.kind with
  | bucket =>
      rw [kind] at sight held
      rw [Holds, Table.contains, Bucket.absent_of_seen sight] at held
      cases held
  | user =>
      rw [kind] at sight held
      have absent := Option.map_eq_none_iff.1 (Except.ok.inj sight)
      rw [Holds, Table.contains, absent] at held
      cases held
  | policy =>
      rw [kind] at sight held
      have absent := Option.map_eq_none_iff.1 (Except.ok.inj sight)
      rw [Holds, Table.contains, absent] at held
      cases held
  | serviceAccount =>
      rw [kind] at held
      exact held

end Plane

namespace Drain

/-- A request that bulk deletion makes before it removes the bucket. -/
def Empties (bucket : String) : Request → Prop
  | .remote (.objectLockEnabled other) | .remote (.listObjects other)
  | .remote (.removeObjects other _ _) => other = bucket
  | _ => False

/-- A move of one of the workers lists, or removes objects of the one bucket. -/
theorem Moves.only {settings : DeletionSettings} {bucket : String} {bypass : Bool}
    {pipeline : Pipeline} {move : Pass Pipeline}
    (moves : Moves settings bucket bypass pipeline move) :
    Only (Empties bucket) move := by
  cases moves with
  | list _ | receive _ => exact only_pure _
  | @remove batch _ =>
      have removing : Empties bucket (.remote (.removeObjects bucket batch bypass)) := rfl
      exact (only_call removing).bind fun _ => only_pure _

/-- However many moves the workers make, they remove objects of the one bucket at most. -/
theorem only_drive (settings : DeletionSettings) (scheduler : Scheduler) (bucket : String)
    (bypass : Bool) (moves taken : Nat) (pipeline : Pipeline) :
    Only (Empties bucket) (drive settings scheduler bucket bypass moves taken pipeline) := by
  induction moves generalizing taken pipeline with
  | zero => exact only_pure pipeline
  | succ moves inductionHypothesis =>
      unfold drive
      split
      · exact only_pure pipeline
      · rename_i move next
        exact (moves_of_move? next).only.bind fun pipeline => inductionHypothesis _ pipeline

/-- Nor do they more after the last move, when they are asked how it went. -/
theorem only_driven (settings : DeletionSettings) (scheduler : Scheduler) (bucket : String)
    (bypass : Bool) (entries : List (Except RemoteError ObjectInfo)) : Only (Empties bucket) (do
      let pipeline ← drive settings scheduler bucket bypass (4 * entries.length + 2) 0
        { unlisted := entries }
      match pipeline.remover with
      | .failed error => throw error
      | _ => return (⟨pipeline.listed, pipeline.removed, pipeline.skipped, bypass⟩ : DrainReport)) := by
  apply (only_drive _ _ _ _ _ _ _).bind
  intro pipeline
  split
  · exact only_throw _
  · exact only_pure _

/-- Bulk deletion removes nothing but objects until the bucket is empty. -/
theorem only_empty (settings : DeletionSettings) (scheduler : Scheduler) (bucket : String)
    (cancelled : Bool) : Only (Empties bucket) (empty settings scheduler bucket cancelled) := by
  have looked : Only (Empties bucket) (governanceBypass bucket) := by
    have asking : Empties bucket (.remote (.objectLockEnabled bucket)) := rfl
    apply (only_call asking).bind
    intro answer
    cases answer with
    | ok enabled => exact only_pure _
    | error error => exact only_pure _
  have listed : Only (Empties bucket) (listing bucket) := by
    have looking : Empties bucket (.remote (.listObjects bucket)) := rfl
    refine (only_call looking).bind fun answer => ?_
    cases answer with
    | ok entries => exact only_pure _
    | error error => exact only_pure _
  refine looked.bind fun bypass => listed.bind fun entries => ?_
  have driven := only_driven settings scheduler bucket bypass entries
  cases cancelled with
  | true => exact (only_throw _).bind fun _ => driven
  | false => exact driven

end Drain

section Deletion

variable {world later : World} {record : Record}

/-- Only the remote side has changed, and on it no resource is gone. -/
def World.Keeps (before after : World) : Prop :=
  ∃ plane, after = { before with plane } ∧ plane.faults = before.plane.faults ∧
    before.plane.Keeps plane

/-- Only the remote side has changed, and on it the resource of a record at most is gone. -/
def World.KeepsBut (before : World) (record : Record) (after : World) : Prop :=
  ∃ plane, after = { before with plane } ∧ plane.faults = before.plane.faults ∧
    before.plane.KeepsBut record plane

theorem World.Keeps.refl (world : World) : world.Keeps world :=
  ⟨world.plane, rfl, rfl, Plane.Keeps.refl _⟩

theorem World.Keeps.keepsBut (keeps : world.Keeps later) : world.KeepsBut record later := by
  obtain ⟨plane, same, faults, kept⟩ := keeps
  exact ⟨plane, same, faults, kept.keepsBut⟩

/-- To empty a bucket leaves every resource, and the bucket itself, where it is. -/
theorem Drain.empty_keeps (calm : world.plane.IsCalm) (settings : DeletionSettings)
    (scheduler : Scheduler) (bucket : String) (cancelled : Bool) :
    Ends (Drain.empty settings scheduler bucket cancelled) world (fun _ later => world.Keeps later)
      fun _ later => world.Keeps later := by
  refine (Drain.only_empty settings scheduler bucket cancelled).ends ?_ (World.Keeps.refl world)
  intro request _ allowed ended
  obtain ⟨plane, rfl, faults, keeps⟩ := ended
  have still : plane.IsCalm := calm.of_faults faults
  unfold Drain.Empties at allowed
  split at allowed
  · rw [World.answer_of_reads still (Request.reads_of_reading rfl)]
    exact ⟨plane, rfl, faults, keeps⟩
  · rw [World.answer_of_reads still (Request.reads_of_reading rfl)]
    exact ⟨plane, rfl, faults, keeps⟩
  · rename_i bucket keys bypass
    refine ⟨(plane.perform (.removeObjects bucket keys bypass)).2, rfl, ?_, ?_⟩
    · rw [still.perform, Plane.respond_faults, Plane.counted_faults, faults]
    · rw [still.perform]
      exact keeps.trans (((plane.counted _).responds (.removeObjects bucket keys bypass)).keeps rfl)
  · exact allowed.elim

/-- A call takes away no resource, or that of a record. -/
def Removes (remote : RemoteCall) (record : Record) : Prop :=
  ∀ kind name, remote.taken? = some (kind, name) → kind ≠ .serviceAccount →
    kind = record.kind ∧ name = record.targetName

/-- If such a call fails nothing is gone, and if it is carried out no more than the resource of the
record. -/
theorem Removes.ends {remote : RemoteCall} (removes : Removes remote record)
    (calm : world.plane.IsCalm) {operation resource : String} :
    Ends (α := no_index _) (perform operation resource remote) world
      (fun _ later => world.KeepsBut record later) fun _ later => world.Keeps later := by
  have responds := (world.plane.counted remote).responds remote
  rw [calm.ends_perform]
  cases answered : ((world.plane.counted remote).respond remote).1 with
  | ok result =>
      refine ⟨_, rfl, responds.faults, fun kind name held apart => ?_⟩
      obtain ⟨named, there⟩ := Plane.holds_iff.1 held
      refine Plane.holds_iff.2 ⟨named, responds.has there fun taken => ?_⟩
      obtain ⟨own, same⟩ := removes kind name taken named
      exact apart own same
  | error error =>
      rw [answered] at responds
      exact ⟨_, rfl, responds.faults, responds.keeps_of_error⟩

/-- A call that takes away what the record stands for takes away nothing else. -/
theorem removes_own {remote : RemoteCall}
    (takes : remote.taken? = some (record.kind, record.targetName)) : Removes remote record := by
  intro kind name taken _
  cases takes.symm.trans taken
  exact ⟨rfl, rfl⟩

/-- A service account is none of the resources that go by the names of records. -/
theorem removes_account (accessKey : String) :
    Removes (.deleteServiceAccount accessKey) record := by
  intro kind name taken named
  cases taken
  exact absurd rfl named

/-- To delete the resource of a record takes away no other, and none if it fails. -/
theorem Engine.delete_effect (engine : Engine) (calm : world.plane.IsCalm) (cancelled : Bool) :
    Ends ((engine.clientOf record.kind).delete record cancelled) world
      (fun _ later => world.KeepsBut record later) fun _ later => world.Keeps later := by
  cases kind : record.kind with
  | bucket =>
      change Ends (Bucket.delete engine.deletion engine.scheduler record cancelled) _ _ _
      rw [Bucket.delete, ends_bind, ends_lift]
      cases Bucket.specOf record with
      | error wrong => exact World.Keeps.refl world
      | ok spec =>
          dsimp only
          cases spec.deletionPolicy with
          | deleteIfEmpty => exact (removes_own (by rw [kind]; rfl)).ends calm
          | deleteAll =>
              rw [ends_bind, Drain.delete, ends_bind]
              refine (Drain.empty_keeps calm _ _ _ _).mono ?_ fun _ _ kept => kept
              intro report _ ended
              obtain ⟨plane, rfl, faults, keeps⟩ := ended
              have still : plane.IsCalm := calm.of_faults faults
              rw [ends_bind]
              refine ((removes_own (by rw [kind]; rfl)).ends ?_).mono ?_ ?_
              · exact still
              · intro _ _ ended
                obtain ⟨after, rfl, same, but⟩ := ended
                refine ⟨after, rfl, same.trans faults, fun other name held apart => ?_⟩
                exact but other name (keeps other name held) apart
              · intro _ _ ended
                obtain ⟨after, rfl, same, all⟩ := ended
                exact ⟨after, rfl, same.trans faults, keeps.trans all⟩
  | user => exact (removes_own (by rw [kind]; rfl)).ends calm
  | policy => exact (removes_own (by rw [kind]; rfl)).ends calm
  | serviceAccount =>
      change Ends (ServiceAccount.delete record cancelled) _ _ _
      unfold ServiceAccount.delete
      split
      · exact (World.Keeps.refl world).keepsBut
      · exact (removes_account _).ends calm

end Deletion

end Steward
