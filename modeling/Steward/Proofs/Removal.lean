/-
This file shows when a resource is gone whose record a pass has deleted.
To delete what is not there is fine, so a pass takes every answer that something is not there for
the end of its work. As long as no fault makes a removal give this answer, the resource is gone when
the pass has deleted its record, and is left when the pass fails.
-/

import Steward.Proofs.Foresight
import Steward.Proofs.Isolation
import Steward.Proofs.Refusals
import Steward.Proofs.Setback

namespace Steward

open Pass

/-- The calls by which the resource of a record is removed, with everything in it. -/
def Record.removals (record : Record) : List String :=
  match record.spec with
  | .bucket spec =>
      match spec.deletionPolicy with
      | .deleteIfEmpty => ["remove_bucket"]
      | .deleteAll => ["remove_objects", "remove_bucket"]
  | .user _ => ["remove_user"]
  | .policy _ => ["remove_canned_policy"]
  | .serviceAccount _ => ["delete_service_account"]

namespace Plane

/-- No fault is armed by which one of these calls would say that something is not there. -/
def IsHonest (plane : Plane) (calls : List String) : Prop :=
  ∀ name ∈ calls, ∀ resource, plane.faults.next.get? name ≠ some (.notFound resource)

/-- A resource is there after a failure if it was before. If the failure is that something is not
there, then the resource is not. -/
structure Withstands (before : Plane) (kind : Kind) (name : String) (error : PassError)
    (after : Plane) : Prop where
  stays : after.Has kind name ↔ before.Has kind name
  truthful : error.isNotFound = true → ¬ after.Has kind name

variable {before after plane : Plane} {calls : List String} {kind : Kind} {name : String}
  {call : RemoteCall}

/-- Where no fault is armed, none says that something is not there. -/
theorem isHonest_of_isCalm (calm : plane.IsCalm) (calls : List String) : plane.IsHonest calls := by
  intro name _ resource armed
  have unarmed : plane.faults.next = ∅ := calm
  rw [unarmed, Table.get?_empty] at armed
  cases armed

theorem Disarms.isHonest (disarms : before.Disarms after) (honest : before.IsHonest calls) :
    after.IsHonest calls :=
  fun name among resource armed => honest name among resource (disarms name _ armed)

/-- To arm a fault is harmless if the fault is for another call, or says something else. -/
theorem IsHonest.failNext (honest : plane.IsHonest calls) {operation : String}
    {error : RemoteError}
    (harmless : operation ∈ calls → ∀ resource, error ≠ .notFound resource) :
    (plane.failNext operation error).IsHonest calls := by
  intro name among resource armed
  have told : (plane.faults.next.insert operation error).get? name = some (.notFound resource) :=
    armed
  rw [Table.get?_insert] at told
  split at told
  · rename_i same
    exact harmless (same ▸ among) resource (Option.some.inj told)
  · exact honest name among resource told

/-- A fault of a removal takes the place of its answer. -/
theorem faulted_of_isRemoval (removal : call.isRemoval = true) (error : RemoteError) :
    faulted error call = .error error := by
  cases call with
  | listObjects _ => cases removal
  | _ => rfl

end Plane

section Calls

variable {world : World} {calls : List String} {kind : Kind} {name : String}

/-- A call that removes a resource takes it away or leaves it, unless a fault hides which. -/
theorem RemoteCall.removes_ends {remote : RemoteCall}
    (takes : remote.taken? = some (kind, name)) (honest : world.plane.IsHonest calls)
    (among : remote.name ∈ calls) {operation resource : String} :
    Ends (α := no_index _) (perform operation resource remote) world
      (fun _ later => ¬ later.plane.Has kind name)
      fun error later => world.plane.Withstands kind name error later.plane := by
  have removal := isRemoval_of_taken? takes
  have responds := (world.plane.enter remote).2.responds remote
  rw [ends_perform]
  cases answered : (world.plane.perform remote).1 with
  | ok result =>
      dsimp only
      obtain ⟨fault, -, faulted⟩ | ⟨-, told⟩ := world.plane.perform_cases remote
      · rw [faulted, Plane.faulted_of_isRemoval removal] at answered
        cases answered
      · rw [told] at answered ⊢
        rw [answered] at responds
        exact responds.not_has takes
  | error error =>
      have stays : world.plane.StaysAt kind name (world.plane.perform remote).2 :=
        Plane.stays_of_refused answered
      refine ⟨stays.same.has_iff, fun unfound => ?_⟩
      obtain ⟨what, rfl⟩ := PassError.isNotFound_ofRemote unfound
      obtain ⟨fault, armed, faulted⟩ | ⟨-, told⟩ := world.plane.perform_cases remote
      · rw [faulted, Plane.faulted_of_isRemoval removal] at answered
        cases answered
        exact absurd armed (honest _ among what)
      · rw [told] at answered ⊢
        rw [answered] at responds
        exact responds.not_has_of_notFound takes

/-- What leaves a resource in place does not bear on whether an error leaves it. -/
theorem Plane.Withstands.of_stays {before middle after : Plane} {error : PassError}
    (withstands : middle.Withstands kind name error after)
    (stays : middle.Has kind name ↔ before.Has kind name) :
    before.Withstands kind name error after :=
  ⟨withstands.stays.trans stays, withstands.truthful⟩

end Calls

namespace Drain

/-- While a bucket is emptied, it is there if it was before, and faults have been used up at most.
A remover that has failed because something is not there is right about the bucket. -/
structure Proceeds (before : Plane) (name : String) (pipeline : Pipeline) (world : World) :
    Prop where
  disarms : before.Disarms world.plane
  stays : world.plane.Has .bucket name ↔ before.Has .bucket name
  truthful : ∀ error, pipeline.remover = .failed error → error.isNotFound = true →
    ¬ world.plane.Has .bucket name

variable {settings : DeletionSettings} {name : String} {bypass : Bool} {pipeline : Pipeline}
  {before : Plane} {world : World} {calls : List String}

/-- Removing objects, a call says of nothing but the bucket that it is not there. -/
theorem absent_of_removeObjects (honest : world.plane.IsHonest calls)
    (among : "remove_objects" ∈ calls) {keys : List String} {what : String}
    (failed : (world.plane.perform (.removeObjects name keys bypass)).1 =
      .error (.notFound what)) : ¬ world.plane.Has .bucket name := by
  obtain ⟨fault, armed, faulted⟩ | ⟨-, told⟩ :=
    world.plane.perform_cases (.removeObjects name keys bypass)
  · rw [faulted] at failed
    cases failed
    exact absurd armed (honest _ among what)
  · have responds := (world.plane.enter (.removeObjects name keys bypass)).2.responds
      (.removeObjects name keys bypass)
    rw [told] at failed
    rw [failed] at responds
    intro there
    exact responds.not_has_of_removeObjects ((world.plane.sameAt_enter _).has_iff.2 there)

/-- A move of one of the workers keeps to what holds while a bucket is emptied. -/
theorem Moves.proceeds {move : Pass Pipeline} (moves : Moves settings name bypass pipeline move)
    (honest : before.IsHonest calls) (among : "remove_objects" ∈ calls)
    (proceeds : Proceeds before name pipeline world) :
    Ends move world (Proceeds before name) fun _ _ => False := by
  cases moves with
  | list listed =>
      have same := (Pipeline.lists_of_list? listed).2.remover_eq
      exact ⟨proceeds.disarms, proceeds.stays, fun error failed =>
        proceeds.truthful error (same.symm.trans failed)⟩
  | receive received =>
      obtain ⟨-, ⟨-, -, rfl⟩ | ⟨size, -, -, -, rfl⟩⟩ := Pipeline.receive?_cases received
      · exact ⟨proceeds.disarms, proceeds.stays, fun error => nofun⟩
      · exact ⟨proceeds.disarms, proceeds.stays, fun error => nofun⟩
  | @remove batch removes =>
      let call := RemoteCall.removeObjects name batch bypass
      have disarms : before.Disarms (world.plane.perform call).2 := fun other error armed =>
        proceeds.disarms other error (world.plane.disarms_perform call other error armed)
      have stays : (world.plane.perform call).2.Has .bucket name ↔ world.plane.Has .bucket name := by
        apply @Plane.perform_keeps world.plane call fun later =>
          later.Has .bucket name ↔ world.plane.Has .bucket name
        · exact (world.plane.sameAt_enter call).has_iff
        · exact fun later same => (later.responds call).has_iff_of_removeObjects.trans same
      rw [request, ends_bind, ends_call]
      refine ⟨disarms, stays.trans proceeds.stays, fun error failed missing there => ?_⟩
      cases answered : (world.plane.perform call).1 with
      | ok failures =>
          rw [answered] at failed
          cases failures with
          | nil => cases failed
          | cons failure failures =>
              cases failed
              cases missing
      | error refused =>
          rw [answered] at failed
          cases failed
          obtain ⟨what, rfl⟩ := PassError.isNotFound_ofRemote missing
          exact absent_of_removeObjects (proceeds.disarms.isHonest honest) among answered
            (stays.1 there)

/-- To ask for the object lock leaves every resource in place. -/
theorem governanceBypass_stays (bucket : String) (kind : Kind) (other : String) :
    Ends (governanceBypass bucket) world
      (fun _ later => world.plane.StaysAt kind other later.plane) fun _ _ => False := by
  rw [governanceBypass, ends_bind, ends_call]
  have stays := @Plane.stays_of_reading world.plane kind other (.objectLockEnabled bucket) rfl
  split
  · exact stays
  · exact stays

/-- To list a bucket leaves every resource in place. -/
theorem listing_stays (bucket : String) (kind : Kind) (other : String) :
    Ends (listing bucket) world
      (fun _ later => world.plane.StaysAt kind other later.plane) fun _ _ => False := by
  rw [listing, ends_bind, ends_call]
  have stays := @Plane.stays_of_reading world.plane kind other (.listObjects bucket) rfl
  split
  · exact stays
  · exact stays

/-- To empty a bucket leaves it where it is. If this fails because something is not there, then
the bucket is not. -/
theorem empty_withstands (honest : world.plane.IsHonest calls) (among : "remove_objects" ∈ calls)
    (settings : DeletionSettings) (scheduler : Scheduler) (name : String) (cancelled : Bool) :
    Ends (empty settings scheduler name cancelled) world
      (fun _ later => world.plane.Disarms later.plane ∧
        (later.plane.Has .bucket name ↔ world.plane.Has .bucket name))
      fun error later => world.plane.Withstands .bucket name error later.plane := by
  rw [empty, ends_bind]
  apply (governanceBypass_stays name .bucket name).of_succeeds
  intro bypass looked early
  rw [ends_bind]
  apply (listing_stays name .bucket name).of_succeeds
  intro entries listed late
  have stays := early.trans late
  split
  · exact ⟨stays.same.has_iff, nofun⟩
  · have start : Proceeds world.plane name { unlisted := entries } listed :=
      ⟨stays.disarms, stays.same.has_iff, fun error => nofun⟩
    rw [ends_bind]
    apply (drive_keeps (fun _ _ _ moves fine => moves.proceeds honest among fine) scheduler _ _
      start).of_succeeds
    intro last later proceeds
    split
    · rename_i error failed
      exact ⟨proceeds.stays, proceeds.truthful error failed⟩
    · exact ⟨proceeds.disarms, proceeds.stays⟩

/-- A bucket that is to be deleted with its objects is gone, or is left if that fails. -/
theorem delete_removes (honest : world.plane.IsHonest ["remove_objects", "remove_bucket"])
    (settings : DeletionSettings) (scheduler : Scheduler) (name : String) (cancelled : Bool) :
    Ends (delete settings scheduler name cancelled) world
      (fun _ later => ¬ later.plane.Has .bucket name)
      fun error later => world.plane.Withstands .bucket name error later.plane := by
  rw [delete, ends_bind]
  apply (empty_withstands honest (by decide) settings scheduler name cancelled).mono
  · rintro report emptied ⟨disarms, stays⟩
    have among : (RemoteCall.removeBucket name).name ∈ ["remove_objects", "remove_bucket"] :=
      .tail _ (.head _)
    rw [ends_bind]
    apply (RemoteCall.removes_ends rfl (disarms.isHonest honest) among).mono
    · exact fun _ last gone => gone
    · exact fun _ last withstands => withstands.of_stays stays
  · exact fun _ _ withstands => withstands

end Drain

section Deletion

variable {world : World} {record : Record} {kind : Kind} {name : String}

namespace Engine

variable {engine : Engine}

/-- When the resource of a record has been deleted, it is gone, and it is left if that fails. -/
theorem clientDelete_removes (engine : Engine) (honest : world.plane.IsHonest record.removals)
    (own : record.resource? = some (kind, name)) :
    Ends ((engine.clientOf record.kind).delete record false) world
      (fun _ later => ¬ later.plane.Has kind name)
      fun error later => world.plane.Withstands kind name error later.plane := by
  unfold Record.removals at honest
  cases asked : record.spec with
  | bucket spec =>
      have made : record.kind = .bucket := by rw [Record.kind, asked]; rfl
      cases own.symm.trans (Record.resource?_of_kind made (by decide))
      rw [made]
      change Ends (Bucket.delete engine.deletion engine.scheduler record false) _ _ _
      simp only [Bucket.delete, Bucket.specOf_eq asked, ends_bind, ends_lift]
      simp only [asked] at honest
      cases policy : spec.deletionPolicy with
      | deleteIfEmpty =>
          rw [policy] at honest
          exact RemoteCall.removes_ends rfl honest (.head _)
      | deleteAll =>
          rw [policy] at honest
          rw [ends_bind]
          exact (Drain.delete_removes honest _ _ _ _).mono (fun _ _ gone => gone)
            fun _ _ withstands => withstands
  | user spec =>
      have made : record.kind = .user := by rw [Record.kind, asked]; rfl
      cases own.symm.trans (Record.resource?_of_kind made (by decide))
      rw [asked] at honest
      rw [made]
      exact RemoteCall.removes_ends rfl honest (.head _)
  | policy spec =>
      have made : record.kind = .policy := by rw [Record.kind, asked]; rfl
      cases own.symm.trans (Record.resource?_of_kind made (by decide))
      rw [asked] at honest
      rw [made]
      exact RemoteCall.removes_ends rfl honest (.head _)
  | serviceAccount spec =>
      have made : record.kind = .serviceAccount := by rw [Record.kind, asked]; rfl
      rw [Record.resource?, made] at own
      obtain ⟨accessKey, given, same⟩ := Option.map_eq_some_iff.1 own
      cases same
      rw [asked] at honest
      rw [made]
      change Ends (ServiceAccount.delete record false) _ _ _
      rw [ServiceAccount.delete, given]
      exact RemoteCall.removes_ends rfl honest (.head _)

/-- The resource of a record that is deleted is gone, and it is left if that fails. -/
theorem delete_removes (stored : world.store.get? record.id = some record)
    (honest : world.plane.IsHonest record.removals)
    (own : record.resource? = some (kind, name)) :
    Ends (delete (engine.clientOf record.kind) record) world
      (fun _ later => ¬ later.plane.Has kind name)
      fun _ later => later.plane.Has kind name ↔ world.plane.Has kind name := by
  have works : Only (Request.Abides record) ((engine.clientOf record.kind).delete record false) :=
    (engine.only_clientDelete record false).mono fun _ handles => handles.2.1.abides
  -- The record is still there when it is to be erased, so that cannot fail.
  have erases : ∀ later : World, world.store.Abides record later.store →
      ¬ later.plane.Has kind name →
      Ends (do Pass.erase record.id; return Outcome.deleted) later
        (fun _ last => ¬ last.plane.Has kind name)
        fun _ last => last.plane.Has kind name ↔ world.plane.Has kind name := by
    intro later abides gone
    obtain ⟨current, -, present⟩ := abides.get?
    rw [ends_bind, ends_erase, present]
    exact gone
  refine delete_ends stored fun status clock => ?_
  have told : world.store.Abides record (world.store.put { record with status }) :=
    (Store.Abides.refl stored).put ((Record.Abides.refl record).withStatus status)
  let middle : World := { world with store := world.store.put { record with status }, clock }
  have still : middle.plane.IsHonest record.removals := honest
  apply ((engine.clientDelete_removes still own).and (ends_abiding works told)).mono
  · rintro _ later ⟨gone, abides⟩
    exact erases later abides gone
  · rintro error later ⟨withstands, abides⟩
    split
    · rename_i missing
      exact erases later abides (withstands.truthful missing)
    · exact withstands.stays

/-- A pass that has deleted a record leaves nothing of it in the store. -/
theorem delete_erases {client : Client} (stored : world.store.get? record.id = some record) :
    Ends (delete client record) world
      (fun outcome later => outcome = .deleted ∧ later.store.get? record.id = none ∧
        later.store.details.get? record.id = none)
      fun _ _ => True := by
  have erases : ∀ later : World,
      Ends (do Pass.erase record.id; return Outcome.deleted) later
        (fun outcome last => outcome = .deleted ∧ last.store.get? record.id = none ∧
          last.store.details.get? record.id = none)
        fun _ _ => True := by
    intro later
    simp only [ends_bind, ends_erase]
    split
    · refine ⟨rfl, ?_, ?_⟩
      · rw [Store.get?_announce, Store.get?_without, if_pos rfl]
      · rw [Store.details_announce, Store.details_without, Table.get?_erase, if_pos rfl]
    · trivial
  refine delete_ends stored fun status clock => ?_
  apply (ends_answer _ _).mono
  · exact fun _ later _ => erases later
  · intro error later _
    split
    · exact erases later
    · trivial

/-- A pass over a record that owns something and is to be deleted ends as the deletion does. -/
theorem pass_ends_of_deleting (stored : world.store.get? record.id = some record)
    (claimed : record.isClaimed = true) (deleting : record.isDeleting = true)
    {good : Outcome → World → Prop} {kept : Plane → Prop} (start : kept world.plane)
    (deletes : Ends (delete (engine.clientOf record.kind) record) world good
      fun _ later => kept later.plane) :
    Ends (engine.pass record.id) world good fun _ later => kept later.plane := by
  rw [ends_pass stored]
  have advances : Ends (engine.advance record) world good fun _ later => kept later.plane := by
    apply advance_ends_of_deleting deleting
    · intro free
      cases claimed.symm.trans free
    · exact fun _ => deletes
    · exact fun _ => start
  apply advances.mono (fun _ _ fine => fine)
  intro error later left
  exact ends_reportError (fun _ _ _ _ => left) fun _ => left

/-- Whatever faults are armed that do not make a removal say that something is not there: when a pass
has deleted a record, its resource is gone, and the store has neither the record nor its details.
When the pass fails, the record still owns its resource, which is left if it was there. -/
theorem deleted_resource_is_gone (engine : Engine) (world : World) (record : Record)
    (cancelled : Bool) (stored : world.store.get? record.id = some record)
    (claimed : record.isClaimed = true) (deleting : record.isDeleting = true)
    (honest : world.plane.IsHonest record.removals) :
    let pass := engine.reconcile record.id cancelled
    (∀ outcome, pass.answer world = .ok outcome → outcome = .deleted ∧
      (∀ kind name, record.resource? = some (kind, name) →
        ¬ (pass.after world).plane.Has kind name) ∧
      (pass.after world).store.get? record.id = none ∧
      (pass.after world).store.details.get? record.id = none) ∧
    ∀ error, pass.answer world = .error error →
      (∃ left, (pass.after world).store.get? record.id = some left ∧ left.isClaimed = true) ∧
      ∀ kind name, record.resource? = some (kind, name) →
        ((pass.after world).plane.Has kind name ↔ world.plane.Has kind name) := by
  intro pass
  cases cancelled with
  | true =>
      refine ⟨fun outcome answered => ?_, fun error _ => ⟨⟨record, stored, claimed⟩, ?_⟩⟩
      · cases answered
      · exact fun _ _ _ => Iff.rfl
  | false =>
      have erases := @pass_ends_of_deleting world record engine stored claimed deleting _
        (fun _ => True) trivial (delete_erases stored)
      have removes : ∀ kind name, record.resource? = some (kind, name) →
          Ends (engine.pass record.id) world (fun _ later => ¬ later.plane.Has kind name)
            fun _ later => later.plane.Has kind name ↔ world.plane.Has kind name := by
        intro kind name own
        exact @pass_ends_of_deleting world record engine stored claimed deleting _
          (fun plane => plane.Has kind name ↔ world.plane.Has kind name) Iff.rfl
          (delete_removes stored honest own)
      constructor
      · intro outcome answered
        obtain ⟨deleted, erased, undisclosed⟩ := erases.of_ok answered
        exact ⟨deleted, fun kind name own => (removes kind name own).of_ok answered, erased,
          undisclosed⟩
      · intro error failed
        obtain ⟨left, setback⟩ := (pass_sets_back stored).of_error failed
        exact ⟨⟨left, setback.stored, setback.claimed.trans claimed⟩, fun kind name own =>
          (removes kind name own).of_error failed⟩

end Engine

end Deletion

namespace Sample

/-- A record whose bucket is deleted with the objects in it. -/
def cellar : Record where
  id := .plain "first"
  spec := .bucket
    { bucketName := none, region := none, deletionPolicy := .deleteAll, policy := none }

/-- This bucket has been created, an object has been put there, the record has been given up, and
a call is about to fail. -/
def thwarted (operation : String) (error : RemoteError) : World :=
  [.apply cellar, .reconcile cellar.id false, .disturb fun plane => plane.putObject "first" "a",
    .requestDeletion cellar.id default,
    .disturb fun plane => plane.failNext operation error].foldl engine.carryOut world

/-- The record as it stands there. -/
def condemned : Record :=
  ((thwarted "" (.notFound "")).store.get? cellar.id).getD default

end Sample

namespace Engine

/-- A listing that says that the bucket is not there leads to no false end: the bucket is not empty,
so it stays. -/
theorem deleted_resource_is_gone_of_thwarted :
    let world := Sample.thwarted "list_objects" (.notFound "bucket 'first'")
    let pass := Sample.engine.reconcile Sample.condemned.id false
    world.store.get? Sample.condemned.id = some Sample.condemned ∧
      Sample.condemned.isClaimed = true ∧ Sample.condemned.isDeleting = true ∧
      world.plane.IsHonest Sample.condemned.removals ∧ world.plane.Has .bucket "first" ∧
      (∃ error, pass.answer world = .error error) ∧
      (∃ left, (pass.after world).store.get? Sample.condemned.id = some left ∧
        left.isClaimed = true) ∧
      (pass.after world).plane.Has .bucket "first" := by
  intro world pass
  have stored : world.store.get? Sample.condemned.id = some Sample.condemned := by decide +kernel
  have claimed : Sample.condemned.isClaimed = true := by decide +kernel
  have deleting : Sample.condemned.isDeleting = true := by decide +kernel
  have there : world.plane.Has .bucket "first" := by decide +kernel
  have own : Sample.condemned.resource? = some (.bucket, "first") := by decide +kernel
  have honest : world.plane.IsHonest Sample.condemned.removals := by
    have other : "list_objects" ∉ Sample.condemned.removals := by decide +kernel
    refine (Plane.isHonest_of_isCalm ?_ _).failNext fun among => absurd among other
    decide +kernel
  have failed : pass.answer world =
      .error (.rejected "remove bucket 'first'" "bucket 'first' is not empty") := by
    decide +kernel
  obtain ⟨kept, stays⟩ :=
    (deleted_resource_is_gone Sample.engine world _ false stored claimed deleting honest).2 _ failed
  exact ⟨stored, claimed, deleting, honest, there, ⟨_, failed⟩, kept,
    (stays .bucket "first" own).2 there⟩

/-- If the removal of its objects is made to say that something is not there, a bucket stays whose
record a pass has deleted. -/
theorem deleted_resource_can_remain :
    let world := Sample.thwarted "remove_objects" (.notFound "bucket 'first'")
    let pass := Sample.engine.reconcile Sample.condemned.id false
    world.store.get? Sample.condemned.id = some Sample.condemned ∧
      Sample.condemned.validate = .ok () ∧ Sample.condemned.isClaimed = true ∧
      Sample.condemned.isDeleting = true ∧
      (∀ resource, world.plane.faults.next.get? "remove_bucket" ≠ some (.notFound resource)) ∧
      pass.answer world = .ok .deleted ∧
      (pass.after world).store.get? Sample.condemned.id = none ∧
      (pass.after world).plane.Has .bucket "first" := by
  intro world pass
  have unarmed : world.plane.faults.next.get? "remove_bucket" = none := by decide +kernel
  refine ⟨by decide +kernel, by decide +kernel, by decide +kernel, by decide +kernel, ?_,
    by decide +kernel, by decide +kernel, by decide +kernel⟩
  rw [unarmed]
  exact fun resource => nofun

end Engine

end Steward
