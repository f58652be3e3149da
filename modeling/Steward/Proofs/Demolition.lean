/-
This file shows what comes of deleting a bucket with all of its objects.
The bucket, its record and its details go together, or the bucket and the record stay with the
objects that could not be removed. Another pass can then go on from there.
-/

import Steward.Proofs.Advance
import Steward.Proofs.Emptying
import Steward.Proofs.Runs

namespace Steward

open Pass

/-- In a calm world, a valid record that owns a bucket is to be deleted with all of the objects in
it. The bucket can be reached, and the record connects. -/
structure Engine.Demolishes (engine : Engine) (world : World) (record : Record)
    (found : Bucket) : Prop where
  calm : world.plane.IsCalm
  stored : world.store.get? record.id = some record
  valid : record.validate = .ok ()
  claimed : record.isClaimed = true
  deleting : record.isDeleting = true
  asksAll : ∃ spec, record.spec = .bucket spec ∧ spec.deletionPolicy = .deleteAll
  kept : Kind.bucket ∈ engine.kinds
  connects : (engine.resolver.connect engine.environment record).isOk = true
  accessible : world.plane.accessError? record.targetName = none
  present : world.plane.buckets.get? record.targetName = some found

namespace Engine

variable {engine : Engine} {world : World} {record : Record} {found : Bucket}

/-- A record whose bucket is to be demolished is one for a bucket. -/
theorem Demolishes.kind_eq (demolishes : engine.Demolishes world record found) :
    record.kind = .bucket := by
  obtain ⟨spec, asked, -⟩ := demolishes.asksAll
  rw [Record.kind, asked]
  rfl

/-- A record whose bucket is to be demolished connects. -/
theorem Demolishes.connect_eq (demolishes : engine.Demolishes world record found) :
    engine.connect record.kind record = .ok (engine.clientOf record.kind) := by
  have connects := demolishes.connects
  rw [demolishes.kind_eq, connect, checkKind, if_pos demolishes.kept]
  cases connected : engine.resolver.connect engine.environment record with
  | ok connection => rfl
  | error error =>
      rw [connected] at connects
      cases connects

/-- To delete the bucket removes it with all of its objects, if nothing keeps any of them in it. -/
theorem Demolishes.client_delete_ends (demolishes : engine.Demolishes world record found)
    (store : Store) (clock : Supply Timestamp) :
    Ends ((engine.clientOf record.kind).delete record false) { world with store, clock }
      (fun _ later => world.plane.CanEmpty found ∧ later.store = store ∧
        world.plane.Cleared record.targetName found engine.deletion.limit later.plane)
      (fun error later => ¬ world.plane.CanEmpty found ∧ error.isNotFound = false ∧
        later.store = store ∧ ∃ left,
          world.plane.Spared record.targetName found engine.deletion.limit left later.plane) := by
  obtain ⟨spec, asked, all⟩ := demolishes.asksAll
  have drained := @Drain.delete_ends { world with store, clock } record.targetName found
    engine.deletion engine.scheduler demolishes.calm demolishes.accessible demolishes.present
  rw [demolishes.kind_eq]
  change Ends (Bucket.delete engine.deletion engine.scheduler record false) _ _ _
  simp only [Bucket.delete, Bucket.specOf_eq asked, ends_bind, ends_lift, all]
  apply drained.mono
  · rintro _ _ ⟨can, plane, rfl, cleared⟩
    exact ⟨can, rfl, cleared⟩
  · rintro error _ ⟨cannot, apart, plane, left, rfl, spared⟩
    exact ⟨cannot, apart, rfl, left, spared⟩

/-- The bucket, its record and the details of the record are gone. -/
structure Demolished (engine : Engine) (before : World) (record : Record) (found : Bucket)
    (after : World) : Prop where
  erased : after.store.get? record.id = none
  withdrawn : after.store.details.get? record.id = none
  cleared : before.plane.Cleared record.targetName found engine.deletion.limit after.plane

/-- The bucket and its record are still there, the record with another status and the bucket with
some of its objects. -/
structure Withstood (engine : Engine) (before : World) (record : Record) (found : Bucket)
    (status : Status) (left : Table String Nat) (after : World) : Prop where
  wrote : before.store.Writes { record with status } after.store
  spared : before.plane.Spared record.targetName found engine.deletion.limit left after.plane

/-- The deletion takes bucket, record and details away if the bucket can be emptied; otherwise it
fails and both are still there. -/
theorem Demolishes.delete_ends (demolishes : engine.Demolishes world record found) :
    Ends (delete (engine.clientOf record.kind) record) world
      (fun outcome later => outcome = .deleted ∧ world.plane.CanEmpty found ∧
        engine.Demolished world record found later)
      (fun _ later => ¬ world.plane.CanEmpty found ∧
        ∃ status left, engine.Withstood world record found status left later) := by
  refine Engine.delete_ends demolishes.stored fun status clock => ?_
  apply (demolishes.client_delete_ends _ clock).mono
  · rintro _ later ⟨can, store, cleared⟩
    have stored := congrArg (fun store => store.get? record.id) store
    simp only [Store.get?_put, if_true] at stored
    simp only [ends_bind, ends_erase, stored, ends_pure]
    refine ⟨trivial, can, ?_, ?_, cleared⟩
    · simp
    · simp
  · rintro error later ⟨cannot, apart, store, left, spared⟩
    have told : world.store.Writes { record with status } later.store := by
      rw [store]
      exact Store.writes_put _ _
    simp only [apart, Bool.false_eq_true, if_false]
    exact ⟨cannot, _, left, told, spared⟩

/-- The record and the bucket go together, or both of them stay. -/
theorem Demolishes.pass_ends (demolishes : engine.Demolishes world record found) :
    Ends (engine.pass record.id) world
      (fun outcome later => outcome = .deleted ∧ world.plane.CanEmpty found ∧
        engine.Demolished world record found later)
      (fun _ later => ¬ world.plane.CanEmpty found ∧
        ∃ status left, engine.Withstood world record found status left later) := by
  rw [ends_pass demolishes.stored, advance]
  simp only [ends_bind, ends_lift, demolishes.valid, mapError_ok, demolishes.deleting,
    demolishes.claimed, not_true_eq_false, and_false, if_false, demolishes.connect_eq, drive,
    if_true]
  apply demolishes.delete_ends.mono
  · exact fun _ _ ended => ended
  · rintro error later ⟨cannot, status, left, withstood⟩
    have named : ({ record with status } : Record).id = record.id := rfl
    apply (reportError_effect named withstood.wrote error).mono
    · rintro _ last ⟨same, told, wrote⟩
      refine ⟨cannot, told, left, wrote, ?_⟩
      rw [same]
      exact withstood.spared
    · exact fun _ _ never => never.elim

/-- What a failed pass leaves is as it was before the pass, but for the objects that are gone. -/
theorem Withstood.demolishes {status : Status} {left : Table String Nat} {later : World}
    (withstood : engine.Withstood world record found status left later)
    (demolishes : engine.Demolishes world record found) :
    engine.Demolishes later { record with status } { found with objects := left } := by
  obtain ⟨wrote, -, -, sizes, mutations, -, after⟩ := withstood
  have calm : later.plane.IsCalm := demolishes.calm.of_faults (by rw [after])
  have accessible : later.plane.accessError? record.targetName = none := by
    rw [after]
    exact demolishes.accessible
  have present : later.plane.buckets.get? record.targetName =
      some { found with objects := left } := by
    rw [after, Table.get?_insert, if_pos rfl]
  exact ⟨calm, wrote.get?_self, demolishes.valid, demolishes.claimed, demolishes.deleting,
    demolishes.asksAll, demolishes.kept, demolishes.connects, accessible, present⟩

/-- Without faults, the bucket goes. -/
theorem Demolishes.answer_of_no_faults (demolishes : engine.Demolishes world record found) :
    (engine.pass record.id).answer
      { world with plane := world.plane.changeFaults fun _ => {} } = .ok .deleted := by
  have bare : engine.Demolishes { world with plane := world.plane.changeFaults fun _ => {} }
      record found :=
    ⟨rfl, demolishes.stored, demolishes.valid, demolishes.claimed, demolishes.deleting,
      demolishes.asksAll, demolishes.kept, demolishes.connects, rfl, demolishes.present⟩
  have can : (world.plane.changeFaults fun _ => {}).CanEmpty found :=
    ⟨fun _ _ => ⟨rfl, rfl⟩, .inr (.inr rfl)⟩
  apply Ends.answer_eq
  apply bare.pass_ends.mono
  · rintro outcome _ ⟨rfl, -⟩
    rfl
  · rintro _ _ ⟨cannot, -⟩
    exact absurd can cannot

/-- Whatever the order in which the two workers move, a bucket that is to be deleted with all of its
objects goes if nothing keeps any of them in it. Otherwise the pass fails, and the bucket stays with
its record and with the objects that could not be listed or removed. The next pass deletes all of
them once the faults are gone. -/
theorem demolition_outcome (demolishes : engine.Demolishes world record found) :
    let pass := engine.reconcile record.id false
    (pass.answer world = .ok .deleted ↔ world.plane.CanEmpty found) ∧
    (world.plane.CanEmpty found → engine.Demolished world record found (pass.after world)) ∧
    (¬ world.plane.CanEmpty found →
      (∃ error, pass.answer world = .error error) ∧
      ∃ status left, engine.Withstood world record found status left (pass.after world) ∧
        pass.answer { pass.after world with
          plane := (pass.after world).plane.changeFaults fun _ => {} } = .ok .deleted) := by
  intro pass
  have ends : Ends pass world _ _ := demolishes.pass_ends
  cases answered : pass.answer world with
  | ok outcome =>
      obtain ⟨rfl, can, demolished⟩ := ends.of_ok answered
      exact ⟨iff_of_true rfl can, fun _ => demolished, fun cannot => absurd can cannot⟩
  | error error =>
      obtain ⟨cannot, status, left, withstood⟩ := ends.of_error answered
      have again := (withstood.demolishes demolishes).answer_of_no_faults
      exact ⟨iff_of_false nofun cannot, fun can => absurd can cannot,
        fun _ => ⟨⟨error, rfl⟩, status, left, withstood, again⟩⟩

end Engine

namespace Sample

/-- A record that owns the bucket "first" and is to be deleted with all of the objects in it. -/
def demolisher (profile : Option String) : Record where
  id := .plain "first"
  credentialsRef := profile
  spec := .bucket
    { bucketName := none, region := none, deletionPolicy := .deleteAll, policy := none }
  metadata := Metadata.claim ∅
  deletionRequested := some default

/-- A bucket with two objects. -/
def pair : Bucket where
  region := "us-east-1"
  objects := Table.ofList [("a", 1), ("b", 2)]

/-- The sample world with that record and that bucket, and with faults of removals. -/
def doomed (profile : Option String) (removal : Table String RemoteError) : World :=
  { world with
    store := world.store.put (demolisher profile)
    plane := { buckets := Table.ofList [("first", pair)], faults := { removal } } }

end Sample

namespace Engine

/-- One object cannot be removed, so the bucket stays until the fault is gone. -/
theorem demolition_outcome_of_stuck_object :
    let removal := Table.ofList [("b", RemoteError.unavailable "connection reset")]
    let pass := Sample.engine.reconcile (.plain "first") false
    Sample.engine.Demolishes (Sample.doomed none removal) (Sample.demolisher none) Sample.pair ∧
      ∃ error status left, pass.answer (Sample.doomed none removal) = .error error ∧
        Sample.engine.Withstood (Sample.doomed none removal) (Sample.demolisher none) Sample.pair
          status left (pass.after (Sample.doomed none removal)) := by
  intro removal pass
  have demolishes :
      Sample.engine.Demolishes (Sample.doomed none removal) (Sample.demolisher none) Sample.pair :=
    ⟨rfl, by decide +kernel, by decide +kernel, by decide +kernel, rfl, ⟨_, rfl, rfl⟩,
      by decide +kernel, by decide +kernel, by decide +kernel, by decide +kernel⟩
  have cannot : ¬ (Sample.doomed none removal).plane.CanEmpty Sample.pair := by
    intro can
    have stuck := (can.free "b" (by decide +kernel)).1
    revert stuck
    decide +kernel
  obtain ⟨⟨error, failed⟩, status, left, withstood, -⟩ :=
    (demolition_outcome demolishes).2.2 cannot
  exact ⟨demolishes, error, status, left, failed, withstood⟩

/-- A record with an unknown profile does not connect, and its bucket stays although nothing keeps
any object in it. -/
theorem demolition_can_miss_profile :
    let unconnected := Sample.demolisher (some "elsewhere")
    let world := Sample.doomed (some "elsewhere") ∅
    world.plane.IsCalm ∧ world.store.get? unconnected.id = some unconnected ∧
      unconnected.validate = .ok () ∧ unconnected.isClaimed = true ∧
      unconnected.isDeleting = true ∧
      (∃ spec, unconnected.spec = .bucket spec ∧ spec.deletionPolicy = .deleteAll) ∧
      world.plane.accessError? unconnected.targetName = none ∧
      world.plane.buckets.get? unconnected.targetName = some Sample.pair ∧
      world.plane.CanEmpty Sample.pair ∧
      (Sample.engine.reconcile unconnected.id false).answer world ≠ .ok .deleted := by
  intro unconnected world
  have can : world.plane.CanEmpty Sample.pair := ⟨fun _ _ => ⟨rfl, rfl⟩, .inr (.inl rfl)⟩
  have failed : (Sample.engine.reconcile unconnected.id false).answer world ≠ .ok .deleted := by
    decide +kernel
  exact ⟨rfl, by decide +kernel, by decide +kernel, by decide +kernel, rfl, ⟨_, rfl, rfl⟩,
    by decide +kernel, by decide +kernel, can, failed⟩

end Engine

end Steward
