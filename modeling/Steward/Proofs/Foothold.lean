/-
This file shows that a create that fails is not forgotten.
The marker of a pending create is taken back only after a look that finds nothing, or because the
name is taken. A resource that has come to be there is found again by its lock or by that marker, as
long as no call that configures it says that it exists already.
-/

import Steward.Proofs.Refusals
import Steward.Proofs.Setback

namespace Steward

open Pass

/-- If its resource is there, the record carries a sign by which it is found again: its lock or the
marker of a pending create. -/
def World.Recalls (world : World) (record : Record) : Prop :=
  world.plane.Has record.kind record.targetName →
    ∃ left, world.store.get? record.id = some left ∧
      (left.isClaimed = true ∨ left.metadata.isCreatePending = true)

namespace World

variable {world later : World} {record : Record}

theorem recalls_of_absent (absent : ¬ world.plane.Has record.kind record.targetName) :
    world.Recalls record :=
  fun there => absurd there absent

theorem recalls_of_pending {left : Record} (stored : world.store.get? record.id = some left)
    (pending : left.metadata.isCreatePending = true) : world.Recalls record :=
  fun _ => ⟨left, stored, .inr pending⟩

/-- Whether a record recalls its resource is asked of the stored one, not of the copy in hand. -/
theorem recalls_pending (record : Record) :
    world.Recalls record.pending ↔ world.Recalls record := by
  rcases record.pending_eq with same | marked
  · rw [same]
  · rw [marked]
    rfl

/-- To write a status takes away no marker. -/
theorem Recalls.putStatus (recalls : world.Recalls record) {current : Record} {status : Status}
    {clock : Supply Timestamp} (stored : world.store.get? record.id = some current) :
    World.Recalls
      { world with store := world.store.put { current with status }, clock } record := by
  intro there
  obtain ⟨left, found, signed⟩ := recalls there
  cases stored.symm.trans found
  refine ⟨{ current with status }, (Store.get?_put _ _ _).trans (if_pos ?_), signed⟩
  exact (world.store.id_of_get? stored).symm

end World

namespace Engine

variable {engine : Engine} {world : World} {record : Record}

/-- What only calls and draws secrets writes no record and arms no fault. -/
theorem ends_remote {α : Type} {pass : Pass α} (only : Only Request.IsRemote pass)
    (world : World) :
    Ends pass world
      (fun _ later => world.plane.Disarms later.plane ∧ later.store = world.store)
      fun _ later => world.plane.Disarms later.plane ∧ later.store = world.store := by
  have keeps : ∀ (request : Request) (later : World), request.IsRemote →
      world.plane.Disarms later.plane ∧ later.store = world.store →
      world.plane.Disarms (later.answer request).2.plane ∧
        (later.answer request).2.store = world.store := by
    rintro request later remote ⟨disarms, same⟩
    cases request with
    | remote call =>
        exact ⟨fun name error armed =>
          disarms name error (later.plane.disarms_perform call name error armed), same⟩
    | secret => exact ⟨disarms, same⟩
    | _ => exact remote.elim
  exact only.ends keeps ⟨fun _ _ armed => armed, rfl⟩

/-- To take back a marker changes nothing on the remote side. -/
theorem releasePending_keeps_plane (record : Record) (world : World) :
    Ends (releasePending record) world (fun _ later => later.plane = world.plane)
      fun _ later => later.plane = world.plane := by
  rw [releasePending, ends_putMetadata]
  split
  · rfl
  · rfl

/-- A look at a resource leaves it as it is, and tells of it what it can. -/
theorem probe_stays_and_looks (engine : Engine) (named : record.kind ≠ .serviceAccount) :
    Ends ((engine.clientOf record.kind).probe record) world
      (fun seen later => world.plane.Looked record seen later.plane ∧
        world.plane.StaysAt record.kind record.targetName later.plane ∧
        later.store = world.store)
      fun _ later => world.plane.StaysAt record.kind record.targetName later.plane ∧
        later.store = world.store := by
  have stays := ends_stays (engine.only_probe record.kind record) world record.kind
    record.targetName
  exact ((engine.probe_looks named).and stays).mono (fun _ _ ended => ended)
    fun _ _ ended => ended.2

section Pending

variable (stored : world.store.get? record.id = some record)
  (pending : record.metadata.isCreatePending = true) (named : record.kind ≠ .serviceAccount)

include stored pending named

/-- The marker of a create that has failed is taken back only after a look that finds nothing. -/
theorem abandonCreate_recalls
    (spent : world.plane.faults.next.get? record.kind.lookup = none) :
    Ends (abandonCreate (engine.clientOf record.kind) record) world
      (fun _ later => later.Recalls record) fun _ later => later.Recalls record := by
  rw [abandonCreate, ends_bind, ends_attempt]
  apply (engine.probe_stays_and_looks named).mono
  · rintro seen later ⟨looked, stays, same⟩
    cases seen with
    | some observed => exact World.recalls_of_pending (same ▸ stored) pending
    | none =>
        -- The fault for a look is used up by now, so what is not seen is not there.
        have absent := stays.absent (looked.gone spent rfl)
        dsimp only
        rw [ends_bind, ends_attempt]
        apply (releasePending_keeps_plane record later).mono
        · exact fun _ last plane => World.recalls_of_absent (plane ▸ absent)
        · exact fun _ last plane => World.recalls_of_absent (plane ▸ absent)
  · rintro error later ⟨-, same⟩
    exact World.recalls_of_pending (same ▸ stored) pending

/-- A resource that has been created is claimed. One whose create has failed leaves a marker, unless
the create says that something exists already, and then it has not been made. -/
theorem concludeCreate_recalls (wasPending : Bool) {answer : Except PassError Creation}
    (spent : world.plane.faults.next.get? record.kind.lookup = none)
    (tells : ∀ error, answer = .error error → error.isAlreadyExists = true →
      ¬ world.plane.Has record.kind record.targetName) :
    Ends (concludeCreate (engine.clientOf record.kind) record wasPending answer) world
      (fun _ later => later.Recalls record) fun _ later => later.Recalls record := by
  cases answer with
  | ok creation =>
      apply (commit_succeeds stored record.kind creation).of_succeeds
      rintro _ later ⟨status, claimed⟩ -
      refine ⟨_, claimed, .inl ?_⟩
      exact @isClaimed_claimedBy record creation
  | error error =>
      rw [concludeCreate]
      split
      · rw [ends_bind]
        apply (abandonCreate_recalls stored pending named spent).mono
        · exact fun _ _ recalls => recalls
        · exact fun _ _ recalls => recalls
      · rename_i taken
        -- Whatever has the name, it is not this create that has made it.
        have absent := tells error rfl (not_not.1 taken)
        split
        · rw [ends_bind]
          apply (engine.probe_stays_and_looks named).mono
          · rintro seen later ⟨looked, stays, -⟩
            cases seen with
            | none => exact World.recalls_of_absent (stays.absent absent)
            | some observed => exact absurd looked.has absent
          · exact fun error later ended => World.recalls_of_absent (ended.1.absent absent)
        · rw [ends_bind]
          apply (releasePending_keeps_plane record world).mono
          · exact fun _ later plane => World.recalls_of_absent (plane ▸ absent)
          · exact fun _ later plane => World.recalls_of_absent (plane ▸ absent)

/-- A create of an absent resource that is marked as pending leaves a sign of it. -/
theorem concluded_recalls (absent : ¬ world.plane.Has record.kind record.targetName)
    (spares : world.plane.Spares)
    (spent : world.plane.faults.next.get? record.kind.lookup = none) (wasPending : Bool) :
    Ends (do
        let answer ← attempt ((engine.clientOf record.kind).create record)
        concludeCreate (engine.clientOf record.kind) record wasPending answer) world
      (fun _ later => later.Recalls record) fun _ later => later.Recalls record := by
  have creates := (engine.clientCreate_tells_absent named absent spares spent).and
    (ends_remote (engine.only_clientCreate_isRemote record) world)
  rw [ends_bind, ends_attempt]
  apply creates.mono
  · rintro creation later ⟨-, disarms, same⟩
    exact concludeCreate_recalls (same ▸ stored) pending named wasPending (disarms.spent spent)
      nofun
  · rintro error later ⟨tells, disarms, same⟩
    apply concludeCreate_recalls (same ▸ stored) pending named wasPending (disarms.spent spent)
    rintro _ ⟨⟩ taken
    exact tells taken

end Pending

section Absent

variable (absent : ¬ world.plane.Has record.kind record.targetName)
  (named : record.kind ≠ .serviceAccount)

include absent named

/-- A resource that is absent is not seen. -/
theorem observe_absent :
    Ends ((engine.clientOf record.kind).observe record) world
      (fun seen later => seen = .absent ∧ later.store = world.store ∧
        world.plane.StaysAt record.kind record.targetName later.plane ∧
        later.plane.faults.next.get? record.kind.lookup = none)
      fun _ later => later.Recalls record := by
  rw [Client.observe, ends_bind]
  apply (engine.probe_stays_and_looks named).mono
  · rintro seen later ⟨looked, stays, same⟩
    cases seen with
    | none => exact ⟨rfl, same, stays, looked.spent⟩
    | some observed => exact absurd looked.has absent
  · exact fun error later ended => World.recalls_of_absent (ended.1.absent absent)

/-- A create of an absent resource leaves a sign of it. -/
theorem create_recalls (stored : world.store.get? record.id = some record)
    (spares : world.plane.Spares)
    (spent : world.plane.faults.next.get? record.kind.lookup = none) :
    Ends (create (engine.clientOf record.kind) record) world
      (fun _ later => later.Recalls record) fun _ later => later.Recalls record := by
  rw [create_eq, ends_bind]
  apply (markPending_effect stored).of_succeeds
  rintro _ later ⟨rfl, store, wrote, rfl⟩
  rw [← record.kind_pending, ← record.targetName_pending] at absent
  rw [← record.kind_pending] at named spent ⊢
  have concludes := @concluded_recalls engine { world with store } record.pending wrote.get?_self
    record.isCreatePending_pending named absent spares spent record.metadata.isCreatePending
  exact concludes.mono (fun _ _ => (World.recalls_pending record).1)
    fun _ _ => (World.recalls_pending record).1

/-- A pass over a record whose resource is absent leaves a sign of one that it makes. -/
theorem pass_recalls (stored : world.store.get? record.id = some record)
    (kept : record.isDeleting = false) (spares : world.plane.Spares) :
    Ends (engine.pass record.id) world (fun _ later => later.Recalls record)
      fun _ later => later.Recalls record := by
  have driven : Ends (drive (engine.clientOf record.kind) record) world
      (fun _ later => later.Recalls record) fun _ later => later.Recalls record := by
    rw [drive, ends_ite, if_neg (by rw [kept]; exact Bool.false_ne_true), ends_bind]
    apply (observe_absent absent named).mono
    · rintro _ later ⟨rfl, same, stays, spent⟩
      exact create_recalls (stays.absent absent) named (same ▸ stored) (stays.disarms.spares spares)
        spent
    · exact fun _ _ recalls => recalls
  rw [ends_pass stored]
  apply (ends_advance (fun _ => World.recalls_of_absent absent) ?_ fun _ _ _ => driven).mono
  · exact fun _ _ recalls => recalls
  · intro error later recalls
    apply ends_reportError
    · exact fun current status clock present => recalls.putStatus present
    · exact fun clock => recalls
  · intro deleting
    cases kept.symm.trans deleting

end Absent

/-- Whatever happens on the remote side, a pass that makes a bucket, a user or a policy leaves a
sign on its record by which it is found again: the lock, or the marker of a pending create. This
needs that no call that configures a resource says that something exists already. -/
theorem failed_create_is_recalled (engine : Engine) (world : World) (id : RecordId)
    (record : Record) (stored : world.store.get? id = some record)
    (kept : record.isDeleting = false) (named : record.kind ≠ .serviceAccount)
    (spares : world.plane.Spares) (absent : ¬ world.plane.Has record.kind record.targetName)
    (made : ((engine.reconcile id false).after world).plane.Has record.kind record.targetName) :
    ∃ left, ((engine.reconcile id false).after world).store.get? id = some left ∧
      (left.isClaimed = true ∨ left.metadata.isCreatePending = true) := by
  cases world.store.id_of_get? stored
  exact (pass_recalls absent named stored kept spares).after_of_both made

end Engine

namespace Sample

/-- A record of a bucket that is to have a policy. -/
def fenced : Record where
  id := .plain "first"
  spec := .bucket
    { bucketName := none, region := none, deletionPolicy := .deleteIfEmpty, policy := some "{}" }

/-- This record has been declared, and the policy of its bucket is about to be refused. -/
def stumbling (error : RemoteError) : World :=
  engine.carryOut (engine.carryOut world (.apply fenced))
    (.disturb fun plane => plane.failNext "set_bucket_policy" error)

end Sample

namespace Engine

/-- A bucket whose policy cannot be set for now is recalled by the marker of its pending create. -/
theorem failed_create_is_recalled_of_stumbling :
    let world := Sample.stumbling (.unavailable "later")
    let after := (Sample.engine.reconcile (.plain "first") false).after world
    world.store.get? (.plain "first") = some Sample.fenced ∧ world.plane.Spares ∧
      ¬ world.plane.Has .bucket "first" ∧ after.plane.Has .bucket "first" ∧
      ∃ left, after.store.get? (.plain "first") = some left ∧
        (left.isClaimed = true ∨ left.metadata.isCreatePending = true) := by
  intro world after
  have stored : world.store.get? (.plain "first") = some Sample.fenced := by decide +kernel
  have calm : (Sample.engine.carryOut Sample.world (.apply Sample.fenced)).plane.IsCalm := rfl
  have spares : world.plane.Spares := (Plane.spares_of_isCalm calm).failNext _ nofun
  have absent : ¬ world.plane.Has .bucket "first" := by decide +kernel
  have made : after.plane.Has .bucket "first" := by decide +kernel
  exact ⟨stored, spares, absent, made,
    failed_create_is_recalled Sample.engine world _ _ stored rfl nofun spares absent made⟩

/-- A bucket has been made, and its record does not recall it, after the call that sets its policy
has said that something exists already. -/
theorem failed_create_can_be_forgotten :
    let world := Sample.stumbling (.alreadyExists "policy")
    let pass := Sample.engine.reconcile (.plain "first") false
    world.store.get? (.plain "first") = some Sample.fenced ∧
      ¬ world.plane.Has .bucket "first" ∧ (pass.after world).plane.Has .bucket "first" ∧
      pass.answer world = .error (.nameCollision .bucket "first") ∧
      ∃ left, (pass.after world).store.get? (.plain "first") = some left ∧
        left.isClaimed = false ∧ left.metadata.isCreatePending = false := by
  intro world pass
  let left := ((pass.after world).store.get? (.plain "first")).getD default
  have stored : (pass.after world).store.get? (.plain "first") = some left := by decide +kernel
  refine ⟨by decide +kernel, by decide +kernel, by decide +kernel, by decide +kernel, left, stored,
    by decide +kernel, by decide +kernel⟩

end Engine

end Steward
