/-
This file says what a deletion tells in the status of its record.
While its calls are made the status tells that the resource is about to go. A deletion that fails
tells of its failure in its own words, and takes back what it told of its beginning.
-/

import Steward.Proofs.Gate
import Steward.Proofs.Prefix
import Steward.Proofs.Setback

namespace Steward

open Pass

/-- The status tells that the resource is about to go, and so cannot be used. -/
structure Status.TellsDeleting (status : Status) : Prop where
  ready : ∃ condition, status.condition? .ready = some condition ∧ condition.status = false ∧
    condition.reason = .deleting
  unusable : status.isReady = false

/-- A status that is told of the deletion tells it. -/
theorem Status.tellsDeleting_setCondition (status : Status) (now : Timestamp) :
    (status.setCondition (.deleting now)).TellsDeleting := by
  obtain ⟨current, found, same⟩ := status.condition?_setCondition (.deleting now)
  obtain ⟨-, failing, reason, -⟩ := Condition.sameState_iff.1 same
  have there : (status.setCondition (.deleting now)).condition? .ready = some current := found
  refine ⟨⟨current, there, failing, reason⟩, ?_⟩
  rw [isReady, there]
  exact failing

namespace Engine

/-- A valid record that owns a resource is to be deleted, and connects. -/
structure Deletes (engine : Engine) (world : World) (record : Record) : Prop where
  stored : world.store.get? record.id = some record
  valid : record.validate = .ok ()
  claimed : record.isClaimed = true
  deleting : record.isDeleting = true
  connected : engine.connect record.kind record = .ok (engine.clientOf record.kind)

variable {engine : Engine} {world : World} {record : Record}

/-- A pass over a record that it is to delete does nothing else. -/
theorem Deletes.advance_eq (deletes : engine.Deletes world record) :
    engine.advance record = delete (engine.clientOf record.kind) record := by
  rw [advance, deletes.valid, deletes.claimed, deletes.connected]
  simp only [not_true_eq_false, and_false, if_false]
  change drive _ _ = _
  rw [drive, if_pos deletes.deleting]

/-- If a request is a call, the status tells that the resource is about to go. -/
def CallsUnderDeletion (id : RecordId) (request : Request) (world : World) : Prop :=
  request.IsCall → ∃ current, world.store.get? id = some current ∧ current.status.TellsDeleting

/-- A pass that makes no remote call makes each of them under a deletion. -/
theorem along_of_no_call {α : Type} {pass : Pass α} {id : RecordId}
    (only : Only (fun request => ¬ request.IsCall) pass) (world : World) :
    Along (CallsUnderDeletion id) pass world := by
  have silent : ∀ (request : Request) (later : World), ¬ request.IsCall → True →
      CallsUnderDeletion id request later ∧ True :=
    fun _ _ silent _ => ⟨fun made => absurd made silent, trivial⟩
  exact only.along silent trivial

/-- Once the deletion is told, every remote call that it takes is made under it. -/
theorem clientDelete_under_deletion (engine : Engine) (record : Record)
    (told : ∃ current, world.store.get? record.id = some current ∧
      current.status.TellsDeleting) :
    Along (CallsUnderDeletion record.id) ((engine.clientOf record.kind).delete record false)
      world := by
  have keeps : ∀ (request : Request) (later : World), request.HandlesByCall record →
      (∃ current, later.store.get? record.id = some current ∧ current.status.TellsDeleting) →
      CallsUnderDeletion record.id request later ∧
        ∃ current, (later.answer request).2.store.get? record.id = some current ∧
          current.status.TellsDeleting := by
    rintro request later ⟨made, -⟩ told
    cases request with
    | remote call => exact ⟨fun _ => told, told⟩
    | _ => exact made.elim
  exact (engine.only_clientDelete record false).along keeps told

/-- Every call of a delete is made while the status tells of it. -/
theorem delete_under_deletion (stored : world.store.get? record.id = some record) :
    Along (CallsUnderDeletion record.id) (delete (engine.clientOf record.kind) record) world := by
  have erases : Only (fun request => ¬ request.IsCall) (do
      Pass.erase record.id
      return Outcome.deleted) :=
    Only.bind (Only.bind (only_ask id) only_written) fun _ => only_pure _
  rw [delete, along_bind]
  refine ⟨along_of_no_call (only_ask id) world, ?_⟩
  rw [ends_now, along_bind]
  refine ⟨along_of_no_call (only_ask id) _, ?_⟩
  simp only [ends_tryPutStatus, stored]
  rw [along_bind, along_attempt, ends_attempt]
  constructor
  · apply clientDelete_under_deletion
    refine ⟨_, (Store.get?_put _ _ _).trans (if_pos rfl), ?_⟩
    exact Status.tellsDeleting_setCondition _ _
  · apply (ends_answer _ _).mono
    · intro _ later _
      exact along_of_no_call erases later
    · intro error later _
      dsimp only
      split
      · exact along_of_no_call ((only_throw _).bind fun _ => erases) later
      · exact along_of_no_call erases later

/-- Every call of the pass that deletes a record is made while the status tells of it. -/
theorem Deletes.under_deletion (deletes : engine.Deletes world record) :
    Along (CallsUnderDeletion record.id) (engine.reconcile record.id false) world := by
  rw [reconcile_eq, along_bind]
  refine ⟨along_of_no_call (only_ask id) world, ?_⟩
  rw [ends_readRecord, deletes.stored]
  dsimp only
  rw [work, deletes.advance_eq, along_bind, along_attempt, ends_attempt]
  refine ⟨delete_under_deletion deletes.stored, ?_⟩
  apply (ends_answer _ _).mono
  · intro outcome later _
    trivial
  · intro error later _
    have reports : Only (fun request => ¬ request.IsCall) (reportError record error) :=
      only_reportError id (fun _ _ _ => id) error
    exact along_of_no_call (reports.bind fun _ => only_throw _) later

/-- A delete that fails tells of its failure, and takes back what it told of its beginning. -/
theorem Deletes.pass_ends (deletes : engine.Deletes world record) :
    Ends (engine.pass record.id) world (fun _ _ => True) fun error later =>
      ∃ left synced ready last, later.store.get? record.id = some left ∧
        left.status = record.failed error synced ready last ∧ error.isOfWork = true := by
  rw [ends_pass deletes.stored, deletes.advance_eq]
  apply (delete_sets_back deletes.stored rfl).mono (fun _ _ _ => trivial)
  rintro error later ⟨fine, abides⟩
  obtain ⟨left, kept, present⟩ := abides.get?
  apply ends_reportError_of_isReported (isReported_of_isOfWork fine) present
  intro synced ready last clock
  refine ⟨{ left with status := record.failed error synced ready last }, synced, ready, last, ?_,
    rfl, fine⟩
  rw [Store.get?_put, if_pos kept.id.symm]

/-- Whatever happens on the remote side, a delete makes its calls while the status tells that the
resource is about to go. If it fails, the failure is told in its own words, and whether the resource
can be used is told as before. -/
theorem failed_delete_is_told (deletes : engine.Deletes world record) {error : PassError}
    (failed : (engine.reconcile record.id false).answer world = .error error) :
    Along (CallsUnderDeletion record.id) (engine.reconcile record.id false) world ∧
      ∃ left, ((engine.reconcile record.id false).after world).store.get? record.id = some left ∧
        (∃ condition, left.status.condition? .synced = some condition ∧
          condition.status = false ∧ condition.reason = .reconcileError ∧
          condition.message = some error.message) ∧
        left.status.condition? .ready = record.status.condition? .ready ∧
        left.status.isReady = record.status.isReady := by
  refine ⟨deletes.under_deletion, ?_⟩
  -- The report starts from the status that the pass has read, not from the one it has written.
  obtain ⟨left, synced, ready, last, stored, told, fine⟩ := deletes.pass_ends.of_error failed
  have same : left.status.condition? .ready = record.status.condition? .ready := by
    rw [told]
    apply Record.condition?_ready_failed_of_other
    rintro kind resource rfl
    cases fine
  refine ⟨left, stored, ?_, same, ?_⟩
  · obtain ⟨current, found, alike⟩ := record.condition?_synced_failed ready synced last error
    obtain ⟨-, status, reason, message⟩ := Condition.sameState_iff.1 alike
    exact ⟨current, told ▸ found, status, reason, message⟩
  · rw [Status.isReady, Status.isReady, same]

end Engine

namespace Sample

/-- The settled sample world after an object has been put into its bucket and the record has been
given up. -/
def occupied : World :=
  let put := fun plane => Disturbance.apply plane (.putObject "first" "a")
  engine.carryOut (engine.carryOut settled (.disturb put))
    (.requestDeletion (.plain "first") default)

/-- The record of that bucket. -/
def tenant : Record :=
  (occupied.store.get? (.plain "first")).getD default

/-- The tenant's bucket is to be deleted while it holds objects. -/
theorem deletes_occupied : engine.Deletes occupied tenant where
  stored := by decide +kernel
  valid := by decide +kernel
  claimed := by decide +kernel
  deleting := by decide +kernel
  connected := connect_engine (by decide +kernel)

end Sample

namespace Engine

/-- A bucket is told to be usable after its deletion has failed, as it was before. -/
theorem failed_delete_is_told_of_occupied :
    Sample.engine.Deletes Sample.occupied Sample.tenant ∧
      ∃ error, (Sample.engine.reconcile Sample.tenant.id false).answer Sample.occupied =
          .error error ∧
        ∃ left, ((Sample.engine.reconcile Sample.tenant.id false).after
            Sample.occupied).store.get? Sample.tenant.id = some left ∧
          left.status.isReady = Sample.tenant.status.isReady := by
  have failed : (Sample.engine.reconcile Sample.tenant.id false).answer Sample.occupied =
      .error (.rejected "remove bucket 'first'" "bucket 'first' is not empty") := by
    decide +kernel
  obtain ⟨-, left, stored, -, -, same⟩ := failed_delete_is_told Sample.deletes_occupied failed
  exact ⟨Sample.deletes_occupied, _, failed, left, stored, same⟩

/-- A bucket whose deletion has failed can be told to be usable, without a sign that it is about to
go. -/
theorem failed_delete_can_look_ready :
    let pass := Sample.engine.reconcile Sample.tenant.id false
    Sample.engine.Deletes Sample.occupied Sample.tenant ∧
      (∃ error, pass.answer Sample.occupied = .error error) ∧
      ∃ left, (pass.after Sample.occupied).store.get? Sample.tenant.id = some left ∧
        left.status.isReady = true ∧ ¬ left.status.TellsDeleting := by
  intro pass
  let left := ((pass.after Sample.occupied).store.get? Sample.tenant.id).getD default
  have failed : pass.answer Sample.occupied =
      .error (.rejected "remove bucket 'first'" "bucket 'first' is not empty") := by
    decide +kernel
  have stored : (pass.after Sample.occupied).store.get? Sample.tenant.id = some left := by
    decide +kernel
  have usable : left.status.isReady = true := by decide +kernel
  refine ⟨Sample.deletes_occupied, ⟨_, failed⟩, left, stored, usable, fun told => ?_⟩
  cases told.unusable.symm.trans usable

end Engine

end Steward
