/-
This file says when a record that owns nothing is forgotten.
Once its deletion has been asked for, a pass erases such a record and makes no call, whatever has
happened before. Only a record that is not valid stays, and it too is forgotten after a valid spec
has been declared for it.
-/

import Steward.Proofs.Advance
import Steward.Proofs.Runs

namespace Steward

open Pass

/-- A record is not stored any more, of which its watchers have been told once, and nothing else has
changed. -/
structure World.Forgets (before : World) (record : Record) (after : World) : Prop where
  erased : after.store.get? record.id = none
  undisclosed : after.store.details.get? record.id = none
  told : after.store.log.changes = before.store.log.changes ++ [⟨.deleted, record⟩]
  others : ∀ id, id ≠ record.id → after.store.get? id = before.store.get? id ∧
    after.store.details.get? id = before.store.details.get? id
  untouched : after.plane = before.plane

/-- A record that owns nothing is to be deleted. -/
structure World.Abandons (world : World) (record : Record) : Prop where
  stored : world.store.get? record.id = some record
  deleting : record.isDeleting = true
  unclaimed : record.isClaimed = false

namespace World

variable {world later : World} {record : Record}

/-- To erase a record is to forget it. -/
theorem forgets_erase (store : Store) (plane : Plane) (record : Record) (clock : Supply Timestamp)
    (secrets : Supply String) :
    Forgets { store, plane, clock, secrets } record
      { store := (store.without record.id).announce ⟨.deleted, record⟩, plane, clock, secrets } where
  erased := by rw [Store.get?_announce, Store.get?_without, if_pos rfl]
  undisclosed := by rw [Store.details_announce, Store.details_without, Table.get?_erase, if_pos rfl]
  told := rfl
  others := by
    intro id apart
    rw [Store.get?_announce, Store.get?_without, if_neg apart, Store.details_announce,
      Store.details_without, Table.get?_erase, if_neg apart]
    exact ⟨rfl, rfl⟩
  untouched := rfl

/-- A record that was to be deleted is still, when no more than its status has been written. -/
theorem Abandons.of_writes (abandons : world.Abandons record) {status : Status}
    (wrote : world.store.Writes { record with status } later.store) :
    later.Abandons { record with status } where
  stored := wrote.get?_self
  deleting := abandons.deleting
  unclaimed := abandons.unclaimed

/-- Neither the marks of a record nor its owner's request are lost when its spec is declared anew. -/
theorem Abandons.apply (abandons : world.Abandons record) (engine : Engine) {desired : Record}
    (same : desired.id = record.id) :
    ∃ generation, (engine.carryOut world (.apply desired)).Abandons { record with
      spec := desired.spec
      credentialsRef := desired.credentialsRef
      generation } := by
  have stored := abandons.stored
  rw [← same] at stored
  rcases world.store.apply_writes desired with ⟨absent, -⟩ | ⟨existing, generation, found, wrote⟩
  · cases absent.symm.trans stored
  · cases found.symm.trans stored
    exact ⟨generation, wrote.get?_self, abandons.deleting, abandons.unclaimed⟩

end World

namespace Engine

variable {engine : Engine} {world : World} {record : Record}

/-- All that a pass looks at in a record that owns nothing and is to be deleted is whether it is
valid. -/
theorem pass_ends_of_abandoned (abandons : world.Abandons record) :
    Ends (engine.pass record.id) world
      (fun outcome later => record.validate = .ok () ∧ outcome = .forgotten ∧
        world.Forgets record later)
      fun error later => later.plane = world.plane ∧
        ∃ reason, record.validate = .error reason ∧ error = .invalidSpec reason ∧
          ∃ status, world.store.Writes { record with status } later.store := by
  rw [ends_pass abandons.stored, advance, ends_bind, ends_lift]
  cases valid : record.validate with
  | error reason =>
      have wrote := Store.writes_of_get? abandons.stored
      rw [mapError_error]
      apply (reportError_effect rfl wrote (.invalidSpec reason)).of_succeeds
      rintro _ later ⟨untouched, status, written⟩
      exact ⟨untouched, reason, rfl, rfl, status, written⟩
  | ok _ =>
      have unowned : record.isDeleting = true ∧ ¬ record.isClaimed = true :=
        ⟨abandons.deleting, Bool.eq_false_iff.1 abandons.unclaimed⟩
      rw [mapError_ok]
      dsimp only
      rw [if_pos unowned, ends_bind, ends_erase, abandons.stored]
      exact ⟨rfl, rfl, World.forgets_erase _ _ _ _ _⟩

/-- A pass over a record that is to be deleted and owns nothing erases it, and asks the remote side
nothing. -/
theorem pass_forgets (abandons : world.Abandons record) (valid : record.validate = .ok ()) :
    Ends (engine.pass record.id) world
      (fun outcome later => outcome = .forgotten ∧ world.Forgets record later) fun _ _ => False := by
  apply (pass_ends_of_abandoned abandons).mono
  · rintro outcome later ⟨-, forgotten, forgets⟩
    exact ⟨forgotten, forgets⟩
  · rintro error later ⟨-, reason, invalid, -⟩
    cases valid.symm.trans invalid

/-- A record that is not valid stays, and a pass says why. After a valid spec has been declared for
it, the next pass forgets it. -/
theorem invalid_record_is_forgotten_once_mended (abandons : world.Abandons record)
    {reason : RecordError} (invalid : record.validate = .error reason) {desired : Record}
    (same : desired.id = record.id) (valid : desired.validate = .ok ()) :
    let later := (engine.reconcile record.id false).after world
    let mended := engine.carryOut later (.apply desired)
    (engine.reconcile record.id false).answer world = .error (.invalidSpec reason) ∧
      later.plane = world.plane ∧
      (engine.reconcile record.id false).answer mended = .ok .forgotten ∧
      ((engine.reconcile record.id false).after mended).plane = world.plane := by
  intro later mended
  have ends := @pass_ends_of_abandoned engine world record abandons
  cases answered : (engine.reconcile record.id false).answer world with
  | ok outcome =>
      obtain ⟨fine, -⟩ := ends.of_ok answered
      cases fine.symm.trans invalid
  | error error =>
      obtain ⟨untouched, other, found, rfl, status, wrote⟩ := ends.of_error answered
      cases found.symm.trans invalid
      obtain ⟨generation, still⟩ := (abandons.of_writes wrote).apply engine same
      have fine : ({ record with
          spec := desired.spec
          credentialsRef := desired.credentialsRef
          status
          generation } : Record).validate = .ok () := by
        rw [← valid, Record.validate, Record.validate, same]
        rw [Record.targetName, Record.targetName, same]
      obtain ⟨outcome, forgotten, rfl, forgets⟩ := (@pass_forgets engine _ _ still fine).exists_ok
      exact ⟨rfl, untouched, forgotten, forgets.untouched.trans untouched⟩

/-- Whatever has happened before, a valid record that owns nothing is forgotten by the first pass
after its deletion has been asked for. The remote side is left as it is, with the count of its calls
and its faults. -/
theorem unowned_record_is_forgotten (engine : Engine) (world : World) (record : Record)
    (abandons : world.Abandons record) (valid : record.validate = .ok ()) :
    (engine.reconcile record.id false).answer world = .ok .forgotten ∧
      world.Forgets record ((engine.reconcile record.id false).after world) := by
  have ends : Ends (engine.reconcile record.id false) world
      (fun outcome later => outcome = .forgotten ∧ world.Forgets record later) fun _ _ => False :=
    pass_forgets abandons valid
  obtain ⟨outcome, answered, rfl, forgets⟩ := ends.exists_ok
  exact ⟨answered, forgets⟩

end Engine

namespace Sample

/-- A record that wants the name of the first bucket, by a profile that is not known, has been given
up while a fault is armed. -/
def unserved : World :=
  [.apply { bucket "second" (some "first") with credentialsRef := some "elsewhere" },
    .reconcile (.plain "second") false,
    .disturb fun plane => plane.failNext "remove_bucket" (.unavailable "down"),
    .requestDeletion (.plain "second") default].foldl engine.carryOut settled

/-- The record as it stands there. -/
def aspirant : Record :=
  (unserved.store.get? (.plain "second")).getD default

/-- A policy record that says neither which document it wants nor which bucket. -/
def ruleless : Record where
  id := .plain "rules"
  spec := .policy { policyName := none, allowBucket := none, rawPolicy := none }

/-- This record has been declared and given up. -/
def muddled : World :=
  [.apply ruleless, .requestDeletion ruleless.id default].foldl engine.carryOut world

end Sample

namespace Engine

/-- A record that never connects is forgotten, and the bucket of the other record stays. -/
theorem unowned_record_is_forgotten_of_aspirant :
    Sample.unserved.Abandons Sample.aspirant ∧ Sample.aspirant.validate = .ok () ∧
      (Sample.engine.reconcile Sample.aspirant.id false).answer Sample.unserved =
        .ok .forgotten ∧
      Sample.unserved.Forgets Sample.aspirant
        ((Sample.engine.reconcile Sample.aspirant.id false).after Sample.unserved) := by
  have abandons : Sample.unserved.Abandons Sample.aspirant :=
    ⟨by decide +kernel, by decide +kernel, by decide +kernel⟩
  have valid : Sample.aspirant.validate = .ok () := by decide +kernel
  exact ⟨abandons, valid, unowned_record_is_forgotten Sample.engine _ _ abandons valid⟩

/-- A record that is not valid is not forgotten, though it owns nothing and is to be deleted. -/
theorem unowned_record_can_stay :
    let pass := Sample.engine.reconcile Sample.ruleless.id false
    ∃ record, Sample.muddled.Abandons record ∧
      pass.answer Sample.muddled =
        .error (.invalidSpec (.exclusiveFields "rules" "allowBucket, rawPolicy")) ∧
      ((pass.after Sample.muddled).store.get? record.id).isSome = true := by
  intro pass
  let record := (Sample.muddled.store.get? Sample.ruleless.id).getD default
  have abandons : Sample.muddled.Abandons record :=
    ⟨by decide +kernel, by decide +kernel, by decide +kernel⟩
  exact ⟨record, abandons, by decide +kernel, by decide +kernel⟩

end Engine

end Steward
