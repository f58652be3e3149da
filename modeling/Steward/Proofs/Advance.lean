/-
This file says what a pass over a record does in a calm world.
A pass writes its own record only. One that succeeds provides or amends the resource and claims
it; one that fails changes no more on the remote side than the count of calls.
-/

import Steward.Proofs.Lines
import Steward.Proofs.Report

namespace Steward

open Pass

/-- The record with the marker of a pending create. -/
def Record.pending (record : Record) : Record :=
  if record.metadata.isCreatePending then record
  else { record with metadata := record.metadata.markCreatePending }

/-- The record with no create pending. -/
def Record.released (record : Record) : Record :=
  { record with metadata := record.metadata.clearCreatePending }

namespace Record

variable (record : Record)

/-- A record that is marked is the record itself, or the record with the marker. -/
theorem pending_eq : record.pending = record ∨
    record.pending = { record with metadata := record.metadata.markCreatePending } := by
  unfold pending
  split
  · exact .inl rfl
  · exact .inr rfl

@[simp] theorem id_pending : record.pending.id = record.id := by
  rcases record.pending_eq with same | marked
  · rw [same]
  · rw [marked]

@[simp] theorem kind_pending : record.pending.kind = record.kind := by
  rcases record.pending_eq with same | marked
  · rw [same]
  · rw [marked]
    rfl

@[simp] theorem targetName_pending : record.pending.targetName = record.targetName := by
  rcases record.pending_eq with same | marked
  · rw [same]
  · rw [marked]
    rfl

/-- A record that is marked is pending. -/
theorem isCreatePending_pending : record.pending.metadata.isCreatePending = true := by
  unfold pending
  split
  · rename_i marked
    exact marked
  · exact Metadata.isCreatePending_markCreatePending record.metadata

/-- A claim forgets that its create was pending. -/
theorem claimedBy_pending (creation : Creation) :
    record.pending.claimedBy creation = record.claimedBy creation := by
  rcases record.pending_eq with same | marked
  · rw [same]
  · rw [marked, claimedBy, claimedBy, Engine.claimedMetadata, Engine.claimedMetadata]
    cases creation.externalName with
    | none => simp only [Metadata.claim_markCreatePending]
    | some name =>
        simp only [Metadata.setExternalName_markCreatePending, Metadata.claim_markCreatePending]

/-- To release a record undoes its marking. -/
theorem released_pending : record.pending.released = record.released := by
  rcases record.pending_eq with same | marked
  · rw [same]
  · rw [marked, released, released]
    simp only [Metadata.clearCreatePending_markCreatePending]

theorem isClaimed_released : record.released.isClaimed = record.isClaimed :=
  Metadata.isClaimed_clearCreatePending record.metadata

theorem isCreatePending_released : record.released.metadata.isCreatePending = false := by
  simp [released, Metadata.clearCreatePending, Metadata.isCreatePending, Table.contains]

/-- To release a record whose create is not pending changes nothing. -/
theorem released_of_not_pending (idle : record.metadata.isCreatePending = false) :
    record.released = record := by
  have same : record.metadata.clearCreatePending = record.metadata := by
    refine Table.ext_get? fun name => ?_
    have none : Table.get? record.metadata Metadata.createPendingKey = none := by
      simpa [Metadata.isCreatePending, Table.contains] using idle
    by_cases marker : name = Metadata.createPendingKey
    · simp [Metadata.clearCreatePending, marker, none]
    · simp [Metadata.clearCreatePending, marker]
  rw [released, same]

variable {record} {plane before after : Plane}

/-- What a probe for a record shows does not depend on its pending marker. -/
theorem sight_pending : plane.sight record.pending = plane.sight record := by
  rcases record.pending_eq with same | marked
  · rw [same]
  · rw [marked]
    simp only [Plane.sight, Record.kind, Record.targetName, Metadata.externalName_markCreatePending]

/-- Whether the resource of a record can be reached does not depend on its pending marker. -/
theorem permits_pending : plane.Permits record.pending ↔ plane.Permits record := by
  rcases record.pending_eq with same | marked
  · rw [same]
  · rw [marked]
    rfl

/-- What a create provides does not depend on the pending marker. -/
theorem provides_pending {creation : Creation} :
    before.Provides record.pending creation after ↔ before.Provides record creation after := by
  rcases record.pending_eq with same | marked
  · rw [same]
  · rw [marked]
    rfl

end Record

namespace Engine

variable {engine : Engine} {world : World} {record : Record}

/-- In a calm world a glance shows what a probe shows, if anything. -/
theorem ends_glance (calm : world.plane.IsCalm) {good : Option Observed → World → Prop}
    {bad : PassError → World → Prop} :
    Ends (glance (engine.clientOf record.kind) record) world good bad ↔
      good (world.plane.sight record).toOption.join world := by
  rw [glance, (engine.only_probe record.kind record).attempt.ends_bind_of_reads calm,
    answer_attempt, engine.answer_probe calm]
  cases world.plane.sight record
  · rfl
  · rfl

/-- The last part of a claim writes the status of its record. -/
theorem claim_report_effect (calm : world.plane.IsCalm)
    (stored : world.store.get? record.id = some record) :
    Ends (do
        reportSuccess record (← glance (engine.clientOf record.kind) record)
        return Outcome.created) world
      (fun outcome later => outcome = .created ∧ later.plane = world.plane ∧
        ∃ ready synced last, world.store.Writes
          (record.reported (world.plane.sight record).toOption.join ready synced last)
          later.store)
      (fun _ _ => False) := by
  rw [ends_bind, ends_glance calm, ends_bind]
  apply ends_reportSuccess stored
  intro ready synced last clock
  exact ⟨rfl, rfl, ready, synced, last, rfl⟩

/-- To claim a provided resource writes the markers and the status of its record. -/
theorem commit_effect (calm : world.plane.IsCalm)
    (stored : world.store.get? record.id = some record) (creation : Creation) :
    Ends (commit (engine.clientOf record.kind) record creation) world
      (fun outcome later => outcome = .created ∧ later.plane = world.plane ∧
        ∃ ready synced last, world.store.Writes
          ((record.claimedBy creation).reported
            (world.plane.sight (record.claimedBy creation)).toOption.join ready synced last)
          later.store)
      (fun _ _ => False) := by
  have last : ∀ claimed : World, claimed.plane = world.plane →
      world.store.Writes (record.claimedBy creation) claimed.store →
      Ends (do
          reportSuccess (record.claimedBy creation)
            (← glance (engine.clientOf record.kind) (record.claimedBy creation))
          return Outcome.created) claimed
        (fun outcome later => outcome = .created ∧ later.plane = world.plane ∧
          ∃ ready synced last, world.store.Writes
            ((record.claimedBy creation).reported
              (world.plane.sight (record.claimedBy creation)).toOption.join ready synced last)
            later.store)
        (fun _ _ => False) := by
    intro claimed same early
    have still : claimed.plane.IsCalm := by rwa [same]
    refine (claim_report_effect still early.get?_self).mono ?_ fun _ _ never => never
    intro outcome later ended
    obtain ⟨created, kept, ready, synced, last, late⟩ := ended
    rw [same] at kept late
    exact ⟨created, kept, ready, synced, last, early.trans late rfl⟩
  simp only [commit, ends_bind, ends_putMetadata, stored]
  split
  · rw [ends_bind, ends_publish]
    rw [Store.get?_put, if_pos rfl]
    exact last _ rfl rfl
  · exact last _ rfl rfl

/-- Before a create its record is marked. -/
theorem markPending_effect (stored : world.store.get? record.id = some record) :
    Ends (markPending record) world
      (fun marked later => marked = record.pending ∧
        ∃ store, world.store.Writes record.pending store ∧ later = { world with store })
      (fun _ _ => False) := by
  unfold markPending Record.pending
  split
  · exact ⟨rfl, world.store, Store.writes_of_get? stored, rfl⟩
  · simp only [ends_bind, ends_putMetadata, stored]
    exact ⟨rfl, _, Store.writes_put _ _, rfl⟩

/-- To take the pending marker off writes the record without it, and nothing else. -/
theorem releasePending_effect (stored : world.store.get? record.id = some record) :
    Ends (releasePending record) world
      (fun _ later => ∃ store, world.store.Writes record.released store ∧
        later = { world with store })
      (fun _ _ => False) := by
  simp only [releasePending, ends_putMetadata, stored]
  exact ⟨_, Store.writes_put _ _, rfl⟩

/-- A create that is given up is no longer pending. -/
theorem abandonCreate_effect (calm : world.plane.IsCalm)
    (stored : world.store.get? record.id = some record)
    (sight : world.plane.sight record = .ok none) :
    Ends (abandonCreate (engine.clientOf record.kind) record) world
      (fun _ later => ∃ store, world.store.Writes record.released store ∧
        later = { world with store })
      (fun _ _ => False) := by
  rw [abandonCreate, (engine.only_probe record.kind record).attempt.ends_bind_of_reads calm,
    answer_attempt, engine.answer_probe calm, sight]
  simp only [ends_bind, ends_attempt]
  exact (releasePending_effect stored).mono (fun _ _ done => done) fun _ _ never => never.elim

/-- A create of a resource that was not there provides it and claims it, or fails because
something is lacking and leaves nothing behind. -/
theorem create_pass_effect (calm : world.plane.IsCalm)
    (stored : world.store.get? record.id = some record)
    (sight : world.plane.sight record = .ok none) :
    Ends (create (engine.clientOf record.kind) record) world
      (fun outcome later => outcome = .created ∧ world.plane.Permits record ∧
        ∃ creation ready synced last, world.plane.Provides record creation later.plane ∧
          world.store.Writes
            ((record.claimedBy creation).reported
              (later.plane.sight (record.claimedBy creation)).toOption.join ready synced last)
            later.store)
      (fun _ later => ¬ world.plane.Permits record ∧
        (∃ mutations, later.plane = { world.plane with mutations }) ∧
        world.store.Writes record.released later.store) := by
  rw [create, ends_bind]
  have effect := markPending_effect stored
  refine effect.mono ?_ fun _ _ never => never.elim
  intro _ _ ended
  obtain ⟨rfl, marked, early, rfl⟩ := ended
  rw [ends_bind, ends_attempt, ← record.kind_pending]
  refine (create_effect ?_).mono ?_ ?_
  · exact calm
  · intro creation _ ended
    obtain ⟨permitted, provided, plane, secrets, rfl⟩ := ended
    have still : plane.IsCalm := calm.of_faults provided.faults
    refine (commit_effect still early.get?_self creation).mono ?_ fun _ _ never => never.elim
    intro outcome later ended
    obtain ⟨created, same, ready, synced, last, late⟩ := ended
    rw [record.claimedBy_pending] at late
    rw [← same] at late provided
    exact ⟨created, Record.permits_pending.1 permitted, creation, ready, synced, last,
      Record.provides_pending.1 provided, early.trans late record.id_pending⟩
  · intro error _ ended
    obtain ⟨⟨mutations, rfl⟩, reason⟩ := ended
    obtain ⟨lacking, apart⟩ := reason (Record.sight_pending.trans sight)
    simp only [apart, Bool.false_eq_true, not_false_eq_true, if_true, ends_bind]
    refine (abandonCreate_effect ?_ early.get?_self ?_).mono ?_ fun _ _ never => never.elim
    · exact calm
    · exact Record.sight_pending.trans sight
    · intro _ _ ended
      obtain ⟨store, late, rfl⟩ := ended
      rw [record.released_pending] at late
      exact ⟨fun permitted => lacking (Record.permits_pending.2 permitted), ⟨mutations, rfl⟩,
        early.trans late record.id_pending⟩

/-- To end a create that was cut short provides the resource and claims it, unless another
record has claimed it. -/
theorem resume_effect (calm : world.plane.IsCalm)
    (stored : world.store.get? record.id = some record) {observed : Observed}
    (sight : world.plane.sight record = .ok (some observed)) :
    Ends (resume (engine.clientOf record.kind) record) world
      (fun outcome later => outcome = .created ∧
        world.store.list.any (·.isRivalOf record) = false ∧
        ∃ creation ready synced last, world.plane.Provides record creation later.plane ∧
          world.store.Writes
            ((record.claimedBy creation).reported
              (later.plane.sight (record.claimedBy creation)).toOption.join ready synced last)
            later.store)
      (fun _ later => (∃ mutations, later.plane = { world.plane with mutations }) ∧
        (world.store.Writes record later.store ∨ world.store.Writes record.released later.store)) := by
  simp only [resume, hasRival, ends_bind, ends_listRecords, ends_pure]
  cases rival : world.store.list.any (·.isRivalOf record) with
  | true =>
      simp only [if_true, ends_bind]
      refine (releasePending_effect stored).mono ?_ fun _ _ never => never.elim
      intro _ _ ended
      obtain ⟨store, wrote, rfl⟩ := ended
      exact ⟨⟨world.plane.mutations, rfl⟩, .inr wrote⟩
  | false =>
      simp only [Bool.false_eq_true, if_false, ends_bind]
      apply (resumeCreate_effect calm sight).mono
      · intro creation _ ended
        obtain ⟨provided, plane, secrets, rfl⟩ := ended
        have still : plane.IsCalm := calm.of_faults provided.faults
        refine (commit_effect ?_ ?_ creation).mono ?_ fun _ _ never => never.elim
        · exact still
        · exact stored
        · intro outcome later ended
          obtain ⟨created, same, ready, synced, last, wrote⟩ := ended
          rw [← same] at wrote provided
          exact ⟨created, trivial, creation, ready, synced, last, provided, wrote⟩
      · intro error _ ended
        obtain ⟨mutations, rfl⟩ := ended
        exact ⟨⟨mutations, rfl⟩, .inl (Store.writes_of_get? stored)⟩

/-- An update amends the resource, or fails and leaves things as they were. -/
theorem update_pass_effect (calm : world.plane.IsCalm)
    (stored : world.store.get? record.id = some record) {observed : Observed}
    {drifts : List Drift} (sight : world.plane.sight record = .ok (some observed))
    (differs : (engine.clientOf record.kind).diff record observed = .ok drifts)
    (drifted : drifts ≠ []) :
    Ends (update (engine.clientOf record.kind) record observed drifts) world
      (fun outcome later => outcome = .updated (driftedFields drifts) ∧
        world.plane.Amends record drifts later.plane ∧
        ∃ seen ready synced last,
          world.store.Writes (record.reported (some seen) ready synced last) later.store)
      (fun error later => (∃ mutations, later = world.counting mutations) ∧
        ((engine.clientOf record.kind).update record drifts).answer world = .error error) := by
  rw [update, ends_bind]
  have effect := (update_effect calm sight differs drifted).and (ends_answer _ _)
  apply effect.mono
  · intro _ _ ended
    obtain ⟨⟨amended, plane, rfl⟩, -⟩ := ended
    have still : plane.IsCalm := calm.of_faults amended.faults
    rw [ends_bind, ends_glance still, ends_bind]
    refine ends_reportSuccess stored fun ready synced last clock => ?_
    exact ⟨rfl, amended, _, ready, synced, last, rfl⟩
  · intro error _ ended
    obtain ⟨left, failed, -⟩ := ended
    exact ⟨left, failed⟩

/-- The record is valid, is not to be deleted, and can be connected. -/
structure Ready (engine : Engine) (record : Record) : Prop where
  valid : record.validate = .ok ()
  kept : record.isDeleting = false
  connected : engine.connect record.kind record = .ok (engine.clientOf record.kind)

/-- A pass over a record stops if the record is not valid or does not connect, and forgets one that
is to be deleted and owns nothing. For any other it does what the record needs. -/
theorem ends_advance_of_causes {good : Outcome → World → Prop} {bad : PassError → World → Prop}
    (invalid : ∀ error, record.validate = .error error → bad (.invalidSpec error) world)
    (unconnected : ∀ error, engine.connect record.kind record = .error error → bad error world)
    (forgotten : record.isDeleting = true → record.isClaimed = false →
      Ends (do Pass.erase record.id; return Outcome.forgotten) world good bad)
    (driven : record.validate = .ok () → (record.isDeleting = true → record.isClaimed = true) →
      engine.connect record.kind record = .ok (engine.clientOf record.kind) →
      Ends (drive (engine.clientOf record.kind) record) world good bad) :
    Ends (engine.advance record) world good bad := by
  rw [advance, ends_bind, ends_lift]
  cases valid : record.validate with
  | error error => exact invalid error valid
  | ok _ =>
      rw [mapError_ok]
      dsimp only
      rw [ends_ite]
      split
      · rename_i abandoned
        exact forgotten abandoned.1 (Bool.eq_false_iff.2 abandoned.2)
      · rename_i stays
        rw [ends_bind, ends_lift]
        cases connected : engine.connect record.kind record with
        | error error => exact unconnected error connected
        | ok client =>
            cases client_of_connect connected
            refine driven valid (fun deleting => ?_) connected
            cases claimed : record.isClaimed with
            | true => rfl
            | false => exact absurd ⟨deleting, Bool.eq_false_iff.1 claimed⟩ stays

/-- The rule for a pass over a record when it does not matter why it stops. -/
theorem ends_advance {good : Outcome → World → Prop} {bad : PassError → World → Prop}
    (stopped : ∀ error, bad error world)
    (forgotten : record.isDeleting = true → record.isClaimed = false →
      Ends (do Pass.erase record.id; return Outcome.forgotten) world good bad)
    (driven : record.validate = .ok () → (record.isDeleting = true → record.isClaimed = true) →
      engine.connect record.kind record = .ok (engine.clientOf record.kind) →
      Ends (drive (engine.clientOf record.kind) record) world good bad) :
    Ends (engine.advance record) world good bad :=
  ends_advance_of_causes (fun _ _ => stopped _) (fun error _ => stopped error) forgotten driven

/-- A record that is not to be deleted is worked on if it is ready, and nothing happens if it is
not. -/
theorem advance_ends (kept : record.isDeleting = false) {good : Outcome → World → Prop}
    {bad : PassError → World → Prop}
    (driven : engine.Ready record →
      Ends (drive (engine.clientOf record.kind) record) world good bad)
    (stopped : ∀ error, bad error world) : Ends (engine.advance record) world good bad := by
  refine ends_advance stopped (fun deleting => ?_) fun valid _ connected => ?_
  · cases kept.symm.trans deleting
  · exact driven ⟨valid, kept, connected⟩

/-- A record that is to be deleted is forgotten if it owns nothing. Otherwise its resource is
deleted, if the record is valid and connects. -/
theorem advance_ends_of_deleting (deleting : record.isDeleting = true)
    {good : Outcome → World → Prop} {bad : PassError → World → Prop}
    (forgotten : record.isClaimed = false →
      Ends (do Pass.erase record.id; return Outcome.forgotten) world good bad)
    (deleted : record.isClaimed = true →
      Ends (delete (engine.clientOf record.kind) record) world good bad)
    (stopped : ∀ error, bad error world) : Ends (engine.advance record) world good bad := by
  refine ends_advance stopped (fun _ => forgotten) fun _ claims _ => ?_
  rw [drive, if_pos deleting]
  exact deleted (claims deleting)

/-- A deletion tells that it has begun, deletes the resource, and erases the record if the resource
is gone. -/
theorem delete_ends {client : Client} (stored : world.store.get? record.id = some record)
    {good : Outcome → World → Prop} {bad : PassError → World → Prop}
    (deletes : ∀ status clock,
      Ends (client.delete record false)
        { world with store := world.store.put { record with status }, clock }
        (fun _ later => Ends (do Pass.erase record.id; return Outcome.deleted) later good bad)
        fun error later => if error.isNotFound then
          Ends (do Pass.erase record.id; return Outcome.deleted) later good bad
        else bad error later) :
    Ends (delete client record) world good bad := by
  simp only [delete, ends_bind, ends_now, ends_tryPutStatus, stored, ends_attempt]
  apply (deletes _ _).mono
  · intro _ later erases
    exact (ends_bind _ _).1 erases
  · intro error later left
    cases missing : error.isNotFound with
    | true => simpa [missing] using left
    | false => simpa [missing] using left

/-- A record that passes the checks is worked on at once. -/
theorem ends_advance_of_ready (ready : engine.Ready record) {good : Outcome → World → Prop}
    {bad : PassError → World → Prop} :
    Ends (engine.advance record) world good bad ↔
      Ends (drive (engine.clientOf record.kind) record) world good bad := by
  simp only [advance, ends_bind, ends_lift, ready.valid, ready.kept, ready.connected,
    mapError_ok, Bool.false_eq_true, false_and, if_false]

/-- A failure is reported in the status of the record as it was left. -/
theorem reportError_effect {before : Store} {left : Record} (named : left.id = record.id)
    (wrote : before.Writes left world.store) (error : PassError) :
    Ends (reportError record error) world
      (fun _ later => later.plane = world.plane ∧
        ∃ status, before.Writes { left with status } later.store)
      (fun _ _ => False) := by
  apply ends_reportError
  · intro current status clock stored
    rw [← named, wrote.get?_self] at stored
    cases stored
    exact ⟨rfl, status, wrote.trans (Store.writes_put _ _) rfl⟩
  · intro clock
    exact ⟨rfl, left.status, wrote⟩

/-- A pass over a record that is ready does what it finds to do. -/
theorem drive_ends (ready : engine.Ready record) (calm : world.plane.IsCalm)
    {good : Outcome → World → Prop} {bad : PassError → World → Prop}
    (absent : world.plane.sight record = .ok none →
      Ends (create (engine.clientOf record.kind) record) world good bad)
    (unclaimed : ∀ observed, world.plane.sight record = .ok (some observed) →
      record.isClaimed = false → record.metadata.isCreatePending = true →
      Ends (resume (engine.clientOf record.kind) record) world good bad)
    (inLine : ∀ observed, world.plane.sight record = .ok (some observed) →
      record.isClaimed = true → (engine.clientOf record.kind).diff record observed = .ok [] →
      Ends (reportSuccess record (some observed)) world (fun _ => good .upToDate) bad)
    (drifted : ∀ observed drifts, world.plane.sight record = .ok (some observed) →
      record.isClaimed = true → (engine.clientOf record.kind).diff record observed = .ok drifts →
      drifts ≠ [] →
      Ends (update (engine.clientOf record.kind) record observed drifts) world good bad)
    (blocked : ∀ error, (world.plane.sight record).bind
      ((engine.clientOf record.kind).regard record) = .error error → bad error world) :
    Ends (drive (engine.clientOf record.kind) record) world good bad := by
  rw [drive, ready.kept]
  simp only [Bool.false_eq_true, if_false]
  rw [(engine.only_observe record.kind record).ends_bind_of_reads calm,
    engine.answer_observe calm record]
  cases sight : world.plane.sight record with
  | error error => exact blocked error (by rw [sight]; rfl)
  | ok seen =>
      cases seen with
      | none => exact absent sight
      | some observed =>
          simp only [sight, Except.bind, Client.regard] at blocked ⊢
          cases claimed : record.isClaimed with
          | true =>
              simp only [claimed, if_true] at blocked ⊢
              cases differs : (engine.clientOf record.kind).diff record observed with
              | error error => exact blocked error (by rw [differs]; rfl)
              | ok drifts =>
                  cases drifts with
                  | nil =>
                      apply (ends_bind _ _).2
                      exact inLine observed sight claimed differs
                  | cons drift drifts =>
                      exact drifted observed _ sight claimed differs (by simp)
          | false =>
              simp only [claimed, Bool.false_eq_true, if_false] at blocked ⊢
              cases pending : record.metadata.isCreatePending with
              | true => exact unclaimed observed sight claimed pending
              | false =>
                  simp only [pending, Bool.false_eq_true, if_false] at blocked ⊢
                  exact blocked _ rfl

end Engine

end Steward
