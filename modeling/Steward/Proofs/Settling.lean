/-
This file shows that passes over one record come to rest.
A create leaves no more to do than one update, an update leaves nothing to do, and a pass that
finds nothing to do changes neither the remote side nor, but for its time, the record.
-/

import Steward.Proofs.Advance
import Steward.Proofs.Runs

namespace Steward

open Pass

/-- The world after a number of passes for one record. -/
def Engine.afterPasses (engine : Engine) (id : RecordId) : Nat → World → World
  | 0, world => world
  | count + 1, world => (engine.pass id).after (engine.afterPasses id count world)

/-- In a calm world, a record is stored that is ready, owns its resource and asks for sound
documents. -/
structure Engine.Owns (engine : Engine) (world : World) (record : Record) : Prop where
  calm : world.plane.IsCalm
  stored : world.store.get? record.id = some record
  ready : engine.Ready record
  claimed : record.isClaimed = true
  sound : record.HasSoundPolicies

/-- The same record as one after a pass that found nothing to do, but for the time. -/
def Record.IsTimeOf (later earlier : Record) : Prop :=
  later = { earlier with status := { earlier.status with
    lastReconciled := later.status.lastReconciled } }

namespace Engine

variable {engine : Engine} {world later : World} {record : Record} {plane : Plane}

/-- A comparison does not look at what has been reported on the record. -/
theorem diff_reported (kind : Kind) (record : Record) (seen : Option Observed)
    (ready synced last : Timestamp) :
    (engine.clientOf kind).diff (record.reported seen ready synced last) =
      (engine.clientOf kind).diff record := by
  cases kind with
  | bucket => rfl
  | user => rfl
  | policy => rfl
  | serviceAccount => rfl

/-- An update does not look at what has been reported on the record. -/
theorem update_reported (kind : Kind) (record : Record) (seen : Option Observed)
    (ready synced last : Timestamp) :
    (engine.clientOf kind).update (record.reported seen ready synced last) =
      (engine.clientOf kind).update record := by
  cases kind with
  | bucket => rfl
  | user => rfl
  | policy => rfl
  | serviceAccount => rfl

/-- A report changes nothing that passes look at. -/
theorem InLine.reported (line : engine.InLine plane record) (seen : Option Observed)
    (ready synced last : Timestamp) :
    engine.InLine plane (record.reported seen ready synced last) := by
  obtain ⟨observed, sight, same⟩ := line
  refine ⟨observed, sight, ?_⟩
  rw [diff_reported]
  exact same

/-- A report does not bear on whether an update mends the record's resource. -/
theorem Mendable.reported (mendable : engine.Mendable plane record) (seen : Option Observed)
    (ready synced last : Timestamp) :
    engine.Mendable plane (record.reported seen ready synced last) := by
  obtain ⟨observed, drifts, sight, differs, mends⟩ := mendable
  refine ⟨observed, drifts, sight, ?_, ?_⟩
  · rw [diff_reported]
    exact differs
  · rw [update_reported]
    exact mends

theorem Ready.reported (ready : engine.Ready record) (observed : Option Observed)
    (first synced last : Timestamp) :
    engine.Ready (record.reported observed first synced last) :=
  ⟨ready.valid, ready.kept, ready.connected⟩

theorem Ready.claimedBy (ready : engine.Ready record) (creation : Creation) :
    engine.Ready (record.claimedBy creation) :=
  ⟨ready.valid, ready.kept, ready.connected⟩

/-- A record that owns its resource does so after a report of success. -/
theorem Owns.reported (owns : engine.Owns world record) (calm : later.plane.IsCalm)
    {seen : Option Observed} {first synced last : Timestamp}
    (wrote : world.store.Writes (record.reported seen first synced last) later.store) :
    engine.Owns later (record.reported seen first synced last) :=
  ⟨calm, wrote.get?_self, owns.ready.reported _ _ _ _, owns.claimed, owns.sound⟩

/-- What a pass leaves that found nothing to do. -/
def LeavesAlone (record : Record) (before after : World) : Prop :=
  after.plane = before.plane ∧
    ∃ observed ready synced last, before.plane.sight record = .ok (some observed) ∧
      before.store.Writes (record.reported (some observed) ready synced last) after.store

/-- A pass that has only looked and reports success has left its record alone. -/
theorem leavesAlone_of_reportSuccess
    (stored : world.store.get? record.id = some record) {observed : Observed}
    (sight : world.plane.sight record = .ok (some observed)) {good : Unit → World → Prop}
    {bad : PassError → World → Prop}
    (left : ∀ later, LeavesAlone record world later → good () later) :
    Ends (reportSuccess record (some observed)) world good bad := by
  apply ends_reportSuccess stored
  intro ready synced last clock
  exact left _ ⟨rfl, observed, ready, synced, last, sight, Store.writes_put _ _⟩

/-- A pass over a record that is in line finds nothing to do. -/
theorem pass_of_inLine (owns : engine.Owns world record) (line : engine.InLine world.plane record) :
    Ends (engine.pass record.id) world
      (fun outcome later => outcome = .upToDate ∧ LeavesAlone record world later)
      (fun _ _ => False) := by
  obtain ⟨observed, sight, same⟩ := line
  rw [ends_pass owns.stored, ends_advance_of_ready owns.ready]
  apply drive_ends owns.ready owns.calm
  · intro absent
    cases absent.symm.trans sight
  · intro _ _ unclaimed
    cases unclaimed.symm.trans owns.claimed
  · intro other seen _ _
    apply leavesAlone_of_reportSuccess owns.stored seen
    intro later left
    exact ⟨rfl, left⟩
  · intro other drifts seen _ differs drifted
    cases seen.symm.trans sight
    cases differs.symm.trans same
    exact absurd rfl drifted
  · intro error blocked
    simp [sight, Except.bind, Client.regard, owns.claimed, same, Except.map] at blocked

/-- A record in line stays so over a pass. -/
theorem LeavesAlone.rests (left : LeavesAlone record world later) (owns : engine.Owns world record)
    (line : engine.InLine world.plane record) :
    ∃ after, after.id = record.id ∧ engine.Owns later after ∧ engine.InLine later.plane after := by
  obtain ⟨same, observed, ready, synced, last, -, wrote⟩ := left
  have still : later.plane.IsCalm := by
    rw [same]
    exact owns.calm
  refine ⟨record.reported (some observed) ready synced last, rfl, owns.reported still wrote, ?_⟩
  rw [same]
  exact line.reported _ _ _ _

/-- A pass over a record that can be mended brings it in line. -/
theorem pass_of_mendable (owns : engine.Owns world record)
    (mendable : engine.Mendable world.plane record) :
    Ends (engine.pass record.id) world
      (fun outcome later => outcome ≠ .created ∧
        ∃ after, after.id = record.id ∧ engine.Owns later after ∧ engine.InLine later.plane after)
      (fun _ _ => False) := by
  obtain ⟨observed, drifts, sight, differs, mends⟩ := mendable
  rw [ends_pass owns.stored, ends_advance_of_ready owns.ready]
  apply drive_ends owns.ready owns.calm
  · intro absent
    cases absent.symm.trans sight
  · intro _ _ unclaimed
    cases unclaimed.symm.trans owns.claimed
  · intro other seen _ same
    apply leavesAlone_of_reportSuccess owns.stored seen
    intro later left
    exact ⟨nofun, left.rests owns ⟨other, seen, same⟩⟩
  · intro other found seen _ compared drifted
    cases seen.symm.trans sight
    cases compared.symm.trans differs
    have effect := update_pass_effect owns.calm owns.stored sight differs drifted
    apply effect.mono
    · intro outcome later ended
      obtain ⟨rfl, amended, seen, ready, synced, last, wrote⟩ := ended
      refine ⟨nofun, record.reported (some seen) ready synced last, rfl,
        owns.reported (owns.calm.of_faults amended.faults) wrote, ?_⟩
      exact (inLine_of_amends owns.sound sight differs amended).reported _ _ _ _
    · intro error _ ended
      obtain ⟨-, failed⟩ := ended
      exact ((mends world rfl drifted).of_error failed).elim
  · intro error blocked
    simp [sight, Except.bind, Client.regard, owns.claimed, differs, Except.map] at blocked

/-- A record whose resource was provided and claimed can be mended. -/
theorem mendable_of_claim {creation : Creation} {seen : Option Observed}
    {first synced last : Timestamp} (calm : world.plane.IsCalm) (ready : engine.Ready record)
    (sound : record.HasSoundPolicies)
    (provided : world.plane.Provides record creation later.plane)
    (wrote : world.store.Writes ((record.claimedBy creation).reported seen first synced last)
      later.store) :
    ∃ after, after.id = record.id ∧ engine.Owns later after ∧
      engine.Mendable later.plane after := by
  refine ⟨(record.claimedBy creation).reported seen first synced last, rfl, ?_, ?_⟩
  · exact ⟨calm.of_faults provided.faults, wrote.get?_self,
      (ready.claimedBy creation).reported _ _ _ _, isClaimed_claimedBy creation, sound⟩
  · exact (mendable_of_provides calm sound provided).reported _ _ _ _

/-- Whatever came before, a pass that ends well leaves a record that can be mended, and one in
line unless it was a create. -/
theorem pass_leaves_mendable (calm : world.plane.IsCalm)
    (stored : world.store.get? record.id = some record) (kept : record.isDeleting = false)
    (sound : record.HasSoundPolicies) :
    Ends (engine.pass record.id) world
      (fun outcome later => ∃ after, after.id = record.id ∧ engine.Owns later after ∧
        engine.Mendable later.plane after ∧
        (outcome ≠ .created → engine.InLine later.plane after) ∧
        (outcome = .upToDate → LeavesAlone record world later))
      (fun _ _ => True) := by
  refine ends_pass_of_advance stored (advance_ends kept (fun ready => ?_) fun _ => trivial)
  refine drive_ends ready calm ?_ ?_ ?_ ?_ fun _ _ => trivial
  · intro absent
    refine (create_pass_effect calm stored absent).mono ?_ fun _ _ _ => trivial
    intro outcome later ended
    obtain ⟨rfl, -, creation, first, synced, last, provided, wrote⟩ := ended
    obtain ⟨after, named, owns, mendable⟩ := mendable_of_claim calm ready sound provided wrote
    exact ⟨after, named, owns, mendable, fun other => absurd rfl other, nofun⟩
  · intro observed sight unclaimed pending
    refine (resume_effect calm stored sight).mono ?_ fun _ _ _ => trivial
    intro outcome later ended
    obtain ⟨rfl, -, creation, first, synced, last, provided, wrote⟩ := ended
    obtain ⟨after, named, owns, mendable⟩ := mendable_of_claim calm ready sound provided wrote
    exact ⟨after, named, owns, mendable, fun other => absurd rfl other, nofun⟩
  · intro observed sight claimed same
    apply leavesAlone_of_reportSuccess stored sight
    intro later left
    have owns : engine.Owns world record := ⟨calm, stored, ready, claimed, sound⟩
    obtain ⟨after, named, rests, line⟩ := left.rests owns ⟨observed, sight, same⟩
    exact ⟨after, named, rests, line.mendable, fun _ => line, fun _ => left⟩
  · intro observed drifts sight claimed differs drifted
    have owns : engine.Owns world record := ⟨calm, stored, ready, claimed, sound⟩
    have effect := update_pass_effect calm stored sight differs drifted
    refine effect.mono ?_ fun _ _ _ => trivial
    intro outcome later ended
    obtain ⟨rfl, amended, seen, first, synced, last, wrote⟩ := ended
    have line := (inLine_of_amends sound sight differs amended).reported (some seen) first synced last
    exact ⟨record.reported (some seen) first synced last, rfl,
      owns.reported (calm.of_faults amended.faults) wrote, line.mendable, fun _ => line, nofun⟩

/-- A stored record is in line that owns its resource. -/
def Rests (engine : Engine) (id : RecordId) (world : World) : Prop :=
  ∃ record, record.id = id ∧ engine.Owns world record ∧ engine.InLine world.plane record

variable {id : RecordId}

/-- A pass over a record that is in line finds nothing to do, and leaves it in line. -/
theorem Rests.pass (rests : engine.Rests id world) :
    (engine.pass id).answer world = .ok .upToDate ∧
      engine.Rests id ((engine.pass id).after world) := by
  obtain ⟨record, rfl, owns, line⟩ := rests
  obtain ⟨outcome, answered, rfl, left⟩ := (pass_of_inLine owns line).exists_ok
  exact ⟨answered, left.rests owns line⟩

/-- From a record in line on, all passes keep it so. -/
theorem Rests.afterPasses {first count : Nat}
    (rests : engine.Rests id (engine.afterPasses id first world)) (later : first ≤ count) :
    engine.Rests id (engine.afterPasses id count world) := by
  induction later with
  | refl => exact rests
  | step _ inductionHypothesis => exact inductionHypothesis.pass.2

/-- In a calm world, a record is stored that is not to be deleted and asks for sound documents. -/
def Tends (id : RecordId) (world : World) (record : Record) : Prop :=
  record.id = id ∧ world.plane.IsCalm ∧ world.store.get? id = some record ∧
    record.isDeleting = false ∧ record.HasSoundPolicies

theorem Owns.tends (owns : engine.Owns world record) : Tends record.id world record :=
  ⟨rfl, owns.calm, owns.stored, owns.ready.kept, owns.sound⟩

/-- A pass that says that it found nothing to do has left its record alone. -/
theorem Tends.leavesAlone (tends : Tends id world record)
    (idle : (engine.pass id).answer world = .ok .upToDate) :
    LeavesAlone record world ((engine.pass id).after world) := by
  obtain ⟨rfl, calm, stored, kept, sound⟩ := tends
  obtain ⟨-, -, -, -, -, left⟩ := (pass_leaves_mendable calm stored kept sound).of_ok idle
  exact left rfl

/-- Two passes in a row that find nothing to do leave records that differ in their times only. -/
theorem LeavesAlone.isTimeOf {middle : World} {between last : Record}
    (first : LeavesAlone record world middle)
    (held : middle.store.get? record.id = some between)
    (second : LeavesAlone between middle later)
    (stored : later.store.get? record.id = some last) : last.IsTimeOf between := by
  obtain ⟨same, observed, ready, synced, time, sight, early⟩ := first
  obtain ⟨-, other, again, both, late, seen, wrote⟩ := second
  cases held.symm.trans early.get?_self
  cases stored.symm.trans wrote.get?_self
  rw [same] at seen
  cases seen.symm.trans sight
  unfold Record.IsTimeOf
  rw [Record.reported, Record.succeeded_again]
  rfl

/-- Passes over one record come to rest. -/
theorem passes_settle (engine : Engine) (world : World) (id : RecordId) (record : Record)
    (outcome : Outcome) (calm : world.plane.IsCalm) (stored : world.store.get? id = some record)
    (kept : record.isDeleting = false) (sound : record.HasSoundPolicies)
    (succeeded : (engine.pass id).answer world = .ok outcome) :
    (∀ count, 2 ≤ count →
        (engine.pass id).answer (engine.afterPasses id count world) = .ok .upToDate) ∧
      (outcome ≠ .created → ∀ count, 1 ≤ count →
        (engine.pass id).answer (engine.afterPasses id count world) = .ok .upToDate) ∧
      (∀ count,
        (engine.pass id).answer (engine.afterPasses id count world) = .ok .upToDate →
          (engine.afterPasses id (count + 1) world).plane =
            (engine.afterPasses id count world).plane) ∧
      (∀ count,
        (engine.pass id).answer (engine.afterPasses id count world) = .ok .upToDate →
        (engine.pass id).answer (engine.afterPasses id (count + 1) world) = .ok .upToDate →
          ∃ earlier later,
            (engine.afterPasses id (count + 1) world).store.get? id = some earlier ∧
            (engine.afterPasses id (count + 2) world).store.get? id = some later ∧
            later.IsTimeOf earlier) := by
  have named := world.store.id_of_get? stored
  subst named
  obtain ⟨after, named, owns, mendable, line, -⟩ :=
    (pass_leaves_mendable calm stored kept sound).of_ok succeeded
  have second : engine.Rests record.id (engine.afterPasses record.id 2 world) := by
    obtain ⟨next, -, -, last, same, rests, inLine⟩ :=
      (pass_of_mendable owns mendable).exists_ok
    rw [named] at rests inLine
    exact ⟨last, same.trans named, rests, inLine⟩
  have tends : ∀ count, ∃ current,
      Tends record.id (engine.afterPasses record.id count world) current := by
    intro count
    match count with
    | 0 => exact ⟨record, rfl, calm, stored, kept, sound⟩
    | 1 => exact ⟨after, named ▸ owns.tends⟩
    | count + 2 =>
        obtain ⟨current, same, rests, -⟩ := second.afterPasses (show 2 ≤ count + 2 by omega)
        exact ⟨current, same ▸ rests.tends⟩
  have alone : ∀ count current, Tends record.id (engine.afterPasses record.id count world) current →
      (engine.pass record.id).answer (engine.afterPasses record.id count world) =
        .ok .upToDate →
      LeavesAlone current (engine.afterPasses record.id count world)
        (engine.afterPasses record.id (count + 1) world) :=
    fun count current held idle => held.leavesAlone idle
  refine ⟨?_, ?_, ?_, ?_⟩
  · intro count later
    exact (second.afterPasses later).pass.1
  · intro changed count later
    have first : engine.Rests record.id (engine.afterPasses record.id 1 world) :=
      ⟨after, named, owns, line changed⟩
    exact (first.afterPasses later).pass.1
  · intro count idle
    obtain ⟨current, held⟩ := tends count
    exact (alone count current held idle).1
  · intro count idle still
    obtain ⟨current, held⟩ := tends count
    obtain ⟨next, follows⟩ := tends (count + 1)
    obtain ⟨last, ends⟩ := tends (count + 2)
    refine ⟨next, last, follows.2.2.1, ends.2.2.1, ?_⟩
    have left := alone count current held idle
    have right := alone (count + 1) next follows still
    refine left.isTimeOf ?_ right ?_
    · rw [held.1]
      exact follows.2.2.1
    · rw [held.1]
      exact ends.2.2.1

/-- A bucket that has just been created is in order from the second pass after that on. -/
theorem passes_settle_of_new_bucket :
    Sample.declared.plane.IsCalm ∧
      Sample.declared.store.get? (.plain "first") = some (Sample.bucket "first" none) ∧
      (Sample.bucket "first" none).isDeleting = false ∧
      (Sample.bucket "first" none).HasSoundPolicies ∧
      (Sample.engine.pass (.plain "first")).answer Sample.declared = .ok .created ∧
      ∀ count, 2 ≤ count → (Sample.engine.pass (.plain "first")).answer
        (Sample.engine.afterPasses (.plain "first") count Sample.declared) = .ok .upToDate := by
  have calm : Sample.declared.plane.IsCalm := by decide +kernel
  have stored : Sample.declared.store.get? (.plain "first") = some (Sample.bucket "first" none) := by
    decide +kernel
  have sound : (Sample.bucket "first" none).HasSoundPolicies := Drift.isSound_none
  have created : (Sample.engine.pass (.plain "first")).answer Sample.declared = .ok .created := by
    decide +kernel
  obtain ⟨settled, -⟩ :=
    passes_settle Sample.engine Sample.declared (.plain "first") _ _ calm stored rfl sound created
  exact ⟨calm, stored, rfl, sound, created, settled⟩

end Engine

end Steward
