/-
This file shows which resources a record without the lock may take into its care.
One that somebody else has made is refused to it, and nothing is called that could change it. One
that was made for it by a create that was cut short becomes its own.
-/

import Steward.Proofs.Credentials
import Steward.Proofs.Ownership
import Steward.Proofs.Recovery
import Steward.Proofs.Rounds

namespace Steward

open Pass

namespace Plane

variable {before after : Plane} {record : Record}

/-- The resource of a record is as the spec of the record declares it. -/
def Realizes (plane : Plane) (record : Record) : Prop :=
  match record.spec with
  | .bucket spec => ∀ policy, Drift.nonBlank spec.policy = some policy →
      ∃ bucket, plane.buckets.get? record.targetName = some bucket ∧ bucket.policy = some policy
  | .user spec => spec.policies ≠ [] →
      ∃ user, plane.users.get? record.targetName = some user ∧
        ∀ policy, policy ∈ user.policies ↔ policy ∈ spec.policies
  | .policy _ => ∃ document, Policy.desiredDocument record = .ok document ∧
      plane.policies.get? record.targetName = some document
  | .serviceAccount _ => True

/-- What is provided is as it was declared, whatever was there before. -/
theorem Provides.realizes {creation : Creation}
    (provided : before.Provides record creation after) : after.Realizes record := by
  unfold Provides at provided
  unfold Realizes
  cases asked : record.spec with
  | bucket spec =>
      rw [asked] at provided
      obtain ⟨-, -, mutations, rfl⟩ := provided
      intro policy desired
      refine ⟨_, get?_withBucket, ?_⟩
      cases before.buckets.get? record.targetName with
      | none => exact desired
      | some bucket => simp [Bucket.provided, desired]
  | user spec =>
      rw [asked] at provided
      obtain ⟨secret, policies, mutations, -, -, same, rfl⟩ := provided
      intro wanted
      exact ⟨_, get?_withUser, same wanted⟩
  | policy spec =>
      rw [asked] at provided
      obtain ⟨-, document, mutations, asks, rfl⟩ := provided
      exact ⟨document, asks.1, get?_withPolicy⟩
  | serviceAccount spec => trivial

/-- Of the resources that go by a name none is made but that of the record. -/
theorem Provides.holds_only {creation : Creation}
    (provided : before.Provides record creation after) {kind : Kind} {name : String}
    (held : after.Holds kind name) :
    before.Holds kind name ∨ kind = record.kind ∧ name = record.targetName := by
  have inserted : ∀ {α : Type} {table : Table String α} {value : α},
      (table.insert record.targetName value).contains name = true →
      table.contains name = true ∨ name = record.targetName := by
    intro α table value found
    by_cases same : name = record.targetName
    · exact .inr same
    · simp only [Table.contains, Table.get?_insert, if_neg same] at found
      exact .inl found
  unfold Provides at provided
  rw [Record.kind]
  cases asked : record.spec with
  | bucket spec =>
      rw [asked] at provided
      obtain ⟨-, -, mutations, rfl⟩ := provided
      cases kind with
      | bucket => exact (inserted held).imp_right fun same => ⟨rfl, same⟩
      | _ => exact .inl held
  | user spec =>
      rw [asked] at provided
      obtain ⟨secret, policies, mutations, -, -, -, rfl⟩ := provided
      cases kind with
      | user => exact (inserted held).imp_right fun same => ⟨rfl, same⟩
      | _ => exact .inl held
  | policy spec =>
      rw [asked] at provided
      obtain ⟨-, document, mutations, -, rfl⟩ := provided
      cases kind with
      | policy => exact (inserted held).imp_right fun same => ⟨rfl, same⟩
      | _ => exact .inl held
  | serviceAccount spec =>
      rw [asked] at provided
      obtain ⟨-, mutations, rfl⟩ := provided
      cases kind with
      | serviceAccount => exact held.elim
      | _ => exact .inl held

/-- To provide a resource that was there already makes no other. -/
theorem Provides.holds_iff {creation : Creation}
    (provided : before.Provides record creation after)
    (there : before.Holds record.kind record.targetName) (kind : Kind) (name : String) :
    after.Holds kind name ↔ before.Holds kind name := by
  constructor
  · intro held
    obtain early | ⟨rfl, rfl⟩ := provided.holds_only held
    · exact early
    · exact there
  · exact provided.keeps kind name

end Plane

namespace Engine

variable {engine : Engine} {world : World} {record : Record}

/-- A record without the lock meets a resource under its remote name that can be looked at. -/
structure Meets (engine : Engine) (world : World) (record : Record) : Prop where
  calm : world.plane.IsCalm
  stored : world.store.get? record.id = some record
  ready : engine.Ready record
  unclaimed : record.isClaimed = false
  there : world.plane.Holds record.kind record.targetName
  probed : ∃ seen, ((engine.clientOf record.kind).probe record).answer world = .ok seen

/-- A record that meets a resource under its name sees it. -/
theorem Meets.sight (meets : engine.Meets world record) :
    ∃ observed, world.plane.sight record = .ok (some observed) := by
  obtain ⟨seen, answered⟩ := meets.probed
  rw [engine.answer_probe meets.calm] at answered
  cases seen with
  | none => exact absurd meets.there (Plane.not_holds_of_sight answered)
  | some observed => exact ⟨observed, answered⟩

/-- A record that meets a resource is not one of a service account. -/
theorem Meets.named (meets : engine.Meets world record) : record.kind ≠ .serviceAccount := by
  intro account
  have there := meets.there
  rw [account] at there
  exact there

/-- Where no fault is armed everything can be looked at. -/
theorem probed_of_no_faults (quiet : world.plane.faults = {}) :
    ∃ seen, ((engine.clientOf record.kind).probe record).answer world = .ok seen := by
  have calm : world.plane.IsCalm := congrArg Faults.next quiet
  rw [engine.answer_probe calm]
  unfold Plane.sight
  cases record.kind with
  | bucket => simp [Bucket.seenOf, Plane.accessError?, quiet, Table.contains]
  | _ => exact ⟨_, rfl⟩

/-- What a pass leaves that was refused the resource of its record. -/
structure Refusal (before : World) (record : Record) (after : World) : Prop where
  plane : after.plane = before.plane
  details : after.store.details = before.store.details
  written : ∃ synced ready last, before.store.Writes
    { record.released with status := record.failed record.collision synced ready last } after.store

/-- A collision is told in the status of the record that has been released. -/
theorem reportCollision_effect {middle : World}
    (wrote : world.store.Writes record.released middle.store)
    (plane : middle.plane = world.plane)
    (details : middle.store.details = world.store.details) :
    Ends (reportError record record.collision) middle (fun _ later => Refusal world record later)
      (fun _ _ => False) := by
  have stored : middle.store.get? record.id = some record.released := wrote.get?_self
  apply ends_reportError_of_isReported rfl stored
  intro synced ready last clock
  exact ⟨plane, details, synced, ready, last, wrote.trans (Store.writes_put _ _) rfl⟩

/-- A pass is refused the resource of its record, unless its own create is pending and nobody else
has the lock. -/
theorem Meets.refused (meets : engine.Meets world record)
    (foreign : record.metadata.isCreatePending = false ∨
      ∃ rival, world.store.get? rival.id = some rival ∧ rival.isRivalOf record = true) :
    Ends (engine.pass record.id) world (fun _ _ => False)
      (fun error later => error = record.collision ∧ Refusal world record later) := by
  obtain ⟨observed, sight⟩ := meets.sight
  rw [ends_pass meets.stored, ends_advance_of_ready meets.ready]
  apply drive_ends meets.ready meets.calm
  · intro absent
    cases sight.symm.trans absent
  · intro _ _ _ pending
    have rivaled : world.store.list.any (·.isRivalOf record) = true := by
      obtain idle | ⟨rival, stored, rivals⟩ := foreign
      · cases pending.symm.trans idle
      · exact List.any_eq_true.2 ⟨rival, world.store.mem_list_iff.2 stored, rivals⟩
    simp only [resume, hasRival, ends_bind, ends_listRecords, ends_pure, rivaled, if_true,
      releasePending, ends_putMetadata, meets.stored, ends_throw]
    have reports : Ends (reportError record record.collision)
        { world with store := world.store.put record.released }
        (fun _ later => Refusal world record later) (fun _ _ => False) :=
      reportCollision_effect (Store.writes_put _ _) rfl rfl
    exact reports.mono (fun _ _ refusal => ⟨trivial, refusal⟩) fun _ _ never => never.elim
  · intro _ _ claimed
    cases meets.unclaimed.symm.trans claimed
  · intro _ _ _ claimed
    cases meets.unclaimed.symm.trans claimed
  · intro error blocked
    cases pending : record.metadata.isCreatePending with
    | true => simp [sight, Except.bind, Client.regard, meets.unclaimed, pending] at blocked
    | false =>
        simp only [sight, Except.bind, Client.regard, meets.unclaimed, pending,
          Bool.false_eq_true, if_false, Except.error.injEq] at blocked
        rw [← blocked]
        have still : world.store.Writes record.released world.store := by
          rw [Record.released_of_not_pending _ pending]
          exact Store.writes_of_get? meets.stored
        exact (reportCollision_effect still rfl rfl).mono (fun _ _ refusal => ⟨rfl, refusal⟩)
          fun _ _ never => never.elim

/-- A resource that somebody else has made is not adopted. The pass fails with a collision. It makes
no call that could change the remote side, as that counts such calls, and publishes nothing. Its own
record is told unavailable, and carries neither the lock nor a pending create. -/
theorem taken_name_is_refused (meets : engine.Meets world record)
    (foreign : record.metadata.isCreatePending = false ∨
      ∃ rival, world.store.get? rival.id = some rival ∧ rival.isRivalOf record = true) :
    (engine.reconcile record.id false).answer world =
        .error (.nameCollision record.kind record.targetName) ∧
      ((engine.reconcile record.id false).after world).plane = world.plane ∧
      ((engine.reconcile record.id false).after world).store.details = world.store.details ∧
      ∃ left : Record, left = { record.released with status := left.status } ∧
        world.store.Writes left ((engine.reconcile record.id false).after world).store ∧
        left.isClaimed = false ∧ left.metadata.isCreatePending = false ∧
        (∃ synced, left.status.condition? .synced = some synced ∧ synced.status = false) ∧
        ∃ ready, left.status.condition? .ready = some ready ∧ ready.status = false ∧
          ready.reason = .unavailable := by
  obtain ⟨error, answered, rfl, refusal⟩ := (meets.refused foreign).exists_error
  obtain ⟨synced, ready, last, wrote⟩ := refusal.written
  refine ⟨answered, refusal.plane, refusal.details, _, rfl, wrote, ?_, ?_, ?_, ?_⟩
  · exact (Record.isClaimed_released _).trans meets.unclaimed
  · exact Record.isCreatePending_released _
  · obtain ⟨current, found, same⟩ :=
      record.condition?_synced_failed ready synced last record.collision
    exact ⟨current, found, (Condition.sameState_iff.1 same).2.1⟩
  · obtain ⟨current, found, same⟩ :=
      record.condition?_ready_failed ready synced last record.kind record.targetName
    obtain ⟨-, status, reason, -⟩ := Condition.sameState_iff.1 same
    exact ⟨current, found, status, reason⟩

end Engine

namespace Sample

/-- A record for the bucket "first" whose create was cut short. -/
def latecomer : Record :=
  { bucket "second" (some "first") with metadata := Metadata.markCreatePending ∅ }

/-- Another record has created that bucket and carries the lock for it. -/
def belated : World :=
  { settled with store := settled.store.put latecomer }

/-- The latecomer finds the bucket that the other record has created. -/
theorem latecomer_meets : engine.Meets belated latecomer where
  calm := by decide +kernel
  stored := by decide +kernel
  ready := ⟨rfl, rfl, connect_engine rfl⟩
  unclaimed := by decide +kernel
  there := by
    change belated.plane.buckets.contains "first" = true
    decide +kernel
  probed := Engine.probed_of_no_faults (by decide +kernel)

end Sample

namespace Engine

variable {engine : Engine} {world : World} {record : Record}

/-- A create that was cut short is not resumed once another record carries the lock. -/
theorem taken_name_is_refused_of_latecomer :
    Sample.engine.Meets Sample.belated Sample.latecomer ∧
      (∃ rival, Sample.belated.store.get? rival.id = some rival ∧
        rival.isRivalOf Sample.latecomer = true) ∧
      (Sample.engine.reconcile Sample.latecomer.id false).answer Sample.belated =
        .error (.nameCollision .bucket "first") ∧
      ((Sample.engine.reconcile Sample.latecomer.id false).after Sample.belated).plane =
        Sample.belated.plane := by
  let rival := (Sample.belated.store.get? (.plain "first")).getD default
  have rivals : ∃ rival, Sample.belated.store.get? rival.id = some rival ∧
      rival.isRivalOf Sample.latecomer = true :=
    ⟨rival, by decide +kernel, by decide +kernel⟩
  obtain ⟨answered, plane, -⟩ := taken_name_is_refused Sample.latecomer_meets (.inr rivals)
  exact ⟨Sample.latecomer_meets, rivals, answered, plane⟩

/-- What a pass leaves that has completed a create. -/
structure Completion (before : World) (record : Record) (after : World) : Prop where
  claimed : ∃ left, before.store.Writes left after.store ∧ left.id = record.id ∧
    left.spec = record.spec ∧ left.generation = record.generation ∧ left.isClaimed = true ∧
    left.metadata.isCreatePending = false ∧ left.status.isReady = true ∧
    left.status.isSynced = true ∧ left.status.observedGeneration = left.generation
  /-- No resource has been made a second time. -/
  names : ∀ kind name, after.plane.Holds kind name ↔ before.plane.Holds kind name
  realized : after.plane.Realizes record
  /-- The owner of a user is told the new secret. -/
  told : record.kind = .user → ∃ user, after.plane.users.get? record.targetName = some user ∧
    user.secret = before.secrets.draw.1 ∧
    after.store.details.get? record.id =
      some (Table.ofList [("username", record.targetName), ("password", user.secret)])

/-- If the resource is a user, it has been given the next secret, which is to be handed over. -/
def DrawsSecret (before : World) (record : Record) (creation : Creation) (after : World) : Prop :=
  record.kind = .user → creation = User.creationOf record.targetName before.secrets.draw.1 ∧
    ∃ user, after.plane.users.get? record.targetName = some user ∧
      user.secret = before.secrets.draw.1

/-- To go on with a create draws a secret for a user only. -/
theorem resumeCreate_draws (calm : world.plane.IsCalm) :
    Ends ((engine.clientOf record.kind).resumeCreate record) world
      (fun creation later => DrawsSecret world record creation later)
      (fun _ _ => True) := by
  unfold DrawsSecret
  rw [Record.kind]
  cases asked : record.spec with
  | user spec =>
      apply User.register_ends calm engine.binding asked
      · intro policies mutations _ _ _ _
        exact ⟨rfl, _, Plane.get?_withUser, rfl⟩
      · intro missing lacking
        trivial
  | _ =>
      apply (ends_answer _ _).mono
      · intro creation later _ user
        cases user
      · intro error later _
        trivial

/-- What the resource of a record needs is there when the resource is. -/
theorem Meets.permits (meets : engine.Meets world record)
    (readable : record.HasReadablePolicies)
    (known : ∀ spec, record.spec = .user spec → User.Known world.plane spec.policies) :
    world.plane.Permits record := by
  obtain ⟨observed, sight⟩ := meets.sight
  have named := meets.named
  unfold Plane.Permits
  unfold Plane.sight at sight
  unfold Record.HasReadablePolicies at readable
  rw [Record.kind] at sight named
  cases asked : record.spec with
  | bucket spec =>
      rw [asked] at sight
      exact Bucket.accessible_of_seen sight
  | user spec => exact known spec asked
  | policy spec =>
      rw [asked] at readable
      exact Policy.exists_asks asked meets.ready.valid readable
  | serviceAccount spec =>
      rw [asked] at named
      exact absurd rfl named

/-- A record that takes the lock waits for no create any more. -/
theorem isCreatePending_claimedBy (creation : Creation) :
    (record.claimedBy creation).metadata.isCreatePending = false := by
  unfold Record.claimedBy claimedMetadata
  cases creation.externalName with
  | none => exact Metadata.isCreatePending_claim _
  | some name => exact Metadata.isCreatePending_claim _

/-- A claim of what has been provided completes the create. -/
theorem commit_completes {creation : Creation} {middle : World} (calm : world.plane.IsCalm)
    (store : middle.store = world.store)
    (stored : world.store.get? record.id = some record) (sound : record.HasSoundPolicies)
    (there : world.plane.Holds record.kind record.targetName)
    (provided : world.plane.Provides record creation middle.plane)
    (drawn : DrawsSecret world record creation middle) :
    Ends (commit (engine.clientOf record.kind) record creation) middle
      (fun outcome later => outcome = .created ∧ Completion world record later)
      (fun _ _ => False) := by
  have still : middle.plane.IsCalm := calm.of_faults provided.faults
  have kept : middle.store.get? record.id = some record := by rwa [store]
  have publishes : Ends (commit (engine.clientOf record.kind) record creation) middle
      (fun _ later => record.kind = .user →
        later.store.details.get? record.id = some creation.details) (fun _ _ => True) := by
    by_cases user : record.kind = .user
    · obtain ⟨rfl, -⟩ := drawn user
      exact (commit_tells kept (Table.insert_ne_empty _ _ _)).mono (fun _ _ found _ => found)
        fun _ _ _ => trivial
    · exact (ends_answer _ _).mono (fun _ _ _ held => absurd held user) fun _ _ _ => trivial
  apply ((commit_effect still kept creation).and publishes).mono
  · rintro outcome later ⟨⟨created, plane, ready, synced, last, wrote⟩, published⟩
    obtain ⟨observed, drifts, sight, -⟩ :=
      @mendable_of_provides engine _ _ _ _ calm sound provided
    rw [store, sight] at wrote
    refine ⟨created, ⟨_, wrote, rfl, rfl, rfl, isClaimed_claimedBy creation, ?_, ?_, ?_, rfl⟩,
      ?_, ?_, ?_⟩
    · exact isCreatePending_claimedBy creation
    · exact Record.isReady_succeeded _ observed ready synced last
    · exact Record.isSynced_succeeded _ ready synced last (some observed)
    · rw [plane]
      exact provided.holds_iff there
    · rw [plane]
      exact provided.realizes
    · intro user
      obtain ⟨rfl, added, present, secret⟩ := drawn user
      rw [plane]
      refine ⟨added, present, secret, ?_⟩
      rw [secret]
      exact published user
  · rintro error later ⟨never, -⟩
    exact never

/-- A pass over a record whose create was cut short completes it. -/
theorem Meets.completes (meets : engine.Meets world record)
    (pending : record.metadata.isCreatePending = true)
    (alone : ∀ other, world.store.get? other.id = some other → other.isRivalOf record = false)
    (readable : record.HasReadablePolicies)
    (known : ∀ spec, record.spec = .user spec → User.Known world.plane spec.policies) :
    Ends (engine.pass record.id) world
      (fun outcome later => outcome = .created ∧ Completion world record later)
      (fun _ _ => False) := by
  obtain ⟨observed, sight⟩ := meets.sight
  rw [ends_pass meets.stored, ends_advance_of_ready meets.ready]
  apply drive_ends meets.ready meets.calm
  · intro absent
    cases sight.symm.trans absent
  · intro _ _ _ _
    have none : world.store.list.any (·.isRivalOf record) = false := by
      simpa [List.any_eq_false, world.store.mem_list_iff] using alone
    simp only [resume, hasRival, ends_bind, ends_listRecords, ends_pure, none, Bool.false_eq_true,
      if_false]
    have succeeds : Ends ((engine.clientOf record.kind).resumeCreate record) world
        (fun _ _ => True) (fun _ _ => False) :=
      resumeCreate_succeeds meets.calm (meets.permits readable known) meets.named sight
    apply (((resumeCreate_effect meets.calm sight).and succeeds).and
      (resumeCreate_draws meets.calm)).mono
    · rintro creation middle ⟨⟨⟨provided, plane, secrets, rfl⟩, -⟩, drawn⟩
      have completes : Ends (commit (engine.clientOf record.kind) record creation)
          { world with plane, secrets }
          (fun outcome later => outcome = .created ∧ Completion world record later)
          (fun _ _ => False) :=
        commit_completes meets.calm rfl meets.stored readable.sound meets.there provided drawn
      exact completes.mono (fun _ _ ended => ended) fun _ _ never => never.elim
    · rintro error _ ⟨⟨-, never⟩, -⟩
      exact never.elim
  · intro _ _ claimed
    cases meets.unclaimed.symm.trans claimed
  · intro _ _ _ claimed
    cases meets.unclaimed.symm.trans claimed
  · intro error blocked
    simp [sight, Except.bind, Client.regard, meets.unclaimed, pending] at blocked

/-- A create that was cut short is completed, however its resource was left. The pass answers that
it has created, and leaves the resource and its record as a create that was not cut short. -/
theorem cut_create_is_completed (meets : engine.Meets world record)
    (pending : record.metadata.isCreatePending = true)
    (alone : ∀ other, world.store.get? other.id = some other → other.isRivalOf record = false)
    (readable : record.HasReadablePolicies)
    (known : ∀ spec, record.spec = .user spec → User.Known world.plane spec.policies) :
    (engine.reconcile record.id false).answer world = .ok .created ∧
      Completion world record ((engine.reconcile record.id false).after world) := by
  obtain ⟨outcome, answered, rfl, completed⟩ :=
    (meets.completes pending alone readable known).exists_ok
  exact ⟨answered, completed⟩

end Engine

namespace Sample

/-- An engine that attaches and detaches policies one by one. -/
def attaching : Engine :=
  { engine with binding := .attach }

/-- A record for the user "alice" whose create was cut short. -/
def applicant : Record :=
  { customer "first" "alice" ["reading"] with metadata := Metadata.markCreatePending ∅ }

/-- The user is there, but holds another policy and a secret that nobody knows. -/
def halfHired : World where
  store := untold.store.put applicant
  plane :=
    { users := .ofList [("alice", { policies := ["writing"], secret := "lost" })]
      policies := .ofList [("reading", "\x7b\x7d"), ("writing", "\x7b\x7d")] }
  clock := .constant default
  secrets := .constant "found"

/-- The applicant finds a user under its name. -/
theorem applicant_meets : attaching.Meets halfHired applicant where
  calm := by decide +kernel
  stored := by decide +kernel
  ready := ⟨rfl, rfl, connect_binding .attach rfl⟩
  unclaimed := by decide +kernel
  there := by
    change halfHired.plane.users.contains "alice" = true
    decide +kernel
  probed := Engine.probed_of_no_faults (by decide +kernel)

end Sample

namespace Engine

/-- A user who was left with another policy gets the declared one and a secret that is told. -/
theorem cut_create_is_completed_of_applicant :
    Sample.attaching.Meets Sample.halfHired Sample.applicant ∧
      (Sample.attaching.reconcile Sample.applicant.id false).answer Sample.halfHired =
        .ok .created ∧
      Completion Sample.halfHired Sample.applicant
        ((Sample.attaching.reconcile Sample.applicant.id false).after Sample.halfHired) := by
  have only : ∀ other ∈ Sample.halfHired.store.list, other.isRivalOf Sample.applicant = false := by
    decide +kernel
  have known : User.Known Sample.halfHired.plane ["reading"] := by
    intro policy member
    cases List.mem_singleton.1 member
    decide +kernel
  refine ⟨Sample.applicant_meets, cut_create_is_completed Sample.applicant_meets ?_ ?_ ?_ ?_⟩
  · decide +kernel
  · exact fun other stored => only other (Sample.halfHired.store.mem_list_iff.2 stored)
  · trivial
  · intro spec asked
    cases asked
    exact known

end Engine

end Steward
