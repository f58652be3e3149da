/-
This file says what a pass can make of the remote side by its calls for one record.
A create, or the end of one that was cut short, provides the resource; an update amends it. When
either fails, no more than the count of calls has changed.
-/

import Steward.Proofs.Sight

namespace Steward

open Pass

variable {world : World} {record : Record}

/-- The world with another remote side that only counts more calls. -/
def World.counting (world : World) (mutations : Nat) : World :=
  { world with plane := { world.plane with mutations } }

/-- The bucket that a record is provided with, new or as it was left. -/
def Bucket.provided (spec : BucketSpec) : Option Bucket → Bucket
  | none => { region := spec.regionOrDefault, policy := Drift.nonBlank spec.policy }
  | some bucket => { bucket with policy := (Drift.nonBlank spec.policy).or bucket.policy }

/-- A bucket is provided with the desired policy if that is not blank. -/
theorem Bucket.nonBlank_provided {spec : BucketSpec} {policy : String}
    (desired : Drift.nonBlank spec.policy = some policy) {existing : Option Bucket} :
    Drift.nonBlank (Bucket.provided spec existing).policy = Drift.nonBlank spec.policy := by
  have whole := Drift.nonBlank_nonBlank spec.policy
  cases existing with
  | none => exact whole
  | some bucket =>
      rw [desired] at whole
      simp only [provided, desired, Option.some_or]
      exact whole

namespace Plane

/-- Everything that the resource of a record needs is there. -/
def Permits (plane : Plane) (record : Record) : Prop :=
  match record.spec with
  | .bucket _ => plane.accessError? record.targetName = none
  | .user spec => User.Known plane spec.policies
  | .policy _ => ∃ document, Policy.Asks record document
  | .serviceAccount spec => ServiceAccount.CanMake plane spec

/-- The remote side after the resource of a record has been provided. -/
def Provides (before : Plane) (record : Record) (creation : Creation) (after : Plane) : Prop :=
  match record.spec with
  | .bucket spec =>
      before.accessError? record.targetName = none ∧
        creation = Bucket.creationOf record.targetName spec ∧
        ∃ mutations, after = before.withBucket record.targetName
          (Bucket.provided spec (before.buckets.get? record.targetName)) mutations
  | .user spec =>
      ∃ secret policies mutations,
        creation = User.creationOf record.targetName secret ∧
        (spec.policies = [] →
          policies = ((before.users.get? record.targetName).getD {}).policies) ∧
        (spec.policies ≠ [] → ∀ policy, policy ∈ policies ↔ policy ∈ spec.policies) ∧
        after = before.withUser record.targetName
          { (before.users.get? record.targetName).getD {} with secret, policies } mutations
  | .policy _ =>
      creation = {} ∧
        ∃ document mutations, Policy.Asks record document ∧
          after = before.withPolicy record.targetName document mutations
  | .serviceAccount spec =>
      creation = ServiceAccount.creationOf (ServiceAccount.nextCredentials before) spec ∧
        ∃ mutations, after =
          before.withAccount (ServiceAccount.nextCredentials before).accessKey
            (ServiceAccount.accountOf record spec) (ServiceAccount.nextNumber before) mutations

/-- The remote side after the resource of a record has been amended. -/
def Amends (before : Plane) (record : Record) (drifts : List Drift) (after : Plane) : Prop :=
  match record.spec with
  | .bucket spec =>
      ∃ bucket mutations, before.buckets.get? record.targetName = some bucket ∧
        after = before.withBucket record.targetName
          { bucket with policy := spec.policy.filter (· ≠ "") } mutations
  | .user spec =>
      ∃ user policies mutations, before.users.get? record.targetName = some user ∧
        (∀ policy, policy ∈ policies ↔ policy ∈ spec.policies) ∧
        after = before.withUser record.targetName { user with policies } mutations
  | .policy _ =>
      ∃ document mutations, Policy.Asks record document ∧
        after = before.withPolicy record.targetName document mutations
  | .serviceAccount spec =>
      ∃ accessKey account mutations, record.metadata.externalName = some accessKey ∧
        before.accounts.get? accessKey = some account ∧
        Drift.flags drifts .parentUser = false ∧
        after = before.withAccount accessKey (ServiceAccount.revised spec drifts account)
          before.lastKey mutations

variable {before after : Plane}

/-- What provides a resource leaves the faults that wait. -/
theorem Provides.faults {creation : Creation} (provided : before.Provides record creation after) :
    after.faults = before.faults := by
  unfold Provides at provided
  split at provided
  · obtain ⟨-, -, mutations, rfl⟩ := provided
    rfl
  · obtain ⟨secret, policies, mutations, -, -, -, rfl⟩ := provided
    rfl
  · obtain ⟨-, document, mutations, -, rfl⟩ := provided
    rfl
  · obtain ⟨-, mutations, rfl⟩ := provided
    rfl

/-- What amends a resource leaves the faults that wait. -/
theorem Amends.faults {drifts : List Drift} (amended : before.Amends record drifts after) :
    after.faults = before.faults := by
  unfold Amends at amended
  split at amended
  · obtain ⟨bucket, mutations, -, rfl⟩ := amended
    rfl
  · obtain ⟨user, policies, mutations, -, -, rfl⟩ := amended
    rfl
  · obtain ⟨document, mutations, -, rfl⟩ := amended
    rfl
  · obtain ⟨accessKey, account, mutations, -, -, -, rfl⟩ := amended
    rfl

end Plane

namespace Engine

variable {engine : Engine}

/-- A create provides the resource if that is permitted, and otherwise leaves things as they
are. -/
theorem create_effect (calm : world.plane.IsCalm) :
    Ends ((engine.clientOf record.kind).create record) world
      (fun creation later => world.plane.Permits record ∧
        world.plane.Provides record creation later.plane ∧
        ∃ plane secrets, later = { world with plane, secrets })
      (fun error later => (∃ mutations, later = world.counting mutations) ∧
        (world.plane.sight record = .ok none →
          ¬ world.plane.Permits record ∧ error.isAlreadyExists = false)) := by
  unfold Plane.Permits Plane.Provides Plane.sight
  rw [Record.kind]
  cases asked : record.spec with
  | bucket spec =>
      apply Bucket.create_ends calm asked
      · intro mutations accessible absent
        refine ⟨accessible, ⟨accessible, rfl, mutations, ?_⟩, _, _, rfl⟩
        rw [absent]
        rfl
      · intro error mutations occupied collides
        refine ⟨⟨mutations, rfl⟩, fun sight => ?_⟩
        have present := occupied (Bucket.accessible_of_seen sight)
        rw [Table.contains, Bucket.absent_of_seen sight] at present
        cases present
  | user spec =>
      apply User.register_ends calm engine.binding asked
      · intro policies mutations known kept same
        exact ⟨known, ⟨_, policies, mutations, rfl, kept, same, rfl⟩, _, _, rfl⟩
      · intro missing lacking
        exact ⟨⟨world.plane.mutations, rfl⟩, fun _ => ⟨lacking, rfl⟩⟩
  | policy spec =>
      apply Policy.create_ends calm
      · intro document mutations asks
        exact ⟨⟨document, asks⟩, ⟨rfl, document, mutations, asks, rfl⟩, _, _, rfl⟩
      · intro error lacking apart
        refine ⟨⟨world.plane.mutations, rfl⟩, fun _ => ⟨?_, apart⟩⟩
        rintro ⟨document, asks⟩
        exact lacking document asks
  | serviceAccount spec =>
      apply ServiceAccount.create_ends calm asked
      · intro mutations can
        exact ⟨can, ⟨rfl, mutations, rfl⟩, _, _, rfl⟩
      · intro error mutations cannot apart
        exact ⟨⟨mutations, rfl⟩, fun _ => ⟨cannot, apart⟩⟩

/-- To end a create that was cut short provides the resource too. -/
theorem resumeCreate_effect (calm : world.plane.IsCalm) {observed : Observed}
    (sight : world.plane.sight record = .ok (some observed)) :
    Ends ((engine.clientOf record.kind).resumeCreate record) world
      (fun creation later => world.plane.Provides record creation later.plane ∧
        ∃ plane secrets, later = { world with plane, secrets })
      (fun _ later => ∃ mutations, later = world.counting mutations) := by
  unfold Plane.sight at sight
  unfold Plane.Provides
  rw [Record.kind] at sight ⊢
  cases asked : record.spec with
  | bucket spec =>
      rw [asked] at sight
      obtain ⟨bucket, present, -⟩ := Bucket.present_of_seen sight
      have accessible := Bucket.accessible_of_seen sight
      apply Bucket.resumeCreate_ends calm asked accessible present
      intro mutations
      refine ⟨⟨accessible, rfl, mutations, ?_⟩, _, _, rfl⟩
      rw [present]
      rfl
  | user spec =>
      apply User.register_ends calm engine.binding asked
      · intro policies mutations known kept same
        exact ⟨⟨_, policies, mutations, rfl, kept, same, rfl⟩, _, _, rfl⟩
      · intro missing lacking
        exact ⟨world.plane.mutations, rfl⟩
  | policy spec =>
      apply Policy.create_ends calm
      · intro document mutations asks
        exact ⟨⟨rfl, document, mutations, asks, rfl⟩, _, _, rfl⟩
      · intro error lacking apart
        exact ⟨world.plane.mutations, rfl⟩
  | serviceAccount spec => exact ⟨world.plane.mutations, rfl⟩

/-- An update amends the resource. -/
theorem update_effect (calm : world.plane.IsCalm) {observed : Observed} {drifts : List Drift}
    (sight : world.plane.sight record = .ok (some observed))
    (differs : (engine.clientOf record.kind).diff record observed = .ok drifts)
    (drifted : drifts ≠ []) :
    Ends ((engine.clientOf record.kind).update record drifts) world
      (fun _ later => world.plane.Amends record drifts later.plane ∧
        ∃ plane, later = { world with plane })
      (fun _ later => ∃ mutations, later = world.counting mutations) := by
  unfold Plane.sight at sight
  unfold Plane.Amends
  rw [Record.kind] at sight differs ⊢
  cases asked : record.spec with
  | bucket spec =>
      rw [asked] at sight differs
      obtain ⟨bucket, present, -⟩ := Bucket.present_of_seen sight
      refine Bucket.update_ends calm asked (Bucket.accessible_of_seen sight) present
        (Bucket.flags_of_diff asked differs drifted) fun mutations => ?_
      exact ⟨⟨bucket, mutations, present, rfl⟩, _, rfl⟩
  | user spec =>
      rw [asked] at sight differs
      obtain ⟨user, present, -⟩ := User.present_of_seen (Except.ok.inj sight)
      refine User.update_ends calm engine.binding asked present
        (User.flags_of_diff asked differs drifted) ?_ ?_
      · intro policies mutations known same
        exact ⟨⟨user, policies, mutations, present, same, rfl⟩, _, rfl⟩
      · intro missing lacking
        exact ⟨world.plane.mutations, rfl⟩
  | policy spec =>
      apply Policy.update_ends calm drifted
      · intro document mutations asks
        exact ⟨⟨document, mutations, asks, rfl⟩, _, rfl⟩
      · intro error mutations lacking
        exact ⟨mutations, rfl⟩
  | serviceAccount spec =>
      rw [asked] at sight
      obtain ⟨accessKey, account, named, present, -⟩ :=
        ServiceAccount.present_of_seen (Except.ok.inj sight)
      apply ServiceAccount.update_ends calm asked named present
      · intro mutations alike
        exact ⟨⟨accessKey, account, mutations, named, present, alike, rfl⟩, _, rfl⟩
      · intro flagged
        exact ⟨world.plane.mutations, rfl⟩

end Engine

end Steward
