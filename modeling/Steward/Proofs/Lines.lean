/-
This file shows that what a pass makes of the remote side is what its record asks for.
A resource that was provided needs one more update at most, and one that was amended none.
-/

import Steward.Engine.Reconcile
import Steward.Proofs.Effects

namespace Steward

open Pass

/-- The policy documents that a record asks for are absent, blank or JSON. -/
def Record.HasSoundPolicies (record : Record) : Prop :=
  match record.spec with
  | .bucket spec => Drift.IsSound spec.policy
  | .user _ => True
  | .policy spec => Drift.IsSound spec.rawPolicy
  | .serviceAccount spec => Drift.IsSound spec.policy

/-- The record with the markers of a create that has succeeded. -/
def Record.claimedBy (record : Record) (creation : Creation) : Record :=
  { record with metadata := Engine.claimedMetadata record creation }

namespace Engine

variable {engine : Engine} {plane before after : Plane} {record : Record}

/-- The remote side shows the resource of a record as the record asks for it. -/
def InLine (engine : Engine) (plane : Plane) (record : Record) : Prop :=
  ∃ observed, plane.sight record = .ok (some observed) ∧
    (engine.clientOf record.kind).diff record observed = .ok []

/-- The remote side shows the resource of a record, with differences at most that an update
takes away for sure. -/
def Mendable (engine : Engine) (plane : Plane) (record : Record) : Prop :=
  ∃ observed drifts, plane.sight record = .ok (some observed) ∧
    (engine.clientOf record.kind).diff record observed = .ok drifts ∧
    ∀ world : World, world.plane = plane → drifts ≠ [] →
      Ends ((engine.clientOf record.kind).update record drifts) world (fun _ _ => True)
        fun _ _ => False

theorem InLine.mendable (line : engine.InLine plane record) : engine.Mendable plane record := by
  obtain ⟨observed, sight, same⟩ := line
  exact ⟨observed, [], sight, same, fun _ _ drifted => absurd rfl drifted⟩

/-- A bucket to which access is granted shows itself under the name of its record. -/
theorem bucket_sight {spec : BucketSpec} (asked : record.spec = .bucket spec) {bucket : Bucket}
    (accessible : plane.accessError? record.targetName = none)
    (present : plane.buckets.get? record.targetName = some bucket) :
    plane.sight record = .ok (some (Bucket.shown record.targetName bucket)) := by
  simp only [Plane.sight, Record.kind, asked, Spec.kind, Bucket.seenOf, accessible, present]
  rfl

/-- A bucket is in line when its policy is the desired one, but for blanks. -/
theorem inLine_of_bucket {spec : BucketSpec} (asked : record.spec = .bucket spec) {bucket : Bucket}
    (accessible : plane.accessError? record.targetName = none)
    (present : plane.buckets.get? record.targetName = some bucket)
    (sound : Drift.IsSound spec.policy)
    (same : Drift.nonBlank bucket.policy = Drift.nonBlank spec.policy) :
    engine.InLine plane record := by
  refine ⟨_, bucket_sight asked accessible present, ?_⟩
  have alike : Drift.ofPolicy .policy spec.policy bucket.policy = .ok none :=
    Drift.ofPolicy_of_same sound same
  simp only [Record.kind, asked, Spec.kind, clientOf, Bucket.client, Bucket.diff_eq asked,
    Bucket.shown, alike]
  rfl

/-- A user who is there shows under the name of the record. -/
theorem user_sight {spec : UserSpec} (asked : record.spec = .user spec) {user : User}
    (present : plane.users.get? record.targetName = some user) :
    plane.sight record = .ok (some (User.shown record.targetName user)) := by
  simp only [Plane.sight, Record.kind, asked, Spec.kind, User.seenOf, present]
  rfl

/-- A user is in line who holds the desired policies and no other. -/
theorem inLine_of_user {spec : UserSpec} (asked : record.spec = .user spec) {user : User}
    (present : plane.users.get? record.targetName = some user)
    (same : ∀ policy, policy ∈ user.policies ↔ policy ∈ spec.policies) :
    engine.InLine plane record := by
  refine ⟨_, user_sight asked present, ?_⟩
  have alike : Drift.ofSets .policies spec.policies (User.ascending user.policies) = none :=
    Drift.ofSets_of_same fun policy => by rw [User.mem_ascending, same]
  simp only [Record.kind, asked, Spec.kind, clientOf, User.client, User.diff_eq asked,
    User.shown, alike]
  rfl

/-- An access policy is in line that holds the document asked for. -/
theorem inLine_of_policy {spec : PolicySpec} (asked : record.spec = .policy spec)
    {document : String} (asks : Policy.Asks record document)
    (present : plane.policies.get? record.targetName = some document) :
    engine.InLine plane record := by
  obtain ⟨desired, value, read⟩ := asks
  refine ⟨Policy.shown record.targetName document, ?_, ?_⟩
  · simp only [Plane.sight, Record.kind, asked, Spec.kind, Policy.seenOf, present]
    rfl
  · have alike : Drift.ofPolicy .policy (some document) (some document) = .ok none :=
      Drift.ofPolicy_of_same (Drift.isSound_of_read read) rfl
    simp only [Record.kind, asked, Spec.kind, clientOf, Policy.client, Policy.diff, desired,
      Policy.shown, alike, bind, Except.bind]
    rfl

/-- A service account is in line in which no setting differs. -/
theorem inLine_of_account {spec : ServiceAccountSpec} (asked : record.spec = .serviceAccount spec)
    {accessKey : String} {account : ServiceAccount}
    (named : record.metadata.externalName = some accessKey)
    (present : plane.accounts.get? accessKey = some account)
    (same : ServiceAccount.diff record (ServiceAccount.shown accessKey account) = .ok []) :
    engine.InLine plane record := by
  refine ⟨ServiceAccount.shown accessKey account, ?_, ?_⟩
  · simp only [Plane.sight, Record.kind, asked, Spec.kind, named, Option.bind_some,
      ServiceAccount.seenOf, present]
    rfl
  · rw [Record.kind, asked]
    exact same

/-- A bucket that can be reached and has no desired policy can lose the one it has. -/
theorem mendable_of_bucket {spec : BucketSpec} (asked : record.spec = .bucket spec)
    {bucket : Bucket} (calm : plane.IsCalm)
    (accessible : plane.accessError? record.targetName = none)
    (present : plane.buckets.get? record.targetName = some bucket)
    (blank : Drift.nonBlank spec.policy = none) : engine.Mendable plane record := by
  have kind : record.kind = .bucket := congrArg Spec.kind asked
  obtain ⟨difference, compared⟩ := @Drift.ofPolicy_of_blank .policy spec.policy bucket.policy blank
  have differs : Bucket.diff record (Bucket.shown record.targetName bucket) =
      .ok difference.toList := by
    rw [Bucket.diff_eq asked, Bucket.shown, compared]
    rfl
  refine ⟨_, difference.toList, bucket_sight asked accessible present, ?_, ?_⟩
  · rw [kind]
    exact differs
  · rintro world rfl drifted
    rw [kind]
    exact Bucket.update_ends calm asked accessible present
      (Bucket.flags_of_diff asked differs drifted) fun _ => trivial

/-- A user of whom no policies are desired can lose those that are held. -/
theorem mendable_of_user {spec : UserSpec} (asked : record.spec = .user spec) {user : User}
    (calm : plane.IsCalm) (present : plane.users.get? record.targetName = some user)
    (empty : spec.policies = []) : engine.Mendable plane record := by
  have kind : record.kind = .user := congrArg Spec.kind asked
  have differs := User.diff_eq asked (User.shown record.targetName user)
  let drifts := (Drift.ofSets .policies spec.policies
    (User.shown record.targetName user).policies).toList
  refine ⟨_, drifts, user_sight asked present, ?_, ?_⟩
  · rw [kind]
    exact differs
  · rintro world rfl drifted
    rw [kind]
    refine User.update_ends calm engine.binding asked present
      (User.flags_of_diff asked differs drifted) (fun _ _ _ _ => trivial) ?_
    intro missing lacking
    exact lacking (by simp [User.Known, empty])

/-- The lock is written together with the external name, where one is given. -/
theorem externalName_claimedBy {creation : Creation} {accessKey : String}
    (given : creation.externalName = some accessKey) (nonempty : accessKey ≠ "") :
    (record.claimedBy creation).metadata.externalName = some accessKey := by
  simp only [Record.claimedBy, claimedMetadata, given, Metadata.externalName_claim,
    Metadata.externalName_setExternalName _ nonempty]

/-- A record that takes the lock carries it. -/
theorem isClaimed_claimedBy (creation : Creation) :
    (record.claimedBy creation).isClaimed = true := by
  unfold Record.isClaimed Record.claimedBy claimedMetadata
  cases creation.externalName with
  | none => exact Metadata.isClaimed_claim _
  | some name => exact Metadata.isClaimed_claim _

/-- What was provided shows no difference that the next update could not take away. -/
theorem mendable_of_provides {creation : Creation} (calm : before.IsCalm)
    (sound : record.HasSoundPolicies) (provided : before.Provides record creation after) :
    engine.Mendable after (record.claimedBy creation) := by
  unfold Record.HasSoundPolicies at sound
  unfold Plane.Provides at provided
  cases found : record.spec with
  | bucket spec =>
      have asked : (record.claimedBy creation).spec = .bucket spec := found
      rw [found] at sound provided
      obtain ⟨accessible, -, mutations, rfl⟩ := provided
      cases desired : Drift.nonBlank spec.policy with
      | none => exact mendable_of_bucket asked calm accessible Plane.get?_withBucket desired
      | some policy =>
          refine (inLine_of_bucket asked ?_ Plane.get?_withBucket sound
            (Bucket.nonBlank_provided desired)).mendable
          exact accessible
  | user spec =>
      have asked : (record.claimedBy creation).spec = .user spec := found
      rw [found] at provided
      obtain ⟨secret, policies, mutations, -, -, same, rfl⟩ := provided
      by_cases empty : spec.policies = []
      · exact mendable_of_user asked calm Plane.get?_withUser empty
      · exact (inLine_of_user asked Plane.get?_withUser (same empty)).mendable
  | policy spec =>
      have asked : (record.claimedBy creation).spec = .policy spec := found
      rw [found] at provided
      obtain ⟨-, document, mutations, asks, rfl⟩ := provided
      exact (inLine_of_policy asked asks Plane.get?_withPolicy).mendable
  | serviceAccount spec =>
      have asked : (record.claimedBy creation).spec = .serviceAccount spec := found
      rw [found] at sound provided
      obtain ⟨created, mutations, rfl⟩ := provided
      have named : (record.claimedBy creation).metadata.externalName =
          some (ServiceAccount.nextCredentials before).accessKey :=
        externalName_claimedBy (congrArg Creation.externalName created)
          (ServiceAccount.accessKeyOf_ne_empty _)
      refine (inLine_of_account asked named Plane.get?_withAccount ?_).mendable
      exact ServiceAccount.diff_accountOf asked sound

/-- What was amended shows no difference. -/
theorem inLine_of_amends {observed : Observed} {drifts : List Drift}
    (sound : record.HasSoundPolicies) (sight : before.sight record = .ok (some observed))
    (differs : (engine.clientOf record.kind).diff record observed = .ok drifts)
    (amended : before.Amends record drifts after) : engine.InLine after record := by
  unfold Record.HasSoundPolicies at sound
  unfold Plane.Amends at amended
  unfold Plane.sight at sight
  rw [Record.kind] at sight differs
  cases asked : record.spec with
  | bucket spec =>
      rw [asked] at sound amended sight
      obtain ⟨bucket, mutations, present, rfl⟩ := amended
      have accessible : before.accessError? record.targetName = none :=
        Bucket.accessible_of_seen sight
      refine inLine_of_bucket asked ?_ Plane.get?_withBucket sound
        (Drift.nonBlank_filter_nonempty spec.policy)
      exact accessible
  | user spec =>
      rw [asked] at amended
      obtain ⟨user, policies, mutations, present, same, rfl⟩ := amended
      exact inLine_of_user asked Plane.get?_withUser same
  | policy spec =>
      rw [asked] at amended
      obtain ⟨document, mutations, asks, rfl⟩ := amended
      exact inLine_of_policy asked asks Plane.get?_withPolicy
  | serviceAccount spec =>
      rw [asked] at sound amended sight differs
      obtain ⟨accessKey, account, mutations, named, present, alike, rfl⟩ := amended
      obtain ⟨other, found, same, held, rfl⟩ :=
        ServiceAccount.present_of_seen (Except.ok.inj sight)
      cases same.symm.trans named
      cases held.symm.trans present
      exact inLine_of_account asked named Plane.get?_withAccount
        (ServiceAccount.diff_revised asked differs alike sound)

end Engine

end Steward
