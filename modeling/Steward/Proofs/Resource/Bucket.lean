/-
This file says what the work on a bucket does in a calm world.
-/

import Steward.Proofs.Calm
import Steward.Proofs.Drift
import Steward.Resource.Bucket

namespace Steward.Bucket

open Pass

variable {world : World}

/-- What a probe shows of a bucket. -/
def shown (name : String) (bucket : Bucket) : Observed where
  bucketName := some name
  policy := bucket.policy

/-- What a probe shows under the name of a bucket. -/
def seenOf (plane : Plane) (name : String) : Except PassError (Option Observed) :=
  match plane.accessError? name with
  | some error => .error (.ofRemote "bucket exists" name error)
  | none => .ok ((plane.buckets.get? name).map (shown name))

/-- To look at a bucket only reads. -/
theorem only_probe (record : Record) : Only Request.Reads (probe record) := by
  unfold probe
  apply (only_perform (Request.reads_of_reading rfl)).bind
  intro present
  split
  · exact only_pure _
  · apply (only_call (Request.reads_of_reading rfl)).bind
    intro answer
    exact (only_found answer).bind fun _ => only_pure _

/-- In a calm world, a look at a bucket shows what is there. -/
theorem answer_probe (calm : world.plane.IsCalm) (record : Record) :
    (probe record).answer world = seenOf world.plane record.targetName := by
  apply Ends.answer_eq
  simp only [probe, seenOf, ends_bind]
  rw [calm.ends_inspect _ _ rfl]
  cases accessible : world.plane.accessError? record.targetName with
  | some error => simp [Plane.respond, accessible]
  | none =>
      cases found : world.plane.buckets.get? record.targetName with
      | none => simp [Plane.respond, accessible, Table.contains, found]
      | some bucket =>
          simp only [Plane.respond, accessible, Table.contains, found, Option.isSome_some,
            not_true_eq_false, if_false, ends_bind]
          rw [calm.ends_look rfl]
          simp [Plane.respond, Plane.bucketPolicy, accessible, found, Pass.found, shown]

/-- A bucket can be looked at only where access to it is granted. -/
theorem accessible_of_seen {plane : Plane} {name : String} {seen : Option Observed}
    (sight : seenOf plane name = .ok seen) : plane.accessError? name = none := by
  unfold seenOf at sight
  cases accessible : plane.accessError? name with
  | none => rfl
  | some error => simp [accessible] at sight

theorem absent_of_seen {plane : Plane} {name : String} (sight : seenOf plane name = .ok none) :
    plane.buckets.get? name = none := by
  have accessible := accessible_of_seen sight
  simpa [seenOf, accessible] using sight

/-- A bucket that is seen is there as it is shown. -/
theorem present_of_seen {plane : Plane} {name : String} {observed : Observed}
    (sight : seenOf plane name = .ok (some observed)) :
    ∃ bucket, plane.buckets.get? name = some bucket ∧ observed = shown name bucket := by
  have accessible := accessible_of_seen sight
  simp only [seenOf, accessible, Except.ok.injEq, Option.map_eq_some_iff] at sight
  obtain ⟨bucket, present, seen⟩ := sight
  exact ⟨bucket, present, seen.symm⟩

section Work

variable {record : Record} {spec : BucketSpec} {bad : PassError → World → Prop}

theorem specOf_eq (asked : record.spec = .bucket spec) : specOf record = .ok spec := by
  rw [specOf, asked]

/-- A bucket is compared by its policy alone. -/
theorem diff_eq (asked : record.spec = .bucket spec) (observed : Observed) :
    diff record observed =
      (Drift.ofPolicy .policy spec.policy observed.policy).map Option.toList := by
  simp only [diff, specOf_eq asked, bind, Except.bind]
  cases Drift.ofPolicy .policy spec.policy observed.policy
  · rfl
  · rfl

/-- A bucket that differs does so in its policy. -/
theorem flags_of_diff (asked : record.spec = .bucket spec) {observed : Observed}
    {drifts : List Drift} (differs : diff record observed = .ok drifts) (drifted : drifts ≠ []) :
    Drift.flags drifts .policy = true := by
  rw [diff_eq asked] at differs
  exact Drift.flags_of_ofPolicy differs drifted

/-- What the owner of a new bucket is told. -/
def creationOf (name : String) (spec : BucketSpec) : Creation where
  details := Table.ofList [("bucket", name), ("region", spec.regionOrDefault)]

/-- To configure a bucket that can be reached sets the desired policy, if it is not blank. -/
theorem configure_ends (calm : world.plane.IsCalm) {name : String} {bucket : Bucket}
    (accessible : world.plane.accessError? name = none)
    (present : world.plane.buckets.get? name = some bucket) {good : Creation → World → Prop}
    (configured : ∀ mutations,
      good (creationOf name spec)
        { world with
          plane := world.plane.withBucket name
            { bucket with policy := (Drift.nonBlank spec.policy).or bucket.policy } mutations }) :
    Ends (configure name spec) world good bad := by
  unfold configure
  cases kept : Drift.nonBlank spec.policy with
  | none =>
      have same := configured world.plane.mutations
      rw [kept] at same
      simp only [Plane.withBucket, Option.none_or, Table.insert_of_get? present] at same
      exact same
  | some policy =>
      have visible := Drift.ne_empty_of_nonBlank kept
      have set := configured (world.plane.mutations + 1)
      rw [kept] at set
      simp only [ends_bind, calm.ends_perform, Plane.respond, Plane.setBucketPolicy,
        Plane.accessError?_counted, accessible, Plane.counted_buckets, present, if_neg visible]
      exact set

/-- A bucket that cannot be reached is not told to exist. -/
theorem isAlreadyExists_of_accessError {plane : Plane} {bucket : String} {error : RemoteError}
    (unreachable : plane.accessError? bucket = some error) (operation resource : String) :
    (PassError.ofRemote operation resource error).isAlreadyExists = false := by
  unfold Plane.accessError? at unreachable
  split at unreachable
  · cases unreachable
    rfl
  · obtain ⟨region, -, rfl⟩ := Option.map_eq_some_iff.1 unreachable
    rfl

/-- A bucket is made, with its policy, unless there is one or it cannot be reached. -/
theorem create_ends (calm : world.plane.IsCalm) (asked : record.spec = .bucket spec)
    {good : Creation → World → Prop}
    (made : ∀ mutations, world.plane.accessError? record.targetName = none →
      world.plane.buckets.get? record.targetName = none →
      good (creationOf record.targetName spec)
        { world with
          plane := world.plane.withBucket record.targetName
            { region := spec.regionOrDefault, policy := Drift.nonBlank spec.policy } mutations })
    (failed : ∀ error mutations,
      (world.plane.accessError? record.targetName = none →
        world.plane.buckets.contains record.targetName) →
      (error.isAlreadyExists → world.plane.buckets.contains record.targetName) →
      bad error { world with plane := { world.plane with mutations } }) :
    Ends (create record) world good bad := by
  simp only [create, specOf_eq asked, ends_bind, ends_lift, calm.ends_perform, Plane.respond,
    Plane.makeBucket, Plane.accessError?_counted, Plane.counted_buckets]
  cases accessible : world.plane.accessError? record.targetName with
  | some error =>
      apply failed _ _
      · intro reached
        cases accessible.symm.trans reached
      · intro collided
        rw [isAlreadyExists_of_accessError accessible] at collided
        cases collided
  | none =>
      cases found : world.plane.buckets.get? record.targetName with
      | some bucket =>
          have occupied : world.plane.buckets.contains record.targetName = true := by
            rw [Table.contains, found]
            rfl
          simp only [occupied, if_true]
          exact failed _ _ (fun _ => occupied) fun _ => occupied
      | none =>
          simp only [Table.contains, found, Option.isSome_none, Bool.false_eq_true, if_false]
          refine configure_ends ?_ ?_ ((Table.get?_insert _ _ _ _).trans (if_pos rfl)) ?_
          · exact calm
          · exact accessible
          · intro mutations
            have whole := made mutations accessible found
            simpa [Plane.withBucket, Plane.putBucket, Table.insert_insert] using whole

/-- A create that finds its bucket, where access to it is granted, configures it and does not
fail. -/
theorem resumeCreate_ends (calm : world.plane.IsCalm) (asked : record.spec = .bucket spec)
    {bucket : Bucket} (accessible : world.plane.accessError? record.targetName = none)
    (present : world.plane.buckets.get? record.targetName = some bucket)
    {good : Creation → World → Prop}
    (configured : ∀ mutations,
      good (creationOf record.targetName spec)
        { world with
          plane := world.plane.withBucket record.targetName
            { bucket with policy := (Drift.nonBlank spec.policy).or bucket.policy } mutations }) :
    Ends (resumeCreate record) world good bad := by
  simp only [resumeCreate, specOf_eq asked, ends_bind, ends_lift]
  exact configure_ends calm accessible present configured

/-- Where the policy differs, the desired one is set; an empty one is taken away. -/
theorem update_ends (calm : world.plane.IsCalm) (asked : record.spec = .bucket spec)
    {bucket : Bucket} (accessible : world.plane.accessError? record.targetName = none)
    (present : world.plane.buckets.get? record.targetName = some bucket) {drifts : List Drift}
    (flagged : Drift.flags drifts .policy = true) {good : Unit → World → Prop}
    (set : ∀ mutations,
      good () { world with
        plane := world.plane.withBucket record.targetName
          { bucket with policy := spec.policy.filter (· ≠ "") } mutations }) :
    Ends (update record drifts) world good bad := by
  have same : (if spec.policy.getD "" = "" then none else some (spec.policy.getD "")) =
      spec.policy.filter (· ≠ "") := by
    cases spec.policy with
    | none => rfl
    | some document =>
        by_cases empty : document = ""
        · simp [empty, Option.filter]
        · simp [empty, Option.filter]
  simp only [update, specOf_eq asked, ends_bind, ends_lift, flagged, if_true, calm.ends_perform,
    Plane.respond, Plane.setBucketPolicy, Plane.accessError?_counted, accessible,
    Plane.counted_buckets, present, same]
  exact set (world.plane.mutations + 1)

end Work

end Steward.Bucket
