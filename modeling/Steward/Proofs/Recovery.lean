/-
This file shows that a pass ends the create that another one has begun.
If all that the resource of a record needs is there, and what is there already has been made for the
record, the pass serves it: the record carries the lock, and its owner is told what the resource is.
-/

import Steward.Proofs.Conduct
import Steward.Proofs.Settling

namespace Steward

open Pass

/-- A table that something is put into is not empty. -/
theorem Table.insert_ne_empty {κ α : Type} [Ord κ] [Std.TransOrd κ] [Std.LawfulEqOrd κ]
    [DecidableEq κ] (table : Table κ α) (key : κ) (value : α) : table.insert key value ≠ ∅ := by
  intro same
  have found := congrArg (·.get? key) same
  rw [Table.get?_insert, if_pos rfl] at found
  cases found

namespace Plane

/-- What the owner of a record has been told is what the resource of the record is. -/
def Suits (plane : Plane) (record : Record) (details : Details) : Prop :=
  match record.spec with
  | .bucket _ =>
      ∃ bucket, plane.buckets.get? record.targetName = some bucket ∧
        details = Table.ofList [("bucket", record.targetName), ("region", bucket.region)]
  | .user _ =>
      ∃ user, plane.users.get? record.targetName = some user ∧
        details = Table.ofList [("username", record.targetName), ("password", user.secret)]
  | .policy _ => False
  | .serviceAccount _ =>
      ∃ number account, record.metadata.externalName = some (accessKeyOf number) ∧
        plane.accounts.get? (accessKeyOf number) = some account ∧
        details = Table.ofList
          [("accessKey", accessKeyOf number), ("secretKey", secretKeyOf number),
            ("parentUser", account.parentUser)]

variable {before after : Plane} {record : Record}

/-- The region of a bucket that is there is the one that its record asks for. -/
def IsPlaced (plane : Plane) (record : Record) : Prop :=
  match record.spec with
  | .bucket spec => ∀ bucket, plane.buckets.get? record.targetName = some bucket →
      bucket.region = spec.regionOrDefault
  | _ => True

/-- A create gives a bucket the region that its record asks for, if one that was there had it. -/
theorem IsPlaced.region_provided (placed : before.IsPlaced record) {spec : BucketSpec}
    (asked : record.spec = .bucket spec) :
    (Bucket.provided spec (before.buckets.get? record.targetName)).region =
      spec.regionOrDefault := by
  unfold IsPlaced at placed
  rw [asked] at placed
  cases found : before.buckets.get? record.targetName with
  | none => rfl
  | some bucket => exact placed bucket found

/-- What a create hands over suits the resource that it has provided. -/
theorem Provides.suits {creation : Creation} (provided : before.Provides record creation after)
    (placed : before.IsPlaced record) (other : record.kind ≠ .policy) :
    after.Suits (record.claimedBy creation) creation.details ∧ creation.details ≠ ∅ := by
  unfold Provides at provided
  rw [Record.kind] at other
  unfold Suits
  have still : (record.claimedBy creation).spec = record.spec := rfl
  rw [still]
  cases asked : record.spec with
  | bucket spec =>
      rw [asked] at provided
      obtain ⟨-, rfl, mutations, rfl⟩ := provided
      refine ⟨⟨_, get?_withBucket, ?_⟩, Table.insert_ne_empty _ _ _⟩
      rw [placed.region_provided asked]
      rfl
  | user spec =>
      rw [asked] at provided
      obtain ⟨secret, policies, mutations, rfl, -, -, rfl⟩ := provided
      exact ⟨⟨_, get?_withUser, rfl⟩, Table.insert_ne_empty _ _ _⟩
  | policy spec =>
      rw [asked] at other
      exact absurd rfl other
  | serviceAccount spec =>
      rw [asked] at provided
      obtain ⟨rfl, mutations, rfl⟩ := provided
      have named := Metadata.externalName_setExternalName record.metadata
        (ServiceAccount.accessKeyOf_ne_empty (ServiceAccount.nextNumber before))
      refine ⟨⟨ServiceAccount.nextNumber before, _, ?_, get?_withAccount, rfl⟩,
        Table.insert_ne_empty _ _ _⟩
      exact (Metadata.externalName_claim _).trans named

/-- To amend a resource leaves what its owner has been told. -/
theorem Amends.suits {drifts : List Drift} (amended : before.Amends record drifts after)
    {details : Details} (suits : before.Suits record details) : after.Suits record details := by
  unfold Amends at amended
  unfold Suits at suits ⊢
  cases asked : record.spec with
  | bucket spec =>
      rw [asked] at amended suits
      obtain ⟨bucket, mutations, present, rfl⟩ := amended
      obtain ⟨same, found, told⟩ := suits
      cases found.symm.trans present
      exact ⟨_, get?_withBucket, told⟩
  | user spec =>
      rw [asked] at amended suits
      obtain ⟨user, policies, mutations, present, -, rfl⟩ := amended
      obtain ⟨same, found, told⟩ := suits
      cases found.symm.trans present
      exact ⟨_, get?_withUser, told⟩
  | policy spec =>
      rw [asked] at suits
      exact suits.elim
  | serviceAccount spec =>
      rw [asked] at amended suits
      obtain ⟨accessKey, account, mutations, named, present, -, rfl⟩ := amended
      obtain ⟨number, same, given, found, told⟩ := suits
      cases given.symm.trans named
      cases found.symm.trans present
      exact ⟨number, _, given, get?_withAccount, told⟩

/-- A resource that suits what its owner has been told is there. -/
theorem Suits.sight_ne_none {details : Details} (suits : before.Suits record details) :
    before.sight record ≠ .ok none := by
  intro sight
  unfold Suits at suits
  unfold Plane.sight at sight
  rw [Record.kind] at sight
  cases asked : record.spec with
  | bucket spec =>
      rw [asked] at suits sight
      obtain ⟨bucket, present, -⟩ := suits
      cases (Bucket.absent_of_seen sight).symm.trans present
  | user spec =>
      rw [asked] at suits sight
      obtain ⟨user, present, -⟩ := suits
      have seen := Except.ok.inj sight
      rw [User.seenOf, present] at seen
      cases seen
  | policy spec =>
      rw [asked] at suits
      exact suits
  | serviceAccount spec =>
      rw [asked] at suits sight
      obtain ⟨number, account, named, present, -⟩ := suits
      have seen := Except.ok.inj sight
      rw [named, Option.bind_some, ServiceAccount.seenOf, present] at seen
      cases seen

end Plane

namespace Request

/-- A request that tells the owner of no record anything, and erases none. -/
def Withholds : Request → Prop
  | .publish _ _ | .erase _ => False
  | _ => True

variable {request : Request} {world : World} {details : Table RecordId Details}

theorem Reads.withholds (reads : request.Reads) : request.Withholds := by
  cases request with
  | publish _ _ | erase _ => exact reads
  | _ => trivial

theorem IsRemote.withholds (isRemote : request.IsRemote) : request.Withholds := by
  cases request with
  | publish _ _ | erase _ => exact isRemote
  | _ => trivial

/-- A request that tells no owner anything leaves what has been published. -/
theorem Withholds.keeps (withholds : request.Withholds) (same : world.store.details = details) :
    (world.answer request).2.store.details = details := by
  have modified : ∀ id change,
      (world.write (world.store.modify id change)).2.store.details = details := by
    intro id change
    unfold Store.modify
    cases world.store.get? id with
    | none => exact same
    | some record => exact same
  cases request with
  | readRecord _ | listRecords | now | secret | remote _ => exact same
  | putStatus id status => exact modified _ _
  | putMetadata id metadata => exact modified _ _
  | publish _ _ | erase _ => exact withholds.elim

end Request

/-- A pass that withholds leaves what owners have been told. -/
theorem Pass.Only.ends_details {α : Type} {pass : Pass α} (only : Only Request.Withholds pass)
    (world : World) :
    Ends pass world (fun _ later => later.store.details = world.store.details)
      (fun _ later => later.store.details = world.store.details) :=
  only.ends (fun _ _ withholds same => withholds.keeps same) rfl

/-- A record carries the lock, and its owner has been told what its resource is. -/
def World.IsSettled (world : World) (id : RecordId) : Prop :=
  ∃ record details, world.store.get? id = some record ∧ record.isClaimed = true ∧
    world.store.details.get? id = some details ∧ world.plane.Suits record details

namespace Engine

variable {engine : Engine} {world : World} {record : Record}

/-- The record carries the lock, and its owner has been told what its resource is. -/
structure Serves (engine : Engine) (world : World) (record : Record) : Prop where
  calm : world.plane.IsCalm
  stored : world.store.get? record.id = some record
  ready : engine.Ready record
  claimed : record.isClaimed = true
  told : ∃ details, world.store.details.get? record.id = some details ∧
    world.plane.Suits record details

/-- The record of an identity is served, whatever has been written about it. -/
def IsServed (engine : Engine) (id : RecordId) (world : World) : Prop :=
  ∃ current, current.id = id ∧ engine.Serves world current

/-- A record without the lock of which a pass can create the resource, or finish its create. -/
structure Awaits (engine : Engine) (world : World) (record : Record) : Prop where
  calm : world.plane.IsCalm
  stored : world.store.get? record.id = some record
  ready : engine.Ready record
  unclaimed : record.isClaimed = false
  permitted : world.plane.Permits record
  placed : world.plane.IsPlaced record
  other : record.kind ≠ .policy
  /-- What is there has been made for the record. -/
  clear : ∃ seen, world.plane.sight record = .ok seen ∧
    (seen ≠ none → record.kind ≠ .serviceAccount ∧ record.metadata.isCreatePending = true ∧
      ∀ rival, world.store.get? rival.id = some rival → rival.isRivalOf record = false)

/-- To claim a resource tells the owner of its record what the create has produced. -/
theorem commit_tells (stored : world.store.get? record.id = some record) {creation : Creation}
    (something : creation.details ≠ ∅) :
    Ends (commit (engine.clientOf record.kind) record creation) world
      (fun _ later => later.store.details.get? record.id = some creation.details)
      (fun _ _ => True) := by
  have reports : ∀ claimed : Record, Only Request.Withholds (do
      reportSuccess claimed (← glance (engine.clientOf record.kind) claimed)
      return Outcome.created) := by
    intro claimed
    refine Only.bind (only_glance (fun _ => Request.Reads.withholds) engine _ claimed) ?_
    intro seen
    exact Only.bind (only_reportSuccess trivial (fun _ _ => trivial) seen) fun _ => only_pure _
  simp only [commit, ends_bind, ends_putMetadata, stored]
  rw [if_pos something, ends_bind, ends_publish, Store.get?_put, if_pos rfl]
  refine ((reports _).ends_details _).mono ?_ fun _ _ _ => trivial
  intro outcome later same
  rw [same]
  exact (Table.get?_insert _ _ _ _).trans (if_pos rfl)

/-- A claimed record whose owner has been told what suits its resource is served. -/
theorem commit_serves (calm : world.plane.IsCalm)
    (stored : world.store.get? record.id = some record) (ready : engine.Ready record)
    {creation : Creation}
    (suits : world.plane.Suits (record.claimedBy creation) creation.details)
    (something : creation.details ≠ ∅) :
    Ends (commit (engine.clientOf record.kind) record creation) world
      (fun _ => engine.IsServed record.id)
      (fun _ _ => False) := by
  refine ((commit_effect calm stored creation).and (commit_tells stored something)).mono ?_ ?_
  · rintro outcome later ⟨⟨-, same, first, synced, last, wrote⟩, told⟩
    refine ⟨_, ?_, ⟨?_, wrote.get?_self, ?_, ?_, creation.details, told, ?_⟩⟩
    · rfl
    · rwa [same]
    · exact (ready.claimedBy creation).reported _ _ _ _
    · exact isClaimed_claimedBy creation
    · rw [same]
      exact suits
  · rintro error later ⟨never, -⟩
    exact never

/-- A record that is marked for its create is as ready for its passes as before. -/
theorem Ready.pending (ready : engine.Ready record) : engine.Ready record.pending := by
  rcases record.pending_eq with same | marked
  · rwa [same]
  · rw [marked]
    exact ⟨ready.valid, ready.kept, ready.connected⟩

/-- The marker of a create does not bear on the region. -/
theorem isPlaced_pending {plane : Plane} :
    plane.IsPlaced record.pending ↔ plane.IsPlaced record := by
  rcases record.pending_eq with same | marked
  · rw [same]
  · rw [marked]
    rfl

/-- A record whose resource is not there is served by a create. -/
theorem create_serves (awaits : engine.Awaits world record)
    (absent : world.plane.sight record = .ok none) :
    Ends (create (engine.clientOf record.kind) record) world
      (fun _ => engine.IsServed record.id)
      (fun _ _ => False) := by
  rw [create, ends_bind]
  refine (markPending_effect awaits.stored).mono ?_ fun _ _ never => never.elim
  rintro _ _ ⟨rfl, marked, early, rfl⟩
  rw [ends_bind, ends_attempt, ← record.kind_pending]
  refine (create_effect ?_).mono ?_ ?_
  · exact awaits.calm
  · rintro creation _ ⟨-, provided, plane, secrets, rfl⟩
    have calm : plane.IsCalm := awaits.calm.of_faults provided.faults
    obtain ⟨suits, something⟩ := provided.suits (isPlaced_pending.2 awaits.placed)
      (record.kind_pending ▸ awaits.other)
    have serves := @commit_serves engine { world with store := marked, plane, secrets }
      record.pending calm early.get?_self awaits.ready.pending creation suits something
    rwa [record.id_pending] at serves
  · rintro error _ ⟨-, reason⟩
    obtain ⟨lacking, -⟩ := reason (Record.sight_pending.trans absent)
    exact absurd (Record.permits_pending.2 awaits.permitted) lacking

/-- A create that was cut short can be ended if everything that the resource needs is there. -/
theorem resumeCreate_succeeds (calm : world.plane.IsCalm) (permitted : world.plane.Permits record)
    (named : record.kind ≠ .serviceAccount) {observed : Observed}
    (sight : world.plane.sight record = .ok (some observed)) :
    Ends ((engine.clientOf record.kind).resumeCreate record) world (fun _ _ => True)
      (fun _ _ => False) := by
  unfold Plane.sight at sight
  unfold Plane.Permits at permitted
  rw [Record.kind] at sight named ⊢
  cases asked : record.spec with
  | bucket spec =>
      rw [asked] at sight permitted
      obtain ⟨bucket, present, -⟩ := Bucket.present_of_seen sight
      exact Bucket.resumeCreate_ends calm asked permitted present fun _ => trivial
  | user spec =>
      rw [asked] at permitted
      apply User.register_ends calm engine.binding asked
      · intro policies mutations known kept same
        trivial
      · intro missing lacking
        exact lacking permitted
  | policy spec =>
      rw [asked] at permitted
      obtain ⟨document, asks⟩ := permitted
      apply Policy.create_ends calm
      · intro document mutations asks
        trivial
      · intro error lacking apart
        exact lacking document asks
  | serviceAccount spec =>
      rw [asked] at named
      exact named rfl

/-- A record whose create was cut short is served when that is resumed. -/
theorem resume_serves (awaits : engine.Awaits world record) {observed : Observed}
    (sight : world.plane.sight record = .ok (some observed)) :
    Ends (resume (engine.clientOf record.kind) record) world
      (fun _ => engine.IsServed record.id)
      (fun _ _ => False) := by
  obtain ⟨seen, same, own⟩ := awaits.clear
  cases same.symm.trans sight
  obtain ⟨named, -, free⟩ := own nofun
  have none : world.store.list.any (·.isRivalOf record) = false := by
    rw [List.any_eq_false]
    intro other member
    rw [free other (world.store.mem_list_iff.1 member)]
    exact Bool.false_ne_true
  simp only [resume, hasRival, ends_bind, ends_listRecords, ends_pure, none, Bool.false_eq_true,
    if_false]
  have succeeds : Ends ((engine.clientOf record.kind).resumeCreate record) world (fun _ _ => True)
      (fun _ _ => False) := resumeCreate_succeeds awaits.calm awaits.permitted named sight
  refine ((resumeCreate_effect awaits.calm sight).and succeeds).mono ?_ ?_
  · rintro creation _ ⟨⟨provided, plane, secrets, rfl⟩, -⟩
    obtain ⟨suits, something⟩ := provided.suits awaits.placed awaits.other
    refine commit_serves ?_ ?_ awaits.ready suits something
    · exact awaits.calm.of_faults provided.faults
    · exact awaits.stored
  · rintro error _ ⟨-, never⟩
    exact never.elim

/-- What a pass does with a record that awaits it serves the record. -/
theorem Awaits.advance (awaits : engine.Awaits world record) :
    Ends (engine.advance record) world (fun _ => engine.IsServed record.id)
      (fun _ _ => False) := by
  obtain ⟨seen, sight, own⟩ := awaits.clear
  rw [ends_advance_of_ready awaits.ready]
  apply drive_ends awaits.ready awaits.calm
  · intro absent
    exact (create_serves awaits absent).mono (fun _ _ serves => serves) fun _ _ never => never.elim
  · intro observed present _ _
    exact (resume_serves awaits present).mono (fun _ _ serves => serves)
      fun _ _ never => never.elim
  · intro observed _ claimed
    cases awaits.unclaimed.symm.trans claimed
  · intro observed drifts _ claimed
    cases awaits.unclaimed.symm.trans claimed
  · intro error blocked
    rw [sight] at blocked
    cases seen with
    | none => cases blocked
    | some observed =>
        obtain ⟨-, pending, -⟩ := own nofun
        simp only [Except.bind, Client.regard, awaits.unclaimed, pending, Bool.false_eq_true,
          if_false, if_true] at blocked
        cases blocked

/-- A record that is served stays so when its status is written. -/
theorem Serves.of_status (serves : engine.Serves world record) {later : World} (status : Status)
    (calm : later.plane.IsCalm)
    (wrote : world.store.Writes { record with status } later.store)
    (details : later.store.details = world.store.details)
    (suits : ∀ details, world.plane.Suits record details → later.plane.Suits record details) :
    engine.Serves later { record with status } where
  calm := calm
  stored := wrote.get?_self
  ready := ⟨serves.ready.valid, serves.ready.kept, serves.ready.connected⟩
  claimed := serves.claimed
  told := by
    obtain ⟨told, published, fits⟩ := serves.told
    refine ⟨told, ?_, suits told fits⟩
    rw [details]
    exact published

/-- To report an error leaves a record served. -/
theorem Serves.reportError (serves : engine.Serves world record) (error : PassError) :
    Ends (Engine.reportError record error) world
      (fun _ => engine.IsServed record.id)
      (fun _ _ => False) := by
  apply ends_reportError
  · intro current status clock stored
    cases serves.stored.symm.trans stored
    refine ⟨{ record with status }, rfl, ?_⟩
    exact serves.of_status status serves.calm (Store.writes_put _ _) rfl fun _ fits => fits
  · intro clock
    exact ⟨record, rfl, serves.calm, serves.stored, serves.ready, serves.claimed, serves.told⟩

/-- An update tells no owner anything. -/
theorem only_update_withholds (engine : Engine) (record : Record) (observed : Observed)
    (drifts : List Drift) :
    Only Request.Withholds (update (engine.clientOf record.kind) record observed drifts) := by
  apply only_update engine (fun _ works => works.2.1.withholds) (fun _ => Request.Reads.withholds)
    trivial
  intro status _
  trivial

/-- What a pass makes of a record that is served leaves it served. -/
theorem Serves.pass (serves : engine.Serves world record) :
    Ends (engine.pass record.id) world
      (fun _ => engine.IsServed record.id)
      (fun _ => engine.IsServed record.id) := by
  obtain ⟨details, -, fits⟩ := serves.told
  rw [ends_pass serves.stored, ends_advance_of_ready serves.ready]
  have reports : ∀ later, engine.Serves later record → ∀ error,
      Ends (Engine.reportError record error) later
        (fun _ => engine.IsServed record.id)
        (fun _ => engine.IsServed record.id) := by
    intro later serves error
    exact (serves.reportError error).mono (fun _ _ ended => ended) fun _ _ never => never.elim
  apply drive_ends serves.ready serves.calm
  · intro absent
    exact absurd absent fits.sight_ne_none
  · intro observed _ unclaimed
    cases serves.claimed.symm.trans unclaimed
  · intro observed _ _ _
    refine ends_reportSuccess serves.stored fun ready synced last clock => ?_
    refine ⟨record.reported (some observed) ready synced last, rfl, ?_⟩
    exact serves.of_status _ serves.calm (Store.writes_put _ _) rfl fun _ fits => fits
  · intro observed drifts sight _ differs drifted
    have ends := (update_pass_effect serves.calm serves.stored sight differs drifted).and
      ((engine.only_update_withholds record observed drifts).ends_details world)
    refine ends.mono ?_ ?_
    · rintro outcome later ⟨⟨-, amended, seen, ready, synced, last, wrote⟩, same⟩
      refine ⟨record.reported (some seen) ready synced last, rfl, ?_⟩
      refine serves.of_status _ ?_ wrote same fun _ fits => amended.suits fits
      exact serves.calm.of_faults amended.faults
    · rintro error _ ⟨⟨⟨mutations, rfl⟩, -⟩, -⟩
      refine reports (world.counting mutations) ?_ error
      exact ⟨serves.calm, serves.stored, serves.ready, serves.claimed, serves.told⟩
  · intro error _
    exact reports world serves error

end Engine

end Steward
