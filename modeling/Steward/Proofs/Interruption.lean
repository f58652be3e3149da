/-
This file shows that a create that is cut short is made up for by the next pass.
Wherever the calls of the pass end, a fresh pass finishes the create, and the owner of the record is
told what the resource is. Only between the lock and the details nothing is said.
-/

import Steward.Proofs.Isolation
import Steward.Proofs.Prefix
import Steward.Proofs.Race
import Steward.Proofs.Recovery
import Steward.Proofs.Rounds

namespace Steward

open Pass

namespace Plane

variable {plane : Plane} {record : Record}

/-- What a record needs to look at its resource is there when what it needs to create it is. -/
theorem Permits.exists_sight (permitted : plane.Permits record) :
    ∃ seen, plane.sight record = .ok seen := by
  unfold Permits at permitted
  unfold Plane.sight
  rw [Record.kind]
  cases asked : record.spec with
  | bucket spec =>
      rw [asked] at permitted
      change plane.accessError? record.targetName = none at permitted
      simp only [Spec.kind, Bucket.seenOf, permitted]
      exact ⟨_, rfl⟩
  | user spec => exact ⟨_, rfl⟩
  | policy spec => exact ⟨_, rfl⟩
  | serviceAccount spec => exact ⟨_, rfl⟩

end Plane

namespace Request

/-- A call with which the bucket of a record is made and configured. -/
def MakesBucket (record : Record) (spec : BucketSpec) (request : Request) : Prop :=
  request = .remote (.makeBucket record.targetName spec.regionOrDefault) ∨
    ∃ policy, request = .remote (.setBucketPolicy record.targetName policy)

end Request

namespace Bucket

/-- To create a bucket takes two calls at most, both on the bucket that is to be made. -/
theorem create_makesBucket {record : Record} {spec : BucketSpec}
    (asked : record.spec = .bucket spec) :
    Only (Request.MakesBucket record spec) (create record) := by
  rw [create, specOf_eq asked]
  change Only _ (perform "make bucket" record.targetName
    (.makeBucket record.targetName spec.regionOrDefault) >>= fun _ =>
      configure record.targetName spec)
  refine Only.bind (only_perform (Or.inl rfl)) fun _ => ?_
  unfold configure
  split
  · exact Only.bind (only_perform (Or.inr ⟨_, rfl⟩)) fun _ => only_pure _
  · exact only_pure _

/-- A bucket that is made for a record is placed as the record asks for it, and stays there. -/
theorem placed_of_makesBucket {record : Record} {spec : BucketSpec}
    (asked : record.spec = .bucket spec) {plane : Plane} (calm : plane.IsCalm)
    (placed : plane.IsPlaced record) {call : RemoteCall}
    (makes : Request.MakesBucket record spec (.remote call)) :
    (plane.perform call).2.IsPlaced record := by
  have responds := (plane.counted call).responds call
  rw [calm.perform]
  generalize ((plane.counted call).respond call).1 = answer at responds
  generalize ((plane.counted call).respond call).2 = after at responds ⊢
  unfold Plane.IsPlaced at placed ⊢
  rw [asked] at placed ⊢
  cases responds with
  | looks _ _ | refuses _ => exact placed
  | makesBucket _ _ =>
      obtain ⟨⟨⟩⟩ | ⟨policy, ⟨⟩⟩ := makes
      intro bucket found
      cases ((Table.get?_insert _ _ _ _).trans (if_pos rfl)).symm.trans found
      rfl
  | setsBucketPolicy _ present =>
      obtain ⟨⟨⟩⟩ | ⟨policy, ⟨⟩⟩ := makes
      intro bucket found
      cases ((Table.get?_insert _ _ _ _).trans (if_pos rfl)).symm.trans found
      have before := placed _ present
      exact before
  | _ => obtain ⟨⟨⟩⟩ | ⟨policy, ⟨⟩⟩ := makes

end Bucket

namespace Engine

variable {engine : Engine} {world : World} {record : Record}

/-- A record whose create is pending awaits a pass still when only the remote side has changed. -/
theorem Awaits.of_plane (awaits : engine.Awaits world record)
    (named : record.kind ≠ .serviceAccount) (pending : record.metadata.isCreatePending = true)
    (free : ∀ rival, world.store.get? rival.id = some rival → rival.isRivalOf record = false)
    {later : World} (store : later.store = world.store) (calm : later.plane.IsCalm)
    (permitted : later.plane.Permits record) (placed : later.plane.IsPlaced record) :
    engine.Awaits later record where
  calm := calm
  stored := by
    rw [store]
    exact awaits.stored
  ready := awaits.ready
  unclaimed := awaits.unclaimed
  permitted := permitted
  placed := placed
  other := awaits.other
  clear := by
    obtain ⟨seen, sight⟩ := permitted.exists_sight
    refine ⟨seen, sight, fun _ => ⟨named, pending, ?_⟩⟩
    rw [store]
    exact free

end Engine

namespace User

/-- The work on a user takes no access policy away. -/
theorem known_of_works {record : Record} (kind : record.kind = .user) {world : World}
    {request : Request} (works : request.Works record) {policies : List String}
    (known : Known world.plane policies) : Known (world.answer request).2.plane policies := by
  cases request with
  | secret => exact known
  | remote call =>
      intro name member
      have apart : world.plane.resourceOf call ≠ some (.policy, name) := by
        intro same
        have own := RemoteCall.Concerns.own_of_resourceOf works.2.1 same
        rw [Record.resource?_of_kind kind nofun] at own
        cases own
      have same : (world.plane.perform call).2.policies.get? name =
          world.plane.policies.get? name := Plane.sameAt_perform call apart
      change (world.plane.perform call).2.policies.contains name = true
      rw [Table.contains, same]
      exact known name member
  | _ => exact works.1.elim

end User

namespace ServiceAccount

/-- An account that is made under one key is not seen under another. -/
theorem seenOf_withAccount {plane : Plane} {accessKey key : String} {account : ServiceAccount}
    {number mutations : Nat} (apart : accessKey ≠ key) :
    seenOf (plane.withAccount key account number mutations) accessKey = seenOf plane accessKey :=
  congrArg (Option.map (shown accessKey)) (Table.get?_insert_of_ne apart)

end ServiceAccount

namespace Engine

variable {engine : Engine} {world : World} {record : Record}

/-- A fresh pass serves the record. -/
def Recovers (engine : Engine) (id : RecordId) (world : World) : Prop :=
  engine.IsServed id ((engine.reconcile id false).after world)

/-- A call before which a cut is made up for; nothing is said of one that tells details. -/
def Survives (engine : Engine) (id : RecordId) (request : Request) (world : World) : Prop :=
  (∀ details, request ≠ .publish id details) → engine.Recovers id world

/-- A fresh pass makes good what has been left of a create. -/
theorem Awaits.recovers (awaits : engine.Awaits world record) :
    engine.Recovers record.id world := by
  have ends : Ends (engine.pass record.id) world (fun _ => engine.IsServed record.id)
      (fun _ => engine.IsServed record.id) := by
    rw [ends_pass awaits.stored]
    exact awaits.advance.mono (fun _ _ served => served) fun _ _ never => never.elim
  exact ends.after_of_both

theorem Serves.recovers (serves : engine.Serves world record) : engine.Recovers record.id world :=
  serves.pass.after_of_both

section Unclaimed

variable (pending : record.metadata.isCreatePending = true)
  (free : ∀ rival, world.store.get? rival.id = some rival → rival.isRivalOf record = false)

include pending free

/-- A record awaits a pass still when its bucket has been made or configured. -/
theorem Awaits.makesBucket (awaits : engine.Awaits world record) {spec : BucketSpec}
    (asked : record.spec = .bucket spec) {request : Request}
    (makes : request.MakesBucket record spec) :
    engine.Awaits (world.answer request).2 record := by
  have kind : record.kind = .bucket := congrArg Spec.kind asked
  have named : record.kind ≠ .serviceAccount := by
    rw [kind]
    nofun
  have calls : ∃ call, request = .remote call := by
    rcases makes with rfl | ⟨policy, rfl⟩
    · exact ⟨_, rfl⟩
    · exact ⟨_, rfl⟩
  obtain ⟨call, rfl⟩ := calls
  have faults : (world.plane.perform call).2.faults = world.plane.faults := by
    rw [awaits.calm.perform, Plane.respond_faults, Plane.counted_faults]
  have permitted := awaits.permitted
  unfold Plane.Permits at permitted
  rw [asked] at permitted
  refine awaits.of_plane named pending free rfl ?_ ?_ ?_
  · exact awaits.calm.of_faults faults
  · unfold Plane.Permits
    rw [asked]
    change (world.plane.perform call).2.accessError? record.targetName = none
    rw [Plane.accessError?, faults]
    exact permitted
  · exact Bucket.placed_of_makesBucket asked awaits.calm awaits.placed makes

/-- A record awaits a pass still when its user has been worked on. -/
theorem Awaits.worksUser (awaits : engine.Awaits world record) {spec : UserSpec}
    (asked : record.spec = .user spec) {request : Request} (works : request.Works record) :
    engine.Awaits (world.answer request).2 record := by
  have kind : record.kind = .user := congrArg Spec.kind asked
  have named : record.kind ≠ .serviceAccount := by
    rw [kind]
    nofun
  have permitted := awaits.permitted
  unfold Plane.Permits at permitted
  rw [asked] at permitted
  refine awaits.of_plane named pending free ?_ ?_ ?_ ?_
  · cases request with
    | secret | remote _ => rfl
    | _ => exact works.1.elim
  · exact (works.2.keeps awaits.calm).1
  · unfold Plane.Permits
    rw [asked]
    exact User.known_of_works kind works permitted
  · unfold Plane.IsPlaced
    rw [asked]
    trivial

end Unclaimed

/-- Nobody else has the lock for the resource of a record that goes by its name, and no key is given
that the record names already. -/
structure IsUncontended (world : World) (record : Record) : Prop where
  free : record.kind ≠ .serviceAccount →
    ∀ rival, world.store.get? rival.id = some rival → rival.isRivalOf record = false
  unnamed : record.kind = .serviceAccount →
    record.metadata.externalName ≠ some (ServiceAccount.nextCredentials world.plane).accessKey

/-- Nobody has the lock for anything in a world without locks. -/
theorem IsUncontended.of_unclaimed
    (unclaimed : ∀ rival ∈ world.store.list, rival.isClaimed = false)
    (named : record.kind ≠ .serviceAccount) : IsUncontended world record where
  free := by
    intro _ rival stored
    have none := unclaimed rival (world.store.mem_list_iff.2 stored)
    simp only [Record.isRivalOf, none, Bool.and_false]
  unnamed := fun account => absurd account named

/-- An account is made by one call, before which the record awaits its pass. -/
theorem accountCreate_survives (awaits : engine.Awaits world record) :
    Along (engine.Survives record.id) (ServiceAccount.create record) world := by
  have calls : ∀ spec : ServiceAccountSpec, Along (engine.Survives record.id) (do
      let credentials ← perform "add service account" spec.parentUser
        (.addServiceAccount {
          parentUser := spec.parentUser
          name := some record.targetName
          description := spec.description
          expiry := spec.expiry
          policy := spec.policy })
      return ({
        details := Table.ofList
          [("accessKey", credentials.accessKey), ("secretKey", credentials.secretKey),
            ("parentUser", spec.parentUser)]
        externalName := some credentials.accessKey } : Creation)) world := by
    intro spec
    rw [along_bind, along_perform]
    refine ⟨fun _ => awaits.recovers, ?_⟩
    apply (ends_answer _ _).mono
    · intro credentials later _
      trivial
    · intro error later _
      trivial
  refine along_bind_of_lift fun spec _ => ?_
  dsimp only
  split
  · exact along_bind_of_lift fun _ _ => calls spec
  · exact calls spec

/-- Wherever the work of a client on a new resource is cut, the next pass makes up for it. -/
theorem clientCreate_survives (awaits : engine.Awaits world record)
    (pending : record.metadata.isCreatePending = true) (uncontended : IsUncontended world record) :
    Along (engine.Survives record.id) ((engine.clientOf record.kind).create record) world := by
  -- As long as the record store is left alone, nobody else takes the lock.
  have along : ∀ {allowed : Request → Prop} {pass : Pass Creation}, Only allowed pass →
      record.kind ≠ .serviceAccount → (∀ request, allowed request → request.IsRemote) →
      (∀ request later, (∀ rival, later.store.get? rival.id = some rival →
        rival.isRivalOf record = false) → allowed request → engine.Awaits later record →
        engine.Awaits (later.answer request).2 record) →
      Along (engine.Survives record.id) pass world := by
    intro allowed pass only named isRemote keeps
    apply only.along (fun request later fine (holds : engine.Awaits later record ∧
      later.store = world.store) => ?_) ⟨awaits, rfl⟩
    obtain ⟨awaits, store⟩ := holds
    refine ⟨fun _ => awaits.recovers, keeps request later ?_ fine awaits, ?_⟩
    · rw [store]
      exact uncontended.free named
    · rw [← store]
      cases request with
      | secret | remote _ => rfl
      | _ => exact (isRemote _ fine).elim
  cases asked : record.spec with
  | bucket spec =>
      have kind : record.kind = .bucket := congrArg Spec.kind asked
      rw [kind]
      apply along (Bucket.create_makesBucket asked) (by rw [kind]; nofun)
      · rintro request (rfl | ⟨policy, rfl⟩)
        · trivial
        · trivial
      · intro request later free makes awaits
        exact awaits.makesBucket pending free asked makes
  | user spec =>
      have kind : record.kind = .user := congrArg Spec.kind asked
      rw [kind]
      apply along (User.only_register (Record.resource?_of_kind kind nofun) engine.binding)
        (by rw [kind]; nofun) (fun _ works => works.1)
      intro request later free works awaits
      exact awaits.worksUser pending free asked works
  | policy spec => exact absurd (congrArg Spec.kind asked) awaits.other
  | serviceAccount spec =>
      have kind : record.kind = .serviceAccount := congrArg Spec.kind asked
      rw [kind]
      exact accountCreate_survives awaits

/-- A record awaits its pass until it has the lock, though its resource has been provided. -/
theorem Awaits.of_provides (awaits : engine.Awaits world record)
    (pending : record.metadata.isCreatePending = true) (uncontended : IsUncontended world record)
    {creation : Creation} {plane : Plane} (secrets : Supply String)
    (provided : world.plane.Provides record creation plane) :
    engine.Awaits { world with plane, secrets } record := by
  have calm : plane.IsCalm := awaits.calm.of_faults provided.faults
  have permitted := awaits.permitted
  have placed := awaits.placed
  unfold Plane.Permits at permitted
  unfold Plane.Provides at provided
  cases asked : record.spec with
  | bucket spec =>
      have kind : record.kind = .bucket := congrArg Spec.kind asked
      have named : record.kind ≠ .serviceAccount := by
        rw [kind]
        nofun
      rw [asked] at permitted provided
      obtain ⟨-, -, mutations, rfl⟩ := provided
      refine awaits.of_plane named pending (uncontended.free named) rfl calm ?_ ?_
      · unfold Plane.Permits
        rw [asked]
        exact permitted
      · unfold Plane.IsPlaced
        rw [asked]
        intro bucket found
        cases Plane.get?_withBucket.symm.trans found
        exact placed.region_provided asked
  | user spec =>
      have kind : record.kind = .user := congrArg Spec.kind asked
      have named : record.kind ≠ .serviceAccount := by
        rw [kind]
        nofun
      rw [asked] at permitted provided
      obtain ⟨secret, policies, mutations, -, -, -, rfl⟩ := provided
      refine awaits.of_plane named pending (uncontended.free named) rfl calm ?_ ?_
      · unfold Plane.Permits
        rw [asked]
        exact permitted
      · unfold Plane.IsPlaced
        rw [asked]
        trivial
  | policy spec => exact absurd (congrArg Spec.kind asked) awaits.other
  | serviceAccount spec =>
      have kind : record.kind = .serviceAccount := congrArg Spec.kind asked
      rw [asked] at permitted provided
      obtain ⟨-, mutations, rfl⟩ := provided
      obtain ⟨seen, sight, own⟩ := awaits.clear
      have absent : seen = none := by
        by_contra present
        exact (own present).1 kind
      refine ⟨calm, awaits.stored, awaits.ready, awaits.unclaimed, ?_, ?_, awaits.other, none, ?_,
        fun present => absurd rfl present⟩
      · unfold Plane.Permits
        rw [asked]
        exact permitted
      · unfold Plane.IsPlaced
        rw [asked]
        trivial
      · have missing := uncontended.unnamed kind
        rw [absent] at sight
        unfold Plane.sight at sight ⊢
        rw [kind] at sight ⊢
        cases given : record.metadata.externalName with
        | none => rfl
        | some accessKey =>
            rw [given] at sight missing
            have apart : accessKey ≠ (ServiceAccount.nextCredentials world.plane).accessKey :=
              fun same => missing (congrArg some same)
            have seen := Except.ok.inj sight
            rw [Option.bind_some] at seen
            change Except.ok (ServiceAccount.seenOf _ accessKey) = _
            rw [ServiceAccount.seenOf_withAccount apart, seen]

/-- A call with which a pass looks, or tells how it went. -/
def Reports (id : RecordId) : Request → Prop
  | .putStatus other _ => other = id
  | .now => True
  | request => request.Reads

/-- To look is allowed to a pass that only reports. -/
theorem reports_of_reads {id : RecordId} {request : Request} (reads : request.Reads) :
    Reports id request := by
  cases request with
  | putStatus _ _ | now => exact reads.elim
  | _ => exact reads

/-- A record that is served stays so while the pass tells how it went. -/
theorem Serves.answer (serves : engine.Serves world record) {request : Request}
    (reports : Reports record.id request) :
    engine.IsServed record.id (world.answer request).2 := by
  have looks : request.Reads →
      engine.IsServed record.id (world.answer request).2 := by
    intro reads
    rw [World.answer_of_reads serves.calm reads]
    exact ⟨record, rfl, serves⟩
  cases request with
  | putStatus id status =>
      cases reports
      refine ⟨{ record with status }, rfl, ?_⟩
      rw [World.answer, Store.putStatus_of_get? serves.stored]
      exact serves.of_status status serves.calm (Store.writes_put _ _) rfl fun _ fits => fits
  | now =>
      exact ⟨record, rfl, serves.calm, serves.stored, serves.ready, serves.claimed, serves.told⟩
  | _ => exact looks reports

/-- Once its owner has been told, a cut makes no difference. -/
theorem report_survives (serves : engine.Serves world record) (kind : Kind) (claimed : Record)
    (named : claimed.id = record.id) :
    Along (engine.Survives record.id) (do
      reportSuccess claimed (← glance (engine.clientOf kind) claimed)
      return Outcome.created) world := by
  have only : Only (Reports record.id) (do
      reportSuccess claimed (← glance (engine.clientOf kind) claimed)
      return Outcome.created) := by
    refine Only.bind (only_glance (fun _ => reports_of_reads) engine kind claimed) fun seen => ?_
    exact Only.bind (only_reportSuccess trivial (fun _ _ => named) seen) fun _ => only_pure _
  apply only.along (fun request later reports
    (holds : engine.IsServed record.id later) => ?_)
    ⟨record, rfl, serves⟩
  obtain ⟨current, same, serves⟩ := holds
  rw [← same] at reports ⊢
  exact ⟨fun _ => serves.recovers, serves.answer reports⟩

/-- To claim a resource can be cut anywhere but between the lock and the details. -/
theorem commit_survives (awaits : engine.Awaits world record) {creation : Creation}
    (suits : world.plane.Suits (record.claimedBy creation) creation.details)
    (something : creation.details ≠ ∅) :
    Along (engine.Survives record.id) (commit (engine.clientOf record.kind) record creation)
      world := by
  rw [commit_eq, along_bind, along_putMetadata, ends_putMetadata, awaits.stored]
  refine ⟨fun _ => awaits.recovers, ?_⟩
  unfold announce
  dsimp only
  rw [if_pos something, along_bind, along_publish, ends_publish, Store.get?_put, if_pos rfl]
  refine ⟨fun otherwise => absurd rfl (otherwise creation.details), ?_⟩
  have serves : engine.Serves { world with
      store := (world.store.put (record.claimedBy creation)).handOver record.id creation.details }
      (record.claimedBy creation) := by
    refine ⟨awaits.calm, ?_, awaits.ready.claimedBy creation, isClaimed_claimedBy creation,
      creation.details, ?_, suits⟩
    · exact (Store.get?_put _ _ _).trans (if_pos rfl)
    · exact (Table.get?_insert _ _ _ _).trans (if_pos rfl)
  exact report_survives serves record.kind (record.claimedBy creation) rfl

/-- A record that a pass is to create the resource of: it carries no markers, its resource is not
there, and all that the resource needs is. -/
structure CanCreate (engine : Engine) (world : World) (record : Record) : Prop where
  calm : world.plane.IsCalm
  stored : world.store.get? record.id = some record
  ready : engine.Ready record
  bare : record.IsBare
  absent : world.plane.sight record = .ok none
  permitted : world.plane.Permits record
  other : record.kind ≠ .policy

/-- A record whose resource is still to be made waits for it as one does whose create was cut. -/
theorem CanCreate.awaits (can : engine.CanCreate world record) : engine.Awaits world record where
  calm := can.calm
  stored := can.stored
  ready := can.ready
  unclaimed := can.bare.unclaimed
  permitted := can.permitted
  placed := by
    unfold Plane.IsPlaced
    have absent := can.absent
    unfold Plane.sight at absent
    rw [Record.kind] at absent
    split
    · rename_i spec asked
      rw [asked] at absent
      intro bucket found
      cases (Bucket.absent_of_seen absent).symm.trans found
    · trivial
  other := can.other
  clear := ⟨none, can.absent, fun present => absurd rfl present⟩

/-- A record that has been marked awaits its pass as before. -/
theorem CanCreate.awaits_pending (can : engine.CanCreate world record) {store : Store}
    (marked : world.store.Writes record.pending store) :
    engine.Awaits { world with store } record.pending where
  calm := can.calm
  stored := marked.get?_self
  ready := can.ready.pending
  unclaimed := by
    rcases record.pending_eq with same | marked
    · rw [same]
      exact can.bare.unclaimed
    · rw [marked]
      exact (Metadata.isClaimed_markCreatePending _).trans can.bare.unclaimed
  permitted := Record.permits_pending.2 can.permitted
  placed := isPlaced_pending.2 can.awaits.placed
  other := by
    rw [record.kind_pending]
    exact can.other
  clear := ⟨none, Record.sight_pending.trans can.absent, fun present => absurd rfl present⟩

/-- The marker of a create that is underway makes nobody another's rival. -/
theorem isRivalOf_pending (rival : Record) :
    rival.isRivalOf record.pending = rival.isRivalOf record := by
  rcases record.pending_eq with same | marked
  · rw [same]
  · rw [marked]
    rfl

/-- A record that has been marked has no more rivals than before. -/
theorem IsUncontended.pending (uncontended : IsUncontended world record) {store : Store}
    (marked : world.store.Writes record.pending store) :
    IsUncontended { world with store } record.pending where
  free := by
    intro named rival stored
    rw [record.kind_pending] at named
    rw [isRivalOf_pending]
    change store.get? rival.id = some rival at stored
    rw [marked.get?] at stored
    split at stored
    · rename_i own
      rw [record.id_pending] at own
      simp [Record.isRivalOf, own]
    · exact uncontended.free named rival stored
  unnamed := by
    intro account
    rw [record.kind_pending] at account
    have missing := uncontended.unnamed account
    rcases record.pending_eq with same | pending
    · rwa [same]
    · rw [pending]
      rwa [Metadata.externalName_markCreatePending]

/-- A create can be cut anywhere but between the lock and the details. -/
theorem create_survives (can : engine.CanCreate world record)
    (uncontended : IsUncontended world record) :
    Along (engine.Survives record.id) (create (engine.clientOf record.kind) record) world := by
  rw [create_of_bare can.bare, along_bind, along_putMetadata, ends_putMetadata, can.stored]
  refine ⟨fun _ => can.awaits.recovers, ?_⟩
  have pending :
      { record with metadata := record.metadata.markCreatePending } = record.pending := by
    rw [Record.pending, can.bare.unmarked]
    rfl
  dsimp only
  rw [pending]
  have marked : world.store.Writes record.pending (world.store.put record.pending) :=
    Store.writes_put _ _
  have awaits := can.awaits_pending marked
  have alone := uncontended.pending marked
  rw [along_bind, along_attempt, ends_attempt]
  have survives := clientCreate_survives awaits record.isCreatePending_pending alone
  rw [record.id_pending, record.kind_pending] at survives
  refine ⟨survives, ?_⟩
  rw [← record.kind_pending]
  refine (create_effect ?_).mono ?_ ?_
  · exact can.calm
  · rintro creation _ ⟨-, provided, plane, secrets, rfl⟩
    have later := awaits.of_provides record.isCreatePending_pending alone secrets provided
    obtain ⟨suits, something⟩ := provided.suits awaits.placed awaits.other
    have commits := commit_survives later suits something
    rw [record.id_pending] at commits
    exact commits
  · rintro error _ ⟨-, reason⟩
    obtain ⟨lacking, -⟩ := reason (Record.sight_pending.trans can.absent)
    exact absurd awaits.permitted lacking

/-- A pass that finds nothing of what it is to create can be cut anywhere but between the lock and
the details. -/
theorem drive_survives (can : engine.CanCreate world record)
    (uncontended : IsUncontended world record) :
    Along (engine.Survives record.id) (drive (engine.clientOf record.kind) record) world := by
  rw [drive, can.ready.kept]
  simp only [Bool.false_eq_true, if_false]
  rw [along_bind]
  constructor
  · refine (engine.only_observe record.kind record).along
      (fun request later reads (same : later = world) => ?_) rfl
    rw [same]
    exact ⟨fun _ => can.awaits.recovers, World.answer_of_reads can.calm reads⟩
  · rw [(engine.only_observe record.kind record).ends_of_reads can.calm,
      engine.answer_observe can.calm record, can.absent]
    exact create_survives can uncontended

/-- A pass that is to create a resource can be cut anywhere but between the lock and the details. -/
theorem reconcile_survives (can : engine.CanCreate world record)
    (uncontended : IsUncontended world record) :
    Along (engine.Survives record.id) (engine.reconcile record.id false) world := by
  have advances : Along (engine.Survives record.id) (engine.advance record) world := by
    unfold advance
    apply along_bind_of_lift
    intro valid _
    rw [can.ready.kept]
    simp only [Bool.false_eq_true, false_and, if_false]
    apply along_bind_of_lift
    intro client connects
    rw [can.ready.connected] at connects
    cases connects
    exact drive_survives can uncontended
  rw [reconcile_eq, along_bind, along_ask, ends_ask]
  refine ⟨fun _ => can.awaits.recovers, ?_⟩
  simp only [World.answer, can.stored]
  rw [work, along_bind, along_attempt, ends_attempt]
  refine ⟨advances, can.awaits.advance.mono ?_ fun _ _ never => never.elim⟩
  intro outcome later _
  trivial

/-- The world after a pass that has been cut short and a fresh one. -/
def afterCut (engine : Engine) (id : RecordId) (count : Nat) (world : World) : World :=
  (engine.reconcile id false).after ((engine.reconcile id false).run.cut count world).2

/-- A record that is served carries the lock, and its owner has been told. -/
theorem IsServed.isSettled {id : RecordId} (served : engine.IsServed id world) :
    world.IsSettled id := by
  obtain ⟨current, rfl, serves⟩ := served
  obtain ⟨details, published, suits⟩ := serves.told
  exact ⟨current, details, serves.stored, serves.claimed, published, suits⟩

/-- Wherever the calls of a create end, a fresh pass makes up for it, unless the lock has been
written and the owner of the record was to be told next. -/
theorem cut_creates_recover (engine : Engine) (world : World) (record : Record)
    (can : engine.CanCreate world record) (uncontended : IsUncontended world record) (count : Nat)
    (apart : ((engine.reconcile record.id false).run.cut count world).1.tells = false) :
    (engine.afterCut record.id count world).IsSettled record.id := by
  apply @IsServed.isSettled engine
  rcases (reconcile_survives can uncontended).cut count with ended | ⟨request, rest, next, survives⟩
  · -- The pass has come to its end, and the fresh one finds a record that is served.
    obtain ⟨current, same, serves⟩ := can.awaits.recovers
    have again := serves.recovers
    rw [same] at again
    rw [afterCut, ended]
    exact again
  · apply survives
    rintro details rfl
    rw [next] at apart
    cases apart

end Engine

namespace Sample

/-- The settled sample world after its bucket has been removed by somebody else, and another record
has been declared for it. -/
def rivaled : World :=
  let removal := fun plane => Disturbance.apply plane (.call (.removeBucket "first"))
  engine.carryOut (engine.carryOut settled (.disturb removal))
    (.apply (bucket "second" (some "first")))

/-- A record that names the first service account before that is made. -/
def prophet : Record :=
  { account with metadata := Metadata.setExternalName ∅ "SVCACCT00000001" }

/-- The sample world after the user has been put there and that record declared. -/
def foretold : World :=
  let hire := fun plane => Disturbance.apply plane (.insertUser "alice" [])
  engine.carryOut (engine.carryOut world (.disturb hire)) (.apply prophet)

/-- The sample world after a record for the user "alice" has been declared. -/
def awaited : World :=
  engine.carryOut world (.apply (suitors false))

/-- That record with a profile that nobody has set up. -/
def stray : Record :=
  { suitors false with credentialsRef := some "elsewhere" }

/-- The sample world after that record has been declared. -/
def unreached : World :=
  engine.carryOut world (.apply stray)

/-- A bucket that has been declared and that nobody has made can be created. -/
theorem canCreate_declared : engine.CanCreate declared (bucket "first" none) where
  calm := by decide +kernel
  stored := by decide +kernel
  ready := ⟨rfl, rfl, connect_engine rfl⟩
  bare := ⟨rfl, rfl, rfl⟩
  absent := by decide +kernel
  permitted := by
    change declared.plane.accessError? _ = none
    decide +kernel
  other := nofun

/-- A bucket can be created whose name another record carries the lock for, once it is gone. -/
theorem canCreate_rivaled : engine.CanCreate rivaled (bucket "second" (some "first")) where
  calm := by decide +kernel
  stored := by decide +kernel
  ready := ⟨rfl, rfl, connect_engine rfl⟩
  bare := ⟨rfl, rfl, rfl⟩
  absent := by decide +kernel
  permitted := by
    change rivaled.plane.accessError? _ = none
    decide +kernel
  other := nofun

theorem canCreate_foretold : engine.CanCreate foretold prophet where
  calm := by decide +kernel
  stored := by decide +kernel
  ready := ⟨rfl, rfl, connect_engine rfl⟩
  bare := ⟨rfl, rfl, rfl⟩
  absent := by decide +kernel
  permitted := ⟨nofun, by decide +kernel⟩
  other := nofun

theorem canCreate_awaited : engine.CanCreate awaited (suitors false) where
  calm := by decide +kernel
  stored := by decide +kernel
  ready := ⟨rfl, rfl, connect_engine rfl⟩
  bare := ⟨rfl, rfl, rfl⟩
  absent := by decide +kernel
  permitted := nofun
  other := nofun

end Sample

namespace Engine

/-- A user who has been added before the pass is cut is handed over all the same. -/
theorem cut_creates_recover_of_added_user :
    Sample.engine.CanCreate Sample.awaited (Sample.suitors false) ∧
      IsUncontended Sample.awaited (Sample.suitors false) ∧
      ((Sample.engine.reconcile (.plain "first") false).run.cut 5
        Sample.awaited).2.plane.users.keys = ["alice"] ∧
      ((Sample.engine.reconcile (.plain "first") false).run.cut 5 Sample.awaited).1.tells = false ∧
      (Sample.engine.afterCut (.plain "first") 5 Sample.awaited).IsSettled (.plain "first") := by
  have alone : IsUncontended Sample.awaited (Sample.suitors false) :=
    .of_unclaimed (by decide +kernel) nofun
  have apart : ((Sample.engine.reconcile (.plain "first") false).run.cut 5
      Sample.awaited).1.tells = false := by decide +kernel
  exact ⟨Sample.canCreate_awaited, alone, by decide +kernel, apart,
    cut_creates_recover _ _ _ Sample.canCreate_awaited alone 5 apart⟩

/-- A create is lost by a cut between the lock and the details, and by one after the resource has
been made if somebody else has the lock for it or if the record names it beforehand. Nothing is
created at all with a profile that does not connect. -/
theorem cut_creates_can_be_lost :
    ¬ (∀ (engine : Engine) (world : World) (record : Record), engine.CanCreate world record →
        IsUncontended world record →
        ∀ count, (engine.afterCut record.id count world).IsSettled record.id) ∧
      ¬ (∀ (engine : Engine) (world : World) (record : Record), engine.CanCreate world record →
        record.kind ≠ .serviceAccount →
        ∀ count, ((engine.reconcile record.id false).run.cut count world).1.tells = false →
          (engine.afterCut record.id count world).IsSettled record.id) ∧
      ¬ (∀ (engine : Engine) (world : World) (record : Record), engine.CanCreate world record →
        record.kind = .serviceAccount →
        ∀ count, ((engine.reconcile record.id false).run.cut count world).1.tells = false →
          (engine.afterCut record.id count world).IsSettled record.id) ∧
      ¬ (∀ (engine : Engine) (world : World) (record : Record), world.plane.IsCalm →
        world.store.get? record.id = some record → record.validate = .ok () → record.IsBare →
        world.plane.sight record = .ok none → world.plane.Permits record →
        record.kind ≠ .policy → IsUncontended world record →
        ∀ count, ((engine.reconcile record.id false).run.cut count world).1.tells = false →
          (engine.afterCut record.id count world).IsSettled record.id) := by
  have untold : ∀ {world : World} {id : RecordId},
      world.store.details.get? id = none → ¬ world.IsSettled id := by
    rintro world id untold ⟨record, details, -, -, told, -⟩
    cases untold.symm.trans told
  refine ⟨fun always => ?_, fun always => ?_, fun always => ?_, fun always => ?_⟩
  · have alone : IsUncontended Sample.declared (Sample.bucket "first" none) :=
      .of_unclaimed (by decide +kernel) nofun
    apply untold _ (always _ _ _ Sample.canCreate_declared alone 5)
    decide +kernel
  · apply untold _ (always _ _ _ Sample.canCreate_rivaled nofun 4 (by decide +kernel))
    decide +kernel
  · apply untold _ (always _ _ _ Sample.canCreate_foretold rfl 4 (by decide +kernel))
    decide +kernel
  · have alone : IsUncontended Sample.unreached Sample.stray :=
      .of_unclaimed (by decide +kernel) nofun
    have settled := always Sample.engine Sample.unreached Sample.stray (by decide +kernel)
      (by decide +kernel) rfl ⟨rfl, rfl, rfl⟩ (by decide +kernel) nofun nofun alone 0 rfl
    apply untold _ settled
    decide +kernel

end Engine

end Steward
