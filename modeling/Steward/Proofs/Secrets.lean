/-
This file says what requests and the work on users do to the secrets of users.
Only a call that adds a user makes a secret, and it is told by the request that publishes details.
All other requests leave what has been told as true as it was.
-/

import Steward.Proofs.Recovery

namespace Steward

open Pass

namespace Plane

/-- The secret of a user, if there is one of the name. -/
def secret? (plane : Plane) (name : String) : Option String :=
  (plane.users.get? name).map (·.secret)

/-- Under a name there is no other secret than before. -/
def AddsNoSecret (before : Plane) (name : String) (after : Plane) : Prop :=
  ∀ secret, after.secret? name = some secret → before.secret? name = some secret

/-- The faults that are armed for a call say that the remote side cannot be reached. -/
def IsFlaky (plane : Plane) : Prop :=
  ∀ operation error, plane.faults.next.get? operation = some error →
    ∃ reason, error = .unavailable reason

variable {before middle after plane : Plane} {name : String} {call : RemoteCall}

theorem AddsNoSecret.trans (first : before.AddsNoSecret name middle)
    (second : middle.AddsNoSecret name after) : before.AddsNoSecret name after :=
  fun secret held => first secret (second secret held)

theorem addsNoSecret_of_eq (same : after.secret? name = before.secret? name) :
    before.AddsNoSecret name after :=
  fun _ held => same.symm.trans held

theorem secret?_of_sameAt (same : before.SameAt after .user name) :
    after.secret? name = before.secret? name :=
  congrArg (Option.map fun user : User => user.secret) same

theorem secret?_eq_none_iff : plane.secret? name = none ↔ plane.users.contains name = false := by
  rw [secret?, Option.map_eq_none_iff, Table.contains, Option.isSome_eq_false_iff,
    Option.isNone_iff_eq_none]

/-- Whoever keeps the secret of a user keeps every secret. -/
theorem secret?_putUser {user : String} {found later : User}
    (present : plane.users.get? user = some found) (same : later.secret = found.secret) :
    (plane.putUser user later).secret? name = plane.secret? name := by
  unfold secret? putUser
  rw [Table.get?_insert]
  split
  · rename_i own
    rw [own, present]
    exact congrArg some same
  · rfl

/-- A call that adds no user and removes nothing leaves every secret as it is. -/
theorem Responds.secret? {answer : Except RemoteError call.Result}
    (responds : plane.Responds call answer after)
    (adds : ∀ user secret, call ≠ .addUser user secret)
    (keeps : call.isRemoval = false) : after.secret? name = plane.secret? name := by
  cases responds with
  | addsUser => exact absurd rfl (adds _ _)
  | setsUserPolicies _ present | attachesUserPolicies _ present | detachesUserPolicies present =>
      exact secret?_putUser present rfl
  | removesUser _ => cases keeps
  | _ => rfl

/-- A call that adds no user makes no secret, also if it removes one. -/
theorem Responds.addsNoSecret {answer : Except RemoteError call.Result}
    (responds : plane.Responds call answer after)
    (adds : ∀ user secret, call ≠ .addUser user secret) : plane.AddsNoSecret name after := by
  cases removal : call.isRemoval with
  | false => exact addsNoSecret_of_eq (responds.secret? adds removal)
  | true =>
      cases responds with
      | removesUser _ =>
          intro secret held
          unfold Plane.secret? at held ⊢
          rw [Table.get?_erase] at held
          split at held
          · cases held
          · exact held
      | addsUser | setsUserPolicies _ _ | attachesUserPolicies _ _ | detachesUserPolicies _ =>
          cases removal
      | _ => exact addsNoSecret_of_eq rfl

theorem secret?_enter : (plane.enter call).2.secret? name = plane.secret? name :=
  secret?_of_sameAt (plane.sameAt_enter call)

/-- With or without a fault, a call that adds no user makes no secret. -/
theorem addsNoSecret_perform (adds : ∀ user secret, call ≠ .addUser user secret) :
    plane.AddsNoSecret name (plane.perform call).2 := by
  apply perform_keeps (addsNoSecret_of_eq secret?_enter)
  intro later entered
  exact entered.trans ((later.responds call).addsNoSecret adds)

/-- With or without a fault, a call that adds no user and removes nothing leaves every secret. -/
theorem secret?_perform (adds : ∀ user secret, call ≠ .addUser user secret)
    (keeps : call.isRemoval = false) :
    (plane.perform call).2.secret? name = plane.secret? name := by
  apply @perform_keeps plane call fun later => later.secret? name = plane.secret? name
  · exact secret?_enter
  · intro later entered
    exact ((later.responds call).secret? adds keeps).trans entered

/-- A call takes a fault back at most. -/
theorem IsFlaky.perform (flaky : plane.IsFlaky) (call : RemoteCall) :
    (plane.perform call).2.IsFlaky := by
  apply perform_keeps
  · intro operation error armed
    simp only [enter] at armed
    rw [Table.get?_erase] at armed
    split at armed
    · cases armed
    · exact flaky operation error armed
  · intro later entered
    unfold IsFlaky
    rw [respond_faults]
    exact entered

/-- A call meets a fault, or it is answered as if none were armed. -/
theorem IsFlaky.perform_cases (flaky : plane.IsFlaky) (call : RemoteCall) :
    (∃ reason, (plane.perform call).1 = faulted (.unavailable reason) call) ∨
      plane.perform call = (plane.enter call).2.respond call := by
  unfold Plane.perform
  have armed : (plane.enter call).1 = plane.faults.next.get? call.name := rfl
  rcases entering : plane.enter call with ⟨fault, later⟩
  rw [entering] at armed
  cases fault with
  | some error =>
      obtain ⟨reason, rfl⟩ := flaky call.name error armed.symm
      exact .inl ⟨reason, rfl⟩
  | none => exact .inr rfl

end Plane

namespace World

/-- The owner of a user record has been told this secret. -/
def Tells (world : World) (record : Record) (secret : String) : Prop :=
  world.store.details.get? record.id =
    some (Table.ofList [("username", record.targetName), ("password", secret)])

/-- Unless its create is pending, the owner of a record that carries the lock for a user has been
told the secret of the user, if there is one. -/
def IsFrank (world : World) (id : RecordId) : Prop :=
  ∀ record, world.store.get? id = some record → record.kind = .user → record.isClaimed = true →
    record.metadata.isCreatePending = false →
    ∀ secret, world.plane.secret? record.targetName = some secret → world.Tells record secret

end World

namespace Request

/-- A request that changes no markers, tells nobody anything and adds no user. -/
def IsDiscreet : Request → Prop
  | .putMetadata _ _ | .publish _ _ => False
  | .remote call => ∀ user secret, call ≠ .addUser user secret
  | _ => True

/-- A discreet request that takes nothing away. -/
def IsGentle (request : Request) : Prop :=
  request.IsDiscreet ∧ request.isRemoval = false

variable {request : Request} {world : World}

theorem Reads.isGentle (reads : request.Reads) : request.IsGentle := by
  refine ⟨?_, (@Reads.tends default request reads).2⟩
  cases request with
  | remote call =>
      rintro user secret rfl
      cases reads
  | readRecord _ | listRecords => trivial
  | _ => cases reads

theorem IsGentle.withholds (gentle : request.IsGentle) : request.Withholds := by
  cases request with
  | publish _ _ => exact gentle.1
  | erase _ => cases gentle.2
  | _ => trivial

/-- A discreet request erases a record, or it changes no more than its status. -/
theorem IsDiscreet.get?_answer (discreet : request.IsDiscreet) (id : RecordId) :
    (world.answer request).2.store.get? id = none ∨
      ∃ current status, world.store.get? id = some current ∧
        (world.answer request).2.store.get? id = some { current with status } ∧
        (world.answer request).2.store.details.get? id = world.store.details.get? id := by
  have unchanged : ∀ later : World, later.store.get? id = world.store.get? id →
      later.store.details.get? id = world.store.details.get? id →
      later.store.get? id = none ∨
        ∃ current status, world.store.get? id = some current ∧
          later.store.get? id = some { current with status } ∧
          later.store.details.get? id = world.store.details.get? id := by
    intro later same told
    rw [same]
    cases world.store.get? id with
    | none => exact .inl rfl
    | some current => exact .inr ⟨current, current.status, rfl, rfl, told⟩
  cases request with
  | readRecord _ | listRecords | now | secret | remote _ => exact unchanged _ rfl rfl
  | putMetadata _ _ | publish _ _ => exact discreet.elim
  | putStatus other status =>
      simp only [World.answer, Store.putStatus, Store.modify]
      cases stored : world.store.get? other with
      | none => exact unchanged world rfl rfl
      | some found =>
          have named := world.store.id_of_get? stored
          by_cases own : id = other
          · refine .inr ⟨found, status, ?_, ?_, rfl⟩
            · rw [own, stored]
            · exact (Store.get?_put _ _ _).trans (if_pos (own.trans named.symm))
          · apply unchanged
            · exact (Store.get?_put _ _ _).trans (if_neg fun same => own (same.trans named))
            · rfl
  | erase other =>
      simp only [World.answer, Store.erase]
      cases world.store.get? other with
      | none => exact unchanged world rfl rfl
      | some found =>
          by_cases own : id = other
          · exact .inl ((Store.get?_without _ _ _).trans (if_pos own))
          · apply unchanged
            · exact (Store.get?_without _ _ _).trans (if_neg own)
            · exact Table.get?_erase_of_ne own

/-- A discreet request makes no secret. -/
theorem IsDiscreet.addsNoSecret (discreet : request.IsDiscreet) (name : String) :
    world.plane.AddsNoSecret name (world.answer request).2.plane := by
  have written : ∀ result, world.plane.AddsNoSecret name (world.write result).2.plane := by
    intro result
    cases result
    all_goals exact Plane.addsNoSecret_of_eq rfl
  cases request with
  | remote call => exact Plane.addsNoSecret_perform discreet
  | putStatus _ _ | erase _ => exact written _
  | putMetadata _ _ | publish _ _ => exact discreet.elim
  | readRecord _ | listRecords | now | secret => exact Plane.addsNoSecret_of_eq rfl

/-- Whatever was told before a gentle request is told after it, and is as true. -/
theorem IsGentle.secret?_answer (gentle : request.IsGentle) (name : String) :
    (world.answer request).2.plane.secret? name = world.plane.secret? name := by
  have written : ∀ result, (world.write result).2.plane.secret? name = world.plane.secret? name := by
    intro result
    cases result
    all_goals rfl
  cases request with
  | remote call => exact Plane.secret?_perform gentle.1 gentle.2
  | putStatus _ _ | putMetadata _ _ | publish _ _ | erase _ => exact written _
  | readRecord _ | listRecords | now | secret => rfl

/-- Nothing that has been told becomes wrong by a discreet request. -/
theorem IsDiscreet.isFrank (discreet : request.IsDiscreet) {id : RecordId}
    (frank : world.IsFrank id) : (world.answer request).2.IsFrank id := by
  intro record stored kind claimed unmarked secret held
  rcases discreet.get?_answer id with gone | ⟨current, status, before, after, told⟩
  · cases gone.symm.trans stored
  · cases after.symm.trans stored
    cases world.store.id_of_get? before
    have early := frank current before kind claimed unmarked secret
      (discreet.addsNoSecret _ secret held)
    exact told.trans early

end Request

namespace World

/-- Nobody is misled by a new secret for the user of a record: there is none of the name, or nobody
else has the lock. -/
def IsFree (world : World) (record : Record) : Prop :=
  world.plane.secret? record.targetName = none ∨
    ∀ rival, world.store.get? rival.id = some rival → rival.isRivalOf record = false

/-- The owner of a record knows the secret of its user. -/
def Assures (world : World) (record : Record) : Prop :=
  ∃ secret, world.plane.secret? record.targetName = some secret ∧ world.Tells record secret

instance (world : World) (record : Record) : Decidable (world.Assures record) :=
  inferInstanceAs <| Decidable <| ∃ secret ∈ world.plane.secret? record.targetName,
    world.store.details.get? record.id =
      some (Table.ofList [("username", record.targetName), ("password", secret)])

/-- One world came of another, the record is for the same user or gone, and what its owner has been
told is true. The user has no other secret than before if that would mislead somebody. -/
structure Upholds (before : World) (record : Record) (world : World) : Prop where
  flaky : world.plane.IsFlaky
  own : ∀ current, world.store.get? record.id = some current →
    current.kind = record.kind ∧ current.targetName = record.targetName
  frank : world.IsFrank record.id
  fair : before.IsFree record ∨ before.plane.AddsNoSecret record.targetName world.plane

/-- One world came of another, and the user of a record may be given any secret there: its owner is
not taken for informed, and nobody else is misled. -/
structure IsCreating (before : World) (record : Record) (world : World) : Prop where
  flaky : world.plane.IsFlaky
  own : ∀ current, world.store.get? record.id = some current →
    current.kind = record.kind ∧ current.targetName = record.targetName
  unsettled : ∀ current, world.store.get? record.id = some current →
    current.isClaimed = false ∨ current.metadata.isCreatePending = true
  free : before.IsFree record

variable {before world : World} {record : Record} {request : Request}

theorem isFlaky_answer (flaky : world.plane.IsFlaky) (request : Request) :
    (world.answer request).2.plane.IsFlaky :=
  @World.answer_keeps_plane Plane.IsFlaky (fun _ call flaky => flaky.perform call) request world
    flaky

/-- While a record is created, nothing that was told of secrets becomes untrue. -/
theorem IsCreating.upholds (creating : before.IsCreating record world) :
    before.Upholds record world where
  flaky := creating.flaky
  own := creating.own
  frank := by
    intro current stored _ claimed unmarked
    rcases creating.unsettled current stored with unclaimed | pending
    · cases claimed.symm.trans unclaimed
    · cases unmarked.symm.trans pending
  fair := .inl creating.free

theorem IsCreating.of_store (creating : before.IsCreating record world) {later : World}
    (flaky : later.plane.IsFlaky) (same : later.store = world.store) :
    before.IsCreating record later := by
  refine ⟨flaky, ?_, ?_, creating.free⟩
  · rw [same]
    exact creating.own
  · rw [same]
    exact creating.unsettled

/-- At first the user has no other secret than before. -/
theorem upholds_start (flaky : world.plane.IsFlaky)
    (stored : world.store.get? record.id = some record) (frank : world.IsFrank record.id) :
    world.Upholds record world := by
  refine ⟨flaky, ?_, frank, .inr fun _ held => held⟩
  intro current present
  cases stored.symm.trans present
  exact ⟨rfl, rfl⟩

/-- A discreet request leaves what has been told of secrets as true as it was. -/
theorem Upholds.answer (upholds : before.Upholds record world) (discreet : request.IsDiscreet) :
    before.Upholds record (world.answer request).2 where
  flaky := isFlaky_answer upholds.flaky request
  own := by
    intro current stored
    rcases discreet.get?_answer record.id with gone | ⟨early, status, held, after, -⟩
    · cases gone.symm.trans stored
    · cases after.symm.trans stored
      exact upholds.own early held
  frank := discreet.isFrank upholds.frank
  fair := upholds.fair.imp (fun free => free) fun adds => adds.trans (discreet.addsNoSecret _)

/-- A gentle request takes no secret away that has been told. -/
theorem Assures.answer (assures : world.Assures record) (gentle : request.IsGentle) :
    (world.answer request).2.Assures record := by
  obtain ⟨secret, held, told⟩ := assures
  have details : (world.answer request).2.store.details = world.store.details :=
    gentle.withholds.keeps rfl
  refine ⟨secret, (gentle.secret?_answer _).trans held, ?_⟩
  unfold Tells
  rw [details]
  exact told

end World

namespace Pass

variable {α : Type} {pass : Pass α} {before world : World} {record : Record}

/-- Work that is discreet throughout leaves what has been told as true as it was. -/
theorem Only.ends_upholds (only : Only Request.IsDiscreet pass)
    (upholds : before.Upholds record world) :
    Ends pass world (fun _ later => before.Upholds record later)
      (fun _ later => before.Upholds record later) :=
  only.ends (fun _ _ discreet upholds => upholds.answer discreet) upholds

/-- Work that is gentle throughout takes no secret away that has been told. -/
theorem Only.ends_assures (only : Only Request.IsGentle pass) (assures : world.Assures record) :
    Ends pass world (fun _ later => later.Assures record) (fun _ later => later.Assures record) :=
  only.ends (fun _ _ gentle assures => assures.answer gentle) assures

/-- Calls alone do not end the creation of a record. -/
theorem Only.ends_creating (only : Only Request.IsRemote pass)
    (creating : before.IsCreating record world) :
    Ends pass world (fun _ later => before.IsCreating record later)
      (fun _ later => before.IsCreating record later) := by
  refine only.ends (fun request later isRemote creating => ?_) creating
  apply creating.of_store (World.isFlaky_answer creating.flaky request)
  cases request with
  | secret | remote _ => rfl
  | _ => exact isRemote.elim

end Pass

namespace User

variable {record : Record} {spec : UserSpec} {world : World}

/-- A user who has been added has the secret that was given. -/
theorem addUser_tells (operation resource name secret : String) :
    Ends (perform operation resource (.addUser name secret)) world
      (fun _ later => later.plane.secret? name = some secret) (fun _ _ => True) := by
  rw [ends_perform]
  unfold Plane.perform
  rcases world.plane.enter (.addUser name secret) with ⟨fault, later⟩
  cases fault with
  | some error => trivial
  | none =>
      change (later.addUser name secret).secret? name = some secret
      unfold Plane.addUser Plane.putUser Plane.secret?
      rw [Table.get?_insert, if_pos rfl]
      rfl

/-- Whatever is settled of its policies, a user keeps its secret. -/
theorem Binds.isGentle {name : String} {request : Request} (binds : Binds name request) :
    request.IsGentle := by
  cases request with
  | remote call =>
      cases call with
      | listCannedPolicies | userInfo _ | setUserPolicies _ _ | attachUserPolicies _ _
      | detachUserPolicies _ _ => exact ⟨nofun, rfl⟩
      | _ => exact binds.elim
  | _ => exact binds.elim

/-- A registration hands over the secret that the user has. -/
theorem register_tells (binding : PolicyBinding) :
    Ends (register binding record) world
      (fun creation later => ∃ secret, later.plane.secret? record.targetName = some secret ∧
        creation = creationOf record.targetName secret)
      (fun _ _ => True) := by
  unfold register
  refine ends_of_last fun spec _ => ?_
  refine ends_of_last fun _ _ => ?_
  refine ends_of_last fun secret _ => ?_
  rw [ends_bind]
  apply (addUser_tells "add user" record.targetName record.targetName secret).mono
  · intro _ later held
    dsimp only
    split
    · rw [ends_bind]
      have keeps : ∀ (request : Request) (world : World), Binds record.targetName request →
          world.plane.secret? record.targetName = some secret →
          (world.answer request).2.plane.secret? record.targetName = some secret :=
        fun _ _ binds held => (binds.isGentle.secret?_answer _).trans held
      have applied := (only_applyPolicies binding record.targetName spec.policies).ends keeps held
      exact applied.mono (fun _ _ held => ⟨secret, held, rfl⟩) fun _ _ _ => trivial
    · exact ⟨secret, held, rfl⟩
  · intro error later _
    trivial

end User

namespace Pass

variable {α β : Type}

/-- With flaky faults, the pass does not fail because something exists already. -/
def IsUnopposed (pass : Pass α) : Prop :=
  ∀ world : World, world.plane.IsFlaky →
    Ends pass world (fun _ later => later.plane.IsFlaky) fun error _ => error.isAlreadyExists = false

theorem isUnopposed_pure (value : α) : IsUnopposed (pure value : Pass α) :=
  fun _ flaky => flaky

theorem isUnopposed_throw {error : PassError} (apart : error.isAlreadyExists = false) :
    IsUnopposed (throw error : Pass α) :=
  fun _ _ => apart

theorem isUnopposed_ask (request : Request) : IsUnopposed (ask request) :=
  fun _ flaky => World.isFlaky_answer flaky request

/-- What is put together from parts that meet no rival meets none. -/
theorem IsUnopposed.bind {pass : Pass α} {next : α → Pass β} (first : pass.IsUnopposed)
    (rest : ∀ value, (next value).IsUnopposed) : (pass >>= next).IsUnopposed := by
  intro world flaky
  rw [ends_bind]
  exact (first world flaky).mono (fun value later flaky => rest value later flaky)
    fun _ _ apart => apart

/-- A call is unopposed that would be if no fault were armed. -/
theorem isUnopposed_perform {operation resource : String} {call : RemoteCall}
    (responds : ∀ (plane : Plane) error, (plane.respond call).1 = .error error →
      (PassError.ofRemote operation resource error).isAlreadyExists = false) :
    IsUnopposed (perform operation resource call) := by
  intro world flaky
  have left := flaky.perform call
  rw [ends_perform]
  cases answered : (world.plane.perform call).1 with
  | ok result => exact left
  | error error =>
      rcases flaky.perform_cases call with ⟨reason, faulted⟩ | same
      · rw [answered] at faulted
        cases call
        case listObjects => cases faulted
        all_goals
          cases faulted
          rfl
      · rw [same] at answered
        exact responds _ error answered

/-- A call that could change something is unopposed, unless it makes a bucket. -/
theorem isUnopposed_change {operation resource : String} {call : RemoteCall}
    (changes : call.isMutating = true) (other : ∀ bucket region, call ≠ .makeBucket bucket region) :
    IsUnopposed (perform operation resource call) := by
  refine isUnopposed_perform fun plane error refused => Bool.eq_false_iff.2 fun told => ?_
  obtain ⟨what, rfl⟩ := PassError.isAlreadyExists_ofRemote told
  exact (plane.responds call).ne_alreadyExists changes other refused

end Pass

namespace User

variable {record : Record} {spec : UserSpec}

/-- To look whether policies exist meets no rival. -/
theorem isUnopposed_checkPoliciesExist (policies : List String) :
    (checkPoliciesExist policies).IsUnopposed := by
  unfold checkPoliciesExist
  split
  · exact isUnopposed_pure _
  · refine IsUnopposed.bind (isUnopposed_perform ?_) fun known => ?_
    · intro plane error failed
      cases failed
    · split
      · exact isUnopposed_throw rfl
      · exact isUnopposed_pure _

/-- To give a user its policies meets no rival, under either binding. -/
theorem isUnopposed_applyPolicies (binding : PolicyBinding) (name : String)
    (desired : List String) : (applyPolicies binding name desired).IsUnopposed := by
  cases binding with
  | replace => exact isUnopposed_change rfl nofun
  | attach =>
      have detaches : ∀ detached : List String, IsUnopposed (do
          if detached ≠ [] then
            perform "detach user policies" name (.detachUserPolicies name detached)) := by
        intro detached
        split
        · exact isUnopposed_change rfl nofun
        · exact isUnopposed_pure _
      refine IsUnopposed.bind (isUnopposed_perform ?_) fun info => ?_
      · intro plane error failed
        obtain ⟨-, rfl⟩ := Plane.not_has_of_sought? rfl failed
        rfl
      · dsimp only
        split
        · exact IsUnopposed.bind (isUnopposed_change rfl nofun) fun _ => detaches _
        · exact detaches _

/-- To add a user who exists is no failure. -/
theorem isUnopposed_register (binding : PolicyBinding) (asked : record.spec = .user spec) :
    (register binding record).IsUnopposed := by
  unfold register
  rw [specOf_eq asked]
  change IsUnopposed (checkPoliciesExist spec.policies >>= _)
  refine IsUnopposed.bind (isUnopposed_checkPoliciesExist _) fun _ => ?_
  refine IsUnopposed.bind (isUnopposed_ask _) fun secret => ?_
  refine IsUnopposed.bind (isUnopposed_change rfl nofun) fun _ => ?_
  split
  · exact IsUnopposed.bind (isUnopposed_applyPolicies _ _ _) fun _ => isUnopposed_pure _
  · exact isUnopposed_pure _

/-- A probe finds the user or not, if it finds out. -/
theorem probe_tells (flaky : world.plane.IsFlaky) (record : Record) :
    Ends (probe record) world
      (fun seen later => seen.isSome = (later.plane.secret? record.targetName).isSome)
      (fun _ _ => True) := by
  have left : (world.plane.perform (.userInfo record.targetName)).2.secret? record.targetName =
      world.plane.secret? record.targetName := Plane.secret?_perform nofun rfl
  simp only [probe, ends_bind]
  rw [ends_call]
  rcases flaky.perform_cases (.userInfo record.targetName) with ⟨reason, faulted⟩ | same
  · rw [faulted]
    trivial
  · have answered : (world.plane.perform (.userInfo record.targetName)).1 =
        world.plane.userInfo record.targetName := by
      rw [same]
      rfl
    rw [answered]
    unfold Plane.userInfo
    unfold Plane.secret? at left ⊢
    cases present : world.plane.users.get? record.targetName with
    | none =>
        rw [present] at left
        exact (congrArg Option.isSome left).symm
    | some user =>
        rw [present] at left
        exact (congrArg Option.isSome left).symm

end User

end Steward
