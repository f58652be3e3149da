/-
This file shows that the credentials that the owner of a user record is told are those of the user.
A user is given a new secret whenever it is added, and that is told with the claim of the user. So
the old details are wrong from the one to the other, and the record is not claimed then or its
create is pending.
-/

import Steward.Proofs.Backing
import Steward.Proofs.Foresight
import Steward.Proofs.Gate
import Steward.Proofs.Isolation
import Steward.Proofs.Ownership
import Steward.Proofs.Secrets

namespace Steward

open Pass

/-- A resource that is observed does not count as absent. -/
theorem Client.regard_ne_absent (client : Client) (record : Record) (observed : Observed) :
    client.regard record (some observed) ≠ .ok .absent := by
  unfold regard
  dsimp only
  split
  · cases client.diff record observed
    · nofun
    · nofun
  · split
    · nofun
    · nofun

/-- Whether the owner of a record is to know the secret of its user after an outcome. As long as a
create is pending, nothing is said of what is found or amended. -/
def Outcome.Informs (record : Record) : Outcome → Prop
  | .created => True
  | .updated _ | .upToDate => record.metadata.isCreatePending = false
  | .deleted | .forgotten | .gone => False

theorem Record.exists_spec_of_user {record : Record} (kind : record.kind = .user) :
    ∃ spec, record.spec = .user spec := by
  rw [Record.kind] at kind
  cases asked : record.spec with
  | user spec => exact ⟨spec, rfl⟩
  | bucket _ | policy _ | serviceAccount _ =>
      rw [asked] at kind
      cases kind

namespace Engine

variable {engine : Engine} {before world : World} {record : Record}

/-- A report after the claim leaves what has been told. -/
theorem only_report_isGentle (engine : Engine) (kind : Kind) (record : Record)
    (outcome : Outcome) (seen : Option Observed → Option Observed) :
    Only Request.IsGentle (do
      reportSuccess record (seen (← glance (engine.clientOf kind) record))
      return outcome) := by
  refine Only.bind (only_glance (fun _ reads => reads.isGentle) engine kind record) fun found => ?_
  refine Only.bind (only_reportSuccess ⟨trivial, rfl⟩ (fun _ _ => ⟨trivial, rfl⟩) _) fun _ => ?_
  exact only_pure _

/-- What a gentle pass finds assured stays so. -/
theorem ends_of_gentle {α : Type} {pass : Pass α} (only : Only Request.IsGentle pass)
    (upholds : before.Upholds record world) {condition : Prop}
    (assures : condition → world.Assures record) :
    Ends pass world
      (fun _ later => before.Upholds record later ∧ (condition → later.Assures record))
      (fun _ later => before.Upholds record later) := by
  have discreet : Only Request.IsDiscreet pass := only.mono fun _ gentle => gentle.1
  have upheld := discreet.ends_upholds upholds
  by_cases holds : condition
  · refine (upheld.and (only.ends_assures (assures holds))).mono ?_ ?_
    · exact fun _ _ ended => ⟨ended.1, fun _ => ended.2⟩
    · exact fun _ _ ended => ended.1
  · refine upheld.mono ?_ fun _ _ upholds => upholds
    exact fun _ _ upholds => ⟨upholds, fun condition => absurd condition holds⟩

/-- With the claim the owner is told the secret that the user has. -/
theorem commit_assures (kind : Kind) {secret : String}
    (held : world.plane.secret? record.targetName = some secret)
    (creating : before.IsCreating record world) :
    Ends (commit (engine.clientOf kind) record (User.creationOf record.targetName secret)) world
      (fun _ later => before.Upholds record later ∧ later.Assures record)
      (fun _ later => before.Upholds record later) := by
  let creation := User.creationOf record.targetName secret
  rw [commit_eq, ends_bind, ends_putMetadata]
  cases stored : world.store.get? record.id with
  | none => exact creating.upholds
  | some current =>
      have named := world.store.id_of_get? stored
      have something : creation.details ≠ ∅ := Table.insert_ne_empty _ _ _
      unfold announce
      dsimp only
      rw [if_pos something, ends_bind, ends_publish, Store.get?_put, if_pos named.symm]
      let claimed : Record := { current with metadata := claimedMetadata record creation }
      let later : World := { world with
        store := (world.store.put claimed).handOver record.id creation.details }
      have told : later.Tells record secret :=
        (Table.get?_insert _ _ _ _).trans (if_pos rfl)
      have kept : later.store.get? record.id = some claimed :=
        (Store.get?_put _ _ _).trans (if_pos named.symm)
      have upholds : before.Upholds record later := by
        refine ⟨creating.flaky, ?_, ?_, .inl creating.free⟩
        · intro another present
          cases kept.symm.trans present
          exact creating.own current stored
        · intro another present _ _ _ known found
          cases kept.symm.trans present
          have called : claimed.targetName = record.targetName := (creating.own current stored).2
          rw [called] at found
          cases held.symm.trans found
          unfold World.Tells at told ⊢
          rw [called]
          exact (congrArg later.store.details.get? named).trans told
      have reports := engine.only_report_isGentle kind
        { record with metadata := claimedMetadata record creation } .created id
      refine (ends_of_gentle reports upholds fun _ : True => ⟨secret, held, told⟩).mono ?_ ?_
      · exact fun _ _ ended => ⟨ended.1, ended.2 trivial⟩
      · exact fun _ _ upholds => upholds

/-- To take a marker back changes nothing else. -/
theorem releasePending_upholds (upholds : before.Upholds record world)
    (harmless : record.isClaimed = false ∨ world.plane.secret? record.targetName = none) :
    Ends (releasePending record) world (fun _ later => before.Upholds record later)
      (fun _ later => before.Upholds record later) := by
  rw [releasePending, ends_putMetadata]
  cases stored : world.store.get? record.id with
  | none => exact upholds
  | some current =>
      have named := world.store.id_of_get? stored
      let released : Record := { current with metadata := record.metadata.clearCreatePending }
      have kept : (world.store.put released).get? record.id = some released :=
        (Store.get?_put _ _ _).trans (if_pos named.symm)
      refine ⟨upholds.flaky, ?_, ?_, upholds.fair⟩
      · intro another present
        cases kept.symm.trans present
        exact upholds.own current stored
      · intro another present _ claimed _ known found
        cases kept.symm.trans present
        rcases harmless with unclaimed | gone
        · have still : released.isClaimed = record.isClaimed :=
            Metadata.isClaimed_clearCreatePending record.metadata
          cases claimed.symm.trans (still.trans unclaimed)
        · have called : released.targetName = record.targetName := (upholds.own current stored).2
          rw [called] at found
          cases gone.symm.trans found

/-- After a create that failed, the marker is taken back only if there is no user. -/
theorem abandonCreate_upholds (kind : record.kind = .user)
    (creating : before.IsCreating record world) :
    Ends (abandonCreate (engine.clientOf record.kind) record) world
      (fun _ later => before.Upholds record later) (fun _ later => before.Upholds record later) := by
  rw [kind]
  have calls : Only Request.IsRemote (User.probe record) := by
    refine Only.bind (only_call trivial) fun answer => ?_
    exact Only.bind (only_found answer) fun _ => only_pure _
  unfold abandonCreate
  rw [ends_bind, ends_attempt]
  refine ((calls.ends_creating creating).and (User.probe_tells creating.flaky record)).mono ?_ ?_
  · rintro seen later ⟨creating, found⟩
    cases seen with
    | some observed => exact creating.upholds
    | none =>
        have gone : later.plane.secret? record.targetName = none :=
          Option.isNone_iff_eq_none.1 (Option.isSome_eq_false_iff.1 found.symm)
        dsimp only
        rw [ends_bind, ends_attempt]
        exact releasePending_upholds creating.upholds (.inr gone)
  · rintro error later ⟨creating, -⟩
    exact creating.upholds

/-- A registration is told with the claim if it succeeds, and nothing is told if it fails. -/
theorem register_assures (kind : record.kind = .user) (wasPending : Bool)
    (creating : before.IsCreating record world) :
    Ends (do
        let answer ← attempt ((engine.clientOf record.kind).create record)
        concludeCreate (engine.clientOf record.kind) record wasPending answer) world
      (fun _ later => before.Upholds record later ∧ later.Assures record)
      (fun _ later => before.Upholds record later) := by
  obtain ⟨spec, asked⟩ := Record.exists_spec_of_user kind
  have creates := (engine.only_clientCreate_isRemote record).ends_creating creating
  have tells : Ends ((engine.clientOf record.kind).create record) world
      (fun creation later => ∃ secret, later.plane.secret? record.targetName = some secret ∧
        creation = User.creationOf record.targetName secret)
      (fun error _ => error.isAlreadyExists = false) := by
    rw [kind]
    have registers := (User.register_tells engine.binding).and
      (User.isUnopposed_register engine.binding asked world creating.flaky)
    exact registers.mono (fun _ _ told => told.1) fun _ _ failed => failed.2
  rw [ends_bind, ends_attempt]
  refine (creates.and tells).mono ?_ ?_
  · rintro _ later ⟨creating, secret, held, rfl⟩
    exact commit_assures record.kind held creating
  · rintro error later ⟨creating, apart⟩
    simp only [concludeCreate, apart, Bool.false_eq_true, not_false_eq_true, if_true]
    rw [ends_bind]
    exact (abandonCreate_upholds kind creating).mono (fun _ _ upholds => upholds)
      fun _ _ upholds => upholds

/-- What holds of the marked record holds of the record. -/
theorem upholds_of_pending (upholds : before.Upholds record.pending world) :
    before.Upholds record world := by
  rcases record.pending_eq with same | marked
  · rwa [same] at upholds
  · rw [marked] at upholds
    exact ⟨upholds.flaky, upholds.own, upholds.frank, upholds.fair⟩

theorem assures_of_pending (assures : world.Assures record.pending) : world.Assures record := by
  rcases record.pending_eq with same | marked
  · rwa [same] at assures
  · rwa [marked] at assures

/-- A create for a user who was not there assures the owner, or promises nothing. -/
theorem create_assures (kind : record.kind = .user) (flaky : world.plane.IsFlaky)
    (stored : world.store.get? record.id = some record) (free : before.IsFree record) :
    Ends (create (engine.clientOf record.kind) record) world
      (fun _ later => before.Upholds record later ∧ later.Assures record)
      (fun _ later => before.Upholds record later) := by
  rw [create_eq, ends_bind]
  refine (markPending_effect stored).mono ?_ fun _ _ never => never.elim
  rintro _ _ ⟨rfl, store, wrote, rfl⟩
  have creating : before.IsCreating record.pending { world with store } := by
    refine ⟨flaky, ?_, ?_, ?_⟩
    · intro current present
      cases wrote.get?_self.symm.trans present
      exact ⟨rfl, rfl⟩
    · intro current present
      cases wrote.get?_self.symm.trans present
      exact .inr record.isCreatePending_pending
    · rcases record.pending_eq with same | marked
      · rwa [same]
      · rw [marked]
        exact free
  have registers := @register_assures engine before _ record.pending
    (record.kind_pending.trans kind) record.metadata.isCreatePending creating
  rw [record.kind_pending] at registers
  refine registers.mono ?_ ?_
  · rintro outcome later ⟨upholds, assures⟩
    exact ⟨upholds_of_pending upholds, assures_of_pending assures⟩
  · exact fun _ _ upholds => upholds_of_pending upholds

/-- A create that was cut short is ended only if nobody else has the lock. -/
theorem resume_assures (kind : record.kind = .user) (upholds : before.Upholds record world)
    (same : world.store = before.store) (stored : world.store.get? record.id = some record)
    (unclaimed : record.isClaimed = false) :
    Ends (resume (engine.clientOf record.kind) record) world
      (fun _ later => before.Upholds record later ∧ later.Assures record)
      (fun _ later => before.Upholds record later) := by
  simp only [resume, hasRival, ends_bind, ends_listRecords, ends_pure]
  rw [same]
  by_cases rival : before.store.list.any (·.isRivalOf record) = true
  · rw [if_pos rival]
    simp only [ends_bind, ends_throw]
    exact (releasePending_upholds upholds (.inl unclaimed)).mono (fun _ _ upholds => upholds)
      fun _ _ upholds => upholds
  · rw [if_neg rival]
    have creating : before.IsCreating record world := by
      refine ⟨upholds.flaky, upholds.own, ?_, .inr ?_⟩
      · intro current present
        cases stored.symm.trans present
        exact .inl unclaimed
      · intro other present
        rw [Bool.not_eq_true, List.any_eq_false] at rival
        exact Bool.eq_false_iff.2 (rival other (before.store.mem_list_iff.2 present))
    have creates : Only Request.IsRemote ((engine.clientOf record.kind).resumeCreate record) :=
      (engine.only_resumeCreate record).mono fun _ works => works.1
    have tells : Ends ((engine.clientOf record.kind).resumeCreate record) world
        (fun creation later => ∃ secret, later.plane.secret? record.targetName = some secret ∧
          creation = User.creationOf record.targetName secret)
        (fun _ _ => True) := by
      rw [kind]
      exact User.register_tells engine.binding
    simp only [ends_bind]
    refine ((creates.ends_creating creating).and tells).mono ?_ ?_
    · rintro _ later ⟨creating, secret, held, rfl⟩
      exact commit_assures record.kind held creating
    · rintro error later ⟨creating, -⟩
      exact creating.upholds

/-- What a look at a user shows is what is there. -/
theorem observe_tells (kind : record.kind = .user) (flaky : world.plane.IsFlaky) :
    Ends ((engine.clientOf record.kind).observe record) world
      (fun seen later => (seen = .absent → later.plane.secret? record.targetName = none) ∧
        ∀ observed drifts, seen = .owned observed drifts →
          ∃ secret, later.plane.secret? record.targetName = some secret)
      (fun _ _ => True) := by
  rw [kind, Client.observe_eq, ends_bind]
  apply (User.probe_tells flaky record).mono
  · intro seen later found
    rw [ends_lift]
    cases seen with
    | none =>
        have gone : later.plane.secret? record.targetName = none :=
          Option.isNone_iff_eq_none.1 (Option.isSome_eq_false_iff.1 found.symm)
        refine ⟨fun _ => gone, fun observed drifts owned => ?_⟩
        cases owned
    | some observed =>
        have held := Option.isSome_iff_exists.1 found.symm
        cases regarded : (engine.clientOf .user).regard record (some observed) with
        | error error => trivial
        | ok observation =>
            refine ⟨?_, fun _ _ _ => held⟩
            rintro rfl
            exact absurd regarded (Client.regard_ne_absent _ _ _)
  · intro error later _
    trivial

/-- To delete a user marks no record, tells nobody anything and adds no user. -/
theorem only_delete_isDiscreet (kind : record.kind = .user) :
    Only Request.IsDiscreet (delete (engine.clientOf record.kind) record) := by
  have erases : Only Request.IsDiscreet (do
      Pass.erase record.id
      return Outcome.deleted) :=
    Only.bind (Only.bind (only_ask trivial) only_written) fun _ => only_pure _
  have removes : Only Request.IsDiscreet ((engine.clientOf record.kind).delete record false) := by
    rw [kind]
    exact only_perform nofun
  refine Only.bind (only_ask trivial) fun now => ?_
  refine Only.bind (only_ask trivial) fun _ => ?_
  refine Only.bind removes.attempt fun answer => ?_
  dsimp only
  split
  · exact erases
  · split
    · exact Only.bind (only_throw _) fun _ => erases
    · exact erases

/-- To update a user marks no record, tells nobody anything, and neither adds nor removes a user. -/
theorem only_update_isGentle (kind : record.kind = .user) (observed : Observed)
    (drifts : List Drift) :
    Only Request.IsGentle (update (engine.clientOf record.kind) record observed drifts) := by
  refine Only.bind ?_ fun _ => ?_
  · rw [kind]
    exact (User.only_update_binds engine.binding record drifts).mono fun _ binds => binds.isGentle
  · exact engine.only_report_isGentle record.kind record _ fun found => some (found.getD observed)

/-- What a record needs is done, and its owner is told in the end what is true. -/
theorem drive_assures (kind : record.kind = .user) (flaky : before.plane.IsFlaky)
    (stored : before.store.get? record.id = some record) (frank : before.IsFrank record.id) :
    Ends (drive (engine.clientOf record.kind) record) before
      (fun outcome later =>
        before.Upholds record later ∧ (outcome.Informs record → later.Assures record))
      (fun _ later => before.Upholds record later) := by
  have start := World.upholds_start flaky stored frank
  rw [drive, ends_ite]
  split
  · have deletes : Ends (delete (engine.clientOf record.kind) record) before
        (fun outcome _ => outcome = .deleted) fun _ _ => True := delete_ends_deleted
    refine (((only_delete_isDiscreet kind).ends_upholds start).and deletes).mono ?_ ?_
    · rintro _ later ⟨upholds, rfl⟩
      exact ⟨upholds, False.elim⟩
    · exact fun _ _ ended => ended.1
  · have looks := engine.only_observe record.kind record
    have discreet : Only Request.IsDiscreet ((engine.clientOf record.kind).observe record) :=
      looks.mono fun _ reads => reads.isGentle.1
    have still : Ends ((engine.clientOf record.kind).observe record) before
        (fun _ later => later.store = before.store ∧
          later.plane.secret? record.targetName = before.plane.secret? record.targetName)
        (fun _ _ => True) := by
      refine (looks.ends (fun request world reads same => ?_) ⟨rfl, rfl⟩).mono
        (fun _ _ same => same) fun _ _ _ => trivial
      exact ⟨reads.store_answer.trans same.1, (reads.isGentle.secret?_answer _).trans same.2⟩
    have seeing := ((discreet.ends_upholds start).and still).and
      ((@observe_tells engine _ _ kind flaky).and (ends_observe_lock _ record before))
    rw [ends_bind]
    refine seeing.mono ?_ ?_
    · rintro seen later ⟨⟨upholds, same, secrets⟩, ⟨gone, there⟩, locked, bare⟩
      have present : later.store.get? record.id = some record := by rwa [same]
      cases seen with
      | absent =>
          have free : before.IsFree record := .inl (secrets.symm.trans (gone rfl))
          exact (create_assures kind upholds.flaky present free).mono
            (fun _ _ ended => ⟨ended.1, fun _ => ended.2⟩) fun _ _ upholds => upholds
      | unclaimed observed =>
          exact (resume_assures kind upholds same present (bare _ rfl)).mono
            (fun _ _ ended => ⟨ended.1, fun _ => ended.2⟩) fun _ _ upholds => upholds
      | owned observed drifts =>
          have assures : record.metadata.isCreatePending = false → later.Assures record := by
            intro unmarked
            obtain ⟨secret, held⟩ := there observed drifts rfl
            have claimed := locked observed drifts rfl
            exact ⟨secret, held, upholds.frank record present kind claimed unmarked secret held⟩
          cases drifts with
          | nil =>
              have reports : Only Request.IsGentle (reportSuccess record (some observed)) :=
                only_reportSuccess ⟨trivial, rfl⟩ (fun _ _ => ⟨trivial, rfl⟩) _
              apply (ends_bind _ _).2
              exact ends_of_gentle reports upholds assures
          | cons drift drifts =>
              have updates := ends_of_gentle
                (@only_update_isGentle engine _ kind observed (drift :: drifts))
                upholds assures
              refine (updates.and update_ends_updated).mono ?_ fun _ _ ended => ended.1
              rintro _ final ⟨ended, rfl⟩
              exact ended
    · rintro error later ⟨⟨upholds, -⟩, -⟩
      exact upholds

/-- Whatever a pass does with the record of a user that it has read, what the owner has been told
stays true, and an outcome that informs the owner assures that the credentials are good. -/
theorem advance_assures (kind : record.kind = .user) (flaky : before.plane.IsFlaky)
    (stored : before.store.get? record.id = some record) (frank : before.IsFrank record.id) :
    Ends (engine.advance record) before
      (fun outcome later =>
        before.Upholds record later ∧ (outcome.Informs record → later.Assures record))
      (fun _ later => before.Upholds record later) := by
  have start := World.upholds_start flaky stored frank
  have forgets : Only Request.IsDiscreet (Pass.erase record.id) :=
    Only.bind (only_ask trivial) only_written
  refine ends_advance (fun _ => start) (fun _ _ => ?_) fun _ _ _ => ?_
  · rw [ends_bind]
    exact (forgets.ends_upholds start).mono (fun _ _ upholds => ⟨upholds, False.elim⟩)
      fun _ _ upholds => upholds
  · exact drive_assures kind flaky stored frank

/-- A pass for a user record tells its owner what is true, whatever cannot be reached. -/
theorem pass_assures (kind : record.kind = .user) (flaky : before.plane.IsFlaky)
    (stored : before.store.get? record.id = some record) (frank : before.IsFrank record.id) :
    Ends (engine.pass record.id) before
      (fun outcome later =>
        before.Upholds record later ∧ (outcome.Informs record → later.Assures record))
      (fun _ later => before.Upholds record later) := by
  rw [ends_pass stored]
  refine (advance_assures kind flaky stored frank).mono (fun _ _ ended => ended) ?_
  intro error later upholds
  have reports : Only Request.IsDiscreet (reportError record error) :=
    only_reportError trivial (fun _ _ _ => trivial) error
  exact (reports.ends_upholds upholds).mono (fun _ _ upholds => upholds) fun _ _ upholds => upholds

end Engine

/-- No owner of a record has been told anything wrong. -/
structure World.IsTruthful (world : World) : Prop where
  flaky : world.plane.IsFlaky
  frank : ∀ id, world.IsFrank id

/-- A move of a user or of a pass, a fault that shows the remote side out of reach, or a user who is
removed by somebody else. A record that is new carries no markers. -/
def Move.IsBenign (world : World) : Move → Prop
  | .apply record => world.store.get? record.id = none → record.metadata = ∅
  | .requestDeletion _ _ | .reconcile _ _ => True
  | .disturb change =>
      (∃ operation reason, change = fun plane => plane.failNext operation (.unavailable reason)) ∨
        ∃ user, change = fun plane => (plane.perform (.removeUser user)).2

/-- No record that carries the lock is given a user who is there and is not its own. -/
def Move.KeepsUser (world : World) : Move → Prop
  | .apply record => ∀ existing ∈ world.store.get? record.id, existing.isClaimed = true →
      record.kind = .user → world.plane.users.contains record.targetName = true →
      existing.kind = .user ∧ existing.targetName = record.targetName
  | _ => True

/-- No pass adds a user whose lock another record carries. -/
def Move.SparesOthers (engine : Engine) (world : World) : Move → Prop
  | .reconcile id cancelled => ∀ other ∈ world.store.list, other.id ≠ id → other.kind = .user →
      other.isClaimed = true → world.plane.users.contains other.targetName = false →
      ((engine.reconcile id cancelled).after world).plane.users.contains other.targetName = false
  | _ => True

instance (world : World) : (move : Move) → Decidable (move.KeepsUser world)
  | .apply record => inferInstanceAs <| Decidable <| ∀ existing ∈ world.store.get? record.id,
      existing.isClaimed = true → record.kind = .user →
        world.plane.users.contains record.targetName = true →
        existing.kind = .user ∧ existing.targetName = record.targetName
  | .requestDeletion _ _ | .reconcile _ _ | .disturb _ => .isTrue trivial

instance (engine : Engine) (world : World) : (move : Move) →
    Decidable (move.SparesOthers engine world)
  | .reconcile id cancelled => inferInstanceAs <| Decidable <| ∀ other ∈ world.store.list,
      other.id ≠ id → other.kind = .user → other.isClaimed = true →
        world.plane.users.contains other.targetName = false →
        ((engine.reconcile id cancelled).after world).plane.users.contains other.targetName = false
  | .apply _ | .requestDeletion _ _ | .disturb _ => .isTrue trivial

namespace Engine

variable {engine : Engine} {world : World} {record : Record}

/-- A pass touches no user but that of its record. -/
theorem of_touches_user {fresh name : String} (touches : record.Touches fresh (.user, name)) :
    record.kind = .user ∧ record.targetName = name := by
  rcases touches with own | ⟨-, made⟩
  · unfold Record.resource? at own
    split at own
    · obtain ⟨accessKey, -, made⟩ := Option.map_eq_some_iff.1 own
      cases made
    · exact Prod.mk.inj (Option.some.inj own)
  · cases made

/-- What a pass for a user record upholds is true for all records of the user. -/
theorem frank_of_upholds {later : World} (kind : record.kind = .user)
    (upholds : world.Upholds record later) {other : Record}
    (truthful : world.IsTruthful) (stored : world.store.get? other.id = some other)
    (apart : other.id ≠ record.id) (user : other.kind = .user)
    (named : other.targetName = record.targetName) (claimed : other.isClaimed = true)
    (unmarked : other.metadata.isCreatePending = false)
    (spared : world.plane.users.contains other.targetName = false →
      later.plane.users.contains other.targetName = false)
    {secret : String} (held : later.plane.secret? other.targetName = some secret) :
    world.Tells other secret := by
  rcases upholds.fair with (absent | free) | adds
  · rw [named] at spared held
    have gone := spared (Plane.secret?_eq_none_iff.1 absent)
    cases (Plane.secret?_eq_none_iff.2 gone).symm.trans held
  · have rival : other.isRivalOf record = true :=
      Record.isRivalOf_iff.2 ⟨apart, user.trans kind.symm, named, claimed⟩
    cases (free other stored).symm.trans rival
  · have early : world.plane.secret? other.targetName = some secret := by
      rw [named] at held ⊢
      exact adds secret held
    exact truthful.frank other.id other stored user claimed unmarked secret early

/-- A pass leaves every owner told what is true. -/
theorem reconcile_isTruthful (truthful : world.IsTruthful) {id : RecordId} {cancelled : Bool}
    (spares : Move.SparesOthers engine world (.reconcile id cancelled)) :
    ((engine.reconcile id cancelled).after world).IsTruthful := by
  have keeps : ∀ (request : Request) (world : World), world.plane.IsFlaky →
      (world.answer request).2.plane.IsFlaky := fun request _ flaky =>
    World.isFlaky_answer flaky request
  refine ⟨after_keeps keeps _ truthful.flaky, fun other => ?_⟩
  cases cancelled with
  | true => exact truthful.frank other
  | false =>
      cases stored : world.store.get? id with
      | none =>
          rw [after_reconcile_of_missing stored]
          exact truthful.frank other
      | some record =>
          cases world.store.id_of_get? stored
          let later := (engine.reconcile record.id false).after world
          have stays : world.StaysWithin record
              (record.Touches (ServiceAccount.nextCredentials world.plane).accessKey) later :=
            (ends_pass_of_stored stored rfl).after_of_both
          have upheld : record.kind = .user → world.Upholds record later := by
            intro kind
            have ends : Ends (engine.pass record.id) world
                (fun _ later => world.Upholds record later)
                (fun _ later => world.Upholds record later) :=
              (pass_assures kind truthful.flaky stored (truthful.frank record.id)).mono
                (fun _ _ ended => ended.1) fun _ _ upholds => upholds
            exact ends.after_of_both
          by_cases own : other = record.id
          · rw [own]
            by_cases kind : record.kind = .user
            · exact (upheld kind).frank
            · intro current present user
              rcases stays.own with gone | ⟨metadata, status, left⟩
              · cases gone.symm.trans present
              · cases left.symm.trans present
                exact absurd user kind
          · intro current present user claimed unmarked secret held
            have same := later.store.id_of_get? present
            have early : world.store.get? other = some current :=
              (stays.records other own).symm.trans present
            have told : world.Tells current secret := by
              by_cases touches : record.Touches
                  (ServiceAccount.nextCredentials world.plane).accessKey (.user, current.targetName)
              · obtain ⟨kind, named⟩ := of_touches_user touches
                subst same
                exact frank_of_upholds kind (upheld kind) truthful early own user named.symm claimed
                  unmarked (spares current (world.store.mem_list_iff.2 early) own user claimed) held
              · have secrets : later.plane.secret? current.targetName =
                    world.plane.secret? current.targetName :=
                  Plane.secret?_of_sameAt (stays.plane .user _ touches)
                exact truthful.frank other current early user claimed unmarked secret
                  (secrets.symm.trans held)
            subst same
            exact (stays.details current.id own).trans told

end Engine

namespace Store

/-- To declare a record publishes nothing. -/
theorem details_apply (store : Store) (record : Record) :
    (store.apply record).2.details = store.details := by
  unfold apply
  split
  · split
    · rfl
    · rfl
  · rfl

/-- To ask for a deletion publishes nothing. -/
theorem details_requestDeletion (store : Store) (id : RecordId) (now : Timestamp) :
    ((store.requestDeletion id now).toOption.getD store).details = store.details := by
  unfold requestDeletion
  cases store.get? id with
  | none => rfl
  | some record =>
      dsimp only
      split
      · rfl
      · rfl

end Store

namespace World.IsTruthful

variable {world : World}

/-- A record may be written over another if the owner has been told as much for the new one. -/
theorem of_writes (truthful : world.IsTruthful) {store : Store} {written : Record}
    (wrote : world.store.Writes written store) (details : store.details = world.store.details)
    (fine : written.kind = .user → written.isClaimed = true →
      written.metadata.isCreatePending = false →
      ∀ secret, world.plane.secret? written.targetName = some secret →
        world.Tells written secret) :
    ({ world with store } : World).IsTruthful := by
  refine ⟨truthful.flaky, fun id record stored kind claimed unmarked secret held => ?_⟩
  change store.get? id = some record at stored
  have told : world.Tells record secret := by
    rw [wrote.get?] at stored
    split at stored
    · cases stored
      exact fine kind claimed unmarked secret held
    · exact truthful.frank id record stored kind claimed unmarked secret held
  unfold Tells at told ⊢
  rw [details]
  exact told

/-- A declaration keeps the published credentials true, if no lock comes to stand for a user who is
not its record's own. -/
theorem apply (truthful : world.IsTruthful) {record : Record}
    (benign : Move.IsBenign world (.apply record)) (keeps : Move.KeepsUser world (.apply record)) :
    ({ world with store := (world.store.apply record).2 } : World).IsTruthful := by
  rcases world.store.apply_writes record with ⟨absent, wrote⟩ | ⟨existing, generation, stored, wrote⟩
  · apply truthful.of_writes wrote (Store.details_apply _ _)
    intro _ claimed
    rw [Record.isClaimed, benign absent] at claimed
    cases claimed
  · have own := world.store.id_of_get? stored
    apply truthful.of_writes wrote (Store.details_apply _ _)
    intro kind claimed unmarked secret held
    have named : ({ existing with
        spec := record.spec
        credentialsRef := record.credentialsRef
        generation } : Record).targetName = record.targetName := by
      unfold Record.targetName
      rw [own]
    rw [named] at held
    have present : world.plane.users.contains record.targetName = true := by
      by_contra absent
      have gone := Plane.secret?_eq_none_iff.2 (Bool.not_eq_true _ ▸ absent)
      cases gone.symm.trans held
    obtain ⟨user, same⟩ := keeps existing stored claimed kind present
    have told : world.Tells existing secret := by
      apply truthful.frank existing.id existing (own ▸ stored) user claimed unmarked
      rw [same]
      exact held
    unfold World.Tells at told ⊢
    rw [named, ← same]
    exact told

/-- To ask for a deletion keeps the published credentials true. -/
theorem requestDeletion (truthful : world.IsTruthful) (id : RecordId) (now : Timestamp) :
    ({ world with
        store := (world.store.requestDeletion id now).toOption.getD world.store } :
      World).IsTruthful := by
  rcases world.store.requestDeletion_writes id now with same | ⟨record, stored, wrote⟩
  · rw [same]
    exact truthful
  · apply truthful.of_writes wrote (Store.details_requestDeletion _ _ _)
    intro kind claimed unmarked secret held
    exact truthful.frank record.id record stored kind claimed unmarked secret held

/-- An outage keeps the published credentials true, and so does the removal of a user. -/
theorem disturb (truthful : world.IsTruthful) {change : Plane → Plane}
    (benign : Move.IsBenign world (.disturb change)) :
    ({ world with plane := change world.plane } : World).IsTruthful := by
  rcases benign with ⟨operation, reason, rfl⟩ | ⟨user, rfl⟩
  · refine ⟨fun other error armed => ?_, truthful.frank⟩
    change (world.plane.faults.next.insert operation _).get? other = some error at armed
    rw [Table.get?_insert] at armed
    split at armed
    · cases armed
      exact ⟨reason, rfl⟩
    · exact truthful.flaky other error armed
  · refine ⟨truthful.flaky.perform _, fun id => ?_⟩
    have discreet : (Request.remote (.removeUser user)).IsDiscreet := nofun
    exact discreet.isFrank (truthful.frank id)

end World.IsTruthful

namespace Engine

variable {engine : Engine} {world : World}

/-- Every such move leaves every owner told what is true. -/
theorem carryOut_isTruthful (truthful : world.IsTruthful) {move : Move}
    (benign : move.IsBenign world) (keeps : move.KeepsUser world)
    (spares : move.SparesOthers engine world) : (engine.carryOut world move).IsTruthful := by
  cases move with
  | apply record => exact truthful.apply benign keeps
  | requestDeletion id now => exact truthful.requestDeletion id now
  | reconcile id cancelled => exact reconcile_isTruthful truthful spares
  | disturb change => exact truthful.disturb benign

/-- Whatever users, passes and the world outside do, a pass that has created the user of a record, or
has found it with no create pending, leaves the owner told the secret that the user has. This holds
as long as no record that carries the lock is given another user who is there, and no pass adds a
user whose lock another record carries. -/
theorem published_credentials_work (engine : Engine) (capacity : Nat) (clock : Supply Timestamp)
    (secrets : Supply String) (world : World)
    (reached : engine.Reaches (fun world move =>
      move.IsBenign world ∧ move.KeepsUser world ∧ move.SparesOthers engine world)
      (.fresh capacity clock secrets) world)
    (record : Record) (stored : world.store.get? record.id = some record)
    (kind : record.kind = .user) (cancelled : Bool) (outcome : Outcome)
    (answered : (engine.reconcile record.id cancelled).answer world = .ok outcome)
    (informs : outcome.Informs record) :
    ((engine.reconcile record.id cancelled).after world).Assures record := by
  have truthful : world.IsTruthful := by
    apply reached.keeps
    · refine ⟨fun operation error armed => ?_, fun id other present => ?_⟩
      · cases armed
      · have absent : (Store.ofCapacity capacity).get? id = none := Table.get?_empty id
        cases absent.symm.trans present
    · rintro world move ⟨benign, keeps, spares⟩ truthful
      exact carryOut_isTruthful truthful benign keeps spares
  cases cancelled with
  | true => cases answered
  | false =>
      have ends := @pass_assures engine _ _ kind truthful.flaky stored (truthful.frank record.id)
      exact (ends.of_ok answered).2 informs

end Engine

namespace Sample

def customer (id name : String) (policies : List String) : Record where
  id := .plain id
  spec := .user { userName := some name, policies }

/-- A world without records in which no two secrets are alike. -/
def untold : World :=
  .fresh 16 (.constant default) ⟨fun count => String.ofList (List.replicate count 'x'), 0⟩

/-- The world after a move that takes the user "alice" away. -/
def dismissed (world : World) : World :=
  engine.carryOut world (.disturb fun plane => (plane.perform (.removeUser "alice")).2)

/-- A record for the user "alice" has been declared, and its pass has added her. -/
def hired : World :=
  engine.carryOut (engine.carryOut untold (.apply (customer "first" "alice" [])))
    (.reconcile (.plain "first") false)

/-- Another record has added the user "bob", and then it has been made one for "alice". -/
def renamed : World :=
  engine.carryOut
    (engine.carryOut (engine.carryOut hired (.apply (customer "second" "bob" [])))
      (.reconcile (.plain "second") false))
    (.apply (customer "second" "alice" []))

/-- The user "alice" has been taken away, and another record has added her again. -/
def replaced : World :=
  engine.carryOut (engine.carryOut (dismissed hired) (.apply (customer "second" "alice" [])))
    (.reconcile (.plain "second") false)

def permission : Record where
  id := .plain "reading"
  spec := .policy { policyName := none, allowBucket := none, rawPolicy := some "\x7b\x7d" }

/-- A user has been added with a policy that is there. -/
def entrusted : World :=
  engine.carryOut
    (engine.carryOut
      (engine.carryOut (engine.carryOut untold (.apply permission))
        (.reconcile (.plain "reading") false))
      (.apply (customer "first" "alice" ["reading"])))
    (.reconcile (.plain "first") false)

/-- That user has been taken away, and then been added again without the policy, as the remote side
could not be reached any more. -/
def stranded : World :=
  engine.carryOut
    (engine.carryOut (dismissed entrusted) (.disturb fun plane =>
      plane.failNext "set_user_policies" (.unavailable "down")))
    (.reconcile (.plain "first") false)

end Sample

namespace Engine

variable {engine : Engine} {world : World} {record : Record}

/-- A user who has vanished is added again, and the owner is told the new secret. -/
theorem published_credentials_work_of_dismissed :
    Sample.engine.Reaches (fun world move =>
        move.IsBenign world ∧ move.KeepsUser world ∧ move.SparesOthers Sample.engine world)
        Sample.untold (Sample.dismissed Sample.hired) ∧
      ∃ record, (Sample.dismissed Sample.hired).store.get? record.id = some record ∧
        record.kind = .user ∧
        (Sample.engine.reconcile record.id false).answer (Sample.dismissed Sample.hired) =
          .ok .created ∧
        Outcome.created.Informs record ∧
        ((Sample.engine.reconcile record.id false).after (Sample.dismissed Sample.hired)).Assures
          record := by
  have reached : Sample.engine.Reaches (fun world move =>
      move.IsBenign world ∧ move.KeepsUser world ∧ move.SparesOthers Sample.engine world)
      Sample.untold (Sample.dismissed Sample.hired) := by
    refine .move (.disturb _) (.move (.reconcile _ _) (.move (.apply _) .first ?_) ?_) ?_
    · exact ⟨fun _ => rfl, by decide +kernel, trivial⟩
    · exact ⟨trivial, trivial, by decide +kernel⟩
    · exact ⟨.inr ⟨"alice", rfl⟩, trivial, trivial⟩
  let record := ((Sample.dismissed Sample.hired).store.get? (.plain "first")).getD default
  have stored : (Sample.dismissed Sample.hired).store.get? record.id = some record := by
    decide +kernel
  have kind : record.kind = .user := by decide +kernel
  have answered : (Sample.engine.reconcile record.id false).answer
      (Sample.dismissed Sample.hired) = .ok .created := by decide +kernel
  exact ⟨reached, record, stored, kind, answered, trivial,
    published_credentials_work Sample.engine 16 _ _ _ reached record stored kind false .created
      answered trivial⟩

/-- After admitted moves, a pass for a user record that ends as told assures its owner. -/
def CredentialsWork (admitted : Engine → World → Move → Prop)
    (told : Record → Outcome → Prop) : Prop :=
  ∀ (engine : Engine) (capacity : Nat) (clock : Supply Timestamp) (secrets : Supply String)
    (world : World), engine.Reaches (admitted engine) (.fresh capacity clock secrets) world →
    ∀ record, world.store.get? record.id = some record → record.kind = .user →
      ∀ outcome, (engine.reconcile record.id false).answer world = .ok outcome →
        told record outcome → ((engine.reconcile record.id false).after world).Assures record

/-- One pass that misleads the owner of its record is enough. -/
theorem not_credentialsWork {admitted : Engine → World → Move → Prop}
    {told : Record → Outcome → Prop} {capacity : Nat} {clock : Supply Timestamp}
    {secrets : Supply String}
    (reached : engine.Reaches (admitted engine) (.fresh capacity clock secrets) world)
    {outcome : Outcome} (fits : told record outcome)
    (misled : world.store.get? record.id = some record ∧ record.kind = .user ∧
      (engine.reconcile record.id false).answer world = .ok outcome ∧
      ¬ ((engine.reconcile record.id false).after world).Assures record) :
    ¬ CredentialsWork admitted told := by
  intro works
  obtain ⟨stored, kind, answered, wrong⟩ := misled
  exact wrong (works engine capacity clock secrets world reached record stored kind outcome answered
    fits)

/-- Owners have been told a wrong secret if their record has been given the user of another, if a
pass for another record has added the user again, or if that could not be ended. -/
theorem credentials_can_be_stale :
    ¬ CredentialsWork (fun engine world move =>
        move.IsBenign world ∧ move.SparesOthers engine world)
        (fun record outcome => outcome.Informs record) ∧
      ¬ CredentialsWork (fun _ world move => move.IsBenign world ∧ move.KeepsUser world)
        (fun record outcome => outcome.Informs record) ∧
      ¬ CredentialsWork (fun engine world move =>
        move.IsBenign world ∧ move.KeepsUser world ∧ move.SparesOthers engine world)
        (fun _ outcome => ∃ fields, outcome = .updated fields) := by
  refine ⟨?_, ?_, ?_⟩
  · have reached : Sample.engine.Reaches (fun world move =>
        move.IsBenign world ∧ move.SparesOthers Sample.engine world)
        Sample.untold Sample.renamed := by
      refine .move (.apply _) (.move (.reconcile _ _) (.move (.apply _) (.move (.reconcile _ _)
        (.move (.apply _) .first ?_) ?_) ?_) ?_) ?_
      · exact ⟨fun _ => rfl, trivial⟩
      · exact ⟨trivial, by decide +kernel⟩
      · exact ⟨fun _ => rfl, trivial⟩
      · exact ⟨trivial, by decide +kernel⟩
      · exact ⟨fun _ => rfl, trivial⟩
    let record := (Sample.renamed.store.get? (.plain "second")).getD default
    have unmarked : record.metadata.isCreatePending = false := by decide +kernel
    have informs : Outcome.upToDate.Informs record := unmarked
    exact not_credentialsWork reached informs (by decide +kernel)
  · have reached : Sample.engine.Reaches (fun world move =>
        move.IsBenign world ∧ move.KeepsUser world) Sample.untold Sample.replaced := by
      refine .move (.reconcile _ _) (.move (.apply _) (.move (.disturb _) (.move (.reconcile _ _)
        (.move (.apply _) .first ?_) ?_) ?_) ?_) ?_
      · exact ⟨fun _ => rfl, by decide +kernel⟩
      · exact ⟨trivial, trivial⟩
      · exact ⟨.inr ⟨"alice", rfl⟩, trivial⟩
      · exact ⟨fun _ => rfl, by decide +kernel⟩
      · exact ⟨trivial, trivial⟩
    let record := (Sample.replaced.store.get? (.plain "first")).getD default
    have unmarked : record.metadata.isCreatePending = false := by decide +kernel
    have informs : Outcome.upToDate.Informs record := unmarked
    exact not_credentialsWork reached informs (by decide +kernel)
  · have reached : Sample.engine.Reaches (fun world move =>
        move.IsBenign world ∧ move.KeepsUser world ∧ move.SparesOthers Sample.engine world)
        Sample.untold Sample.stranded := by
      refine .move (.reconcile _ _) (.move (.disturb _) (.move (.disturb _) (.move (.reconcile _ _)
        (.move (.apply _) (.move (.reconcile _ _) (.move (.apply _) .first
          ?_) ?_) ?_) ?_) ?_) ?_) ?_
      · exact ⟨fun _ => rfl, by decide +kernel, trivial⟩
      · exact ⟨trivial, trivial, by decide +kernel⟩
      · exact ⟨fun _ => rfl, by decide +kernel, trivial⟩
      · exact ⟨trivial, trivial, by decide +kernel⟩
      · exact ⟨.inr ⟨"alice", rfl⟩, trivial, trivial⟩
      · exact ⟨.inl ⟨_, _, rfl⟩, trivial, trivial⟩
      · exact ⟨trivial, trivial, by decide +kernel⟩
    let record := (Sample.stranded.store.get? (.plain "first")).getD default
    have misled : Sample.stranded.store.get? record.id = some record ∧ record.kind = .user ∧
        (Sample.engine.reconcile record.id false).answer Sample.stranded =
          .ok (.updated [.policies]) ∧
        ¬ ((Sample.engine.reconcile record.id false).after Sample.stranded).Assures record := by
      decide +kernel
    exact not_credentialsWork reached ⟨_, rfl⟩ misled

end Engine

end Steward
