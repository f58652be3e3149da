/-
This file shows that a pass keeps to its own record and to the resource of that record.
Every request of a pass concerns its record, but for the one that makes a service account. That
one is given a key that has never been given before, as long as there are such keys.
-/

import Steward.Proofs.Conduct
import Steward.Proofs.Inventory
import Steward.Proofs.Runs

namespace Steward

open Pass Plane

namespace Plane

/-- Every service account is under the key of a number that has been given. -/
structure IsNumbered (plane : Plane) : Prop where
  bounded : plane.lastKey ≤ Word.max
  numbered : ∀ accessKey, plane.accounts.contains accessKey = true →
    ∃ number, number ≤ plane.lastKey ∧ accessKey = accessKeyOf number

variable {plane after : Plane}

/-- While neither the accounts nor the last number change, the keys stay numbered. -/
theorem IsNumbered.of_same (fine : plane.IsNumbered) (accounts : after.accounts = plane.accounts)
    (lastKey : after.lastKey = plane.lastKey) : after.IsNumbered := by
  obtain ⟨bounded, numbered⟩ := fine
  rw [← lastKey] at bounded
  rw [← accounts, ← lastKey] at numbered
  exact ⟨bounded, numbered⟩

/-- To count a call leaves the keys numbered. -/
theorem IsNumbered.enter (fine : plane.IsNumbered) (call : RemoteCall) :
    (plane.enter call).2.IsNumbered := by
  unfold Plane.enter
  cases call.isMutating
  all_goals exact fine.of_same rfl rfl

/-- The numbers of the accounts that were there before are not above the next one, which belongs
to the next key. The other calls for accounts make no key. -/
theorem IsNumbered.responds {call : RemoteCall} {answer : Except RemoteError call.Result}
    (fine : plane.IsNumbered) (responds : plane.Responds call answer after) :
    after.IsNumbered := by
  cases responds with
  | addsServiceAccount _ =>
      refine ⟨Nat.min_le_right _ _, fun accessKey held => ?_⟩
      dsimp only at held ⊢
      rw [Table.contains, Table.get?_insert] at held
      split at held
      · rename_i same
        exact ⟨_, Nat.le_refl _, same⟩
      · obtain ⟨number, small, same⟩ := fine.numbered accessKey held
        have bounded := fine.bounded
        have next : number ≤ min (plane.lastKey + 1) Word.max := by omega
        exact ⟨number, next, same⟩
  | updatesServiceAccount present =>
      refine ⟨fine.bounded, fun other held => fine.numbered other ?_⟩
      dsimp only at held
      rw [Table.contains, Table.get?_insert] at held
      split at held
      · rename_i same
        rw [same, Table.contains, present]
        rfl
      · exact held
  | deletesServiceAccount _ =>
      refine ⟨fine.bounded, fun other held => fine.numbered other ?_⟩
      dsimp only at held
      rw [Table.contains, Table.get?_erase] at held
      split at held
      · cases held
      · exact held
  | _ => exact fine.of_same rfl rfl

theorem IsNumbered.perform (fine : plane.IsNumbered) (call : RemoteCall) :
    (plane.perform call).2.IsNumbered :=
  perform_keeps (fine.enter call) fun later entered => entered.responds (later.responds call)

theorem IsNumbered.seedBucket (fine : plane.IsNumbered) (bucket : String) :
    (plane.seedBucket bucket).IsNumbered := by
  unfold Plane.seedBucket
  split
  · exact fine
  · exact fine.of_same rfl rfl

/-- No change from outside makes a service account but by a call. -/
theorem IsNumbered.disturbed (fine : plane.IsNumbered) (disturbance : Disturbance) :
    (disturbance.apply plane).IsNumbered := by
  cases disturbance with
  | seedBucket bucket => exact fine.seedBucket bucket
  | putObject bucket key => exact (fine.seedBucket bucket).of_same rfl rfl
  | enableObjectLock bucket => exact (fine.seedBucket bucket).of_same rfl rfl
  | insertUser user policies => exact fine.of_same rfl rfl
  | insertPolicy name document => exact fine.of_same rfl rfl
  | changeFaults change => exact fine.of_same rfl rfl
  | call call => exact fine.perform call

end Plane

/-- Every move keeps the service accounts under the keys of their numbers. -/
theorem Engine.carryOut_numbered {engine : Engine} {world : World} {move : Move}
    (ordinary : move.IsOrdinary) (fine : world.plane.IsNumbered) :
    (engine.carryOut world move).plane.IsNumbered := by
  cases move with
  | apply record => exact fine
  | requestDeletion id now => exact fine
  | disturb change =>
      obtain ⟨disturbance, rfl⟩ := ordinary
      exact fine.disturbed disturbance
  | reconcile id cancelled =>
      have calls : ∀ (plane : Plane) (call : RemoteCall), plane.IsNumbered →
          (plane.perform call).2.IsNumbered := fun _ call fine => fine.perform call
      have keeps : ∀ (request : Request) (world : World), world.plane.IsNumbered →
          (world.answer request).2.plane.IsNumbered := fun request _ fine =>
        World.answer_keeps_plane calls request fine
      exact after_keeps keeps _ fine

/-- On every remote side that is reached from an empty one, the keys are numbered. -/
theorem Engine.Reaches.isNumbered {engine : Engine} {origin world : World}
    (reached : engine.Reaches (fun _ move => move.IsOrdinary) origin world)
    (empty : origin.plane = {}) : world.plane.IsNumbered := by
  apply reached.keeps
  · rw [empty]
    refine ⟨Nat.zero_le _, fun accessKey held => ?_⟩
    cases held
  · intro world move ordinary fine
    exact engine.carryOut_numbered ordinary fine

/-- One world came of another, and of its records and their details only those of one may have
changed, and of the remote side only some resources. The record is gone, or it has other markers
and another status. -/
structure World.StaysWithin (before : World) (record : Record) (touched : Kind × String → Prop)
    (after : World) : Prop where
  records : ∀ id, id ≠ record.id → after.store.get? id = before.store.get? id
  details : ∀ id, id ≠ record.id → after.store.details.get? id = before.store.details.get? id
  own : after.store.get? record.id = none ∨ ∃ metadata status,
    after.store.get? record.id = some (record.marked metadata status)
  plane : ∀ kind name, ¬ touched (kind, name) → before.plane.SameAt after.plane kind name

/-- The resources that a pass for a record may change: its own, and for a service account also one
under a new key. -/
def Record.Touches (record : Record) (fresh : String) (resource : Kind × String) : Prop :=
  record.resource? = some resource ∨
    (record.kind = .serviceAccount ∧ resource = (.serviceAccount, fresh))

namespace World.StaysWithin

variable {before world : World} {record : Record} {touched : Kind × String → Prop}

theorem refl (stored : before.store.get? record.id = some record) :
    before.StaysWithin record touched before where
  records := fun _ _ => rfl
  details := fun _ _ => rfl
  own := .inr ⟨record.metadata, record.status, stored⟩
  plane := fun kind name _ => Plane.SameAt.refl _ kind name

/-- The record may get other markers and another status. -/
theorem put (stays : before.StaysWithin record touched world) (metadata : Metadata)
    (status : Status) :
    before.StaysWithin record touched
      { world with store := world.store.put (record.marked metadata status) } where
  records := by
    intro id apart
    exact (Store.get?_put _ _ _).trans ((if_neg apart).trans (stays.records id apart))
  details := stays.details
  own := by
    exact .inr ⟨metadata, status, (Store.get?_put _ _ _).trans (if_pos rfl)⟩
  plane := stays.plane

/-- What is written into the record that is stored is written into the record. -/
theorem modify (stays : before.StaysWithin record touched world) {change : Record → Record}
    (marks : ∀ metadata status, ∃ others further,
      change (record.marked metadata status) = record.marked others further) :
    before.StaysWithin record touched (world.write (world.store.modify record.id change)).2 := by
  unfold Store.modify
  rcases stays.own with gone | ⟨metadata, status, stored⟩
  · rw [gone]
    exact stays
  · rw [stored]
    obtain ⟨others, further, same⟩ := marks metadata status
    change before.StaysWithin record touched
      { world with store := world.store.put (change (record.marked metadata status)) }
    rw [same]
    exact stays.put others further

/-- To publish details of the record stays within it. -/
theorem publish (stays : before.StaysWithin record touched world) (details : Details) :
    before.StaysWithin record touched (world.write (world.store.publish record.id details)).2 := by
  unfold Store.publish
  split
  · refine ⟨stays.records, fun id apart => ?_, stays.own, stays.plane⟩
    exact (Table.get?_insert_of_ne apart).trans (stays.details id apart)
  · exact stays

/-- To erase the record stays within it. -/
theorem erase (stays : before.StaysWithin record touched world) :
    before.StaysWithin record touched (world.write (world.store.erase record.id)).2 := by
  unfold Store.erase
  split
  · refine ⟨fun id apart => ?_, fun id apart => ?_, .inl ?_, stays.plane⟩
    · exact (Table.get?_erase_of_ne apart).trans (stays.records id apart)
    · exact (Table.get?_erase_of_ne apart).trans (stays.details id apart)
    · exact (world.store.get?_without record.id record.id).trans (if_pos rfl)
  · exact stays

/-- A call may change what may be touched. -/
theorem perform (stays : before.StaysWithin record touched world) {call : RemoteCall}
    (fine : ∀ resource, world.plane.resourceOf call = some resource → touched resource) :
    before.StaysWithin record touched (world.answer (.remote call)).2 := by
  refine ⟨stays.records, stays.details, stays.own, fun kind name apart => ?_⟩
  have kept : world.plane.SameAt (world.plane.perform call).2 kind name :=
    Plane.sameAt_perform call fun same => apart (fine _ same)
  exact (stays.plane kind name apart).trans kept

end World.StaysWithin

namespace RemoteCall.Concerns

variable {call : RemoteCall} {record : Record}

/-- A call that concerns a record makes no service account. -/
theorem ne_addServiceAccount (concerns : call.Concerns record) (account : ServiceAccount) :
    call ≠ .addServiceAccount account := by
  rintro rfl
  rcases concerns with reading | ⟨resource, named, -⟩
  · cases reading
  · cases named

/-- A call that concerns a record changes no resource but that of the record. -/
theorem own_of_resourceOf (concerns : call.Concerns record) {plane : Plane}
    {resource : Kind × String} (changes : plane.resourceOf call = some resource) :
    record.resource? = some resource := by
  have named : plane.resourceOf call = call.resource? := by
    cases call with
    | addServiceAccount account => exact absurd rfl (concerns.ne_addServiceAccount account)
    | _ => rfl
  rw [named] at changes
  rcases concerns with reading | ⟨target, worked, own⟩
  · cases call with
    | bucketExists _ | bucketPolicy _ | objectLockEnabled _ | listObjects _ | userInfo _
    | cannedPolicy _ | listCannedPolicies | serviceAccountInfo _ => cases changes
    | _ => cases reading
  · rw [own, ← worked, changes]

end RemoteCall.Concerns

/-- Every request that concerns a record stays within it. -/
theorem Request.Concerns.staysWithin {before world : World} {record : Record}
    {touched : Kind × String → Prop} {request : Request} (concerns : request.Concerns record)
    (own : ∀ resource, record.resource? = some resource → touched resource)
    (stays : before.StaysWithin record touched world) :
    before.StaysWithin record touched (world.answer request).2 := by
  cases request with
  | readRecord _ | listRecords | now | secret =>
      exact ⟨stays.records, stays.details, stays.own, stays.plane⟩
  | remote call =>
      exact stays.perform fun resource changes =>
        own resource (concerns.own_of_resourceOf changes)
  | putStatus id status =>
      cases concerns
      exact stays.modify fun metadata _ => ⟨metadata, status, rfl⟩
  | putMetadata id metadata =>
      cases concerns
      exact stays.modify fun _ status => ⟨metadata, status, rfl⟩
  | publish id details =>
      cases concerns
      exact stays.publish details
  | erase id =>
      cases concerns
      exact stays.erase

/-- A request that concerns a record takes no number for a service account. -/
theorem Request.Concerns.lastKey {world : World} {record : Record} {request : Request}
    (concerns : request.Concerns record) :
    (world.answer request).2.plane.lastKey = world.plane.lastKey := by
  have written : ∀ result, (world.write result).2.plane.lastKey = world.plane.lastKey := by
    intro result
    cases result
    · rfl
    · rfl
  cases request with
  | readRecord _ | listRecords | now | secret => rfl
  | remote call => exact Plane.lastKey_perform concerns.ne_addServiceAccount
  | putStatus _ _ | putMetadata _ _ | publish _ _ | erase _ => exact written _

/-- One world came of another, with a record and its resource touched at most, and no service
account was made. -/
structure World.MakesNone (before : World) (record : Record) (fresh : String) (after : World) :
    Prop where
  stays : before.StaysWithin record (record.Touches fresh) after
  lastKey : after.plane.lastKey = before.plane.lastKey

namespace Engine

variable {engine : Engine} {before world : World} {record : Record} {fresh : String}

/-- Work that concerns one record stays within it, however it ends. -/
theorem ends_staysWithin {α : Type} {pass : Pass α} (only : Only (Request.Concerns record) pass)
    (stays : before.StaysWithin record (record.Touches fresh) world) :
    Ends pass world (fun _ later => before.StaysWithin record (record.Touches fresh) later)
      (fun _ later => before.StaysWithin record (record.Touches fresh) later) :=
  only.ends (fun _ _ concerns stays => concerns.staysWithin (fun _ => .inl) stays) stays

/-- Work that concerns one record makes no service account. -/
theorem ends_makesNone {α : Type} {pass : Pass α} (only : Only (Request.Concerns record) pass)
    (makes : before.MakesNone record fresh world) :
    Ends pass world (fun _ later => before.MakesNone record fresh later)
      (fun _ later => before.MakesNone record fresh later) := by
  apply only.ends ?_ makes
  intro request world concerns makes
  exact ⟨concerns.staysWithin (fun _ => .inl) makes.stays, concerns.lastKey.trans makes.lastKey⟩

section Creates

variable (next : (ServiceAccount.nextCredentials before.plane).accessKey = fresh)

include next

/-- The account that a record asks for is made under the next key. -/
theorem ends_addServiceAccount_of_makesNone {operation resource : String}
    {account : ServiceAccount} (kind : record.kind = .serviceAccount)
    (makes : before.MakesNone record fresh world) :
    Ends (perform operation resource (.addServiceAccount account)) world
      (fun _ later => before.StaysWithin record (record.Touches fresh) later)
      (fun _ later => before.StaysWithin record (record.Touches fresh) later) := by
  have given : world.plane.resourceOf (.addServiceAccount account) =
      some (.serviceAccount, fresh) := by
    rw [← next]
    simp only [Plane.resourceOf, ServiceAccount.nextCredentials, ServiceAccount.nextNumber,
      makes.lastKey]
  have fine : ∀ target, world.plane.resourceOf (.addServiceAccount account) = some target →
      record.Touches fresh target := by
    intro target changes
    cases given.symm.trans changes
    exact .inr ⟨kind, rfl⟩
  have stays := makes.stays.perform fine
  rw [ends_perform]
  split
  · exact stays
  · exact stays

/-- To make a service account touches the new key alone. -/
theorem ends_serviceAccount_create (kind : record.kind = .serviceAccount) (other : Record)
    (makes : before.MakesNone record fresh world) :
    Ends (ServiceAccount.create other) world
      (fun _ later => before.StaysWithin record (record.Touches fresh) later)
      (fun _ later => before.StaysWithin record (record.Touches fresh) later) := by
  unfold ServiceAccount.create
  rw [ends_bind, ends_lift]
  cases ServiceAccount.specOf other with
  | error error => exact makes.stays
  | ok spec =>
      dsimp only
      cases spec.policy with
      | none =>
          simp only [ends_bind]
          exact ends_addServiceAccount_of_makesNone next kind makes
      | some policy =>
          simp only [ends_bind, ends_lift]
          cases Drift.sameObject policy policy with
          | error error => exact makes.stays
          | ok same => exact ends_addServiceAccount_of_makesNone next kind makes

/-- A create touches its own resource, and the new key if it is for a service account. -/
theorem ends_create_of_makesNone (makes : before.MakesNone record fresh world) :
    Ends (create (engine.clientOf record.kind) record) world
      (fun _ later => before.StaysWithin record (record.Touches fresh) later)
      (fun _ later => before.StaysWithin record (record.Touches fresh) later) := by
  have tends : Only (Request.Concerns record) (markPending record) := only_markPending rfl
  rw [create_eq, ends_bind]
  apply ((ends_makesNone tends makes).and (ends_markPending record world)).mono
  · rintro marked later ⟨makes, rfl⟩
    rw [ends_bind, ends_attempt]
    have created : Ends ((engine.clientOf record.kind).create record.pending) later
        (fun _ last => before.StaysWithin record (record.Touches fresh) last)
        (fun _ last => before.StaysWithin record (record.Touches fresh) last) := by
      by_cases account : record.kind = .serviceAccount
      · rw [account]
        exact ends_serviceAccount_create next account record.pending makes
      · have named : record.pending.kind ≠ .serviceAccount := by rwa [record.kind_pending]
        have only := engine.only_clientCreate named
        rw [record.kind_pending] at only
        apply ends_staysWithin (only.mono ?_) makes.stays
        intro request works
        exact (works.2.of_same record.id_pending record.resource?_pending).1
    have concludes : ∀ answer last, before.StaysWithin record (record.Touches fresh) last →
        Ends (concludeCreate (engine.clientOf record.kind) record.pending
            record.metadata.isCreatePending answer) last
          (fun _ final => before.StaysWithin record (record.Touches fresh) final)
          (fun _ final => before.StaysWithin record (record.Touches fresh) final) := by
      intro answer last stays
      have only := engine.tends_concludeCreate record.id_pending record.resource?_pending
        record.metadata.isCreatePending answer
      rw [record.kind_pending] at only
      exact ends_staysWithin (only.mono fun _ tends => tends.1) stays
    apply created.mono
    · intro creation last stays
      exact concludes _ _ stays
    · intro error last stays
      exact concludes _ _ stays
  · rintro error later ⟨makes, -⟩
    exact makes.stays

/-- Whichever way a pass takes, it stays within its record and the new key. -/
theorem ends_drive_of_makesNone (makes : before.MakesNone record fresh world) :
    Ends (drive (engine.clientOf record.kind) record) world
      (fun _ later => before.StaysWithin record (record.Touches fresh) later)
      (fun _ later => before.StaysWithin record (record.Touches fresh) later) := by
  have looks : Only (Request.Concerns record) ((engine.clientOf record.kind).observe record) :=
    (engine.only_observe record.kind record).mono fun _ reads => reads.tends.1
  rw [drive, ends_ite]
  split
  · exact ends_staysWithin (engine.concerns_delete record) makes.stays
  · rw [ends_bind]
    apply (ends_makesNone looks makes).mono
    · intro seen later makes
      have stays := makes.stays
      cases seen with
      | absent => exact ends_create_of_makesNone next makes
      | unclaimed observed =>
          exact ends_staysWithin ((engine.tends_resume rfl rfl).mono fun _ tends => tends.1) stays
      | owned observed drifts =>
          have reports : Only (Request.Concerns record) (do
              reportSuccess record (some observed)
              return Outcome.upToDate) :=
            ((tends_reportSuccess rfl _).mono fun _ tends => tends.1).bind fun _ => only_pure _
          have updates : ∀ drifts, Only (Request.Concerns record)
              (update (engine.clientOf record.kind) record observed drifts) := fun drifts =>
            (engine.tends_update record observed drifts).mono fun _ tends => tends.1
          cases drifts with
          | nil => exact ends_staysWithin reports stays
          | cons drift drifts => exact ends_staysWithin (updates _) stays
    · intro error later makes
      exact makes.stays

/-- With its checks, a pass stays within its record and the new key. -/
theorem ends_advance_of_makesNone (makes : before.MakesNone record fresh world) :
    Ends (engine.advance record) world
      (fun _ later => before.StaysWithin record (record.Touches fresh) later)
      (fun _ later => before.StaysWithin record (record.Touches fresh) later) := by
  have forgets : Only (Request.Concerns record) (do
      Pass.erase record.id
      return Outcome.forgotten) := by
    refine Only.bind (Only.bind (only_ask rfl) fun result => ?_) fun _ => only_pure _
    exact only_written result
  refine ends_advance (fun _ => makes.stays) (fun _ _ => ?_) fun _ _ _ => ?_
  · exact ends_staysWithin forgets makes.stays
  · exact ends_drive_of_makesNone next makes

end Creates

/-- A failure that is told in the status stays within its record as well. -/
theorem ends_pass_of_stored (stored : before.store.get? record.id = some record)
    (next : (ServiceAccount.nextCredentials before.plane).accessKey = fresh) :
    Ends (engine.pass record.id) before
      (fun _ later => before.StaysWithin record (record.Touches fresh) later)
      (fun _ later => before.StaysWithin record (record.Touches fresh) later) := by
  have start : before.MakesNone record fresh before := ⟨.refl stored, rfl⟩
  simp only [pass, ends_bind, ends_readRecord, stored, ends_attempt]
  apply (ends_advance_of_makesNone next start).mono
  · intro outcome later stays
    exact stays
  · intro error later stays
    have reports : Only (Request.Concerns record) (reportError record error) :=
      (tends_reportError record error).mono fun _ tends => tends.1
    exact (ends_staysWithin reports stays).mono (fun _ _ stays => stays) fun _ _ stays => stays

end Engine

/-- No service account has the key, and none was ever given it. -/
def Plane.IsNewKey (plane : Plane) (accessKey : String) : Prop :=
  plane.accounts.get? accessKey = none ∧
    ∀ number, number ≤ plane.lastKey → accessKey ≠ accessKeyOf number

/-- The next key is new as long as the numbers last. -/
theorem Plane.IsNumbered.isNewKey {plane : Plane} (fine : plane.IsNumbered)
    (left : plane.lastKey < Word.max) :
    plane.IsNewKey (ServiceAccount.nextCredentials plane).accessKey := by
  have next : ServiceAccount.nextNumber plane = plane.lastKey + 1 := by
    unfold ServiceAccount.nextNumber
    omega
  rw [ServiceAccount.nextCredentials, next]
  refine ⟨get?_next_of_numbered fine.numbered, fun number small same => ?_⟩
  have given := accessKeyOf_injective same
  omega

/-- Whatever has happened, a pass leaves the other records and their details alone, and all of the
remote side but the resource of its record and, for a service account, one under a new key. Of its
record it writes the markers and the status, or it erases it. This holds as long as not every key
has been given to a service account. -/
theorem Engine.pass_is_isolated (engine : Engine) (capacity : Nat) (clock : Supply Timestamp)
    (secrets : Supply String) (world : World)
    (reached : engine.Reaches (fun _ move => move.IsOrdinary) (.fresh capacity clock secrets) world)
    (left : world.plane.lastKey < Word.max) (id : RecordId) (cancelled : Bool) :
    (world.store.get? id = none → (engine.reconcile id cancelled).after world = world) ∧
      ∀ record, world.store.get? id = some record →
        ∃ fresh, world.plane.IsNewKey fresh ∧
          world.StaysWithin record (record.Touches fresh)
            ((engine.reconcile id cancelled).after world) := by
  constructor
  · intro missing
    exact Engine.after_reconcile_of_missing missing cancelled
  · intro record stored
    have fine := reached.isNumbered rfl
    refine ⟨_, fine.isNewKey left, ?_⟩
    cases world.store.id_of_get? stored
    cases cancelled with
    | true => exact .refl stored
    | false => exact (ends_pass_of_stored stored rfl).after_of_both

namespace Sample

/-- A service account record for the user "alice". -/
def account : Record where
  id := .plain "robot"
  spec := .serviceAccount
    { parentUser := "alice", name := none, description := none, expiry := none, policy := none }

/-- The sample world after the user has been put there and the service account declared. -/
def staffed : World :=
  let hire := fun plane => Disturbance.apply plane (.insertUser "alice" [])
  engine.carryOut (engine.carryOut settled (.disturb hire)) (.apply account)

end Sample

/-- A pass that makes a service account leaves the bucket of another record alone. -/
theorem Engine.pass_is_isolated_of_new_account :
    Sample.engine.Reaches (fun _ move => move.IsOrdinary) Sample.world Sample.staffed ∧
      Sample.staffed.plane.lastKey < Word.max ∧
      ((Sample.engine.reconcile (.plain "robot") false).after Sample.staffed).plane.accounts.keys =
        ["SVCACCT00000001"] ∧
      ∃ fresh, Sample.staffed.plane.IsNewKey fresh ∧
        Sample.staffed.StaysWithin Sample.account (Sample.account.Touches fresh)
          ((Sample.engine.reconcile (.plain "robot") false).after Sample.staffed) := by
  have settled : Sample.engine.Reaches (fun _ move => move.IsOrdinary) Sample.world
      Sample.settled := .move (.reconcile _ _) (.move (.apply _) .first trivial) trivial
  have staffed : Sample.engine.Reaches (fun _ move => move.IsOrdinary) Sample.world
      Sample.staffed :=
    .move (.apply _) (.move (.disturb _) settled ⟨.insertUser "alice" [], rfl⟩) trivial
  have left : Sample.staffed.plane.lastKey < Word.max := by decide +kernel
  have stored : Sample.staffed.store.get? (.plain "robot") = some Sample.account := by decide +kernel
  have isolated := Sample.engine.pass_is_isolated _ _ _ Sample.staffed staffed left
    (.plain "robot") false
  exact ⟨staffed, left, by decide +kernel, isolated.2 Sample.account stored⟩

end Steward
