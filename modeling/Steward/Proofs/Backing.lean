/-
This file shows that the lock is behind every sign that a record owns a resource.
Such a sign is a status that says so, connection details, or the name that the remote side gave.
A pass writes none before the lock, whatever the remote side answers, and never takes the lock
back.
-/

import Steward.Proofs.Conduct
import Steward.Proofs.Runs

namespace Steward

open Pass

/-- The status says that the resource can be used, or that a pass has succeeded. -/
def Status.HasSign (status : Status) : Prop :=
  status.isReady = true ∨ status.observedGeneration ≠ 0

/-- The markers hold a name that the remote side gave, even an empty one. -/
def Metadata.HasExternalName (metadata : Metadata) : Prop :=
  Table.contains metadata Metadata.externalNameKey = true

namespace Metadata

variable {metadata : Metadata}

theorem hasExternalName_of_markCreatePending
    (named : metadata.markCreatePending.HasExternalName) : metadata.HasExternalName := by
  simpa [HasExternalName, markCreatePending, Table.contains, createPendingKey, externalNameKey]
    using named

theorem hasExternalName_of_clearCreatePending
    (named : metadata.clearCreatePending.HasExternalName) : metadata.HasExternalName := by
  simpa [HasExternalName, clearCreatePending, Table.contains, createPendingKey, externalNameKey]
    using named

/-- A name that counts is a name. -/
theorem hasExternalName_of_externalName {name : String}
    (given : metadata.externalName = some name) : metadata.HasExternalName := by
  unfold externalName at given
  obtain ⟨found, -⟩ := Option.filter_eq_some_iff.1 given
  rw [HasExternalName, Table.contains, found]
  rfl

end Metadata

namespace Store

/-- A sign that a record owns a resource. -/
def HasSign (store : Store) (record : Record) : Prop :=
  record.status.HasSign ∨ record.metadata.HasExternalName ∨ store.details.contains record.id = true

/-- A record with a sign of ownership carries the lock, and only stored records have details. -/
structure IsBacked (store : Store) : Prop where
  claimed : ∀ record, store.get? record.id = some record → store.HasSign record →
    record.isClaimed = true
  kept : ∀ id, store.details.contains id = true → ∃ record, store.get? id = some record

variable {store : Store} {record : Record}

/-- An empty store bears no sign of ownership. -/
theorem isBacked_ofCapacity (capacity : Nat) : (ofCapacity capacity).IsBacked where
  claimed := by
    intro record stored
    have absent : (ofCapacity capacity).get? record.id = none := Table.get?_empty record.id
    cases absent.symm.trans stored
  kept := by
    intro id held
    cases held

/-- A record may be written that carries the lock if it has a sign. -/
theorem IsBacked.put (backed : store.IsBacked)
    (fine : store.HasSign record → record.isClaimed = true) : (store.put record).IsBacked where
  claimed := by
    intro other stored sign
    rw [get?_put] at stored
    split at stored
    · cases stored
      exact fine sign
    · exact backed.claimed other stored sign
  kept := by
    intro id held
    rw [get?_put]
    split
    · exact ⟨record, rfl⟩
    · exact backed.kept id held

/-- A record that carries the lock may have details. -/
theorem IsBacked.handOver (backed : store.IsBacked)
    (stored : store.get? record.id = some record) (claimed : record.isClaimed = true)
    (details : Details) : (store.handOver record.id details).IsBacked where
  claimed := by
    intro other present sign
    rw [get?_handOver] at present
    by_cases same : other.id = record.id
    · rw [same, stored] at present
      cases present
      exact claimed
    · apply backed.claimed other present
      rw [HasSign, details_handOver, Table.contains, Table.get?_insert_of_ne same] at sign
      exact sign
  kept := by
    intro id held
    rw [details_handOver, Table.contains, Table.get?_insert] at held
    split at held
    · rename_i same
      rw [same]
      exact ⟨record, stored⟩
    · exact backed.kept id held

/-- The details of a record go with it. -/
theorem IsBacked.without (backed : store.IsBacked) (id : RecordId) :
    (store.without id).IsBacked where
  claimed := by
    intro other present sign
    rw [get?_without] at present
    split at present
    · cases present
    · rename_i apart
      apply backed.claimed other present
      rw [HasSign, details_without, Table.contains, Table.get?_erase_of_ne apart] at sign
      exact sign
  kept := by
    intro other held
    rw [details_without, Table.contains, Table.get?_erase] at held
    split at held
    · cases held
    · rename_i apart
      rw [get?_without, if_neg apart]
      exact backed.kept other held

end Store

/-- Of the records only the one under an identity has changed, every sign of ownership is backed,
and that record carries the lock or not, as told, as long as it is there. -/
structure Store.Backs (before : Store) (id : RecordId) (lock : Bool) (after : Store) : Prop where
  backed : after.IsBacked
  others : ∀ other, other ≠ id → after.get? other = before.get? other
  lock : ∀ record, after.get? id = some record → record.isClaimed = lock

/-- A request that writes to one record only, leaves its lock as told, and without the lock writes
no sign of ownership. -/
def Request.Honours (id : RecordId) (lock : Bool) : Request → Prop
  | .readRecord _ | .listRecords | .remote _ | .now | .secret => True
  | .putStatus other status => other = id ∧ (status.HasSign → lock = true)
  | .putMetadata other metadata =>
      other = id ∧ metadata.isClaimed = lock ∧ (metadata.HasExternalName → lock = true)
  | .publish other _ => other = id ∧ lock = true
  | .erase other => other = id

namespace Store.Backs

variable {before store : Store} {id : RecordId} {lock still : Bool}

/-- The record may be written with the lock as told, if no sign stands without it. -/
theorem put (backs : before.Backs id lock store) {record : Record} (same : record.id = id)
    (claimed : record.isClaimed = still) (signed : store.HasSign record → still = true) :
    before.Backs id still (store.put record) where
  backed := by
    apply backs.backed.put
    intro sign
    rw [claimed, signed sign]
  others := by
    intro other apart
    rw [Store.get?_put, if_neg (same ▸ apart)]
    exact backs.others other apart
  lock := by
    intro other stored
    rw [Store.get?_put, if_pos same.symm] at stored
    cases stored
    exact claimed

/-- Who has a sign has the lock. -/
theorem lock_of_sign (backs : before.Backs id lock store) {current : Record}
    (stored : store.get? id = some current) (sign : store.HasSign current) : lock = true := by
  have own := store.id_of_get? stored
  rw [← backs.lock current stored]
  exact backs.backed.claimed current (own ▸ stored) sign

/-- The status may be written, if it bears no sign without the lock. -/
theorem putStatus (backs : before.Backs id lock store) {current : Record}
    (stored : store.get? id = some current) {status : Status}
    (signed : status.HasSign → lock = true) :
    before.Backs id lock (store.put { current with status }) := by
  have own : current.id = id := store.id_of_get? stored
  have same : ({ current with status } : Record).id = id := own
  have claimed : ({ current with status } : Record).isClaimed = lock := backs.lock current stored
  apply backs.put same claimed
  rintro (sign | rest)
  · exact signed sign
  · exact backs.lock_of_sign stored (.inr rest)

/-- The lock may be taken, but not given back. -/
theorem putMetadata (backs : before.Backs id lock store) {current : Record}
    (stored : store.get? id = some current) {metadata : Metadata}
    (claimed : metadata.isClaimed = still) (grows : lock = true → still = true)
    (signed : metadata.HasExternalName → still = true) :
    before.Backs id still (store.put { current with metadata }) := by
  have own : current.id = id := store.id_of_get? stored
  have same : ({ current with metadata } : Record).id = id := own
  have locked : ({ current with metadata } : Record).isClaimed = still := claimed
  apply backs.put same locked
  rintro (sign | named | details)
  · exact grows (backs.lock_of_sign stored (.inl sign))
  · exact signed named
  · exact grows (backs.lock_of_sign stored (.inr (.inr details)))

/-- Behind the lock the details may be handed over. -/
theorem handOver (backs : before.Backs id true store) {current : Record}
    (stored : store.get? id = some current) (details : Details) :
    before.Backs id true (store.handOver id details) where
  backed := by
    cases store.id_of_get? stored
    exact backs.backed.handOver stored (backs.lock current stored) details
  others := backs.others
  lock := backs.lock

/-- A record that is erased needs no lock. -/
theorem erase (backs : before.Backs id lock store) (change : Change) :
    before.Backs id lock ((store.without id).announce change) where
  backed := by
    obtain ⟨claimed, kept⟩ := backs.backed.without id
    exact ⟨claimed, kept⟩
  others := by
    intro other apart
    rw [Store.get?_announce, Store.get?_without, if_neg apart]
    exact backs.others other apart
  lock := by
    intro record stored
    rw [Store.get?_announce, Store.get?_without, if_pos rfl] at stored
    cases stored

end Store.Backs

/-- A request that honours the lock leaves every sign backed. -/
theorem Request.Honours.backs {before : Store} {world : World} {id : RecordId} {lock : Bool}
    {request : Request} (honours : request.Honours id lock)
    (backs : before.Backs id lock world.store) :
    before.Backs id lock (world.answer request).2.store := by
  cases request with
  | readRecord _ | listRecords | remote _ | now | secret => exact backs
  | putStatus other status =>
      obtain ⟨rfl, signed⟩ := honours
      simp only [World.answer, Store.putStatus, Store.modify]
      cases stored : world.store.get? other with
      | none => exact backs
      | some current => exact backs.putStatus stored signed
  | putMetadata other metadata =>
      obtain ⟨rfl, claimed, signed⟩ := honours
      simp only [World.answer, Store.putMetadata, Store.modify]
      cases stored : world.store.get? other with
      | none => exact backs
      | some current => exact backs.putMetadata stored claimed (fun own => own) signed
  | publish other details =>
      obtain ⟨rfl, rfl⟩ := honours
      simp only [World.answer, Store.publish]
      cases stored : world.store.get? other with
      | none => exact backs
      | some current => exact backs.handOver stored details
  | erase other =>
      cases honours
      simp only [World.answer, Store.erase]
      cases world.store.get? id with
      | none => exact backs
      | some current => exact backs.erase _

/-- A call to the remote side writes to no record. -/
theorem Request.IsRemote.honours {id : RecordId} {lock : Bool} {request : Request}
    (remote : request.IsRemote) : request.Honours id lock := by
  cases request with
  | remote _ | secret => trivial
  | _ => cases remote

/-- What only reads writes to no record. -/
theorem Request.Reads.honours {id : RecordId} {lock : Bool} {request : Request}
    (reads : request.Reads) : request.Honours id lock := by
  cases request with
  | readRecord _ | listRecords | remote _ => trivial
  | _ => cases reads

/-- The markers are as the lock is told, and hold no external name without it. -/
structure Record.Fits (record : Record) (id : RecordId) (lock : Bool) : Prop where
  same : record.id = id
  claimed : record.isClaimed = lock
  signed : record.metadata.HasExternalName → lock = true

namespace Record.Fits

variable {record : Record} {id : RecordId} {lock : Bool}

theorem marked (fits : record.Fits id lock) : Request.Honours id lock
    (.putMetadata record.id record.metadata.markCreatePending) :=
  ⟨fits.same, (Metadata.isClaimed_markCreatePending _).trans fits.claimed,
    fun named => fits.signed (Metadata.hasExternalName_of_markCreatePending named)⟩

theorem released (fits : record.Fits id lock) : Request.Honours id lock
    (.putMetadata record.id record.metadata.clearCreatePending) :=
  ⟨fits.same, (Metadata.isClaimed_clearCreatePending _).trans fits.claimed,
    fun named => fits.signed (Metadata.hasExternalName_of_clearCreatePending named)⟩

/-- A record that is marked as pending has the lock as before. -/
theorem pending (fits : record.Fits id lock) : record.pending.Fits id lock := by
  rcases record.pending_eq with same | marked
  · rwa [same]
  · rw [marked]
    exact ⟨fits.same, fits.marked.2.1, fits.marked.2.2⟩

end Record.Fits

/-- One record has been worked on, with every sign of ownership backed. Its lock is as it was, or
it has been taken. -/
def Store.Settles (before : Store) (id : RecordId) (lock : Bool) (after : Store) : Prop :=
  before.Backs id lock after ∨ before.Backs id true after

namespace Engine

variable {engine : Engine} {before : Store} {world : World} {record : Record} {id : RecordId}
  {lock : Bool}

/-- What only honours the lock leaves every sign backed. -/
theorem ends_of_honours {α : Type} {pass : Pass α} (only : Only (Request.Honours id lock) pass)
    (backs : before.Backs id lock world.store) :
    Ends pass world (fun _ later => before.Backs id lock later.store)
      fun _ later => before.Backs id lock later.store := by
  have keeps : ∀ (request : Request) (world : World), request.Honours id lock →
      before.Backs id lock world.store → before.Backs id lock (world.answer request).2.store :=
    fun _ _ honours backs => honours.backs backs
  exact only.ends keeps backs

/-- Work that writes as the lock allows leaves the lock as it was and every sign backed. -/
theorem settles_of_honours {α : Type} {pass : Pass α}
    (only : Only (Request.Honours id lock) pass) (backs : before.Backs id lock world.store) :
    Ends pass world (fun _ later => before.Settles id lock later.store)
      fun _ later => before.Settles id lock later.store :=
  (ends_of_honours only backs).mono (fun _ _ => .inl) fun _ _ => .inl

/-- The lock is taken before the details are handed over and a success is told. -/
theorem commit_settles (kind : Kind) (same : record.id = id) (creation : Creation)
    (backs : before.Backs id lock world.store) :
    Ends (commit (engine.clientOf kind) record creation) world
      (fun _ later => before.Settles id lock later.store)
      fun _ later => before.Settles id lock later.store := by
  have locked : (claimedMetadata record creation).isClaimed = true := by
    unfold claimedMetadata
    split
    · exact Metadata.isClaimed_claim _
    · exact Metadata.isClaimed_claim _
  let claimed : Record := { record with metadata := claimedMetadata record creation }
  have tells : Only (Request.Honours id true)
      (announce (engine.clientOf kind) claimed creation) := by
    apply only_announce engine kind (fun _ => Request.Reads.honours) trivial
    · intro details
      exact ⟨same, rfl⟩
    · intro status _
      exact ⟨same, fun _ => rfl⟩
  rw [commit_eq, ends_bind, ends_putMetadata]
  cases stored : world.store.get? record.id with
  | none => exact .inl backs
  | some current =>
      rw [same] at stored
      have taken := backs.putMetadata stored locked (fun _ => rfl) fun _ => rfl
      exact (ends_of_honours tells taken).mono (fun _ _ => .inr) fun _ _ => .inr

/-- A create that is resumed takes the lock before it leaves a sign, or leaves none. -/
theorem resume_settles (fits : record.Fits id lock) (backs : before.Backs id lock world.store) :
    Ends (resume (engine.clientOf record.kind) record) world
      (fun _ later => before.Settles id lock later.store)
      fun _ later => before.Settles id lock later.store := by
  have releases : Only (Request.Honours id lock) (do
      releasePending record
      throw record.collision : Pass Outcome) :=
    Only.bind (only_releasePending fits.released) fun _ => only_throw _
  have ends : Only (Request.Honours id lock) ((engine.clientOf record.kind).resumeCreate record) :=
    (engine.only_resumeCreate record).mono fun _ works => works.1.honours
  simp only [resume, hasRival, ends_bind, ends_listRecords, ends_pure]
  split
  · exact settles_of_honours releases backs
  · rw [ends_bind]
    apply (ends_of_honours ends backs).mono
    · intro creation later backs
      exact commit_settles record.kind fits.same creation backs
    · intro error later backs
      exact .inl backs

/-- Whatever a create was answered, no sign is left without the lock. -/
theorem concludeCreate_settles (fits : record.Fits id lock)
    (backs : before.Backs id lock world.store) (wasPending : Bool)
    (answer : Except PassError Creation) :
    Ends (concludeCreate (engine.clientOf record.kind) record wasPending answer) world
      (fun _ later => before.Settles id lock later.store)
      fun _ later => before.Settles id lock later.store := by
  have reads : ∀ request : Request, request.Reads → request.Honours id lock :=
    fun _ => Request.Reads.honours
  cases answer with
  | ok creation => exact commit_settles record.kind fits.same creation backs
  | error error =>
      have abandons : Only (Request.Honours id lock) (do
          abandonCreate (engine.clientOf record.kind) record
          throw error : Pass Outcome) :=
        Only.bind (only_abandonCreate reads engine _ fits.released) fun _ => only_throw _
      have releases : Only (Request.Honours id lock) (do
          releasePending record
          throw record.collision : Pass Outcome) :=
        Only.bind (only_releasePending fits.released) fun _ => only_throw _
      rw [concludeCreate]
      split
      · exact settles_of_honours abandons backs
      · split
        · rw [ends_bind]
          apply (ends_of_honours (only_look reads engine _ record) backs).mono
          · intro seen later backs
            split
            · exact .inl backs
            · exact resume_settles fits backs
          · intro _ later backs
            exact .inl backs
        · exact settles_of_honours releases backs

/-- A create takes the lock before it leaves a sign, or leaves none. -/
theorem create_settles (fits : record.Fits id lock) (backs : before.Backs id lock world.store) :
    Ends (create (engine.clientOf record.kind) record) world
      (fun _ later => before.Settles id lock later.store)
      fun _ later => before.Settles id lock later.store := by
  have marks := ends_of_honours (only_markPending fits.marked) backs
  have creates : Only (Request.Honours id lock)
      (attempt ((engine.clientOf record.kind).create record.pending)) := by
    have only := engine.only_clientCreate_isRemote record.pending
    rw [record.kind_pending] at only
    exact (only.mono fun _ remote => remote.honours).attempt
  rw [create_eq, ends_bind]
  apply (marks.and (ends_markPending record world)).mono
  · rintro marked later ⟨backs, rfl⟩
    rw [ends_bind]
    apply (ends_of_honours creates backs).mono
    · intro answer last backs
      have concludes := @concludeCreate_settles engine before last _ id lock fits.pending backs
        record.metadata.isCreatePending answer
      rw [record.kind_pending] at concludes
      exact concludes
    · intro _ last backs
      exact .inl backs
  · rintro error later ⟨backs, -⟩
    exact .inl backs

/-- A record is found to own what was seen if it carries the lock, and to have begun a create if it
does not. -/
theorem ends_observe_lock (client : Client) (record : Record) (world : World) :
    Ends (client.observe record) world
      (fun seen _ =>
        (∀ observed drifts, seen = .owned observed drifts → record.isClaimed = true) ∧
        ∀ observed, seen = .unclaimed observed → record.isClaimed = false)
      fun _ _ => True := by
  unfold Client.observe
  rw [ends_bind]
  apply (ends_answer _ world).mono
  · intro seen later _
    cases seen with
    | none => exact ⟨fun _ _ => nofun, fun _ => nofun⟩
    | some observed =>
        dsimp only
        split
        · rename_i claimed
          rw [ends_bind, ends_lift]
          split
          · exact ⟨fun _ _ _ => claimed, fun _ => nofun⟩
          · trivial
        · rename_i unclaimed
          split
          · exact ⟨fun _ _ => nofun, fun _ _ => Bool.eq_false_iff.2 unclaimed⟩
          · trivial
  · intro _ _ _
    trivial

/-- A delete leaves the lock until the record is erased. -/
theorem delete_settles (same : record.id = id) (backs : before.Backs id true world.store) :
    Ends (delete (engine.clientOf record.kind) record) world
      (fun _ later => before.Settles id true later.store)
      fun _ later => before.Settles id true later.store := by
  have whole : Only (Request.Honours id true) (delete (engine.clientOf record.kind) record) := by
    apply only_delete engine (fun _ handles => handles.2.1.honours) trivial
    · intro status _
      exact ⟨same, fun _ => rfl⟩
    · exact same
  exact settles_of_honours whole backs

/-- An update leaves the lock where it is. -/
theorem update_settles (same : record.id = id) (observed : Observed) (drifts : List Drift)
    (backs : before.Backs id true world.store) :
    Ends (update (engine.clientOf record.kind) record observed drifts) world
      (fun _ later => before.Settles id true later.store)
      fun _ later => before.Settles id true later.store := by
  have whole : Only (Request.Honours id true)
      (update (engine.clientOf record.kind) record observed drifts) := by
    apply only_update engine (fun _ works => works.2.1.honours) (fun _ => Request.Reads.honours)
      trivial
    intro status _
    exact ⟨same, fun _ => rfl⟩
  exact settles_of_honours whole backs

/-- Whichever way a pass takes, no sign is left without the lock, and no lock is lost. -/
theorem drive_settles (fits : record.Fits id lock) (backs : before.Backs id lock world.store)
    (kept : record.isDeleting = true → lock = true) :
    Ends (drive (engine.clientOf record.kind) record) world
      (fun _ later => before.Settles id lock later.store)
      fun _ later => before.Settles id lock later.store := by
  have looks : Only (Request.Honours id lock) ((engine.clientOf record.kind).observe record) :=
    (engine.only_observe record.kind record).mono fun _ reads => reads.honours
  rw [drive, ends_ite]
  split
  · rename_i deleting
    cases kept deleting
    exact delete_settles fits.same backs
  · rw [ends_bind]
    have seeing := (ends_of_honours looks backs).and (ends_observe_lock _ record world)
    apply seeing.mono
    · rintro seen later ⟨backs, owned, -⟩
      cases seen with
      | absent => exact create_settles fits backs
      | unclaimed observed => exact resume_settles fits backs
      | owned observed drifts =>
          have locked : lock = true := fits.claimed.symm.trans (owned _ _ rfl)
          cases locked
          cases drifts with
          | nil =>
              have reports : Only (Request.Honours id true) (do
                  reportSuccess record (some observed)
                  return Outcome.upToDate) :=
                (only_reportSuccess trivial (fun _ _ => ⟨fits.same, fun _ => rfl⟩) _).bind
                  fun _ => only_pure _
              exact settles_of_honours reports backs
          | cons drift drifts => exact update_settles fits.same observed _ backs
    · rintro error later ⟨backs, -⟩
      exact .inl backs

/-- The checks before the work write no sign but behind the lock. -/
theorem advance_settles (fits : record.Fits id lock) (backs : before.Backs id lock world.store) :
    Ends (engine.advance record) world
      (fun _ later => before.Settles id lock later.store)
      fun _ later => before.Settles id lock later.store := by
  have forgets : Only (Request.Honours id lock) (do
      Pass.erase record.id
      return Outcome.forgotten) :=
    Only.bind (Only.bind (only_ask fits.same) only_written) fun _ => only_pure _
  refine ends_advance (fun _ => .inl backs) (fun _ _ => ?_) fun _ claims _ => ?_
  · exact settles_of_honours forgets backs
  · exact drive_settles fits backs fun deleting => fits.claimed.symm.trans (claims deleting)

/-- A pass leaves every sign of ownership backed, and the lock where it was. -/
theorem pass_settles (backed : world.store.IsBacked)
    (stored : world.store.get? record.id = some record) :
    Ends (engine.pass record.id) world
      (fun _ later => world.store.Settles record.id record.isClaimed later.store)
      fun _ later => world.store.Settles record.id record.isClaimed later.store := by
  have own : ∀ current, world.store.get? record.id = some current →
      current.isClaimed = record.isClaimed := by
    intro current present
    cases stored.symm.trans present
    rfl
  have backs : world.store.Backs record.id record.isClaimed world.store :=
    ⟨backed, fun _ _ => rfl, own⟩
  have fits : record.Fits record.id record.isClaimed :=
    ⟨rfl, rfl, fun named => backed.claimed record stored (.inr (.inl named))⟩
  have seen : record.status.HasSign → record.isClaimed = true :=
    fun sign => backed.claimed record stored (.inl sign)
  have reports : ∀ error lock, (record.isClaimed = true → lock = true) →
      Only (Request.Honours record.id lock) (reportError record error) := by
    intro error lock grows
    apply only_reportError trivial
    intro status ready generation
    refine ⟨rfl, fun sign => grows (seen ?_)⟩
    rcases sign with shown | counted
    · exact .inl (ready shown)
    · exact .inr (generation ▸ counted)
  rw [ends_pass stored]
  apply (advance_settles fits backs).mono
  · intro outcome later settles
    exact settles
  · intro error later settles
    rcases settles with backs | backs
    · exact settles_of_honours (reports error _ fun own => own) backs
    · apply (ends_of_honours (reports error true fun _ => rfl) backs).mono
      · exact fun _ _ => .inr
      · exact fun _ _ => .inr

end Engine

/-- Who carries the lock before carries it after, if the record is still there. -/
def Store.KeepsLocks (before after : Store) : Prop :=
  ∀ id record later, before.get? id = some record → record.isClaimed = true →
    after.get? id = some later → later.isClaimed = true

namespace Store

variable {store after : Store}

theorem KeepsLocks.refl (store : Store) : store.KeepsLocks store := by
  intro id record later before claimed left
  cases before.symm.trans left
  exact claimed

/-- A write that leaves the lock of its own record leaves every lock. -/
theorem keepsLocks_of_writes {current written : Record}
    (stored : store.get? current.id = some current) (wrote : store.Writes written after)
    (same : written.id = current.id) (lock : written.isClaimed = current.isClaimed) :
    store.KeepsLocks after := by
  intro id record later before claimed left
  rw [wrote.get?] at left
  split at left
  · rename_i own
    cases left
    rw [own, same, stored] at before
    cases before
    exact lock.trans claimed
  · cases before.symm.trans left
    exact claimed

theorem Settles.isBacked {id : RecordId} {lock : Bool} (settles : store.Settles id lock after) :
    after.IsBacked := by
  rcases settles with backs | backs
  · exact backs.backed
  · exact backs.backed

/-- Work on one record that does not take its lock off leaves every lock. -/
theorem Settles.keepsLocks {record : Record} (stored : store.get? record.id = some record)
    (settles : store.Settles record.id record.isClaimed after) : store.KeepsLocks after := by
  intro id current later before claimed left
  by_cases own : id = record.id
  · rw [own] at before left
    cases stored.symm.trans before
    rcases settles with backs | backs
    · exact (backs.lock later left).trans claimed
    · exact backs.lock later left
  · have same : after.get? id = store.get? id := by
      rcases settles with backs | backs
      · exact backs.others id own
      · exact backs.others id own
    rw [same] at left
    cases before.symm.trans left
    exact claimed

/-- A record that is applied gets no sign: a new one is bare, and of one that exists the markers
and the status stay. -/
theorem IsBacked.apply (backed : store.IsBacked) (record : Record)
    (bare : store.get? record.id = none → record.metadata = ∅ ∧ record.status = {}) :
    (store.apply record).2.IsBacked := by
  unfold Store.apply
  cases stored : store.get? record.id with
  | none =>
      obtain ⟨metadata, status⟩ := bare stored
      let fresh : Record := { record with generation := max record.generation 1 }
      have signless : store.HasSign fresh → fresh.isClaimed = true := by
        rintro (sign | named | details)
        · change record.status.HasSign at sign
          rw [status] at sign
          rcases sign with ready | seen
          · cases ready
          · exact absurd rfl seen
        · change record.metadata.HasExternalName at named
          rw [metadata] at named
          cases named
        · obtain ⟨other, present⟩ := backed.kept _ details
          cases stored.symm.trans present
      have put := backed.put signless
      exact ⟨put.claimed, put.kept⟩
  | some existing =>
      dsimp only
      split
      · exact backed
      · have own := store.id_of_get? stored
        rw [← own] at stored
        let changed : Record := { existing with
          spec := record.spec
          credentialsRef := record.credentialsRef
          generation := min (existing.generation + 1) Word.max }
        have still : store.HasSign changed → changed.isClaimed = true :=
          backed.claimed existing stored
        have put := backed.put still
        exact ⟨put.claimed, put.kept⟩

/-- A user who applies a record takes no lock off. -/
theorem keepsLocks_apply (store : Store) (record : Record) :
    store.KeepsLocks (store.apply record).2 := by
  rcases store.apply_writes record with ⟨absent, wrote⟩ | ⟨existing, generation, stored, wrote⟩
  · intro id current later before claimed left
    rw [wrote.get?] at left
    split at left
    · rename_i own
      rw [own] at before
      cases absent.symm.trans before
    · cases before.symm.trans left
      exact claimed
  · have own := store.id_of_get? stored
    rw [← own] at stored
    exact keepsLocks_of_writes stored wrote rfl rfl

/-- To ask for deletion gives a record no sign. -/
theorem IsBacked.requestDeletion (backed : store.IsBacked) (id : RecordId) (now : Timestamp) :
    ((store.requestDeletion id now).toOption.getD store).IsBacked := by
  unfold Store.requestDeletion
  cases stored : store.get? id with
  | none => exact backed
  | some record =>
      dsimp only
      split
      · exact backed
      · have own := store.id_of_get? stored
        rw [← own] at stored
        let marked : Record := { record with deletionRequested := some now }
        have still : store.HasSign marked → marked.isClaimed = true := backed.claimed record stored
        have put := backed.put still
        exact ⟨put.claimed, put.kept⟩

/-- A user who asks for a deletion takes no lock off. -/
theorem keepsLocks_requestDeletion (store : Store) (id : RecordId) (now : Timestamp) :
    store.KeepsLocks ((store.requestDeletion id now).toOption.getD store) := by
  rcases store.requestDeletion_writes id now with same | ⟨record, stored, wrote⟩
  · rw [same]
    exact KeepsLocks.refl store
  · exact keepsLocks_of_writes stored wrote rfl rfl

end Store

/-- A move as users, passes and the remote side make them. A record that is new carries no markers,
and the status that records start with. -/
def Move.IsPlain (world : World) : Move → Prop
  | .apply record =>
      world.store.get? record.id = none → record.metadata = ∅ ∧ record.status = {}
  | .requestDeletion _ _ | .reconcile _ _ | .disturb _ => True

namespace Engine

variable {engine : Engine} {world : World}

/-- A pass leaves every sign backed and every lock in its place. -/
theorem reconcile_keeps_locks (backed : world.store.IsBacked) (id : RecordId) (cancelled : Bool) :
    ((engine.reconcile id cancelled).after world).store.IsBacked ∧
      world.store.KeepsLocks ((engine.reconcile id cancelled).after world).store := by
  cases cancelled with
  | true => exact ⟨backed, .refl _⟩
  | false =>
      cases stored : world.store.get? id with
      | none =>
          have gone := engine.after_reconcile_of_missing stored false
          rw [gone]
          exact ⟨backed, .refl _⟩
      | some record =>
          cases world.store.id_of_get? stored
          have settles := (engine.pass_settles backed stored).after_of_both
          exact ⟨settles.isBacked, settles.keepsLocks stored⟩

/-- Every move leaves the lock behind every sign, and takes no lock back. -/
theorem carryOut_keeps_locks (backed : world.store.IsBacked) {move : Move}
    (plain : move.IsPlain world) :
    (engine.carryOut world move).store.IsBacked ∧
      world.store.KeepsLocks (engine.carryOut world move).store := by
  cases move with
  | apply record => exact ⟨backed.apply record plain, Store.keepsLocks_apply _ record⟩
  | requestDeletion id now =>
      exact ⟨backed.requestDeletion id now, Store.keepsLocks_requestDeletion _ id now⟩
  | reconcile id cancelled => exact reconcile_keeps_locks backed id cancelled
  | disturb change => exact ⟨backed, .refl _⟩

/-- A record without the lock has no account to be found, so nothing is ever found to end. -/
theorem observe_ne_unclaimed {record : Record} (account : record.kind = .serviceAccount)
    (backed : record.metadata.HasExternalName → record.isClaimed = true) (observed : Observed) :
    ((engine.clientOf record.kind).observe record).answer world ≠ .ok (.unclaimed observed) := by
  intro answered
  cases claimed : record.isClaimed with
  | true =>
      have seen := (ends_observe_lock _ record world).of_ok answered
      cases (seen.2 observed rfl).symm.trans claimed
  | false =>
      have unnamed : record.metadata.externalName = none := by
        cases given : record.metadata.externalName with
        | none => rfl
        | some name =>
            have locked := backed (Metadata.hasExternalName_of_externalName given)
            cases claimed.symm.trans locked
      have absent : Ends ((engine.clientOf record.kind).observe record) world
          (fun seen _ => seen = .absent) fun _ _ => True := by
        rw [account]
        change Ends (ServiceAccount.client.observe record) world _ _
        simp only [Client.observe, ServiceAccount.client, ServiceAccount.probe, unnamed, ends_bind,
          ends_pure]
      cases absent.of_ok answered

/-- In every world that users, passes and the remote side bring about, a record that shows any sign
of ownership carries the lock, and it carries the lock as long as it is stored. So no create of a
service account is ever found cut short. -/
theorem lock_backs_signs (engine : Engine) (capacity : Nat) (origin : World)
    (empty : origin.store = .ofCapacity capacity) (world : World)
    (reached : engine.Reaches (fun world move => move.IsPlain world) origin world) :
    (∀ record, world.store.get? record.id = some record → world.store.HasSign record →
      record.isClaimed = true) ∧
    (∀ record later, world.store.get? record.id = some record → record.isClaimed = true →
      engine.Reaches (fun before move => move.IsPlain before ∧
        ∃ current, (engine.carryOut before move).store.get? record.id = some current) world later →
      ∃ current, later.store.get? record.id = some current ∧ current.isClaimed = true) ∧
    ∀ record observed, world.store.get? record.id = some record →
      record.kind = .serviceAccount →
      ((engine.clientOf record.kind).observe record).answer world ≠ .ok (.unclaimed observed) := by
  have backed : world.store.IsBacked := by
    apply reached.keeps
    · rw [empty]
      exact Store.isBacked_ofCapacity capacity
    · intro world move plain backed
      exact (carryOut_keeps_locks backed plain).1
  refine ⟨backed.claimed, ?_, ?_⟩
  · intro record later stored claimed further
    have outlasts : later.store.IsBacked ∧
        ∃ current, later.store.get? record.id = some current ∧ current.isClaimed = true := by
      apply further.keeps ⟨backed, record, stored, claimed⟩
      rintro before move ⟨plain, next, left⟩ ⟨backed, current, present, locked⟩
      obtain ⟨still, keeps⟩ := @carryOut_keeps_locks engine before backed move plain
      exact ⟨still, next, left, keeps _ current next present locked left⟩
    exact outlasts.2
  · intro record observed stored account
    exact observe_ne_unclaimed account (fun named => backed.claimed record stored (.inr (.inl named)))
      observed

end Engine

namespace Sample

/-- The settled sample world after its record has been made one of a user, and a pass has failed
to add that user. -/
def turned : World :=
  let broken := engine.carryOut settled (.disturb fun plane =>
    plane.failNext "add_user" (.unavailable "down"))
  let changed := engine.carryOut broken (.apply
    { id := .plain "first", spec := .user { userName := none, policies := [] } })
  engine.carryOut changed (.reconcile (.plain "first") false)

end Sample

/-- A record that owns a bucket keeps the lock when it is made one of a user who cannot be added. -/
theorem Engine.lock_backs_signs_of_turned :
    Sample.engine.Reaches (fun world move => move.IsPlain world) Sample.world Sample.settled ∧
      Sample.settled.store.list.map (·.isClaimed) = [true] ∧
      Sample.turned.store.list.map (·.kind) = [.user] ∧
      ∃ current, Sample.turned.store.get? (.plain "first") = some current ∧
        current.isClaimed = true := by
  have settled : Sample.engine.Reaches (fun world move => move.IsPlain world) Sample.world
      Sample.settled :=
    .move (.reconcile _ _) (.move (.apply _) .first fun _ => ⟨rfl, rfl⟩) trivial
  have backs := Sample.engine.lock_backs_signs 16 Sample.world rfl Sample.settled settled
  let owner := (Sample.settled.store.get? (.plain "first")).getD default
  have stored : Sample.settled.store.get? owner.id = some owner := by decide +kernel
  have claimed : owner.isClaimed = true := by decide +kernel
  have present : ∀ world : World, (world.store.get? owner.id).isSome = true →
      ∃ current, world.store.get? owner.id = some current := fun _ => Option.isSome_iff_exists.1
  have turned : Sample.engine.Reaches (fun before move => move.IsPlain before ∧
      ∃ current, (Sample.engine.carryOut before move).store.get? owner.id = some current)
      Sample.settled Sample.turned := by
    refine .move (.reconcile _ _) (.move (.apply _) (.move (.disturb _) .first ?_) ?_) ?_
    · exact ⟨trivial, present _ (by decide +kernel)⟩
    · exact ⟨fun _ => ⟨rfl, rfl⟩, present _ (by decide +kernel)⟩
    · exact ⟨trivial, present _ (by decide +kernel)⟩
  have kept := backs.2.1 owner Sample.turned stored claimed turned
  have named : owner.id = .plain "first" := by decide +kernel
  rw [named] at kept
  exact ⟨settled, by decide +kernel, by decide +kernel, kept⟩

end Steward
