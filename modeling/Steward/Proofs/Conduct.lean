/-
This file says which requests each part of a pass makes, whatever it is answered.
A pass writes its own record and works on the resource of that record, and only a delete takes
either away. The one call that names no resource makes a service account.
-/

import Steward.Proofs.Advance
import Steward.Proofs.Presence
import Steward.Proofs.Scope

namespace Steward

open Pass

namespace Request

/-- A request that is a call to the remote side. -/
def IsCall : Request → Prop
  | .remote _ => True
  | _ => False

theorem IsCall.isRemote {request : Request} (made : request.IsCall) : request.IsRemote := by
  cases request with
  | remote _ => trivial
  | _ => exact made.elim

def HandlesByCall (record : Record) (request : Request) : Prop :=
  request.IsCall ∧ request.Handles record

def WorksByCall (record : Record) (request : Request) : Prop :=
  request.IsCall ∧ request.Works record

end Request

section Only

variable {record : Record} {operation resource : String} {call : RemoteCall}
  {target : Kind × String}

/-- To work on the resource of a record takes nothing of it away, unless it is a removal. -/
theorem only_working (named : call.resource? = some target)
    (own : record.resource? = some target) (keeps : call.isRemoval = false) :
    Only (Request.WorksByCall record) (perform operation resource call) :=
  only_perform ⟨trivial, trivial, .inr ⟨target, named, own⟩, keeps⟩

theorem only_removing (named : call.resource? = some target)
    (own : record.resource? = some target) :
    Only (Request.HandlesByCall record) (perform operation resource call) :=
  only_perform ⟨trivial, trivial, .inr ⟨target, named, own⟩⟩

namespace Bucket

variable (own : record.resource? = some (.bucket, record.targetName))

include own

/-- To configure a bucket sets its policy at most. -/
theorem only_configure (spec : BucketSpec) :
    Only (Request.WorksByCall record) (configure record.targetName spec) := by
  unfold configure
  split
  · exact Only.bind (only_working rfl own rfl) fun _ => only_pure _
  · exact only_pure _

theorem only_create : Only (Request.WorksByCall record) (create record) := by
  refine Only.bind (only_lift _) fun spec => ?_
  exact Only.bind (only_working rfl own rfl) fun _ => only_configure own spec

theorem only_resumeCreate : Only (Request.WorksByCall record) (resumeCreate record) :=
  Only.bind (only_lift _) fun spec => only_configure own spec

theorem only_update (drifts : List Drift) :
    Only (Request.WorksByCall record) (update record drifts) := by
  refine Only.bind (only_lift _) fun spec => ?_
  dsimp only
  split
  · exact only_working rfl own rfl
  · exact only_pure _

/-- To delete a bucket, emptied before or not, handles this bucket alone. -/
theorem only_delete (settings : DeletionSettings) (scheduler : Scheduler) (cancelled : Bool) :
    Only (Request.HandlesByCall record) (delete settings scheduler record cancelled) := by
  refine Only.bind (only_lift _) fun spec => ?_
  dsimp only
  cases spec.deletionPolicy with
  | deleteIfEmpty => exact only_removing rfl own
  | deleteAll =>
      have empties : Only (Request.HandlesByCall record)
          (Drain.empty settings scheduler record.targetName cancelled) := by
        apply (Drain.only_empty settings scheduler record.targetName cancelled).mono
        intro request empties
        unfold Drain.Empties at empties
        split at empties
        · exact ⟨trivial, trivial, .inl rfl⟩
        · exact ⟨trivial, trivial, .inl rfl⟩
        · refine ⟨trivial, trivial, .inr ⟨_, ?_, own⟩⟩
          exact congrArg (fun bucket => some (Kind.bucket, bucket)) empties
        · exact empties.elim
      refine Only.bind (Only.bind empties fun _ => ?_) fun _ => only_pure _
      exact Only.bind (only_removing rfl own) fun _ => only_pure _

end Bucket

namespace User

/-- A request that finds out or sets which policies a user has. -/
def Binds (name : String) : Request → Prop
  | .remote .listCannedPolicies => True
  | .remote (.userInfo user) | .remote (.setUserPolicies user _)
  | .remote (.attachUserPolicies user _) | .remote (.detachUserPolicies user _) => user = name
  | _ => False

theorem only_checkPoliciesExist (name : String) (policies : List String) :
    Only (Binds name) (checkPoliciesExist policies) := by
  unfold checkPoliciesExist
  split
  · exact only_pure _
  · refine Only.bind (only_perform trivial) fun known => ?_
    split
    · exact only_throw _
    · exact only_pure _

/-- To give a user its policies asks for nothing but this user and the list of policies. -/
theorem only_applyPolicies (binding : PolicyBinding) (name : String) (desired : List String) :
    Only (Binds name) (applyPolicies binding name desired) := by
  cases binding with
  | replace => exact only_perform rfl
  | attach =>
      refine Only.bind (only_perform rfl) fun info => ?_
      dsimp only
      have detaches : ∀ detached : List String, Only (Binds name) (do
          if detached ≠ [] then
            perform "detach user policies" name (.detachUserPolicies name detached)) := by
        intro detached
        split
        · exact only_perform rfl
        · exact only_pure _
      split
      · exact Only.bind (only_perform rfl) fun _ => detaches _
      · exact detaches _

/-- An update of a user is about its policies only. -/
theorem only_update_binds (binding : PolicyBinding) (record : Record) (drifts : List Drift) :
    Only (Binds record.targetName) (update binding record drifts) := by
  refine Only.bind (only_lift _) fun spec => ?_
  split
  · exact Only.bind (only_checkPoliciesExist _ _) fun _ => only_applyPolicies binding _ _
  · exact only_pure _

variable (own : record.resource? = some (.user, record.targetName))

include own

/-- What is asked for to bind policies to a user is work on that user. -/
theorem Binds.works {request : Request} (binds : Binds record.targetName request) :
    request.WorksByCall record := by
  cases request with
  | remote call =>
      refine ⟨trivial, trivial, ?_⟩
      cases call with
      | listCannedPolicies | userInfo _ => exact (Request.reads_of_reading rfl).tends
      | setUserPolicies _ _ | attachUserPolicies _ _ | detachUserPolicies _ _ =>
          cases binds
          exact ⟨.inr ⟨_, rfl, own⟩, rfl⟩
      | _ => exact binds.elim
  | _ => exact binds.elim

/-- To register a user draws a secret and works on this user alone. -/
theorem only_register (binding : PolicyBinding) :
    Only (Request.Works record) (register binding record) := by
  refine Only.bind (only_lift _) fun spec => ?_
  refine Only.bind ((only_checkPoliciesExist _ _).mono fun _ binds => (binds.works own).2)
    fun _ => ?_
  refine Only.bind (only_ask ⟨trivial, trivial, rfl⟩) fun secret => ?_
  refine Only.bind ((only_working rfl own rfl).mono fun _ works => works.2) fun _ => ?_
  split
  · refine Only.bind ?_ fun _ => only_pure _
    exact (only_applyPolicies binding _ _).mono fun _ binds => (binds.works own).2
  · exact only_pure _

theorem only_update (binding : PolicyBinding) (drifts : List Drift) :
    Only (Request.WorksByCall record) (update binding record drifts) :=
  (only_update_binds binding record drifts).mono fun _ binds => binds.works own

theorem only_delete (cancelled : Bool) :
    Only (Request.HandlesByCall record) (delete record cancelled) :=
  only_removing rfl own

end User

namespace Policy

variable (own : record.resource? = some (.policy, record.targetName))

include own

theorem only_create : Only (Request.WorksByCall record) (create record) := by
  refine Only.bind (only_lift _) fun document => ?_
  refine Only.bind (only_lift _) fun _ => ?_
  exact Only.bind (only_working rfl own rfl) fun _ => only_pure _

theorem only_update (drifts : List Drift) :
    Only (Request.WorksByCall record) (update record drifts) := by
  unfold update
  split
  · exact only_pure _
  · exact Only.bind (only_lift _) fun document => only_working rfl own rfl

theorem only_delete (cancelled : Bool) :
    Only (Request.HandlesByCall record) (delete record cancelled) :=
  only_removing rfl own

end Policy

namespace ServiceAccount

variable (account : record.kind = .serviceAccount)

/-- To make a service account asks for calls alone, since its key is not known before. -/
theorem only_create (record : Record) : Only Request.IsCall (create record) := by
  refine Only.bind (only_lift _) fun spec => ?_
  have makes : Only Request.IsCall (do
      let credentials ← perform "add service account" spec.parentUser
        (.addServiceAccount {
          parentUser := spec.parentUser
          name := some record.targetName
          description := spec.description
          expiry := spec.expiry
          policy := spec.policy })
      return ({
        details := Table.ofList
          [("accessKey", credentials.accessKey), ("secretKey", credentials.secretKey),
            ("parentUser", spec.parentUser)]
        externalName := some credentials.accessKey } : Creation)) :=
    Only.bind (only_perform trivial) fun _ => only_pure _
  dsimp only
  split
  · exact Only.bind (only_lift _) fun _ => makes
  · exact makes

include account

/-- To bring a service account into line works on the account of the record alone. -/
theorem only_update (drifts : List Drift) :
    Only (Request.WorksByCall record) (update record drifts) := by
  refine Only.bind (only_lift _) fun spec => ?_
  split
  · exact only_throw _
  · rename_i accessKey given
    have own := Record.resource?_of_account account given
    have writes : Only (Request.WorksByCall record) (do
        let flagged := fun {α : Type} (field : Field) (value : Option α) =>
          value.filter fun _ => Drift.flags drifts field
        let update : ServiceAccountUpdate := {
          description := flagged .description spec.description
          expiry := flagged .expiry spec.expiry
          policy := flagged .policy spec.policy }
        if update.isEmpty then return ()
        perform "update service account" accessKey (.updateServiceAccount accessKey update)) := by
      dsimp only
      split
      · exact only_pure _
      · exact only_working rfl own rfl
    dsimp only
    split
    · exact Only.bind (only_throw _) fun _ => writes
    · exact writes

theorem only_delete (cancelled : Bool) :
    Only (Request.HandlesByCall record) (delete record cancelled) := by
  unfold delete
  split
  · exact only_pure _
  · rename_i accessKey given
    exact only_removing rfl (Record.resource?_of_account account given)

end ServiceAccount

end Only

/-- A record that is marked stands for the same resource. -/
theorem Record.resource?_pending (record : Record) : record.pending.resource? = record.resource? := by
  rcases record.pending_eq with same | marked
  · rw [same]
  · rw [marked, resource?, resource?]
    simp only [Metadata.externalName_markCreatePending]
    rfl

/-- What a request concerns is told by the identity and the resource of a record. -/
theorem Request.Tends.of_same {record other : Record} {request : Request}
    (tends : request.Tends other) (same : other.id = record.id)
    (resource : other.resource? = record.resource?) : request.Tends record := by
  obtain ⟨concerns, keeps⟩ := tends
  refine ⟨?_, keeps⟩
  cases request with
  | readRecord _ | listRecords | now | secret => trivial
  | putStatus _ _ | putMetadata _ _ | publish _ _ | erase _ => exact concerns.trans same
  | remote call =>
      rcases concerns with reading | ⟨target, named, own⟩
      · exact .inl reading
      · exact .inr ⟨target, named, resource ▸ own⟩

namespace Engine

variable {engine : Engine} {record : Record}

section Clients

/-- To create the resource of a record works on nothing else, unless it is a service account. -/
theorem only_clientCreate (engine : Engine) (named : record.kind ≠ .serviceAccount) :
    Only (Request.Works record) ((engine.clientOf record.kind).create record) := by
  cases kind : record.kind with
  | bucket =>
      exact (Bucket.only_create (Record.resource?_of_kind kind nofun)).mono fun _ works => works.2
  | user => exact User.only_register (Record.resource?_of_kind kind nofun) engine.binding
  | policy =>
      exact (Policy.only_create (Record.resource?_of_kind kind nofun)).mono fun _ works => works.2
  | serviceAccount => exact absurd kind named

/-- To create the resource of a record leaves the record store alone. -/
theorem only_clientCreate_isRemote (engine : Engine) (record : Record) :
    Only Request.IsRemote ((engine.clientOf record.kind).create record) := by
  by_cases account : record.kind = .serviceAccount
  · rw [account]
    exact (ServiceAccount.only_create record).mono fun _ made => made.isRemote
  · exact (engine.only_clientCreate account).mono fun _ works => works.1

/-- To go on with a create works on the resource of the record, whatever the kind. -/
theorem only_resumeCreate (engine : Engine) (record : Record) :
    Only (Request.Works record) ((engine.clientOf record.kind).resumeCreate record) := by
  cases kind : record.kind with
  | bucket =>
      have own := Record.resource?_of_kind kind nofun
      exact (Bucket.only_resumeCreate own).mono fun _ works => works.2
  | user => exact User.only_register (Record.resource?_of_kind kind nofun) engine.binding
  | policy =>
      exact (Policy.only_create (Record.resource?_of_kind kind nofun)).mono fun _ works => works.2
  | serviceAccount => exact only_throw _

/-- To bring a resource into line works on the resource of the record, whatever the kind. -/
theorem only_clientUpdate (engine : Engine) (record : Record) (drifts : List Drift) :
    Only (Request.WorksByCall record) ((engine.clientOf record.kind).update record drifts) := by
  cases kind : record.kind with
  | bucket => exact Bucket.only_update (Record.resource?_of_kind kind nofun) drifts
  | user => exact User.only_update (Record.resource?_of_kind kind nofun) engine.binding drifts
  | policy => exact Policy.only_update (Record.resource?_of_kind kind nofun) drifts
  | serviceAccount => exact ServiceAccount.only_update kind drifts

/-- To delete a resource handles the resource of the record, whatever the kind. -/
theorem only_clientDelete (engine : Engine) (record : Record) (cancelled : Bool) :
    Only (Request.HandlesByCall record)
      ((engine.clientOf record.kind).delete record cancelled) := by
  cases kind : record.kind with
  | bucket =>
      exact Bucket.only_delete (Record.resource?_of_kind kind nofun) engine.deletion
        engine.scheduler cancelled
  | user => exact User.only_delete (Record.resource?_of_kind kind nofun) cancelled
  | policy => exact Policy.only_delete (Record.resource?_of_kind kind nofun) cancelled
  | serviceAccount => exact ServiceAccount.only_delete kind cancelled

end Clients

section Steps

variable {allowed : Request → Prop}

theorem only_written (result : Except StoreError Unit) : Only allowed (Pass.written result) := by
  cases result
  · exact only_throw _
  · exact only_pure _

/-- A success is told in a status that speaks of the generation of the record. -/
theorem only_reportSuccess (clock : allowed .now)
    (fine : ∀ status : Status, status.observedGeneration = record.generation →
      allowed (.putStatus record.id status)) (observed : Option Observed) :
    Only allowed (reportSuccess record observed) := by
  have times : Only allowed Pass.now := only_ask clock
  have writes : ∀ seen : Status, Only allowed (do
      let synced := seen.setCondition (.reconcileSuccess (← Pass.now))
      let time ← Pass.now
      Pass.putStatus record.id { synced with
        observedGeneration := record.generation
        lastReconciled := some time }) := by
    intro seen
    refine Only.bind times fun _ => Only.bind times fun _ => ?_
    exact Only.bind (only_ask (fine _ rfl)) only_written
  cases observed with
  | some observed => exact Only.bind times fun _ => Only.bind (only_pure _) writes
  | none => exact Only.bind times fun _ => Only.bind (only_pure _) writes

/-- A failure makes no record ready, and tells of no success. -/
theorem only_reportError (clock : allowed .now)
    (fine : ∀ status : Status, (status.isReady = true → record.status.isReady = true) →
      status.observedGeneration = record.status.observedGeneration →
      allowed (.putStatus record.id status)) (error : PassError) :
    Only allowed (reportError record error) := by
  have times : Only allowed Pass.now := only_ask clock
  have writes : ∀ status : Status, (status.isReady = true → record.status.isReady = true) →
      status.observedGeneration = record.status.observedGeneration → Only allowed (do
        let time ← Pass.now
        let _ ← Pass.ask (.putStatus record.id { status with lastReconciled := some time })) := by
    intro status ready seen
    refine Only.bind times fun _ => ?_
    exact Only.bind (only_ask (fine _ ready seen)) fun _ => only_pure _
  have failed : ∀ now, (record.status.setCondition (.reconcileError error.message now)).isReady =
      record.status.isReady := by
    intro now
    have apart : Aspect.ready ≠ (Condition.reconcileError error.message now).aspect := nofun
    rw [Status.isReady, Status.condition?_setCondition_other apart, Status.isReady]
  unfold reportError
  split
  · exact only_pure _
  · refine Only.bind times fun now => ?_
    dsimp only
    split
    · refine Only.bind times fun later => ?_
      rw [pure_bind]
      refine writes _ (fun ready => ?_) rfl
      rw [Status.isReady_unavailable] at ready
      cases ready
    · rw [pure_bind]
      exact writes _ (fun ready => (failed now).symm.trans ready) rfl

theorem only_releasePending
    (fine : allowed (.putMetadata record.id record.metadata.clearCreatePending)) :
    Only allowed (releasePending record) :=
  Only.bind (only_ask fine) only_written

/-- To mark a record writes its metadata with the marker, or nothing. -/
theorem only_markPending
    (fine : allowed (.putMetadata record.id record.metadata.markCreatePending)) :
    Only allowed (markPending record) := by
  unfold markPending
  split
  · exact only_pure _
  · exact Only.bind (Only.bind (only_ask fine) only_written) fun _ => only_pure _

section Looks

variable (looks : ∀ request : Request, request.Reads → allowed request)

include looks

theorem only_look (engine : Engine) (kind : Kind) (record : Record) :
    Only allowed ((engine.clientOf kind).probe record) :=
  (engine.only_probe kind record).mono looks

/-- A last look asks for nothing but what reads, and does not fail. -/
theorem only_glance (engine : Engine) (kind : Kind) (record : Record) :
    Only allowed (glance (engine.clientOf kind) record) := by
  refine Only.bind (only_look looks engine kind record).attempt fun answer => ?_
  cases answer
  · exact only_pure _
  · exact only_pure _

/-- A create that is given up looks once more and takes the marker off at most. -/
theorem only_abandonCreate (engine : Engine) (kind : Kind)
    (fine : allowed (.putMetadata record.id record.metadata.clearCreatePending)) :
    Only allowed (abandonCreate (engine.clientOf kind) record) := by
  refine Only.bind (only_look looks engine kind record).attempt fun seen => ?_
  split
  · exact Only.bind (only_releasePending fine).attempt fun _ => only_pure _
  · exact only_pure _

end Looks

end Steps

/-- A create goes on with the marked record. -/
theorem ends_markPending (record : Record) (world : World) :
    Ends (markPending record) world (fun marked _ => marked = record.pending) fun _ _ => True := by
  unfold markPending Record.pending
  split
  · rfl
  · rw [ends_bind]
    apply (ends_answer _ world).mono
    · intro _ later _
      rfl
    · intro error later _
      trivial

/-- What follows on the claim of a created resource. -/
def announce (client : Client) (record : Record) (creation : Creation) : Pass Outcome := do
  if creation.details ≠ ∅ then Pass.publish record.id creation.details
  reportSuccess record (← glance client record)
  return .created

/-- A commit writes the lock first and announces the resource after that. -/
theorem commit_eq (client : Client) (record : Record) (creation : Creation) :
    commit client record creation = (do
      Pass.putMetadata record.id (claimedMetadata record creation)
      announce client { record with metadata := claimedMetadata record creation } creation) :=
  rfl

/-- To announce a resource publishes its details, and reports of it with what is seen then. -/
theorem only_announce {allowed : Request → Prop} (engine : Engine) (kind : Kind)
    (looks : ∀ request : Request, request.Reads → allowed request) (clock : allowed .now)
    (publishes : ∀ details, allowed (.publish record.id details))
    (reports : ∀ status : Status, status.observedGeneration = record.generation →
      allowed (.putStatus record.id status)) (creation : Creation) :
    Only allowed (announce (engine.clientOf kind) record creation) := by
  have tells : Only allowed (do
      reportSuccess record (← glance (engine.clientOf kind) record)
      return Outcome.created) := by
    refine Only.bind (only_glance looks engine kind record) fun seen => ?_
    exact Only.bind (only_reportSuccess clock reports seen) fun _ => only_pure _
  unfold announce
  dsimp only
  split
  · refine Only.bind ?_ fun _ => tells
    exact Only.bind (only_ask (publishes _)) only_written
  · exact tells

/-- What follows on the answer to a create. -/
def concludeCreate (client : Client) (record : Record) (wasPending : Bool) :
    Except PassError Creation → Pass Outcome
  | .ok creation => commit client record creation
  | .error error => do
      if ¬ error.isAlreadyExists then
        abandonCreate client record
        throw error
      else if wasPending then
        if (← client.probe record).isNone then throw error
        resume client record
      else
        releasePending record
        throw record.collision

/-- A create marks the record, asks the client for the resource and judges the answer. -/
theorem create_eq (client : Client) (record : Record) :
    create client record = (do
      let marked ← markPending record
      let answer ← Pass.attempt (client.create marked)
      concludeCreate client marked record.metadata.isCreatePending answer) :=
  rfl

/-- An update works on the resource by calls, looks, and reports a success. -/
theorem only_update {allowed : Request → Prop} (engine : Engine)
    (updates : ∀ request : Request, request.WorksByCall record → allowed request)
    (looks : ∀ request : Request, request.Reads → allowed request) (clock : allowed .now)
    (reports : ∀ status : Status, status.observedGeneration = record.generation →
      allowed (.putStatus record.id status)) (observed : Observed) (drifts : List Drift) :
    Only allowed (update (engine.clientOf record.kind) record observed drifts) := by
  refine Only.bind ((engine.only_clientUpdate record drifts).mono updates) fun _ => ?_
  refine Only.bind (only_glance looks engine _ record) fun seen => ?_
  exact Only.bind (only_reportSuccess clock reports _) fun _ => only_pure _

/-- A delete works on the resource by calls, and erases the record. -/
theorem only_delete {allowed : Request → Prop} (engine : Engine)
    (deletes : ∀ request : Request, request.HandlesByCall record → allowed request)
    (clock : allowed .now)
    (reports : ∀ status : Status, status.observedGeneration = record.status.observedGeneration →
      allowed (.putStatus record.id status))
    (erases : allowed (.erase record.id)) :
    Only allowed (delete (engine.clientOf record.kind) record) := by
  have ends : Only allowed (do
      Pass.erase record.id
      return Outcome.deleted) :=
    Only.bind (Only.bind (only_ask erases) only_written) fun _ => only_pure _
  refine Only.bind (only_ask clock) fun now => ?_
  refine Only.bind (only_ask (reports _ rfl)) fun _ => ?_
  refine Only.bind ((engine.only_clientDelete record false).mono deletes).attempt
    fun answer => ?_
  dsimp only
  split
  · exact ends
  · split
    · exact Only.bind (only_throw _) fun _ => ends
    · exact ends

section Phases

variable {other : Record}

theorem tends_reportSuccess (same : other.id = record.id) (observed : Option Observed) :
    Only (Request.Tends record) (reportSuccess other observed) :=
  only_reportSuccess ⟨trivial, rfl⟩ (fun _ _ => ⟨same, rfl⟩) observed

theorem tends_reportError (record : Record) (error : PassError) :
    Only (Request.Tends record) (reportError record error) :=
  only_reportError ⟨trivial, rfl⟩ (fun _ _ _ => ⟨rfl, rfl⟩) error

theorem tends_releasePending (same : other.id = record.id) :
    Only (Request.Tends record) (releasePending other) :=
  only_releasePending ⟨same, rfl⟩

/-- To commit a create writes the record that was created for alone. -/
theorem tends_commit (engine : Engine) (kind : Kind) (same : other.id = record.id)
    (creation : Creation) :
    Only (Request.Tends record) (commit (engine.clientOf kind) other creation) := by
  rw [commit_eq]
  refine Only.bind (Only.bind (only_ask ⟨same, rfl⟩) only_written) fun _ => ?_
  apply only_announce engine kind (fun _ => Request.Reads.tends) ⟨trivial, rfl⟩
  · intro details
    exact ⟨same, rfl⟩
  · intro status _
    exact ⟨same, rfl⟩

/-- A create that is resumed tends its own record, and works on its resource alone. -/
theorem tends_resume (engine : Engine) (same : other.id = record.id)
    (resource : other.resource? = record.resource?) :
    Only (Request.Tends record) (resume (engine.clientOf other.kind) other) := by
  have commits : Only (Request.Tends record) (do
      let creation ← (engine.clientOf other.kind).resumeCreate other
      commit (engine.clientOf other.kind) other creation) := by
    refine Only.bind ?_ fun creation => tends_commit engine _ same creation
    apply (engine.only_resumeCreate other).mono
    intro request works
    exact works.2.of_same same resource
  refine Only.bind (Only.bind (only_ask ⟨trivial, rfl⟩) fun _ => only_pure _) fun rival => ?_
  dsimp only
  split
  · exact Only.bind (tends_releasePending same) fun _ => Only.bind (only_throw _) fun _ => commits
  · exact commits

/-- Whatever a create was answered, what is made of it tends its own record. -/
theorem tends_concludeCreate (engine : Engine) (same : other.id = record.id)
    (resource : other.resource? = record.resource?) (wasPending : Bool)
    (answer : Except PassError Creation) :
    Only (Request.Tends record)
      (concludeCreate (engine.clientOf other.kind) other wasPending answer) := by
  cases answer with
  | ok creation => exact tends_commit engine _ same creation
  | error error =>
      rw [concludeCreate]
      split
      · exact Only.bind (only_abandonCreate (fun _ => Request.Reads.tends) engine _ ⟨same, rfl⟩)
          fun _ => only_throw _
      · split
        · refine Only.bind (only_look (fun _ => Request.Reads.tends) engine _ other) fun seen => ?_
          dsimp only
          split
          · exact Only.bind (only_throw _) fun _ => tends_resume engine same resource
          · exact tends_resume engine same resource
        · exact Only.bind (tends_releasePending same) fun _ => only_throw _

/-- An update tends its own record. -/
theorem tends_update (engine : Engine) (record : Record) (observed : Observed)
    (drifts : List Drift) :
    Only (Request.Tends record)
      (update (engine.clientOf record.kind) record observed drifts) := by
  apply only_update engine (fun _ works => works.2.2) (fun _ => Request.Reads.tends)
    ⟨trivial, rfl⟩
  intro status _
  exact ⟨rfl, rfl⟩

/-- A delete concerns its own record, which it erases in the end. -/
theorem concerns_delete (engine : Engine) (record : Record) :
    Only (Request.Concerns record) (delete (engine.clientOf record.kind) record) := by
  apply only_delete engine (fun _ handles => handles.2.2) trivial
  · intro status _
    exact rfl
  · exact rfl

end Phases

end Engine

end Steward
