/-
This file says how work on a resource can fail.
The remote side refuses a call, or the record asks for what cannot be done. That a name belongs to
somebody else, or that the connection or the store fails, is found elsewhere in a pass.
-/

import Steward.Engine.Basic
import Steward.Proofs.Execution
import Steward.Proofs.Pipeline

namespace Steward

open Pass

/-- Whether work on a resource can fail so. -/
def PassError.isOfWork : PassError → Bool
  | .connect _ | .nameCollision _ _ | .unsupportedKind _ | .store _ | .cancelled | .timeout _ =>
      false
  | .transient _ _ | .permissionDenied _ _ | .regionMismatch _ _ | .malformedPolicy _
  | .partialDeletion _ _ | .alreadyExists _ | .notFound _ | .missingDependency _ _
  | .immutableField _ _ | .invalidSpec _ | .rejected _ _ => true

theorem PassError.isOfWork_ofRemote (operation resource : String) (error : RemoteError) :
    (ofRemote operation resource error).isOfWork = true := by
  cases error
  all_goals rfl

/-- A result that is none only for a cause for which work on a resource fails. -/
def RefusesAtWork {α : Type} (result : Except PassError α) : Prop :=
  ∀ error, result = .error error → error.isOfWork = true

section Results

variable {α β : Type}

theorem refusesAtWork_ok (value : α) : RefusesAtWork (.ok value) :=
  nofun

theorem refusesAtWork_error {error : PassError} (fine : error.isOfWork = true) :
    RefusesAtWork (.error error : Except PassError α) := by
  rintro other ⟨⟩
  exact fine

/-- What is put together from parts that fail as work does fails as work does. -/
theorem RefusesAtWork.bind {result : Except PassError α} {next : α → Except PassError β}
    (first : RefusesAtWork result) (rest : ∀ value, RefusesAtWork (next value)) :
    RefusesAtWork (result >>= next) := by
  cases result with
  | ok value => exact rest value
  | error error => exact refusesAtWork_error (first error rfl)

end Results

namespace Pass

variable {α β : Type}

/-- In whatever world the pass runs, it fails as work on a resource does, if it fails. -/
def FailsAtWork (pass : Pass α) : Prop :=
  ∀ world, Ends pass world (fun _ _ => True) fun error _ => error.isOfWork = true

theorem failsAtWork_pure (value : α) : FailsAtWork (pure value : Pass α) :=
  fun _ => trivial

theorem failsAtWork_throw {error : PassError} (fine : error.isOfWork = true) :
    FailsAtWork (throw error : Pass α) :=
  fun _ => fine

/-- A pure result is taken over with its failure. -/
theorem failsAtWork_lift {result : Except PassError α} (refuses : RefusesAtWork result) :
    FailsAtWork (liftM result : Pass α) := by
  intro world
  cases result with
  | ok value => trivial
  | error error => exact refuses error rfl

theorem failsAtWork_ask (request : Request) : FailsAtWork (ask request) :=
  fun _ => trivial

/-- A pass that is put together from parts that fail as work does fails as work does. -/
theorem FailsAtWork.bind {pass : Pass α} {next : α → Pass β} (first : FailsAtWork pass)
    (rest : ∀ value, FailsAtWork (next value)) : FailsAtWork (pass >>= next) := by
  intro world
  rw [ends_bind]
  exact (first world).mono (fun value later _ => rest value later) fun _ _ fine => fine

/-- A call fails by a refusal of the remote side at most. -/
theorem failsAtWork_perform (operation resource : String) (remote : RemoteCall) :
    FailsAtWork (perform operation resource remote) := by
  refine (failsAtWork_ask _).bind fun answer => ?_
  cases answer with
  | ok result => exact failsAtWork_pure _
  | error error => exact failsAtWork_throw (PassError.isOfWork_ofRemote _ _ error)

/-- That something is not found is no failure; any other refusal is one of work. -/
theorem failsAtWork_found (operation resource : String) (answer : Except RemoteError α) :
    FailsAtWork (found operation resource answer) := by
  rcases answer with error | value
  · cases error with
    | notFound _ => exact failsAtWork_pure _
    | _ => exact failsAtWork_throw rfl
  · exact failsAtWork_pure _

end Pass

namespace Drift

/-- A document that is no JSON is a cause of work. -/
theorem refusesAtWork_readDocument (document side : String) :
    RefusesAtWork (readDocument document side) := by
  unfold readDocument
  cases Json.read document with
  | error unread => exact refusesAtWork_error rfl
  | ok value => exact refusesAtWork_ok value

theorem refusesAtWork_sameObject (desired observed : String) :
    RefusesAtWork (sameObject desired observed) := by
  refine (refusesAtWork_readDocument _ _).bind fun left => ?_
  exact (refusesAtWork_readDocument _ _).bind fun right => refusesAtWork_ok _

/-- To compare a policy with what is there fails by a document that is no JSON at most. -/
theorem refusesAtWork_ofPolicy (field : Field) (desired observed : Option String) :
    RefusesAtWork (ofPolicy field desired observed) := by
  unfold ofPolicy
  split
  · exact refusesAtWork_ok _
  · exact refusesAtWork_ok _
  · exact refusesAtWork_ok _
  · refine (refusesAtWork_sameObject _ _).bind fun same => ?_
    split
    · exact refusesAtWork_ok _
    · exact refusesAtWork_ok _

end Drift

namespace Bucket

/-- A record of another kind is refused as an invalid spec. -/
theorem refusesAtWork_specOf (record : Record) : RefusesAtWork (specOf record) := by
  unfold specOf
  split
  · exact refusesAtWork_ok _
  · exact refusesAtWork_error rfl

/-- To look at a bucket fails by a refusal of the remote side at most. -/
theorem failsAtWork_probe (record : Record) : FailsAtWork (probe record) := by
  refine (failsAtWork_perform _ _ _).bind fun exists? => ?_
  have rest : FailsAtWork (do
      let answer ← Pass.call (.bucketPolicy record.targetName)
      let policy ← Pass.found "get bucket policy" record.targetName answer
      return some ({
        bucketName := some record.targetName
        policy := policy.join } : Observed)) := by
    refine (failsAtWork_ask _).bind fun answer => ?_
    exact (failsAtWork_found _ _ answer).bind fun _ => failsAtWork_pure _
  split
  · exact failsAtWork_pure _
  · exact rest

theorem refusesAtWork_diff (record : Record) (observed : Observed) :
    RefusesAtWork (diff record observed) := by
  refine (refusesAtWork_specOf record).bind fun spec => ?_
  exact (Drift.refusesAtWork_ofPolicy _ _ _).bind fun _ => refusesAtWork_ok _

theorem failsAtWork_configure (name : String) (spec : BucketSpec) :
    FailsAtWork (configure name spec) := by
  unfold configure
  split
  · exact (failsAtWork_perform _ _ _).bind fun _ => failsAtWork_pure _
  · exact failsAtWork_pure _

theorem failsAtWork_create (record : Record) : FailsAtWork (create record) := by
  refine (failsAtWork_lift (refusesAtWork_specOf record)).bind fun spec => ?_
  exact (failsAtWork_perform _ _ _).bind fun _ => failsAtWork_configure _ _

theorem failsAtWork_resumeCreate (record : Record) : FailsAtWork (resumeCreate record) :=
  (failsAtWork_lift (refusesAtWork_specOf record)).bind fun _ => failsAtWork_configure _ _

/-- To bring a bucket into line fails as work does. -/
theorem failsAtWork_update (record : Record) (drifts : List Drift) :
    FailsAtWork (update record drifts) := by
  refine (failsAtWork_lift (refusesAtWork_specOf record)).bind fun spec => ?_
  dsimp only
  split
  · exact failsAtWork_perform _ _ _
  · exact failsAtWork_pure _

end Bucket

namespace Drain

/-- A remover that has failed has done so at its work. -/
def HasFailedAtWork (pipeline : Pipeline) : Prop :=
  ∀ error, pipeline.remover = .failed error → error.isOfWork = true

variable {settings : DeletionSettings} {bucket : String} {bypass : Bool} {world : World}

/-- A remover that fails does so for the refusal that it met, or for the objects that it left. -/
theorem hasFailedAtWork_afterRemoval (batch : List String) (pipeline : Pipeline)
    (answer : Except RemoteError (List RemovalFailure)) :
    HasFailedAtWork (pipeline.afterRemoval bucket batch answer) := by
  intro error failed
  rcases answer with refused | _ | ⟨failure, failures⟩
  · cases failed
    exact PassError.isOfWork_ofRemote _ _ refused
  · cases failed
  · cases failed
    rfl

/-- A move of one of the workers does not fail itself, and leaves no other failure than one of
work. -/
theorem Moves.ends_at_work {pipeline : Pipeline} {move : Pass Pipeline}
    (moves : Moves settings bucket bypass pipeline move) (fine : HasFailedAtWork pipeline) :
    Ends move world (fun next _ => HasFailedAtWork next) fun _ _ => False := by
  cases moves with
  | list listed =>
      have same := (Pipeline.lists_of_list? listed).2.remover_eq
      intro error failed
      exact fine error (same.symm.trans failed)
  | receive received =>
      obtain ⟨-, ⟨-, -, rfl⟩ | ⟨size, -, -, -, rfl⟩⟩ := Pipeline.receive?_cases received
      · exact fun error => nofun
      · exact fun error => nofun
  | remove removes =>
      rw [request, ends_bind, ends_call]
      exact hasFailedAtWork_afterRemoval _ _ _

/-- However many moves the workers make, they leave no other failure than one of work. -/
theorem drive_ends_at_work (scheduler : Scheduler) (moves taken : Nat) {pipeline : Pipeline}
    (fine : HasFailedAtWork pipeline) :
    Ends (drive settings scheduler bucket bypass moves taken pipeline) world
      (fun last _ => HasFailedAtWork last) fun _ _ => False :=
  drive_keeps (fun _ _ _ moves fine => moves.ends_at_work fine) scheduler moves taken fine

/-- To empty a bucket and remove it fails as work does, if it is not called off. -/
theorem failsAtWork_delete (settings : DeletionSettings) (scheduler : Scheduler)
    (bucket : String) : FailsAtWork (delete settings scheduler bucket false) := by
  refine FailsAtWork.bind ?_ fun report => ?_
  · refine FailsAtWork.bind ?_ fun bypass => FailsAtWork.bind ?_ fun entries => ?_
    · refine (failsAtWork_ask _).bind fun answer => ?_
      cases answer
      · exact failsAtWork_pure _
      · exact failsAtWork_pure _
    · refine (failsAtWork_ask _).bind fun answer => ?_
      cases answer
      · exact failsAtWork_pure _
      · exact failsAtWork_pure _
    · intro world
      simp only [Bool.false_eq_true, if_false]
      rw [ends_bind]
      have start : HasFailedAtWork { unlisted := entries } := fun error => nofun
      apply (drive_ends_at_work scheduler _ _ start).of_succeeds
      intro last later fine
      split
      · rename_i error failed
        exact fine error failed
      · trivial
  · exact (failsAtWork_perform _ _ _).bind fun _ => failsAtWork_pure _

end Drain

/-- To delete a bucket fails as work does, under either policy. -/
theorem Bucket.failsAtWork_delete (settings : DeletionSettings) (scheduler : Scheduler)
    (record : Record) : FailsAtWork (delete settings scheduler record false) := by
  refine (failsAtWork_lift (refusesAtWork_specOf record)).bind fun spec => ?_
  dsimp only
  cases spec.deletionPolicy with
  | deleteIfEmpty => exact failsAtWork_perform _ _ _
  | deleteAll => exact (Drain.failsAtWork_delete _ _ _).bind fun _ => failsAtWork_pure _

namespace User

theorem refusesAtWork_specOf (record : Record) : RefusesAtWork (specOf record) := by
  unfold specOf
  split
  · exact refusesAtWork_ok _
  · exact refusesAtWork_error rfl

theorem failsAtWork_probe (record : Record) : FailsAtWork (probe record) := by
  refine (failsAtWork_ask _).bind fun answer => ?_
  exact (failsAtWork_found _ _ answer).bind fun _ => failsAtWork_pure _

theorem refusesAtWork_diff (record : Record) (observed : Observed) :
    RefusesAtWork (diff record observed) :=
  (refusesAtWork_specOf record).bind fun _ => refusesAtWork_ok _

/-- A policy that does not exist is a cause of work. -/
theorem failsAtWork_checkPoliciesExist (policies : List String) :
    FailsAtWork (checkPoliciesExist policies) := by
  unfold checkPoliciesExist
  split
  · exact failsAtWork_pure _
  · refine (failsAtWork_perform _ _ _).bind fun known => ?_
    split
    · exact failsAtWork_throw rfl
    · exact failsAtWork_pure _

/-- To give a user its policies fails as work does, under either binding. -/
theorem failsAtWork_applyPolicies (binding : PolicyBinding) (user : String)
    (desired : List String) : FailsAtWork (applyPolicies binding user desired) := by
  cases binding with
  | replace => exact failsAtWork_perform _ _ _
  | attach =>
      refine (failsAtWork_perform _ _ _).bind fun info => ?_
      have detaches : ∀ detached : List String, FailsAtWork (do
          if detached ≠ [] then
            perform "detach user policies" user (.detachUserPolicies user detached)) := by
        intro detached
        split
        · exact failsAtWork_perform _ _ _
        · exact failsAtWork_pure _
      dsimp only
      split
      · exact (failsAtWork_perform _ _ _).bind fun _ => detaches _
      · exact detaches _

/-- To register a user fails as work does. -/
theorem failsAtWork_register (binding : PolicyBinding) (record : Record) :
    FailsAtWork (register binding record) := by
  refine (failsAtWork_lift (refusesAtWork_specOf record)).bind fun spec => ?_
  refine (failsAtWork_checkPoliciesExist _).bind fun _ => ?_
  refine (failsAtWork_ask _).bind fun secret => (failsAtWork_perform _ _ _).bind fun _ => ?_
  dsimp only
  split
  · exact (failsAtWork_applyPolicies _ _ _).bind fun _ => failsAtWork_pure _
  · exact failsAtWork_pure _

/-- To bring a user into line fails as work does. -/
theorem failsAtWork_update (binding : PolicyBinding) (record : Record) (drifts : List Drift) :
    FailsAtWork (update binding record drifts) := by
  refine (failsAtWork_lift (refusesAtWork_specOf record)).bind fun spec => ?_
  split
  · exact (failsAtWork_checkPoliciesExist _).bind fun _ => failsAtWork_applyPolicies _ _ _
  · exact failsAtWork_pure _

end User

namespace Policy

/-- A record without a document, or with one that is no JSON, is a cause of work. -/
theorem refusesAtWork_desiredDocument (record : Record) :
    RefusesAtWork (desiredDocument record) := by
  have asked : RefusesAtWork (specOf record) := by
    unfold specOf
    split
    · exact refusesAtWork_ok _
    · exact refusesAtWork_error rfl
  refine asked.bind fun spec => ?_
  split
  · exact refusesAtWork_ok _
  · exact refusesAtWork_ok _
  · exact refusesAtWork_error rfl

theorem failsAtWork_probe (record : Record) : FailsAtWork (probe record) := by
  refine (failsAtWork_ask _).bind fun answer => ?_
  exact (failsAtWork_found _ _ answer).bind fun _ => failsAtWork_pure _

theorem refusesAtWork_diff (record : Record) (observed : Observed) :
    RefusesAtWork (diff record observed) := by
  refine (refusesAtWork_desiredDocument record).bind fun desired => ?_
  exact (Drift.refusesAtWork_ofPolicy _ _ _).bind fun _ => refusesAtWork_ok _

theorem failsAtWork_create (record : Record) : FailsAtWork (create record) := by
  refine (failsAtWork_lift (refusesAtWork_desiredDocument record)).bind fun document => ?_
  refine (failsAtWork_lift (Drift.refusesAtWork_sameObject _ _)).bind fun _ => ?_
  exact (failsAtWork_perform _ _ _).bind fun _ => failsAtWork_pure _

/-- To bring an access policy into line fails as work does. -/
theorem failsAtWork_update (record : Record) (drifts : List Drift) :
    FailsAtWork (update record drifts) := by
  unfold update
  split
  · exact failsAtWork_pure _
  · refine (failsAtWork_lift (refusesAtWork_desiredDocument record)).bind fun document => ?_
    exact failsAtWork_perform _ _ _

end Policy

namespace ServiceAccount

theorem refusesAtWork_specOf (record : Record) : RefusesAtWork (specOf record) := by
  unfold specOf
  split
  · exact refusesAtWork_ok _
  · exact refusesAtWork_error rfl

theorem failsAtWork_probe (record : Record) : FailsAtWork (probe record) := by
  unfold probe
  split
  · exact failsAtWork_pure _
  · refine (failsAtWork_ask _).bind fun answer => ?_
    exact (failsAtWork_found _ _ answer).bind fun _ => failsAtWork_pure _

theorem refusesAtWork_diff (record : Record) (observed : Observed) :
    RefusesAtWork (diff record observed) := by
  refine (refusesAtWork_specOf record).bind fun spec => ?_
  dsimp only
  split
  · exact (Drift.refusesAtWork_ofPolicy _ _ _).bind fun _ => refusesAtWork_ok _
  · exact refusesAtWork_ok _

/-- To make a service account fails as work does. -/
theorem failsAtWork_create (record : Record) : FailsAtWork (create record) := by
  refine (failsAtWork_lift (refusesAtWork_specOf record)).bind fun spec => ?_
  dsimp only
  split
  · refine (failsAtWork_lift (Drift.refusesAtWork_sameObject _ _)).bind fun _ => ?_
    exact (failsAtWork_perform _ _ _).bind fun _ => failsAtWork_pure _
  · exact (failsAtWork_perform _ _ _).bind fun _ => failsAtWork_pure _

/-- To bring a service account into line fails as work does, also when its parent is to change. -/
theorem failsAtWork_update (record : Record) (drifts : List Drift) :
    FailsAtWork (update record drifts) := by
  refine (failsAtWork_lift (refusesAtWork_specOf record)).bind fun spec => ?_
  split
  · exact failsAtWork_throw rfl
  · rename_i accessKey _
    have writes : FailsAtWork (do
        let flagged := fun {α : Type} (field : Field) (value : Option α) =>
          value.filter fun _ => Drift.flags drifts field
        let update : ServiceAccountUpdate := {
          description := flagged .description spec.description
          expiry := flagged .expiry spec.expiry
          policy := flagged .policy spec.policy }
        if update.isEmpty then return ()
        perform "update service account" accessKey (.updateServiceAccount accessKey update)) := by
      dsimp only
      split
      · exact failsAtWork_pure _
      · exact failsAtWork_perform _ _ _
    dsimp only
    split
    · exact (failsAtWork_throw rfl).bind fun _ => writes
    · exact writes

/-- To delete a service account fails by a refusal of the remote side at most. -/
theorem failsAtWork_delete (record : Record) : FailsAtWork (delete record false) := by
  unfold delete
  split
  · exact failsAtWork_pure _
  · exact failsAtWork_perform _ _ _

end ServiceAccount

namespace Engine

variable (engine : Engine) (kind : Kind) (record : Record)

theorem failsAtWork_probe : FailsAtWork ((engine.clientOf kind).probe record) := by
  cases kind with
  | bucket => exact Bucket.failsAtWork_probe record
  | user => exact User.failsAtWork_probe record
  | policy => exact Policy.failsAtWork_probe record
  | serviceAccount => exact ServiceAccount.failsAtWork_probe record

/-- Whatever the kind, a comparison fails as work does. -/
theorem refusesAtWork_diff (observed : Observed) :
    RefusesAtWork ((engine.clientOf kind).diff record observed) := by
  cases kind with
  | bucket => exact Bucket.refusesAtWork_diff record observed
  | user => exact User.refusesAtWork_diff record observed
  | policy => exact Policy.refusesAtWork_diff record observed
  | serviceAccount => exact ServiceAccount.refusesAtWork_diff record observed

/-- Whatever the kind, a create fails as work does. -/
theorem failsAtWork_clientCreate : FailsAtWork ((engine.clientOf kind).create record) := by
  cases kind with
  | bucket => exact Bucket.failsAtWork_create record
  | user => exact User.failsAtWork_register engine.binding record
  | policy => exact Policy.failsAtWork_create record
  | serviceAccount => exact ServiceAccount.failsAtWork_create record

theorem failsAtWork_resumeCreate :
    FailsAtWork ((engine.clientOf kind).resumeCreate record) := by
  cases kind with
  | bucket => exact Bucket.failsAtWork_resumeCreate record
  | user => exact User.failsAtWork_register engine.binding record
  | policy => exact Policy.failsAtWork_create record
  | serviceAccount => exact failsAtWork_throw rfl

/-- Whatever the kind, an update fails as work does. -/
theorem failsAtWork_clientUpdate (drifts : List Drift) :
    FailsAtWork ((engine.clientOf kind).update record drifts) := by
  cases kind with
  | bucket => exact Bucket.failsAtWork_update record drifts
  | user => exact User.failsAtWork_update engine.binding record drifts
  | policy => exact Policy.failsAtWork_update record drifts
  | serviceAccount => exact ServiceAccount.failsAtWork_update record drifts

/-- To delete a resource fails as work does, unless it was cancelled beforehand. -/
theorem failsAtWork_clientDelete :
    FailsAtWork ((engine.clientOf kind).delete record false) := by
  cases kind with
  | bucket => exact Bucket.failsAtWork_delete engine.deletion engine.scheduler record
  | user => exact failsAtWork_perform _ _ _
  | policy => exact failsAtWork_perform _ _ _
  | serviceAccount => exact ServiceAccount.failsAtWork_delete record

end Engine

end Steward
