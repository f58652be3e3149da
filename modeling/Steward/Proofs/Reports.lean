/-
This file says what a pass writes into the status of its record.
Wherever the pass reports from, the status speaks of the generation that the pass has read, or of
the one of which the status has spoken when the pass read it.
-/

import Steward.Proofs.Gate

namespace Steward

open Pass

namespace Request

/-- A status is written for one record only, and it speaks of the generation of the record, or of
the one of which its status has spoken. -/
def Reports (record : Record) : Request → Prop
  | .putStatus id status => id = record.id ∧
      (status.observedGeneration = record.generation ∨
        status.observedGeneration = record.status.observedGeneration)
  | _ => True

variable {record : Record} {request : Request}

theorem Reads.reports (reads : request.Reads) : request.Reports record := by
  cases request with
  | putStatus id status => exact reads.elim
  | _ => trivial

theorem IsRemote.reports (remote : request.IsRemote) : request.Reports record := by
  cases request with
  | putStatus id status => exact remote.elim
  | _ => trivial

end Request

namespace Engine

variable (engine : Engine) (record : Record)

/-- A report of success is about the generation of the record that was read. -/
theorem reports_reportSuccess (observed : Option Observed) :
    Only (Request.Reports record) (reportSuccess record observed) :=
  only_reportSuccess trivial (fun _ same => ⟨rfl, .inl same⟩) observed

/-- A report of a failure speaks of the generation of which the status has spoken before. -/
theorem reports_reportError (error : PassError) :
    Only (Request.Reports record) (reportError record error) :=
  only_reportError trivial (fun _ _ same => ⟨rfl, .inr same⟩) error

theorem reports_releasePending : Only (Request.Reports record) (releasePending record) :=
  only_releasePending trivial

/-- A commit reports of the generation that was created for. -/
theorem reports_commit (kind : Kind) (creation : Creation) :
    Only (Request.Reports record) (commit (engine.clientOf kind) record creation) := by
  rw [commit_eq]
  refine Only.bind (Only.bind (only_ask trivial) only_written) fun _ => ?_
  -- The claim changes the metadata only, of which no report speaks.
  apply only_announce engine kind (fun _ => Request.Reads.reports) trivial
  · intro details
    trivial
  · intro status same
    exact ⟨rfl, .inl same⟩

/-- A create that is resumed reports of the generation that was read. -/
theorem reports_resume :
    Only (Request.Reports record) (resume (engine.clientOf record.kind) record) := by
  have commits : Only (Request.Reports record) (do
      let creation ← (engine.clientOf record.kind).resumeCreate record
      commit (engine.clientOf record.kind) record creation) := by
    refine Only.bind ?_ fun creation => reports_commit engine record _ creation
    exact (engine.only_resumeCreate record).mono fun _ works => works.1.reports
  refine Only.bind (Only.bind (only_ask trivial) fun _ => only_pure _) fun rival => ?_
  dsimp only
  split
  · exact Only.bind (reports_releasePending record) fun _ =>
      Only.bind (only_throw _) fun _ => commits
  · exact commits

/-- Whatever a create was answered, the report is of the generation that was read. -/
theorem reports_concludeCreate (wasPending : Bool) (answer : Except PassError Creation) :
    Only (Request.Reports record)
      (concludeCreate (engine.clientOf record.kind) record wasPending answer) := by
  have looks : ∀ request : Request, request.Reads → request.Reports record :=
    fun _ => Request.Reads.reports
  cases answer with
  | ok creation => exact reports_commit engine record _ creation
  | error error =>
      rw [concludeCreate]
      split
      · exact Only.bind (only_abandonCreate looks engine _ trivial) fun _ => only_throw _
      · split
        · refine Only.bind (only_look looks engine _ record) fun seen => ?_
          dsimp only
          split
          · exact Only.bind (only_throw _) fun _ => reports_resume engine record
          · exact reports_resume engine record
        · exact Only.bind (reports_releasePending record) fun _ => only_throw _

/-- A create reports of the generation that was read. -/
theorem reports_create :
    Only (Request.Reports record) (create (engine.clientOf record.kind) record) := by
  have tries : ∀ metadata wasPending, Only (Request.Reports { record with metadata }) (do
      let answer ← attempt ((engine.clientOf record.kind).create { record with metadata })
      concludeCreate (engine.clientOf record.kind) { record with metadata } wasPending answer) := by
    intro metadata wasPending
    have creates := engine.only_clientCreate_isRemote { record with metadata }
    refine Only.bind (creates.mono fun _ remote => remote.reports).attempt fun answer => ?_
    exact reports_concludeCreate engine { record with metadata } wasPending answer
  rw [create_eq]
  unfold markPending
  split
  · exact tries record.metadata _
  · simp only [bind_assoc, pure_bind]
    exact Only.bind (Only.bind (only_ask trivial) only_written) fun _ =>
      tries record.metadata.markCreatePending record.metadata.isCreatePending

/-- An update reports of the generation that was read. -/
theorem reports_update (observed : Observed) (drifts : List Drift) :
    Only (Request.Reports record)
      (update (engine.clientOf record.kind) record observed drifts) := by
  apply only_update engine (fun _ works => works.2.1.reports) (fun _ => Request.Reads.reports)
    trivial
  intro status same
  exact ⟨rfl, .inl same⟩

/-- A delete reports of the generation that was read. -/
theorem reports_delete :
    Only (Request.Reports record) (delete (engine.clientOf record.kind) record) := by
  apply only_delete engine (fun _ handles => handles.2.1.reports) trivial
  · intro status same
    exact ⟨rfl, .inr same⟩
  · trivial

/-- Whichever way a pass takes, it reports of the generation that it has read. -/
theorem reports_drive :
    Only (Request.Reports record) (drive (engine.clientOf record.kind) record) := by
  have looks := engine.only_observe record.kind record
  unfold drive
  split
  · exact reports_delete engine record
  · refine Only.bind (looks.mono fun _ => Request.Reads.reports) fun observation => ?_
    split
    · exact reports_create engine record
    · exact reports_resume engine record
    · exact Only.bind (reports_reportSuccess record _) fun _ => only_pure _
    · exact reports_update engine record _ _

/-- With its checks, a pass reports of no other generation than the one that it has read. -/
theorem reports_advance : Only (Request.Reports record) (engine.advance record) := by
  have connects : Only (Request.Reports record) (do
      let client ← engine.connect record.kind record
      drive client record) := by
    cases connected : engine.connect record.kind record with
    | error unconnected => exact only_throw unconnected
    | ok client =>
        cases client_of_connect connected
        exact reports_drive engine record
  refine Only.bind (only_lift _) fun _ => ?_
  split
  · refine Only.bind (Only.bind (only_ask trivial) only_written) fun _ => ?_
    exact only_pure _
  · exact connects

/-- What a pass does with the record that it has read speaks of that record. -/
theorem reports_work : Only (Request.Reports record) (engine.work record) := by
  refine Only.bind (reports_advance engine record).attempt fun answer => ?_
  cases answer with
  | ok outcome => exact only_pure _
  | error error => exact Only.bind (reports_reportError record error) fun _ => only_throw _

end Engine

end Steward
