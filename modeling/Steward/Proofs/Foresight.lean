/-
This file shows that a plan tells what the next pass does.
Both look at the same remote side and decide from the same observation; the pass then acts on
it, and whatever it does ends in the way the plan has told.
-/

import Steward.Engine.Plan
import Steward.Proofs.Report
import Steward.Proofs.Runs
import Steward.Proofs.Sight

namespace Steward

open Pass

/-- Whether an outcome is one that the plan tells. -/
def Plan.Foretells : Plan → Outcome → Prop
  | .create, outcome | .resumeCreate, outcome => outcome = .created
  | .update drifts, outcome => outcome = .updated (drifts.map Drift.field).eraseDups
  | .noOp, outcome => outcome = .upToDate
  | .delete, outcome => outcome = .deleted
  | .forget, outcome => outcome = .forgotten

/-- How a pass may fail after a plan: as the plan did, or while it did what was planned; to find
nothing to do, or to forget the record, cannot fail. -/
def Plan.Allows (planned : Except PassError Plan) (error : PassError) : Prop :=
  match planned with
  | .error foretold => error = foretold
  | .ok plan => plan ≠ .noOp ∧ plan ≠ .forget

namespace Engine

variable {engine : Engine} {world : World}

/-- A claimed create ends as a create, or with a failure. -/
theorem commit_ends_created {client : Client} {record : Record} {creation : Creation} :
    Ends (commit client record creation) world (fun outcome _ => outcome = .created)
      fun _ _ => True := by
  unfold commit
  apply ends_of_last
  intro _ marked
  split
  · apply ends_of_last
    intro _ published
    apply ends_of_last
    intro _ seen
    exact ends_of_last fun _ _ => rfl
  · apply ends_of_last
    intro _ seen
    exact ends_of_last fun _ _ => rfl

/-- A create that is gone on with ends as one, if it does not fail. -/
theorem resume_ends_created {client : Client} {record : Record} :
    Ends (resume client record) world (fun outcome _ => outcome = .created) fun _ _ => True := by
  unfold resume
  apply ends_of_last
  intro rival looked
  split
  · apply ends_of_last
    intro _ _
    exact trivial
  · apply ends_of_last
    intro _ _
    exact commit_ends_created

/-- A create that does not fail ends as one. -/
theorem create_ends_created {client : Client} {record : Record} :
    Ends (create client record) world (fun outcome _ => outcome = .created) fun _ _ => True := by
  unfold create
  apply ends_of_last
  intro marked _
  apply ends_of_last
  intro answer _
  cases answer with
  | ok creation => exact commit_ends_created
  | error error =>
      dsimp only
      split
      · apply ends_of_last
        intro _ _
        exact trivial
      · split
        · apply ends_of_last
          intro _ _
          split
          · exact trivial
          · exact resume_ends_created
        · apply ends_of_last
          intro _ _
          exact trivial

/-- An update that does not fail tells the fields in which the resource differed. -/
theorem update_ends_updated {client : Client} {record : Record} {observed : Observed}
    {drifts : List Drift} :
    Ends (update client record observed drifts) world
      (fun outcome _ => outcome = .updated (drifts.map Drift.field).eraseDups)
      fun _ _ => True := by
  unfold update
  apply ends_of_last
  intro _ _
  apply ends_of_last
  intro _ _
  apply ends_of_last
  intro _ _
  rw [driftedFields, User.firstOccurrences_eq]
  rfl

/-- A deletion that does not fail ends as one. -/
theorem delete_ends_deleted {client : Client} {record : Record} :
    Ends (delete client record) world (fun outcome _ => outcome = .deleted) fun _ _ => True := by
  unfold delete
  apply ends_of_last
  intro _ _
  apply ends_of_last
  intro _ _
  apply ends_of_last
  intro answer _
  cases answer with
  | ok _ =>
      apply ends_of_last
      intro _ _
      rfl
  | error error =>
      dsimp only
      split
      · exact trivial
      · apply ends_of_last
        intro _ _
        rfl

/-- What a plan makes of an observation. -/
def decision (record : Record) (store : Store) : Observation → Except PassError Plan
  | .absent => .ok .create
  | .unclaimed _ =>
      if store.list.any (·.isRivalOf record) then .error record.collision else .ok .resumeCreate
  | .owned _ [] => .ok .noOp
  | .owned _ drifts => .ok (.update drifts)

/-- In a calm world, a plan decides by what is observed. -/
theorem answer_planOf (calm : world.plane.IsCalm) (kind : Kind) (record : Record) :
    (planOf (engine.clientOf kind) record).answer world =
      (((engine.clientOf kind).observe record).answer world).bind
        (decision record world.store) := by
  apply Ends.answer_eq
  rw [planOf, (engine.only_observe kind record).ends_bind_of_reads calm]
  cases ((engine.clientOf kind).observe record).answer world with
  | error error => rfl
  | ok observation =>
      cases observation with
      | absent => rfl
      | unclaimed observed =>
          simp only [hasRival, ends_bind, ends_listRecords, ends_pure, Except.bind, decision]
          cases world.store.list.any (·.isRivalOf record)
          · rfl
          · rfl
      | owned observed drifts =>
          cases drifts
          · rfl
          · rfl

/-- A pass on an observation ends as was decided, or fails in a way that the decision allows. -/
theorem drive_ends_as_decided {record : Record} (calm : world.plane.IsCalm)
    (stored : world.store.get? record.id = some record) (kept : record.isDeleting = false) :
    Ends (drive (engine.clientOf record.kind) record) world
      (fun outcome _ => ∃ plan,
        (planOf (engine.clientOf record.kind) record).answer world = .ok plan ∧
          plan.Foretells outcome)
      (fun error _ => Plan.Allows
        ((planOf (engine.clientOf record.kind) record).answer world) error) := by
  rw [answer_planOf calm, drive, kept]
  simp only [Bool.false_eq_true, if_false]
  rw [(engine.only_observe record.kind record).ends_bind_of_reads calm]
  cases ((engine.clientOf record.kind).observe record).answer world with
  | error error => rfl
  | ok observation =>
      cases observation with
      | absent =>
          apply create_ends_created.mono
          · intro outcome _ created
            exact ⟨.create, rfl, created⟩
          · intro error _ _
            exact ⟨by simp, by simp⟩
      | unclaimed observed =>
          by_cases rival : world.store.list.any (·.isRivalOf record)
          · simp only [resume, hasRival, ends_bind, ends_listRecords, ends_pure, rival, if_true,
              releasePending, ends_putMetadata, stored, Except.bind, decision, ends_throw]
            rfl
          · apply resume_ends_created.mono
            · intro outcome _ created
              refine ⟨.resumeCreate, ?_, created⟩
              simp [Except.bind, decision, rival]
            · intro error _ _
              simp [Except.bind, decision, rival, Plan.Allows]
      | owned observed drifts =>
          cases drifts with
          | nil =>
              apply (ends_bind _ _).2
              apply ends_reportSuccess stored
              intro _ _ _ _
              exact ⟨.noOp, rfl, rfl⟩
          | cons drift drifts =>
              apply update_ends_updated.mono
              · intro outcome _ updated
                exact ⟨.update (drift :: drifts), rfl, updated⟩
              · intro error _ _
                exact ⟨by simp, by simp⟩

/-- A plan checks the spec, then looks at the deletion, and only then connects. -/
theorem answer_plan {record : Record} (stored : world.store.get? record.id = some record) :
    (engine.plan record.id).answer world = (do
      (record.validate).mapError PassError.invalidSpec
      if record.isDeleting then
        return if record.isClaimed then .delete else .forget
      let client ← engine.connect record.kind record
      (planOf client record).answer world) := by
  apply Ends.answer_eq
  simp only [plan, ends_bind, ends_readRecord, stored, ends_lift]
  cases record.validate with
  | error invalid => rfl
  | ok _ =>
      cases record.isDeleting with
      | true => rfl
      | false =>
          simp only [mapError_ok, Bool.false_eq_true, if_false, ends_bind, ends_lift]
          cases engine.connect record.kind record with
          | error unconnected => rfl
          | ok client =>
              apply (ends_answer _ world).mono
              · intro decided _ ended
                obtain ⟨answered, -⟩ := ended
                exact answered
              · intro error _ ended
                obtain ⟨failed, -⟩ := ended
                exact failed

/-- A pass over a stored record ends as the plan for it foretells, or with an error that the plan
allows. -/
theorem advance_ends_as_planned {record : Record} (calm : world.plane.IsCalm)
    (stored : world.store.get? record.id = some record) :
    Ends (engine.advance record) world
      (fun outcome _ => ∃ plan, (engine.plan record.id).answer world = .ok plan ∧
        plan.Foretells outcome)
      (fun error _ => Plan.Allows ((engine.plan record.id).answer world) error) := by
  rw [answer_plan stored, advance, ends_bind, ends_lift]
  cases record.validate with
  | error invalid => rfl
  | ok _ =>
      cases deleting : record.isDeleting with
      | true =>
          cases claimed : record.isClaimed with
          | false =>
              simp only [mapError_ok, Bool.false_eq_true, not_false_eq_true, and_self, if_true,
                ends_bind, ends_erase, stored]
              exact ⟨.forget, rfl, rfl⟩
          | true =>
              simp only [mapError_ok, not_true_eq_false, and_false, if_false, ends_bind,
                ends_lift]
              cases connected : engine.connect record.kind record with
              | error unconnected => exact ⟨by simp, by simp⟩
              | ok client =>
                  simp only [drive, deleting, if_true]
                  apply delete_ends_deleted.mono
                  · intro outcome _ deleted
                    exact ⟨.delete, rfl, deleted⟩
                  · intro error _ _
                    exact ⟨by simp, by simp⟩
      | false =>
          simp only [mapError_ok, Bool.false_eq_true, false_and, if_false, ends_bind, ends_lift]
          cases connected : engine.connect record.kind record with
          | error unconnected => rfl
          | ok client =>
              cases client_of_connect connected
              exact drive_ends_as_decided calm stored deleting

/-- A pass ends as was planned, or fails in a way that the plan allows. -/
theorem pass_ends_as_planned {record : Record} (calm : world.plane.IsCalm)
    (stored : world.store.get? record.id = some record) :
    Ends (engine.pass record.id) world
      (fun outcome _ => ∃ plan, (engine.plan record.id).answer world = .ok plan ∧
        plan.Foretells outcome)
      (fun error _ => Plan.Allows ((engine.plan record.id).answer world) error) := by
  rw [ends_pass stored]
  apply (advance_ends_as_planned calm stored).mono (fun _ _ told => told)
  intro error after allowed
  apply ends_reportError
  · intro current status clock _
    exact allowed
  · intro clock
    exact allowed

theorem only_hasRival {record : Record} : Only Request.Reads (hasRival record) :=
  Only.bind (only_ask trivial) fun _ => only_pure _

/-- To plan with a client only reads. -/
theorem only_planOf (kind : Kind) (record : Record) :
    Only Request.Reads (planOf (engine.clientOf kind) record) := by
  apply (engine.only_observe kind record).bind
  intro observation
  split
  · exact only_pure _
  · apply only_hasRival.bind
    intro rival
    split
    · exact only_throw _
    · exact only_pure _
  · exact only_pure _
  · exact only_pure _

/-- To plan only reads. -/
theorem only_plan (id : RecordId) : Only Request.Reads (engine.plan id) := by
  apply (only_ask trivial).bind
  intro found
  cases found with
  | none => exact only_throw _
  | some record =>
      apply (only_lift _).bind
      intro _
      split
      · exact only_pure _
      · cases connected : engine.connect record.kind record with
        | error unconnected => exact only_throw _
        | ok client =>
            cases client_of_connect connected
            exact only_planOf record.kind record

/-- A plan tells the next pass: it changes nothing, it fails as the pass does, and it tells what
the pass does if that succeeds. -/
theorem plan_foretells_pass (engine : Engine) (world : World) (id : RecordId) (record : Record)
    (calm : world.plane.IsCalm) (stored : world.store.get? id = some record) :
    (engine.plan id).after world = world ∧
      (∀ error, (engine.plan id).answer world = .error error →
        (engine.pass id).answer world = .error error) ∧
      (∀ outcome, (engine.pass id).answer world = .ok outcome →
        ∃ plan, (engine.plan id).answer world = .ok plan ∧ plan.Foretells outcome) ∧
      ((engine.pass id).answer world = .ok .upToDate ↔
        (engine.plan id).answer world = .ok .noOp) ∧
      ((engine.pass id).answer world = .ok .forgotten ↔
        (engine.plan id).answer world = .ok .forget) := by
  have named := world.store.id_of_get? stored
  subst named
  have ends := @pass_ends_as_planned engine world record calm stored
  have foretold : ∀ outcome, (engine.pass record.id).answer world = .ok outcome →
      ∃ plan, (engine.plan record.id).answer world = .ok plan ∧ plan.Foretells outcome :=
    fun outcome answered => ends.of_ok answered
  have certain : ∀ plan, (engine.plan record.id).answer world = .ok plan →
      plan = .noOp ∨ plan = .forget →
      ∃ outcome, (engine.pass record.id).answer world = .ok outcome ∧ plan.Foretells outcome := by
    intro plan planned either
    cases answered : (engine.pass record.id).answer world with
    | ok outcome =>
        obtain ⟨other, same, told⟩ := foretold outcome answered
        cases same.symm.trans planned
        exact ⟨outcome, rfl, told⟩
    | error error =>
        have allowed := ends.of_error answered
        rw [planned] at allowed
        rcases either with rfl | rfl
        · exact absurd rfl allowed.1
        · exact absurd rfl allowed.2
  refine ⟨(only_plan record.id).after_of_reads calm, ?_, foretold, ?_, ?_⟩
  · intro error failed
    cases answered : (engine.pass record.id).answer world with
    | ok outcome =>
        obtain ⟨plan, planned, -⟩ := foretold outcome answered
        cases planned.symm.trans failed
    | error other =>
        have allowed := ends.of_error answered
        rw [failed] at allowed
        rw [allowed]
  · constructor
    · intro answered
      obtain ⟨plan, planned, told⟩ := foretold _ answered
      cases plan with
      | noOp => exact planned
      | _ => cases told
    · intro planned
      obtain ⟨outcome, answered, rfl⟩ := certain _ planned (.inl rfl)
      exact answered
  · constructor
    · intro answered
      obtain ⟨plan, planned, told⟩ := foretold _ answered
      cases plan with
      | forget => exact planned
      | _ => cases told
    · intro planned
      obtain ⟨outcome, answered, rfl⟩ := certain _ planned (.inr rfl)
      exact answered

/-- A bucket that was created by its first pass is found in order by the second. -/
theorem plan_foretells_pass_of_settled_bucket :
    Sample.settled.plane.IsCalm ∧
      Sample.settled.store.get? (.plain "first") =
        some ((Sample.settled.store.get? (.plain "first")).getD default) ∧
      (Sample.engine.pass (.plain "first")).answer Sample.settled = .ok .upToDate := by
  have calm : Sample.settled.plane.IsCalm := by decide +kernel
  have stored : Sample.settled.store.get? (.plain "first") =
      some ((Sample.settled.store.get? (.plain "first")).getD default) := by decide +kernel
  have planned : (Sample.engine.plan (.plain "first")).answer Sample.settled = .ok .noOp := by
    decide +kernel
  obtain ⟨-, -, -, settled, -⟩ :=
    plan_foretells_pass Sample.engine Sample.settled (.plain "first") _ calm stored
  exact ⟨calm, stored, settled.2 planned⟩

end Engine

end Steward
