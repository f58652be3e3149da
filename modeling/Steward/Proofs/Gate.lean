/-
This file describes programs that may do one thing only after they have seen another.
A gate is a request with an answer that opens it. A pass for a record without markers takes the
lock only behind a gate: a bucket must have been made by it, and a user or a policy must not have
been there when it looked.
-/

import Steward.Proofs.Conduct

namespace Steward

/-- Which answers to which requests open a gate. -/
abbrev Gate := (request : Request) → request.Answer → Prop

namespace Program

variable {α β : Type} {gate : Gate} {before after : Request → Prop} {shut : α → Prop}

/-- The program makes the requests that are allowed before the gate, and once the gate has been
opened those that are allowed after it. If it ends before that, it has one of some values. -/
def Gated (gate : Gate) (before after : Request → Prop) (shut : α → Prop) : Program α → Prop
  | .done value => shut value
  | .ask request next => before request ∧ ∀ answer,
      (next answer).Gated gate before after shut ∨
        (gate request answer ∧ (next answer).Only after)

/-- A program stays behind its gate that is put together from parts that do. -/
theorem Gated.bind {ended : β → Prop} {program : Program α} {next : α → Program β}
    (gated : program.Gated gate before after shut)
    (behind : ∀ value, shut value → (next value).Gated gate before after ended)
    (beyond : ∀ value, (next value).Only after) :
    (program >>= next).Gated gate before after ended := by
  change (program.bind next).Gated gate before after ended
  induction program with
  | done value => exact behind value gated
  | ask request answered inductionHypothesis =>
      obtain ⟨fine, rest⟩ := gated
      refine ⟨fine, fun answer => ?_⟩
      rcases rest answer with closed | ⟨opens, only⟩
      · exact .inl (inductionHypothesis answer closed)
      · exact .inr ⟨opens, only.bind beyond⟩

/-- The values that may be had before the gate may be widened. -/
theorem Gated.mono {wider : α → Prop} {program : Program α}
    (gated : program.Gated gate before after shut) (fine : ∀ value, shut value → wider value) :
    program.Gated gate before after wider := by
  induction program with
  | done value => exact fine value gated
  | ask request next inductionHypothesis =>
      refine ⟨gated.1, fun answer => ?_⟩
      rcases gated.2 answer with closed | beyond
      · exact .inl (inductionHypothesis answer closed)
      · exact .inr beyond

/-- A program that never needs the gate is gated. -/
theorem gated_of_only {program : Program α} (only : program.Only before)
    (free : ∀ value, shut value) : program.Gated gate before after shut := by
  induction program with
  | done value => exact free value
  | ask request next inductionHypothesis =>
      exact ⟨only.1, fun answer => .inl (inductionHypothesis answer (only.2 answer))⟩

end Program

namespace Pass

variable {α β : Type} {gate : Gate} {before after : Request → Prop} {good : α → Prop}

/-- The pass takes the lock only behind a gate, as its program does. If it succeeds before the gate
has been opened, it has one of some values. -/
def Gated (gate : Gate) (before after : Request → Prop) (good : α → Prop) (pass : Pass α) : Prop :=
  Program.Gated gate before after (fun result => ∀ value, result = .ok value → good value) pass.run

theorem gated_pure {value : α} (fine : good value) :
    Gated gate before after good (pure value) := by
  intro other same
  cases same
  exact fine

theorem gated_throw (error : PassError) :
    Gated gate before after good (throw error : Pass α) :=
  nofun

theorem gated_lift {result : Except PassError α} (fine : ∀ value, result = .ok value → good value) :
    Gated gate before after good (liftM result : Pass α) :=
  fine

/-- What is only allowed before the gate never opens it. -/
theorem gated_of_only {pass : Pass α} (only : Only before pass) (free : ∀ value, good value) :
    Gated gate before after good pass :=
  Program.gated_of_only only fun _ value _ => free value

theorem Gated.mono {wider : α → Prop} {pass : Pass α} (gated : Gated gate before after good pass)
    (fine : ∀ value, good value → wider value) : Gated gate before after wider pass :=
  Program.Gated.mono gated fun _ shut value same => fine value (shut value same)

/-- A pass stays behind its gate that is put together from parts that do. -/
theorem Gated.bind {ended : β → Prop} {pass : Pass α} {next : α → Pass β}
    (gated : Gated gate before after good pass)
    (behind : ∀ value, good value → Gated gate before after ended (next value))
    (beyond : ∀ value, Only after (next value)) :
    Gated gate before after ended (pass >>= next) := by
  apply Program.Gated.bind gated
  · intro result fine
    cases result with
    | ok value => exact behind value (fine value rfl)
    | error error => exact gated_throw error
  · intro result
    cases result with
    | ok value => exact beyond value
    | error error => exact only_throw error

/-- To catch the failure of a gated pass does not open the gate. -/
theorem Gated.attempt {pass : Pass α} (gated : Gated gate before after good pass) :
    Gated gate before after (fun result => ∀ value, result = .ok value → good value)
      (attempt pass) := by
  apply Program.Gated.bind gated
  · intro result fine other same
    cases same
    exact fine
  · intro result
    trivial

/-- What is looked up goes on with one value. -/
theorem gated_lift_bind {result : Except PassError β} {next : β → Pass α}
    (behind : ∀ value, result = .ok value → Gated gate before after good (next value)) :
    Gated gate before after good (liftM result >>= next) := by
  cases result with
  | ok value => exact behind value rfl
  | error error => exact gated_throw error

/-- Each answer to a request opens the gate, or it leaves it shut. -/
theorem gated_ask_bind {request : Request} {next : request.Answer → Pass α}
    (fine : before request)
    (answered : ∀ answer, Gated gate before after good (next answer) ∨
      (gate request answer ∧ Only after (next answer))) :
    Gated gate before after good (ask request >>= next) :=
  ⟨fine, answered⟩

end Pass

/-- What tells a pass that nobody else has the resource: a bucket has been made by it, and a user or
a policy was not there when it looked. -/
def Request.Opens (kind : Kind) (name : String) : Gate
  | .remote (.makeBucket bucket _), answer => kind = .bucket ∧ bucket = name ∧ answer = .ok ()
  | .remote (.userInfo user), answer =>
      kind = .user ∧ user = name ∧ ∃ resource, answer = .error (.notFound resource)
  | .remote (.cannedPolicy policy), answer =>
      kind = .policy ∧ policy = name ∧ ∃ resource, answer = .error (.notFound resource)
  | _, _ => False

/-- A request that tends a record and does not write the lock. -/
def Request.Abstains (record : Record) (request : Request) : Prop :=
  request.Tends record ∧
    ∀ id metadata, request = .putMetadata id metadata → metadata.isClaimed = false

theorem Request.Reads.abstains {record : Record} {request : Request} (reads : request.Reads) :
    request.Abstains record := by
  refine ⟨reads.tends, ?_⟩
  rintro id metadata rfl
  cases reads

open Pass

namespace Client

/-- An observation is a look, and then a judgement of what was seen. -/
theorem observe_eq (client : Client) (record : Record) :
    client.observe record = client.probe record >>= fun seen =>
      liftM (client.regard record seen) := by
  unfold observe
  congr
  funext seen
  cases seen with
  | none => rfl
  | some observed =>
      unfold regard
      dsimp only
      split
      · cases client.diff record observed
        · rfl
        · rfl
      · split
        · rfl
        · rfl

/-- A record without markers owns nothing that is seen. -/
theorem regard_of_bare {client : Client} {record : Record} (unclaimed : record.isClaimed = false)
    (unmarked : record.metadata.isCreatePending = false) {seen : Option Observed}
    {observation : Observation} (regarded : client.regard record seen = .ok observation) :
    seen = none ∧ observation = .absent := by
  cases seen with
  | none =>
      cases regarded
      exact ⟨rfl, rfl⟩
  | some observed =>
      simp only [regard, unclaimed, unmarked, Bool.false_eq_true, if_false] at regarded
      cases regarded

end Client

/-- The record is not to be deleted and carries no markers. -/
structure Record.IsBare (record : Record) : Prop where
  kept : record.isDeleting = false
  unclaimed : record.isClaimed = false
  unmarked : record.metadata.isCreatePending = false

namespace Engine

variable {engine : Engine} {record : Record}

/-- A create for a record without markers marks it first. -/
theorem create_of_bare (bare : record.IsBare) (client : Client) :
    create client record = (do
      Pass.putMetadata record.id record.metadata.markCreatePending
      let answer ← attempt (client.create record.pending)
      concludeCreate client record.pending false answer) := by
  rw [create_eq, bare.unmarked]
  simp only [markPending, Record.pending, bare.unmarked, Bool.false_eq_true, if_false, bind_assoc,
    pure_bind]

section Tends

variable (named : record.kind ≠ .serviceAccount)

include named

/-- The client that creates for a marked record tends that record. -/
theorem tends_clientCreate_pending (engine : Engine) :
    Only (Request.Tends record) ((engine.clientOf record.kind).create record.pending) := by
  have still : record.pending.kind ≠ .serviceAccount := by rwa [record.kind_pending]
  have only := engine.only_clientCreate still
  rw [record.kind_pending] at only
  apply only.mono
  intro request works
  exact works.2.of_same record.id_pending record.resource?_pending

/-- To create for a record without markers tends that record. -/
theorem tends_create (bare : record.IsBare) (engine : Engine) :
    Only (Request.Tends record) (create (engine.clientOf record.kind) record) := by
  rw [create_of_bare bare]
  refine Only.bind (Only.bind (only_ask ⟨rfl, rfl⟩) only_written) fun _ => ?_
  refine Only.bind (tends_clientCreate_pending named engine).attempt fun answer => ?_
  have concludes := engine.tends_concludeCreate record.id_pending record.resource?_pending false
    answer
  rwa [record.kind_pending] at concludes

/-- What a pass for a bare record goes on to do takes nothing away. -/
theorem tends_driven (bare : record.IsBare) (engine : Engine) (observation : Observation) :
    Only (Request.Tends record) (match observation with
      | .absent => create (engine.clientOf record.kind) record
      | .unclaimed _ => resume (engine.clientOf record.kind) record
      | .owned observed [] => do
          reportSuccess record (some observed)
          return .upToDate
      | .owned observed drifts =>
          update (engine.clientOf record.kind) record observed drifts) := by
  cases observation with
  | absent => exact tends_create named bare engine
  | unclaimed observed => exact engine.tends_resume rfl rfl
  | owned observed drifts =>
      cases drifts with
      | nil => exact (tends_reportSuccess rfl _).bind fun _ => only_pure _
      | cons drift drifts => exact engine.tends_update record observed _

end Tends

/-- What a pass does with the record that it has read. -/
def work (engine : Engine) (record : Record) : Pass Outcome := do
  match ← Pass.attempt (engine.advance record) with
  | .ok outcome => return outcome
  | .error error =>
      reportError record error
      throw error

/-- A pass reads its record first, and works on it if there is one. -/
theorem reconcile_eq (engine : Engine) (id : RecordId) :
    engine.reconcile id false = ask (.readRecord id) >>= fun
      | none => return .gone
      | some record => engine.work record :=
  rfl

section Gated

variable (bare : record.IsBare) (named : record.kind ≠ .serviceAccount)

/-- The gate of a record, with what it does before it and after it. -/
abbrev GatedFor {α : Type} (record : Record) (good : α → Prop) (pass : Pass α) : Prop :=
  Gated (Request.Opens record.kind record.targetName) (Request.Abstains record)
    (Request.Tends record) good pass

/-- A look that finds no user opens the gate. -/
theorem gated_user_probe (kind : record.kind = .user) :
    GatedFor record (fun seen => seen ≠ none) (User.probe record) := by
  apply gated_ask_bind
  · exact (Request.reads_of_reading rfl).abstains
  · intro answer
    rcases answer with error | info
    · cases error with
      | notFound resource => exact .inr ⟨⟨kind, rfl, resource, rfl⟩, trivial⟩
      | _ => exact .inl (gated_throw _)
    · exact .inl (gated_pure nofun)

/-- A look that finds no policy opens the gate. -/
theorem gated_policy_probe (kind : record.kind = .policy) :
    GatedFor record (fun seen => seen ≠ none) (Policy.probe record) := by
  apply gated_ask_bind
  · exact (Request.reads_of_reading rfl).abstains
  · intro answer
    rcases answer with error | document
    · cases error with
      | notFound resource => exact .inr ⟨⟨kind, rfl, resource, rfl⟩, trivial⟩
      | _ => exact .inl (gated_throw _)
    · exact .inl (gated_pure nofun)

include named

/-- Before the gate has been opened, only a look for a bucket can have found nothing. -/
theorem gated_probe (engine : Engine) :
    GatedFor record (fun seen => seen = none → record.kind = .bucket)
      ((engine.clientOf record.kind).probe record) := by
  cases kind : record.kind with
  | bucket =>
      exact gated_of_only (only_look (fun _ => Request.Reads.abstains) engine .bucket record)
        fun _ _ => rfl
  | user => exact (gated_user_probe kind).mono fun _ present absent => absurd absent present
  | policy => exact (gated_policy_probe kind).mono fun _ present absent => absurd absent present
  | serviceAccount => exact absurd kind named

include bare

/-- To look opens the gate for a user or a policy that is absent, and not yet for a bucket. -/
theorem gated_observe (engine : Engine) :
    GatedFor record (fun seen => seen = .absent ∧ record.kind = .bucket)
      ((engine.clientOf record.kind).observe record) := by
  rw [Client.observe_eq]
  apply (gated_probe named engine).bind
  · intro seen nothing
    apply gated_lift
    intro observation regarded
    obtain ⟨missing, absent⟩ := Client.regard_of_bare bare.unclaimed bare.unmarked regarded
    exact ⟨absent, nothing missing⟩
  · intro seen
    exact only_lift _

omit bare named

/-- To make a bucket opens the gate, or it fails. -/
theorem gated_bucket_create (kind : record.kind = .bucket) :
    GatedFor record (fun _ => False) (Bucket.create record.pending) := by
  have name : record.pending.targetName = record.targetName := by
    rcases record.pending_eq with same | marked
    · rw [same]
    · rw [marked]
      rfl
  have own : record.resource? = some (.bucket, record.pending.targetName) := by
    rw [name]
    exact Record.resource?_of_kind kind nofun
  have configures : ∀ spec, Only (Request.Tends record)
      (Bucket.configure record.pending.targetName spec) := by
    intro spec
    have pending := record.resource?_pending.trans own
    apply (Bucket.only_configure pending spec).mono
    rintro request ⟨-, works⟩
    exact works.2.of_same record.id_pending record.resource?_pending
  have makes : ∀ region, GatedFor record (fun _ => False)
      (perform "make bucket" record.pending.targetName
        (.makeBucket record.pending.targetName region)) := by
    intro region
    apply gated_ask_bind
    · exact ⟨⟨.inr ⟨_, rfl, own⟩, rfl⟩, nofun⟩
    · intro answer
      cases answer with
      | error error => exact .inl (gated_throw _)
      | ok _ => exact .inr ⟨⟨kind, name, rfl⟩, trivial⟩
  refine gated_lift_bind fun spec _ => ?_
  exact (makes _).bind (fun _ never => never.elim) fun _ => configures spec

include bare

/-- A create that was answered with a failure takes no lock, if it was not pending before. -/
theorem only_concludeCreate_of_error (engine : Engine) (error : PassError) :
    Only (Request.Abstains record)
      (concludeCreate (engine.clientOf record.kind) record.pending false (.error error)) := by
  have released : record.pending.metadata.clearCreatePending.isClaimed = false := by
    rw [Metadata.isClaimed_clearCreatePending]
    rcases record.pending_eq with same | marked
    · rw [same]
      exact bare.unclaimed
    · rw [marked]
      exact (Metadata.isClaimed_markCreatePending _).trans bare.unclaimed
  have release : Request.Abstains record
      (.putMetadata record.pending.id record.pending.metadata.clearCreatePending) := by
    refine ⟨⟨record.id_pending, rfl⟩, ?_⟩
    rintro id metadata same
    cases same
    exact released
  rw [concludeCreate]
  split
  · exact (only_abandonCreate (fun _ => Request.Reads.abstains) engine _ release).bind
      fun _ => only_throw _
  · exact (only_releasePending release).bind fun _ => only_throw _

/-- A create of a bucket takes the lock only after the bucket has been made. -/
theorem gated_create (engine : Engine) (kind : record.kind = .bucket) :
    GatedFor record (fun _ => True) (create (engine.clientOf record.kind) record) := by
  have named : record.kind ≠ .serviceAccount := by
    rw [kind]
    nofun
  have marks : Request.Abstains record
      (.putMetadata record.id record.metadata.markCreatePending) := by
    refine ⟨⟨rfl, rfl⟩, ?_⟩
    rintro id metadata same
    cases same
    exact (Metadata.isClaimed_markCreatePending _).trans bare.unclaimed
  have marking : GatedFor record (fun _ => True)
      (Pass.putMetadata record.id record.metadata.markCreatePending) :=
    gated_of_only (Only.bind (only_ask marks) only_written) fun _ => trivial
  have creating : GatedFor record (fun _ => False)
      ((engine.clientOf record.kind).create record.pending) := by
    rw [kind]
    exact gated_bucket_create kind
  have concluding : ∀ answer, Only (Request.Tends record)
      (concludeCreate (engine.clientOf record.kind) record.pending false answer) := by
    intro answer
    have concludes := engine.tends_concludeCreate record.id_pending record.resource?_pending false
      answer
    rwa [record.kind_pending] at concludes
  have tried : Only (Request.Tends record)
      (attempt ((engine.clientOf record.kind).create record.pending)) :=
    (tends_clientCreate_pending named engine).attempt
  rw [create_of_bare bare]
  apply marking.bind
  · intro _ _
    apply creating.attempt.bind
    · intro answer failed
      cases answer with
      | ok creation => exact (failed creation rfl).elim
      | error error =>
          exact gated_of_only (only_concludeCreate_of_error bare engine error) fun _ => trivial
    · exact concluding
  · intro _
    exact tried.bind concluding

include named

/-- The work on a bare record takes the lock behind the gate only. -/
theorem gated_drive (engine : Engine) :
    GatedFor record (fun _ => True) (drive (engine.clientOf record.kind) record) := by
  rw [drive, bare.kept]
  apply (gated_observe bare named engine).bind
  · rintro seen ⟨rfl, kind⟩
    exact gated_create bare engine kind
  · exact tends_driven named bare engine

/-- A pass over a bare record takes the lock behind the gate only. -/
theorem gated_advance (engine : Engine) :
    GatedFor record (fun _ => True) (engine.advance record) := by
  have kept : ¬ (record.isDeleting = true ∧ ¬ record.isClaimed = true) := by
    rw [bare.kept]
    nofun
  refine gated_lift_bind fun _ _ => ?_
  rw [if_neg kept]
  refine gated_lift_bind fun client connected => ?_
  cases client_of_connect connected
  exact gated_drive bare named engine

/-- A pass for a bare record takes the lock only behind its gate. -/
theorem gated_work (engine : Engine) : GatedFor record (fun _ => True) (engine.work record) := by
  have reports : ∀ error, Only (Request.Abstains record) (reportError record error) := by
    intro error
    apply only_reportError ⟨⟨trivial, rfl⟩, nofun⟩
    intro status _ _
    exact ⟨⟨rfl, rfl⟩, nofun⟩
  apply (gated_advance bare named engine).attempt.bind
  · intro answer _
    cases answer with
    | ok outcome => exact gated_pure trivial
    | error error => exact gated_of_only ((reports error).bind fun _ => only_throw _) fun _ => trivial
  · intro answer
    cases answer with
    | ok outcome => exact only_pure _
    | error error => exact (tends_reportError record error).bind fun _ => only_throw _

end Gated

end Engine

end Steward
