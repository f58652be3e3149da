/-
This file shows that the secrets of users do not leak.
Two runs that start from worlds which look the same without the secrets answer the same, and leave
worlds which look the same. A program that asks for no secret cannot tell such worlds apart, and
the work on users, which asks for one, makes nothing of it but the user and the details.
-/

import Steward.Engine.Report
import Steward.Proofs.Conduct
import Steward.Proofs.Foresight
import Steward.Proofs.Recovery
import Steward.Proofs.Veil

namespace Steward

open Pass

theorem Request.Reads.isBlind {request : Request} (reads : request.Reads) : request.IsBlind := by
  cases request with
  | secret => exact reads
  | _ => trivial

theorem Request.IsCall.isBlind {request : Request} (made : request.IsCall) : request.IsBlind := by
  cases request with
  | secret => exact made
  | _ => trivial

/-- A program that asks for no secret cannot tell worlds apart that look the same. -/
theorem Program.Only.alike {α : Type} {program : Program α} (only : program.Only Request.IsBlind)
    {one other : World} (alike : one.Alike other) :
    (program.run one).1 = (program.run other).1 ∧
      (program.run one).2.Alike (program.run other).2 := by
  induction program generalizing one other with
  | done value => exact ⟨rfl, alike⟩
  | ask request next inductionHypothesis =>
      have step := alike.answer only.1
      rw [run, run]
      generalize one.answer request = before at step ⊢
      generalize other.answer request = after at step ⊢
      rcases before with ⟨answer, earlier⟩
      rcases after with ⟨_, later⟩
      obtain ⟨rfl, worlds⟩ := step
      exact inductionHypothesis answer (only.2 answer) worlds

namespace Pass

variable {α β : Type}

/-- Two answers are the same failure, or values that are related. -/
def Match (related : α → α → Prop) : Except PassError α → Except PassError α → Prop
  | .ok one, .ok other => related one other
  | .error one, .error other => one = other
  | _, _ => False

/-- Answers that match in equal values are equal. -/
theorem match_eq_iff {one other : Except PassError α} : Match Eq one other ↔ one = other := by
  cases one
  · cases other
    · simp [Match]
    · simp [Match]
  · cases other
    · simp [Match]
    · simp [Match]

/-- From worlds that look the same, two passes come to matching answers and to worlds that look the
same. -/
def Agree (related : α → α → Prop) (first second : Pass α) : Prop :=
  ∀ one other : World, one.Alike other →
    Match related (first.answer one) (second.answer other) ∧
      (first.after one).Alike (second.after other)

/-- With the secrets, the answers of a pass differ in no more than related answers do. -/
def IsSilent (related : α → α → Prop) (pass : Pass α) : Prop :=
  Agree related pass pass

variable {related : α → α → Prop} {same : β → β → Prop} {first second : Pass α}

theorem agree_pure {one other : α} (values : related one other) :
    Agree related (pure one) (pure other) :=
  fun _ _ alike => ⟨values, alike⟩

theorem agree_throw (error : PassError) : Agree related (throw error) (throw error) :=
  fun _ _ alike => ⟨rfl, alike⟩

theorem silent_of_only {pass : Pass α} (only : Only Request.IsBlind pass) : IsSilent Eq pass := by
  intro one other alike
  obtain ⟨answers, worlds⟩ := Program.Only.alike only alike
  exact ⟨match_eq_iff.2 answers, worlds⟩

/-- Answers that are related may be related more loosely. -/
theorem Agree.mono {wider : α → α → Prop} (agree : Agree related first second)
    (values : ∀ one other, related one other → wider one other) : Agree wider first second := by
  intro one other alike
  obtain ⟨answers, worlds⟩ := agree one other alike
  refine ⟨?_, worlds⟩
  generalize first.answer one = before at answers ⊢
  generalize second.answer other = after at answers ⊢
  cases before
  · cases after
    · exact answers
    · exact answers
  · cases after
    · exact answers
    · exact values _ _ answers

/-- Two passes agree that begin alike and go on alike. -/
theorem Agree.bind {next further : α → Pass β} (start : Agree related first second)
    (rest : ∀ one other, related one other → Agree same (next one) (further other)) :
    Agree same (first >>= next) (second >>= further) := by
  intro one other alike
  obtain ⟨answers, worlds⟩ := start one other alike
  unfold answer at answers
  unfold after at worlds
  rw [answer, answer, after, after, run_bind, run_bind]
  generalize first.run.run one = before at answers worlds ⊢
  generalize second.run.run other = after at answers worlds ⊢
  rcases before with ⟨error | value, earlier⟩
  · rcases after with ⟨failure | found, later⟩
    · exact ⟨answers, worlds⟩
    · exact answers.elim
  · rcases after with ⟨failure | found, later⟩
    · exact answers.elim
    · exact rest value found answers earlier later worlds

/-- A part that asks for no secret comes to the same for both passes. -/
theorem Only.agree_bind {pass : Pass α} {next further : α → Pass β}
    (only : Only Request.IsBlind pass) (rest : ∀ value, Agree same (next value) (further value)) :
    Agree same (pass >>= next) (pass >>= further) := by
  apply (silent_of_only only).bind
  rintro value _ rfl
  exact rest value

/-- Failures that are caught agree as the passes do. -/
theorem Agree.attempt (agree : Agree related first second) :
    Agree (Match related) (attempt first) (attempt second) := by
  intro one other alike
  obtain ⟨answers, worlds⟩ := agree one other alike
  rw [answer_attempt, answer_attempt, after, after, run_attempt, run_attempt]
  exact ⟨answers, worlds⟩

/-- Two secrets are drawn that need not be related. -/
theorem silent_secret : IsSilent (α := String) (fun _ _ => True) (ask .secret) :=
  fun _ _ alike => ⟨trivial, alike.answer_secret⟩

/-- Details that differ in a password only are handed over alike. -/
theorem agree_publish (id : RecordId) {one other : Details} (details : one.veiled = other.veiled) :
    Agree Eq (publish id one) (publish id other) := by
  have asks : Agree (α := Except StoreError Unit) Eq (ask (.publish id one))
      (ask (.publish id other)) := by
    intro earlier later alike
    obtain ⟨answers, worlds⟩ := alike.answer_publish id details
    exact ⟨answers, worlds⟩
  apply asks.bind
  rintro result _ rfl
  exact silent_of_only (Engine.only_written result)

/-- A user may be given different secrets. -/
theorem agree_addUser (operation resource user one other : String) :
    Agree (α := Unit) Eq (perform operation resource (.addUser user one))
      (perform operation resource (.addUser user other)) := by
  have asks : Agree (α := Except RemoteError Unit) Eq (call (.addUser user one))
      (call (.addUser user other)) := by
    intro earlier later alike
    obtain ⟨answers, planes⟩ := Plane.addUser_alike alike.plane user one other
    exact ⟨answers, alike.with_plane planes⟩
  apply asks.bind
  rintro result _ rfl
  cases result with
  | ok _ => exact agree_pure rfl
  | error error => exact agree_throw _

end Pass

/-- Two creations differ in a password at most. -/
structure Creation.Alike (one other : Creation) : Prop where
  name : one.externalName = other.externalName
  details : one.details.veiled = other.details.veiled
  empty : one.details = ∅ ↔ other.details = ∅

theorem Creation.alike_of_eq {one other : Creation} (same : one = other) : one.Alike other := by
  subst same
  exact ⟨rfl, rfl, Iff.rfl⟩

namespace User

/-- What the owner of a user is told differs in the password alone. -/
theorem creationOf_alike (name one other : String) :
    (creationOf name one).Alike (creationOf name other) where
  name := rfl
  details := by
    have blank : ∀ secret, (creationOf name secret).details.veiled =
        (Table.ofList [("username", name), ("password", "")] : Details) := by
      intro secret
      have named : Table.contains (creationOf name secret).details "username" = true := by
        simp [creationOf, Table.ofList, Table.contains]
      rw [Details.veiled, if_pos named]
      apply Table.ext_get?
      intro key
      by_cases password : key = "password"
      · simp [creationOf, Table.ofList, Table.get?_modify, password]
      · simp [creationOf, Table.ofList, Table.get?_modify, password]
    rw [blank, blank]
  empty := by
    have something : ∀ secret, (creationOf name secret).details ≠ ∅ := fun secret =>
      Table.insert_ne_empty _ _ _
    simp [something]

/-- The secret that a user is given can be seen in the user and in the details only. -/
theorem register_silent (binding : PolicyBinding) (record : Record) :
    IsSilent Creation.Alike (register binding record) := by
  have blind : ∀ request, Binds record.targetName request → request.IsBlind := by
    intro request binds
    cases request with
    | secret => exact binds
    | _ => trivial
  have told : ∀ one other : String, Agree Creation.Alike
      (pure (creationOf record.targetName one)) (pure (creationOf record.targetName other)) :=
    fun one other => agree_pure (creationOf_alike _ one other)
  refine (only_lift _).agree_bind fun spec => ?_
  have checks := (only_checkPoliciesExist record.targetName spec.policies).mono blind
  refine checks.agree_bind fun _ => ?_
  refine silent_secret.bind fun one other _ => ?_
  refine (agree_addUser _ _ _ one other).bind fun _ _ _ => ?_
  split
  · exact ((only_applyPolicies binding _ _).mono blind).agree_bind fun _ => told one other
  · exact told one other

end User

namespace Engine

variable {engine : Engine} {record : Record}

section Clients

/-- A create tells its secret in the password of the details alone, whatever the kind. -/
theorem clientCreate_silent (engine : Engine) (record : Record) :
    IsSilent Creation.Alike ((engine.clientOf record.kind).create record) := by
  have calling : ∀ {pass : Pass Creation},
      Only Request.IsCall pass → IsSilent Creation.Alike pass := by
    intro pass only
    apply (silent_of_only (only.mono fun _ made => made.isBlind)).mono
    intro one other same
    exact Creation.alike_of_eq same
  cases kind : record.kind with
  | user => exact User.register_silent engine.binding record
  | bucket =>
      have own := Record.resource?_of_kind kind nofun
      exact calling ((Bucket.only_create own).mono fun _ works => works.1)
  | policy =>
      have own := Record.resource?_of_kind kind nofun
      exact calling ((Policy.only_create own).mono fun _ works => works.1)
  | serviceAccount => exact calling (ServiceAccount.only_create record)

/-- So does a create that is resumed. -/
theorem resumeCreate_silent (engine : Engine) (record : Record) :
    IsSilent Creation.Alike ((engine.clientOf record.kind).resumeCreate record) := by
  cases kind : record.kind with
  | bucket =>
      have own := Record.resource?_of_kind kind nofun
      have only := (Bucket.only_resumeCreate own).mono fun _ works => works.1.isBlind
      apply (silent_of_only only).mono
      intro one other same
      exact Creation.alike_of_eq same
  | serviceAccount => exact agree_throw _
  -- Users and policies end a create by another one.
  | user | policy =>
      have creates := clientCreate_silent engine record
      rw [kind] at creates
      exact creates

end Clients

/-- Creations that differ in a password are committed alike. -/
theorem commit_agrees (kind : Kind) {one other : Creation} (alike : one.Alike other) :
    Agree Eq (commit (engine.clientOf kind) record one)
      (commit (engine.clientOf kind) record other) := by
  have markers : claimedMetadata record one = claimedMetadata record other := by
    rw [claimedMetadata, claimedMetadata, alike.name]
  rw [commit_eq, commit_eq, markers]
  have claims : Only Request.IsBlind
      (Pass.putMetadata record.id (claimedMetadata record other)) :=
    Only.bind (only_ask trivial) only_written
  refine claims.agree_bind fun _ => ?_
  generalize { record with metadata := claimedMetadata record other } = claimed
  have tells : IsSilent Eq (do
      reportSuccess claimed (← glance (engine.clientOf kind) claimed)
      return Outcome.created) := by
    have glances := only_glance (fun _ => Request.Reads.isBlind) engine kind claimed
    refine glances.agree_bind fun seen => ?_
    refine (only_reportSuccess trivial (fun _ _ => trivial) seen).agree_bind fun _ => ?_
    exact agree_pure rfl
  unfold announce
  by_cases nothing : one.details = ∅
  · have neither := alike.empty.1 nothing
    rw [if_neg (not_not_intro nothing), if_neg (not_not_intro neither)]
    exact tells
  · have both := fun empty => nothing (alike.empty.2 empty)
    rw [if_pos nothing, if_pos both]
    exact (agree_publish _ alike.details).bind fun _ _ _ => tells

/-- A create that is resumed tells its pass no secret. -/
theorem resume_silent (engine : Engine) (record : Record) :
    IsSilent Eq (resume (engine.clientOf record.kind) record) := by
  have commits : IsSilent Eq (do
      let creation ← (engine.clientOf record.kind).resumeCreate record
      commit (engine.clientOf record.kind) record creation) :=
    (resumeCreate_silent engine record).bind fun _ _ alike => commit_agrees record.kind alike
  refine (only_hasRival.mono fun _ => Request.Reads.isBlind).agree_bind fun rival => ?_
  dsimp only
  split
  · refine (only_releasePending trivial).agree_bind fun _ => ?_
    exact (only_throw _).agree_bind fun _ => commits
  · exact commits

/-- Creations that differ in a password are concluded alike. -/
theorem concludeCreate_agrees (engine : Engine) (record : Record) (wasPending : Bool)
    (one other : Except PassError Creation) (answers : Match Creation.Alike one other) :
    Agree Eq (concludeCreate (engine.clientOf record.kind) record wasPending one)
      (concludeCreate (engine.clientOf record.kind) record wasPending other) := by
  have looks : ∀ request : Request, request.Reads → request.IsBlind :=
    fun _ => Request.Reads.isBlind
  cases one with
  | ok creation =>
      cases other with
      | ok other => exact commit_agrees record.kind answers
      | error error => exact answers.elim
  | error error =>
      cases other with
      | ok other => exact answers.elim
      | error other =>
          cases answers
          rw [concludeCreate]
          split
          · refine (only_abandonCreate looks engine _ trivial).agree_bind fun _ => ?_
            exact agree_throw error
          · split
            · refine (only_look looks engine _ record).agree_bind fun seen => ?_
              dsimp only
              split
              · exact (only_throw _).agree_bind fun _ => resume_silent engine record
              · exact resume_silent engine record
            · exact (only_releasePending trivial).agree_bind fun _ => agree_throw _

/-- A create tells its pass no secret. -/
theorem create_silent (engine : Engine) (record : Record) :
    IsSilent Eq (create (engine.clientOf record.kind) record) := by
  have marks : IsSilent (fun one other => one = other ∧ one = record.pending)
      (markPending record) := by
    unfold markPending Record.pending
    split
    · exact agree_pure ⟨rfl, rfl⟩
    · refine (Only.bind (only_ask trivial) only_written).agree_bind fun _ => ?_
      exact agree_pure ⟨rfl, rfl⟩
  have creates := clientCreate_silent engine record.pending
  have concludes := concludeCreate_agrees engine record.pending record.metadata.isCreatePending
  rw [record.kind_pending] at creates concludes
  rw [create_eq]
  apply marks.bind
  rintro _ _ ⟨rfl, rfl⟩
  exact creates.attempt.bind concludes

/-- Whichever way a pass takes, no secret is told by its outcome. -/
theorem drive_silent (engine : Engine) (record : Record) :
    IsSilent Eq (drive (engine.clientOf record.kind) record) := by
  have looks : ∀ request : Request, request.Reads → request.IsBlind :=
    fun _ => Request.Reads.isBlind
  unfold drive
  split
  · apply silent_of_only
    exact only_delete engine (fun _ handles => handles.1.isBlind) trivial (fun _ _ => trivial) trivial
  · refine ((engine.only_observe record.kind record).mono looks).agree_bind fun observation => ?_
    split
    · exact create_silent engine record
    · exact resume_silent engine record
    · refine (only_reportSuccess trivial (fun _ _ => trivial) _).agree_bind fun _ => ?_
      exact agree_pure rfl
    · apply silent_of_only
      exact only_update engine (fun _ works => works.1.isBlind) looks trivial (fun _ _ => trivial) _ _

/-- The checks before the work ask for no secret. -/
theorem advance_silent (engine : Engine) (record : Record) :
    IsSilent Eq (engine.advance record) := by
  have connects : IsSilent Eq (do
      let client ← engine.connect record.kind record
      drive client record) := by
    cases connected : engine.connect record.kind record with
    | error unconnected => exact agree_throw unconnected
    | ok client =>
        cases client_of_connect connected
        exact drive_silent engine record
  refine (only_lift _).agree_bind fun _ => ?_
  split
  · refine (Only.bind (only_ask trivial) only_written).agree_bind fun _ => ?_
    exact agree_pure rfl
  · exact connects

/-- A pass tells nothing of the secrets. -/
theorem reconcile_silent (engine : Engine) (id : RecordId) (cancelled : Bool) :
    IsSilent Eq (engine.reconcile id cancelled) := by
  cases cancelled with
  | true => exact agree_throw .cancelled
  | false =>
      refine (only_ask trivial).agree_bind fun found => ?_
      cases found with
      | none => exact agree_pure rfl
      | some record =>
          apply (advance_silent engine record).attempt.bind
          intro one other answers
          cases match_eq_iff.1 answers
          cases one with
          | ok outcome => exact agree_pure rfl
          | error error =>
              refine (only_reportError trivial (fun _ _ _ => trivial) error).agree_bind fun _ => ?_
              exact agree_throw error

/-- To plan only reads. -/
theorem only_planAll (engine : Engine) (ids : List RecordId) :
    Program.Only Request.Reads (engine.planAll ids) := by
  unfold planAll
  induction ids with
  | nil => trivial
  | cons id rest inductionHypothesis =>
      rw [List.mapM_cons]
      refine Program.Only.bind ?_ fun entry => inductionHypothesis.bind fun entries => trivial
      exact Program.Only.bind (only_plan id) fun answer => trivial

end Engine

/-- One thing that is done while nothing else is: by a user, by a pass, or from outside. -/
inductive Act where
  | apply (record : Record)
  | requestDeletion (id : RecordId) (now : Timestamp)
  | disturb (disturbance : Disturbance)
  /-- A call that somebody else makes, and is answered. -/
  | call (made : RemoteCall)
  | plan (id : RecordId)
  | planAll (ids : List RecordId)
  | reconcile (id : RecordId) (cancelled : Bool)

/-- What somebody is told who does a thing. -/
inductive Reply where
  | applied (stored : Record)
  | requested (result : Except StoreError Unit)
  | disturbed
  | called (made : RemoteCall) (answer : Except RemoteError made.Result)
  | planned (answer : Except PassError Plan)
  | listed (entries : List PlanEntry)
  | reconciled (answer : Except PassError Outcome)

namespace Engine

/-- What is told of an act, and the world after it. -/
def act (engine : Engine) (world : World) : Act → Reply × World
  | .apply record =>
      let (stored, store) := world.store.apply record
      (.applied stored, { world with store })
  | .requestDeletion id now =>
      let (result, world) := world.write (world.store.requestDeletion id now)
      (.requested result, world)
  | .disturb disturbance => (.disturbed, { world with plane := disturbance.apply world.plane })
  | .call made =>
      let (answer, plane) := world.plane.perform made
      (.called made answer, { world with plane })
  | .plan id => (.planned ((engine.plan id).answer world), (engine.plan id).after world)
  | .planAll ids =>
      let (entries, world) := (engine.planAll ids).run world
      (.listed entries, world)
  | .reconcile id cancelled =>
      (.reconciled ((engine.reconcile id cancelled).answer world),
        (engine.reconcile id cancelled).after world)

/-- What is told of the acts of a script, one after the other, and the world after them. -/
def play (engine : Engine) (world : World) : List Act → List Reply × World
  | [] => ([], world)
  | act :: script =>
      let (reply, later) := engine.act world act
      let (replies, last) := engine.play later script
      (reply :: replies, last)

/-- In worlds that look the same, an act is answered the same and leaves worlds that look the
same. -/
theorem act_alike (engine : Engine) {one other : World} (alike : one.Alike other) (act : Act) :
    (engine.act one act).1 = (engine.act other act).1 ∧
      (engine.act one act).2.Alike (engine.act other act).2 := by
  have ended : ∀ {α : Type} {pass : Pass α}, IsSilent Eq pass →
      pass.answer one = pass.answer other ∧ (pass.after one).Alike (pass.after other) := by
    intro α pass silent
    obtain ⟨answers, worlds⟩ := silent one other alike
    exact ⟨match_eq_iff.1 answers, worlds⟩
  cases act with
  | apply record =>
      have first := one.store.apply_veiled record
      rw [alike.store, other.store.apply_veiled] at first
      obtain ⟨stored, stores⟩ := Prod.mk.inj first
      refine ⟨congrArg Reply.applied stored.symm, ?_⟩
      exact World.alike_of stores.symm alike.plane alike.clock
  | requestDeletion id now =>
      have written : (one.store.requestDeletion id now).map Store.veiled =
          (other.store.requestDeletion id now).map Store.veiled := by
        rw [← Store.requestDeletion_veiled, ← Store.requestDeletion_veiled, alike.store]
      obtain ⟨results, worlds⟩ := alike.write written
      exact ⟨congrArg Reply.requested results, worlds⟩
  | disturb disturbance =>
      exact ⟨rfl, alike.with_plane (Plane.disturbance_alike alike.plane disturbance)⟩
  | call made =>
      obtain ⟨answers, planes⟩ := Plane.perform_alike alike.plane made
      exact ⟨congrArg (Reply.called made) answers, alike.with_plane planes⟩
  | plan id =>
      have only : Only Request.IsBlind (engine.plan id) :=
        (only_plan id).mono fun _ => Request.Reads.isBlind
      obtain ⟨answers, worlds⟩ := ended (silent_of_only only)
      exact ⟨congrArg Reply.planned answers, worlds⟩
  | planAll ids =>
      have only := (engine.only_planAll ids).mono fun _ => Request.Reads.isBlind
      obtain ⟨entries, worlds⟩ := only.alike alike
      exact ⟨congrArg Reply.listed entries, worlds⟩
  | reconcile id cancelled =>
      obtain ⟨answers, worlds⟩ := ended (engine.reconcile_silent id cancelled)
      exact ⟨congrArg Reply.reconciled answers, worlds⟩

/-- Two scripts with the same acts are told the same, from worlds that look the same. -/
theorem play_alike (engine : Engine) (script : List Act) {one other : World}
    (alike : one.Alike other) :
    (engine.play one script).1 = (engine.play other script).1 ∧
      (engine.play one script).2.Alike (engine.play other script).2 := by
  induction script generalizing one other with
  | nil => exact ⟨rfl, alike⟩
  | cons act script inductionHypothesis =>
      obtain ⟨reply, later⟩ := engine.act_alike alike act
      obtain ⟨replies, last⟩ := inductionHypothesis later
      rw [play, play]
      exact ⟨congrArg₂ List.cons reply replies, last⟩

/-- The secrets that users are given do not leak: whatever they are, from the beginning on every act
is answered the same, and all that is stored and all that is on the remote side is the same but for
the secrets of users and the passwords in their details. -/
theorem secrets_do_not_leak (engine : Engine) (capacity : Nat) (clock : Supply Timestamp)
    (first second : Supply String) (script : List Act) :
    let one := engine.play (.fresh capacity clock first) script
    let other := engine.play (.fresh capacity clock second) script
    one.1 = other.1 ∧ one.2.veiled = other.2.veiled := by
  have start : World.Alike (.fresh capacity clock first) (.fresh capacity clock second) := rfl
  exact engine.play_alike script start

end Engine

namespace Sample

/-- A user is declared and made. -/
def hiring : List Act :=
  [.apply { id := .plain "alice", spec := .user { userName := none, policies := [] } },
    .reconcile (.plain "alice") false]

end Sample

-- What is hidden differs indeed: the remote side is not the same for two secrets.
example :
    (Sample.engine.play (.fresh 16 (.constant default) (.constant "one")) Sample.hiring).2.plane ≠
      (Sample.engine.play (.fresh 16 (.constant default) (.constant "two"))
        Sample.hiring).2.plane := by
  decide +kernel

end Steward
