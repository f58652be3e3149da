/-
This file shows where a policy document that is not JSON is stopped.
An access policy and a service account are not made of one, and no resource that has a policy is
overwritten with one: the pass fails over the document, before a call that could change anything. A
bucket is made without a look at its document, and so is an update of a resource without a policy.
-/

import Steward.Proofs.Conduct
import Steward.Proofs.Rounds

namespace Steward

open Pass

/-- The policy document that is written out in a record. -/
def Record.document (record : Record) : Option String :=
  match record.spec with
  | .bucket spec => spec.policy
  | .user _ => none
  | .policy spec => spec.rawPolicy
  | .serviceAccount spec => spec.policy

/-- The document of a record is not blank, and it is not JSON. -/
def Record.IsMalformed (record : Record) (error : Json.ReadError) : Prop :=
  ∃ text, Drift.nonBlank record.document = some text ∧ Json.read text = .error error

/-- How a pass fails over a document that cannot be read. -/
def Json.ReadError.refusal (error : Json.ReadError) : PassError :=
  .malformedPolicy ("desired document: " ++ error.message)

section Documents

variable {record : Record} {error : Json.ReadError}

/-- A desired document that cannot be read is refused before the observed one is looked at. -/
theorem Drift.sameObject_eq_refusal {desired : String} (unread : Json.read desired = .error error)
    (observed : String) : sameObject desired observed = .error error.refusal := by
  rw [sameObject_of_unread unread]
  rfl

/-- A document that cannot be read cannot be compared with one that is there. -/
theorem Drift.ofPolicy_eq_refusal {field : Field} {desired observed : Option String} {text : String}
    (wanted : nonBlank desired = some text) (unread : Json.read text = .error error)
    (there : nonBlank observed ≠ none) :
    ofPolicy field desired observed = .error error.refusal := by
  obtain ⟨other, present⟩ := Option.ne_none_iff_exists'.1 there
  simp only [ofPolicy, wanted, present, sameObject_eq_refusal unread, bind, Except.bind]

/-- The marker of a create does not bear on the rules of the kind. -/
theorem Record.validate_pending : record.pending.validate = record.validate := by
  rcases record.pending_eq with same | marked
  · rw [same]
  · rw [marked]
    rfl

/-- A document stays malformed when its record is marked for a create. -/
theorem Record.IsMalformed.pending (malformed : record.IsMalformed error) :
    record.pending.IsMalformed error := by
  rcases record.pending_eq with same | marked
  · rwa [same]
  · rwa [marked]

/-- A valid access policy that has its document written out asks for no other one. -/
theorem Policy.desiredDocument_eq {spec : PolicySpec} {text : String}
    (asked : record.spec = .policy spec) (valid : record.validate = .ok ())
    (wanted : Drift.nonBlank spec.rawPolicy = some text) :
    desiredDocument record = .ok text := by
  have filled : text ≠ "" := Drift.ne_empty_of_nonBlank wanted
  obtain ⟨written, -⟩ := Option.filter_eq_some_iff.1 wanted
  have raw : spec.rawPolicy.filter (· ≠ "") = some text :=
    Option.filter_eq_some_iff.2 ⟨written, decide_eq_true filled⟩
  have apart := isSome_ne_of_validate asked valid
  rw [raw] at apart
  simp only [desiredDocument, specOf, asked, bind, Except.bind, raw]
  cases bucket : spec.allowBucket.filter (· ≠ "") with
  | none => rfl
  | some name =>
      rw [bucket] at apart
      exact absurd rfl apart

end Documents

namespace Engine

variable {engine : Engine} {world : World} {record : Record} {error : Json.ReadError}

/-- A resource that has a policy cannot be compared with a record whose document cannot be read. -/
theorem clientDiff_eq_refusal (engine : Engine) (valid : record.validate = .ok ())
    (malformed : record.IsMalformed error) {observed : Observed}
    (there : Drift.nonBlank observed.policy ≠ none) :
    (engine.clientOf record.kind).diff record observed = .error error.refusal := by
  obtain ⟨text, wanted, unread⟩ := malformed
  have refused : ∀ {desired : Option String}, Drift.nonBlank desired = some text →
      Drift.ofPolicy .policy desired observed.policy = .error error.refusal :=
    fun wanted => Drift.ofPolicy_eq_refusal wanted unread there
  cases asked : record.spec with
  | bucket spec =>
      simp only [Record.document, asked] at wanted
      simp only [Record.kind, asked]
      change Bucket.diff record observed = _
      rw [Bucket.diff_eq asked, refused wanted]
      rfl
  | user spec =>
      simp only [Record.document, asked] at wanted
      cases wanted
  | policy spec =>
      simp only [Record.document, asked] at wanted
      simp only [Record.kind, asked]
      have kept : Drift.nonBlank (some text) = some text := by
        rw [← wanted, Drift.nonBlank_nonBlank]
      change Policy.diff record observed = _
      simp only [Policy.diff, Policy.desiredDocument_eq asked valid wanted, refused kept, bind,
        Except.bind]
  | serviceAccount spec =>
      simp only [Record.document, asked] at wanted
      simp only [Record.kind, asked]
      obtain ⟨written, -⟩ := Option.filter_eq_some_iff.1 wanted
      have desired : spec.policy.isSome = true := Option.isSome_of_eq_some written
      change ServiceAccount.diff record observed = _
      rw [ServiceAccount.diff_eq asked, ServiceAccount.policyDrift, if_pos desired, refused wanted]
      rfl

/-- Neither an access policy nor a service account is made of a document that cannot be read. -/
theorem clientCreate_refuses (engine : Engine) (valid : record.validate = .ok ())
    (malformed : record.IsMalformed error) (apart : record.kind ≠ .bucket) (world : World) :
    Ends ((engine.clientOf record.kind).create record) world (fun _ _ => False)
      fun failure later => failure = error.refusal ∧ later = world := by
  obtain ⟨text, wanted, unread⟩ := malformed
  cases asked : record.spec with
  | bucket spec => exact absurd (congrArg Spec.kind asked) apart
  | user spec =>
      simp only [Record.document, asked] at wanted
      cases wanted
  | policy spec =>
      simp only [Record.document, asked] at wanted
      simp only [Record.kind, asked]
      change Ends (Policy.create record) world _ _
      rw [Policy.create, ends_bind, ends_lift, Policy.desiredDocument_eq asked valid wanted]
      dsimp only
      rw [ends_bind, ends_lift, Drift.sameObject_eq_refusal unread]
      exact ⟨rfl, rfl⟩
  | serviceAccount spec =>
      simp only [Record.document, asked] at wanted
      simp only [Record.kind, asked]
      change Ends (ServiceAccount.create record) world _ _
      obtain ⟨written, -⟩ := Option.filter_eq_some_iff.1 wanted
      rw [ServiceAccount.create, ends_bind, ends_lift, ServiceAccount.specOf_eq asked]
      simp only [written]
      rw [ends_bind, ends_lift, Drift.sameObject_eq_refusal unread]
      exact ⟨rfl, rfl⟩

/-- The document of a record is read in a pass: to make something of it that is no bucket, or to
compare it with the policy that the record's own resource has. -/
def IsVetted (plane : Plane) (record : Record) : Prop :=
  plane.sight record = .ok none ∧ record.kind ≠ .bucket ∨
    record.isClaimed = true ∧ ∃ observed, plane.sight record = .ok (some observed) ∧
      Drift.nonBlank observed.policy ≠ none

/-- A pass fails over the document, and the remote side is as it was. -/
def Refuses (before : Plane) (error : Json.ReadError) (failure : PassError) (later : World) :
    Prop :=
  failure = error.refusal ∧ later.plane = before

section Passes

variable (calm : world.plane.IsCalm) (stored : world.store.get? record.id = some record)
  (ready : engine.Ready record) (malformed : record.IsMalformed error)

include calm stored ready malformed

/-- A create that fails over the document is given up, and takes its marker back. -/
theorem create_refuses (sight : world.plane.sight record = .ok none)
    (apart : record.kind ≠ .bucket) :
    Ends (create (engine.clientOf record.kind) record) world (fun _ _ => False)
      (Refuses world.plane error) := by
  have valid : record.pending.validate = .ok () := record.validate_pending.trans ready.valid
  rw [create_eq, ends_bind]
  apply (markPending_effect stored).of_succeeds
  rintro _ later ⟨rfl, store, early, rfl⟩
  rw [← record.kind_pending] at apart ⊢
  rw [ends_bind, ends_attempt]
  apply (engine.clientCreate_refuses valid malformed.pending apart _).mono
  · exact fun _ _ never => never.elim
  · rintro _ _ ⟨rfl, rfl⟩
    have gone := record.sight_pending.trans sight
    have abandons := @abandonCreate_effect engine { world with store } record.pending calm
      early.get?_self gone
    rw [concludeCreate, if_pos (by exact Bool.false_ne_true), ends_bind]
    apply abandons.of_succeeds
    rintro _ _ ⟨store, -, rfl⟩
    exact ⟨rfl, rfl⟩

/-- Whichever way a pass takes, it comes to read the document, and fails over it. -/
theorem drive_refuses (vetted : IsVetted world.plane record) :
    Ends (drive (engine.clientOf record.kind) record) world (fun _ _ => False)
      (Refuses world.plane error) := by
  -- What is seen is the record's own and has a policy, so the document is read to compare them.
  have differs : ∀ observed, world.plane.sight record = .ok (some observed) →
      record.isClaimed = true ∧
        (engine.clientOf record.kind).diff record observed = .error error.refusal := by
    intro observed seen
    obtain ⟨absent, -⟩ | ⟨claimed, other, sight, there⟩ := vetted
    · cases absent.symm.trans seen
    · cases sight.symm.trans seen
      exact ⟨claimed, engine.clientDiff_eq_refusal ready.valid malformed there⟩
  apply drive_ends ready calm
  case absent =>
    intro sight
    obtain ⟨-, apart⟩ | ⟨-, other, seen, -⟩ := vetted
    · exact create_refuses calm stored ready malformed sight apart
    · cases sight.symm.trans seen
  case unclaimed =>
    intro observed seen unclaimed
    cases unclaimed.symm.trans (differs observed seen).1
  case inLine =>
    intro observed seen _ same
    cases same.symm.trans (differs observed seen).2
  case drifted =>
    intro observed drifts seen _ found
    cases found.symm.trans (differs observed seen).2
  case blocked =>
    intro failure blocked
    cases sight : world.plane.sight record with
    | error refused =>
        obtain ⟨absent, -⟩ | ⟨-, other, seen, -⟩ := vetted
        · cases sight.symm.trans absent
        · cases sight.symm.trans seen
    | ok seen =>
        rw [sight] at blocked
        cases seen with
        | none => cases blocked
        | some observed =>
            obtain ⟨claimed, refused⟩ := differs observed sight
            simp only [Except.bind, Client.regard, claimed, if_true, refused] at blocked
            cases blocked
            exact ⟨rfl, rfl⟩

/-- A pass over a record whose document is malformed and comes to be read fails over it, and the
remote side is as it was. -/
theorem pass_refuses (vetted : IsVetted world.plane record) :
    Ends (engine.pass record.id) world (fun _ _ => False) (Refuses world.plane error) := by
  rw [ends_pass stored, ends_advance_of_ready ready]
  apply (drive_refuses calm stored ready malformed vetted).mono
  · exact fun _ _ never => never
  · rintro failure later ⟨refused, plane⟩
    apply ends_reportError
    · exact fun _ _ _ _ => ⟨refused, plane⟩
    · exact fun _ => ⟨refused, plane⟩

end Passes

/-- Without faults, a pass over a document that is not JSON fails over it and calls nothing that
could change the remote side, if something other than a bucket is to be made of it, or the record
has a resource with a policy. -/
theorem malformed_policy_is_refused (engine : Engine) (world : World) (id : RecordId)
    (record : Record) (error : Json.ReadError) (calm : world.plane.IsCalm)
    (stored : world.store.get? id = some record) (ready : engine.Ready record)
    (malformed : record.IsMalformed error) (vetted : IsVetted world.plane record) :
    (engine.reconcile id false).answer world =
        .error (.malformedPolicy ("desired document: " ++ error.message)) ∧
      ((engine.reconcile id false).after world).plane = world.plane := by
  cases world.store.id_of_get? stored
  obtain ⟨failure, failed, rfl, plane⟩ :=
    (pass_refuses calm stored ready malformed vetted).exists_error
  exact ⟨failed, plane⟩

end Engine

namespace Sample

/-- A record of an access policy whose document breaks off. -/
def broken : Record where
  id := .plain "broken"
  spec := .policy { policyName := none, allowBucket := none, rawPolicy := some "\x7b" }

/-- A record of a bucket whose policy breaks off. -/
def cracked : Record where
  id := .plain "first"
  spec := .bucket
    { bucketName := none, region := none, deletionPolicy := .deleteIfEmpty, policy := some "\x7b" }

theorem isMalformed_broken : broken.IsMalformed .unexpectedEnd :=
  ⟨"\x7b", by decide +kernel, by decide +kernel⟩

theorem isMalformed_cracked : cracked.IsMalformed .unexpectedEnd :=
  ⟨"\x7b", by decide +kernel, by decide +kernel⟩

end Sample

namespace Engine

/-- An access policy whose document breaks off is not made. -/
theorem malformed_policy_is_refused_of_broken :
    let world := Sample.engine.carryOut Sample.world (.apply Sample.broken)
    let pass := Sample.engine.reconcile (.plain "broken") false
    world.plane.IsCalm ∧ world.store.get? (.plain "broken") = some Sample.broken ∧
      Sample.engine.Ready Sample.broken ∧ Sample.broken.IsMalformed .unexpectedEnd ∧
      IsVetted world.plane Sample.broken ∧
      pass.answer world = .error (.malformedPolicy
        ("desired document: " ++ Json.ReadError.unexpectedEnd.message)) ∧
      (pass.after world).plane = world.plane := by
  intro world pass
  have calm : world.plane.IsCalm := rfl
  have stored : world.store.get? (.plain "broken") = some Sample.broken := by decide +kernel
  have ready : Sample.engine.Ready Sample.broken :=
    ⟨by decide +kernel, rfl, Sample.connect_engine rfl⟩
  have vetted : IsVetted world.plane Sample.broken := .inl ⟨by decide +kernel, nofun⟩
  obtain ⟨failed, same⟩ := malformed_policy_is_refused Sample.engine world _ _ _ calm stored ready
    Sample.isMalformed_broken vetted
  exact ⟨calm, stored, ready, Sample.isMalformed_broken, vetted, failed, same⟩

/-- A bucket is created with a policy that breaks off. -/
theorem malformed_policy_can_be_sent :
    let world := Sample.engine.carryOut Sample.world (.apply Sample.cracked)
    let pass := Sample.engine.reconcile (.plain "first") false
    world.plane.faults = {} ∧ world.store.get? (.plain "first") = some Sample.cracked ∧
      Sample.engine.Ready Sample.cracked ∧ Sample.cracked.IsMalformed .unexpectedEnd ∧
      world.plane.sight Sample.cracked = .ok none ∧
      pass.answer world = .ok .created ∧
      ((pass.after world).plane.buckets.get? "first").map Bucket.policy =
        some Sample.cracked.document := by
  intro world pass
  have ready : Sample.engine.Ready Sample.cracked :=
    ⟨by decide +kernel, rfl, Sample.connect_engine rfl⟩
  exact ⟨rfl, by decide +kernel, ready, Sample.isMalformed_cracked, by decide +kernel,
    by decide +kernel, by decide +kernel⟩

end Engine

end Steward
