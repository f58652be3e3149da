/-
This file says what the work on an access policy does in a calm world.
-/

import Steward.Proofs.Calm
import Steward.Proofs.Drift
import Steward.Proofs.Json
import Steward.Resource.Policy

namespace Steward.Policy

open Pass

variable {world : World}

/-- What a probe shows of an access policy. -/
def shown (name document : String) : Observed where
  policyName := some name
  policy := some document

def seenOf (plane : Plane) (name : String) : Option Observed :=
  (plane.policies.get? name).map (shown name)

/-- To look for an access policy only reads. -/
theorem only_probe (record : Record) : Only Request.Reads (probe record) := by
  unfold probe
  apply (only_call (Request.reads_of_reading rfl)).bind
  intro answer
  exact (only_found answer).bind fun _ => only_pure _

/-- In a calm world, a look for an access policy shows what is there. -/
theorem answer_probe (calm : world.plane.IsCalm) (record : Record) :
    (probe record).answer world = .ok (seenOf world.plane record.targetName) := by
  apply Ends.answer_eq
  simp only [probe, seenOf, ends_bind]
  rw [calm.ends_look rfl]
  cases found : world.plane.policies.get? record.targetName with
  | none => simp [Plane.respond, Plane.cannedPolicy, found, Pass.found, Plane.noPolicy]
  | some _ => simp [Plane.respond, Plane.cannedPolicy, found, Pass.found, shown]

section Work

variable {record : Record} {bad : PassError → World → Prop}

/-- The document that a record asks for can be read as JSON. -/
def Asks (record : Record) (document : String) : Prop :=
  desiredDocument record = .ok document ∧ ∃ value, Json.read document = .ok value

/-- The policy made for a bucket is JSON, whatever the bucket is called. -/
theorem read_allowBucketPolicy (bucket : String) :
    Json.read (allowBucketPolicy bucket) = .ok (allowBucketValue bucket) := by
  apply Json.read_render
  apply Json.fits_ofMembers (by decide)
  intro member inside
  simp only [List.mem_cons, List.not_mem_nil, or_false] at inside
  rcases inside with rfl | rfl
  · trivial
  · apply Json.fits_array (by decide)
    intro statement inside
    cases List.mem_singleton.1 inside
    apply Json.fits_ofMembers (by decide)
    intro member inside
    simp only [List.mem_cons, List.not_mem_nil, or_false] at inside
    rcases inside with rfl | rfl | rfl
    · trivial
    · exact Json.fits_ofStrings (by decide)
    · exact Json.fits_ofStrings (by decide)

/-- A valid record either names a bucket or has its document written out. -/
theorem isSome_ne_of_validate {spec : PolicySpec} (asked : record.spec = .policy spec)
    (valid : record.validate = .ok ()) :
    (spec.allowBucket.filter (· ≠ "")).isSome ≠ (spec.rawPolicy.filter (· ≠ "")).isSome := by
  unfold Record.validate at valid
  split at valid
  · cases valid
  split at valid
  · cases valid
  simp only [asked] at valid
  split at valid
  · cases valid
  rename_i apart
  rwa [← Option.isSome_filter, ← Option.isSome_filter] at apart

/-- A valid record asks for a document, if what is written out in it is JSON. -/
theorem exists_asks {spec : PolicySpec} (asked : record.spec = .policy spec)
    (valid : record.validate = .ok ())
    (sound : ∀ document, spec.rawPolicy = some document → document ≠ "" →
      ∃ value, Json.read document = .ok value) : ∃ document, Asks record document := by
  have apart := isSome_ne_of_validate asked valid
  simp only [Asks, desiredDocument, specOf, asked, bind, Except.bind]
  cases bucket : spec.allowBucket.filter (· ≠ "") with
  | some name =>
      cases raw : spec.rawPolicy.filter (· ≠ "") with
      | some document =>
          rw [bucket, raw] at apart
          exact absurd rfl apart
      | none => exact ⟨_, rfl, _, read_allowBucketPolicy name⟩
  | none =>
      cases raw : spec.rawPolicy.filter (· ≠ "") with
      | some document =>
          obtain ⟨same, nonempty⟩ := Option.filter_eq_some_iff.1 raw
          obtain ⟨value, read⟩ := sound document same (of_decide_eq_true nonempty)
          exact ⟨document, rfl, value, read⟩
      | none =>
          rw [bucket, raw] at apart
          exact absurd rfl apart

/-- A record whose document is refused asks for none. -/
theorem not_asks_of_error {error : PassError} (refused : desiredDocument record = .error error)
    (document : String) : ¬ Asks record document := by
  rintro ⟨asked, -⟩
  rw [refused] at asked
  cases asked

/-- A record whose document cannot be read asks for none. -/
theorem not_asks_of_unread {document : String} {error : Json.ReadError}
    (desired : desiredDocument record = .ok document) (unread : Json.read document = .error error)
    (other : String) : ¬ Asks record other := by
  rintro ⟨asked, value, read⟩
  rw [desired] at asked
  cases asked
  rw [unread] at read
  cases read

/-- A refused document is not taken for a name that is in use. -/
theorem isAlreadyExists_of_desiredDocument {error : PassError}
    (refused : desiredDocument record = .error error) : error.isAlreadyExists = false := by
  unfold desiredDocument specOf at refused
  cases spec : record.spec with
  | policy asked =>
      simp only [spec, bind, Except.bind] at refused
      split at refused
      · cases refused
      · cases refused
      · cases refused
        rfl
  | _ =>
      simp only [spec, bind, Except.bind, wrongKind] at refused
      cases refused
      rfl

/-- A policy is written if the document asked for is JSON. -/
theorem create_ends (calm : world.plane.IsCalm) {good : Creation → World → Prop}
    (written : ∀ document mutations, Asks record document →
      good {} { world with plane := world.plane.withPolicy record.targetName document mutations })
    (failed : ∀ error, (∀ document, ¬ Asks record document) → error.isAlreadyExists = false →
      bad error world) :
    Ends (create record) world good bad := by
  simp only [create, ends_bind, ends_lift]
  cases desired : desiredDocument record with
  | error error =>
      exact failed error (not_asks_of_error desired) (isAlreadyExists_of_desiredDocument desired)
  | ok document =>
      cases read : Json.read document with
      | error unread =>
          simp only [Drift.sameObject_of_unread read]
          exact failed _ (not_asks_of_unread desired read) rfl
      | ok value =>
          simp only [Drift.sameObject_self read, calm.ends_perform, Plane.respond,
            Plane.addCannedPolicy, read]
          exact written document _ ⟨desired, value, read⟩

/-- Where the policy differs, the document asked for is written, if it is JSON. -/
theorem update_ends (calm : world.plane.IsCalm) {drifts : List Drift} (drifted : drifts ≠ [])
    {good : Unit → World → Prop}
    (written : ∀ document mutations, Asks record document →
      good () { world with plane := world.plane.withPolicy record.targetName document mutations })
    (failed : ∀ error mutations, (∀ document, ¬ Asks record document) →
      bad error { world with plane := { world.plane with mutations } }) :
    Ends (update record drifts) world good bad := by
  have nonempty : drifts.isEmpty = false := by
    simpa using drifted
  simp only [update, nonempty, Bool.false_eq_true, if_false, ends_bind, ends_lift]
  cases desired : desiredDocument record with
  | error error =>
      exact failed error world.plane.mutations (not_asks_of_error desired)
  | ok document =>
      simp only [calm.ends_perform, Plane.respond, Plane.addCannedPolicy]
      cases read : Json.read document with
      | error unread =>
          exact failed _ _ (not_asks_of_unread desired read)
      | ok value => exact written document _ ⟨desired, value, read⟩

end Work

end Steward.Policy
