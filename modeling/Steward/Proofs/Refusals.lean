/-
This file says what a call that fails leaves on the remote side.
It changes no resource, and uses up the fault that was armed for it. A create that finds that
something exists already has therefore not made its resource, unless a call that configures the
resource says so, and a look tells what is there.
-/

import Steward.Proofs.Calm
import Steward.Proofs.Conduct
import Steward.Remote.Seeding

namespace Steward

open Pass

/-- The call by which a resource is looked for first. -/
def Kind.lookup : Kind → String
  | .bucket => "bucket_exists"
  | .user => "user_info"
  | .policy => "canned_policy"
  | .serviceAccount => "service_account_info"

namespace RemoteCall

/-- The calls by which a resource that has just been made is given its policies. -/
def configuring : List String :=
  ["set_bucket_policy", "set_user_policies", "attach_user_policies", "detach_user_policies"]

/-- A call by which a resource that has just been made is given its policies. -/
def Configures : RemoteCall → Prop
  | .setBucketPolicy _ _ | .setUserPolicies _ _ | .attachUserPolicies _ _
  | .detachUserPolicies _ _ => True
  | _ => False

theorem Configures.isMutating {call : RemoteCall} (configures : call.Configures) :
    call.isMutating = true := by
  cases call with
  | setBucketPolicy _ _ | setUserPolicies _ _ | attachUserPolicies _ _ | detachUserPolicies _ _ =>
      rfl
  | _ => exact configures.elim

theorem Configures.ne_makeBucket {call : RemoteCall} (configures : call.Configures)
    (bucket region : String) : call ≠ .makeBucket bucket region := by
  rintro rfl
  exact configures

/-- A call that configures goes by one of the names that are kept for such calls. -/
theorem Configures.name_mem {call : RemoteCall} (configures : call.Configures) :
    call.name ∈ configuring := by
  cases call with
  | setBucketPolicy _ _ | setUserPolicies _ _ | attachUserPolicies _ _ | detachUserPolicies _ _ =>
      simp [name, configuring]
  | _ => exact configures.elim

end RemoteCall

namespace Plane

/-- No fault is armed by which a call that configures a resource would say that something exists
already. -/
def Spares (plane : Plane) : Prop :=
  ∀ name ∈ RemoteCall.configuring, ∀ resource,
    plane.faults.next.get? name ≠ some (.alreadyExists resource)

/-- Of the faults that are armed for a next call, some have been used up at most. -/
def Disarms (before after : Plane) : Prop :=
  ∀ name error, after.faults.next.get? name = some error →
    before.faults.next.get? name = some error

/-- What is there under a name is the same, and faults have been used up at most. -/
structure StaysAt (before : Plane) (kind : Kind) (name : String) (after : Plane) : Prop where
  same : before.SameAt after kind name
  disarms : before.Disarms after

variable {before middle after plane : Plane} {kind : Kind} {name : String} {call : RemoteCall}
  {error : RemoteError}

theorem Disarms.spares (disarms : before.Disarms after) (spares : before.Spares) : after.Spares :=
  fun name among resource armed => spares name among resource (disarms name _ armed)

theorem Disarms.spent (disarms : before.Disarms after)
    (spent : before.faults.next.get? name = none) : after.faults.next.get? name = none := by
  cases armed : after.faults.next.get? name with
  | none => rfl
  | some error => cases spent.symm.trans (disarms name error armed)

/-- Where no fault is armed, none says that something exists already. -/
theorem spares_of_isCalm (calm : plane.IsCalm) : plane.Spares := by
  intro name _ resource armed
  have unarmed : plane.faults.next = ∅ := calm
  rw [unarmed, Table.get?_empty] at armed
  cases armed

/-- To arm another fault spares the configuring calls as before. -/
theorem Spares.failNext (spares : plane.Spares) (operation : String)
    (other : ∀ resource, error ≠ .alreadyExists resource) :
    (plane.failNext operation error).Spares := by
  intro name among resource armed
  have told : (plane.faults.next.insert operation error).get? name =
    some (.alreadyExists resource) := armed
  rw [Table.get?_insert] at told
  split at told
  · exact other resource (Option.some.inj told)
  · exact spares name among resource told

theorem StaysAt.refl (plane : Plane) (kind : Kind) (name : String) :
    plane.StaysAt kind name plane :=
  ⟨.refl plane kind name, fun _ _ armed => armed⟩

theorem StaysAt.trans (first : before.StaysAt kind name middle)
    (second : middle.StaysAt kind name after) : before.StaysAt kind name after :=
  ⟨first.same.trans second.same, fun other error armed =>
    first.disarms other error (second.disarms other error armed)⟩

theorem StaysAt.absent (stays : before.StaysAt kind name after)
    (absent : ¬ before.Has kind name) : ¬ after.Has kind name :=
  fun there => absent (stays.same.has_iff.1 there)

/-- A call uses up the fault that is armed for it, and no other. -/
theorem next_perform (plane : Plane) (call : RemoteCall) :
    (plane.perform call).2.faults.next = plane.faults.next.erase call.name := by
  apply @perform_keeps plane call fun later =>
    later.faults.next = plane.faults.next.erase call.name
  · rfl
  · intro later entered
    rw [respond_faults, entered]

theorem spent_perform (plane : Plane) (call : RemoteCall) :
    (plane.perform call).2.faults.next.get? call.name = none := by
  rw [next_perform, Table.get?_erase, if_pos rfl]

/-- A call arms no fault. -/
theorem disarms_perform (plane : Plane) (call : RemoteCall) :
    plane.Disarms (plane.perform call).2 := by
  intro name error armed
  rw [next_perform, Table.get?_erase] at armed
  split at armed
  · cases armed
  · exact armed

/-- A call meets the fault that is armed for it, or it is answered by the remote side itself. -/
theorem perform_cases (plane : Plane) (call : RemoteCall) :
    (∃ error, plane.faults.next.get? call.name = some error ∧
        plane.perform call = (faulted error call, (plane.enter call).2)) ∨
      plane.faults.next.get? call.name = none ∧
        plane.perform call = (plane.enter call).2.respond call := by
  have entered : plane.enter call = (plane.faults.next.get? call.name, (plane.enter call).2) := rfl
  generalize (plane.enter call).2 = later at entered ⊢
  unfold perform
  rw [entered]
  cases plane.faults.next.get? call.name with
  | none => exact .inr ⟨rfl, rfl⟩
  | some error => exact .inl ⟨error, rfl, rfl⟩

/-- A call that is refused changes no resource. -/
theorem Responds.sameAt_of_error {after : Plane}
    (responds : plane.Responds call (.error error) after) : plane.SameAt after kind name := by
  obtain rfl | ⟨keys, rfl⟩ := responds.of_error
  · exact SameAt.refl _ _ _
  · exact sameAt_of_tables rfl rfl rfl rfl

/-- With or without a fault, a call that fails changes no resource. -/
theorem stays_of_refused (refused : (plane.perform call).1 = .error error) :
    plane.StaysAt kind name (plane.perform call).2 := by
  refine ⟨?_, plane.disarms_perform call⟩
  have entered : plane.SameAt (plane.enter call).2 kind name := plane.sameAt_enter call
  obtain ⟨fault, -, faulted⟩ | ⟨-, answered⟩ := plane.perform_cases call
  · rw [faulted]
    exact entered
  · have responds := (plane.enter call).2.responds call
    rw [answered] at refused ⊢
    rw [refused] at responds
    exact entered.trans responds.sameAt_of_error

/-- A call that only looks changes no resource, whatever fault it meets. -/
theorem stays_of_reading (reading : call.isMutating = false) :
    plane.StaysAt kind name (plane.perform call).2 := by
  refine ⟨sameAt_perform call ?_, plane.disarms_perform call⟩
  cases call with
  | bucketExists _ | bucketPolicy _ | objectLockEnabled _ | listObjects _ | userInfo _
  | cannedPolicy _ | listCannedPolicies | serviceAccountInfo _ => exact nofun
  | _ => cases reading

/-- A call that configures something says that it exists already only by a fault. -/
theorem Spares.perform_ne_alreadyExists (spares : plane.Spares) (configures : call.Configures)
    (resource : String) : (plane.perform call).1 ≠ .error (.alreadyExists resource) := by
  obtain ⟨error, armed, faulted⟩ | ⟨-, answered⟩ := plane.perform_cases call
  · rw [faulted]
    intro told
    refine spares call.name configures.name_mem resource (armed.trans (congrArg some ?_))
    cases call with
    | listObjects _ => exact configures.elim
    | _ => exact Except.error.inj told
  · rw [answered]
    exact ((plane.enter call).2.responds call).ne_alreadyExists configures.isMutating
      configures.ne_makeBucket

end Plane

section Calls

variable {world : World} {kind : Kind} {name : String}

/-- To configure something does not fail because it exists already. -/
theorem Plane.Spares.ends_perform (spares : world.plane.Spares) (operation resource : String)
    (call : RemoteCall) (configures : call.Configures) :
    Ends (α := no_index _) (Pass.perform operation resource call) world
      (fun _ later => later.plane.Spares) fun error _ => error.isAlreadyExists = false := by
  rw [Pass.ends_perform]
  cases answered : (world.plane.perform call).1 with
  | ok result => exact (world.plane.disarms_perform call).spares spares
  | error error =>
      refine Bool.eq_false_iff.2 fun told => ?_
      obtain ⟨what, rfl⟩ := PassError.isAlreadyExists_ofRemote told
      exact spares.perform_ne_alreadyExists configures what answered

/-- To look leaves everything where it is. -/
theorem ends_stays {α : Type} {pass : Pass α} (reads : Only Request.Reads pass)
    (world : World) (kind : Kind) (name : String) :
    Ends pass world
      (fun _ later => world.plane.StaysAt kind name later.plane ∧ later.store = world.store)
      fun _ later => world.plane.StaysAt kind name later.plane ∧ later.store = world.store := by
  have keeps : ∀ (request : Request) (later : World), request.Reads →
      world.plane.StaysAt kind name later.plane ∧ later.store = world.store →
      world.plane.StaysAt kind name (later.answer request).2.plane ∧
        (later.answer request).2.store = world.store := by
    rintro request later reads ⟨stays, same⟩
    refine ⟨?_, reads.store_answer.trans same⟩
    cases request with
    | remote call => exact stays.trans (Plane.stays_of_reading reads)
    | readRecord _ | listRecords => exact stays
    | _ => exact reads.elim
  exact reads.ends keeps ⟨.refl _ _ _, rfl⟩

/-- A call that is to make a resource has made nothing if it fails. -/
theorem ends_making (operation resource : String) (call : RemoteCall)
    (absent : ¬ world.plane.Has kind name) :
    Ends (α := no_index _) (perform operation resource call) world
      (fun _ later => world.plane.Disarms later.plane)
      fun _ later => ¬ later.plane.Has kind name := by
  rw [ends_perform]
  cases answered : (world.plane.perform call).1 with
  | ok result => exact world.plane.disarms_perform call
  | error error => exact (Plane.stays_of_refused answered).absent absent

end Calls

section Creates

variable {world : World} {record : Record}

/-- If the create of a bucket finds that something exists already, it has not made the bucket. -/
theorem Bucket.create_tells_absent (absent : ¬ world.plane.Has .bucket record.targetName)
    (spares : world.plane.Spares) :
    Ends (create record) world (fun _ _ => True) fun error later =>
      error.isAlreadyExists = true → ¬ later.plane.Has .bucket record.targetName := by
  rw [create, ends_bind, ends_lift]
  cases specOf record with
  | error wrong => exact fun _ => absent
  | ok spec =>
      dsimp only
      rw [ends_bind]
      apply (ends_making _ _ _ absent).mono
      · intro _ later disarms
        -- The bucket has been made, so nothing that follows may say that it exists.
        unfold configure
        split
        · rw [ends_bind]
          apply ((disarms.spares spares).ends_perform _ _ (.setBucketPolicy _ _) trivial).mono
          · exact fun _ _ _ => trivial
          · exact fun error last other told => by cases other.symm.trans told
        · trivial
      · exact fun error later gone _ => gone

namespace User

theorem reads_checkPoliciesExist (policies : List String) :
    Only Request.Reads (checkPoliciesExist policies) := by
  unfold checkPoliciesExist
  split
  · exact only_pure _
  · refine Only.bind (only_perform rfl) fun known => ?_
    split
    · exact only_throw _
    · exact only_pure _

/-- A look at a user for which no fault is armed does not say that something exists already. -/
theorem userInfo_ne_alreadyExists (spares : world.plane.Spares) (user : String)
    (spent : world.plane.faults.next.get? "user_info" = none) :
    Ends (α := UserInfo) (perform "get user" user (.userInfo user)) world
      (fun _ later => later.plane.Spares) fun error _ => error.isAlreadyExists = false := by
  rw [ends_perform]
  obtain ⟨error, armed, -⟩ | ⟨-, answered⟩ := world.plane.perform_cases (.userInfo user)
  · cases spent.symm.trans armed
  · have disarms := world.plane.disarms_perform (.userInfo user)
    rw [answered] at disarms ⊢
    cases shown : ((world.plane.enter (.userInfo user)).2.respond (.userInfo user)).1 with
    | ok info => exact disarms.spares spares
    | error error =>
        obtain ⟨-, rfl⟩ := Plane.not_has_of_sought? rfl shown
        rfl

/-- To give a user its policies does not fail because something exists already. -/
theorem applyPolicies_ne_alreadyExists (binding : PolicyBinding) (user : String)
    (desired : List String) (spares : world.plane.Spares)
    (spent : world.plane.faults.next.get? "user_info" = none) :
    Ends (applyPolicies binding user desired) world (fun _ _ => True)
      fun error _ => error.isAlreadyExists = false := by
  cases binding with
  | replace =>
      exact (spares.ends_perform _ _ (.setUserPolicies _ _) trivial).mono (fun _ _ _ => trivial)
        fun _ _ other => other
  | attach =>
      have detaches : ∀ (detached : List String) (later : World), later.plane.Spares →
          Ends (do
              if detached ≠ [] then
                perform "detach user policies" user (.detachUserPolicies user detached)) later
            (fun _ _ => True) fun error _ => error.isAlreadyExists = false := by
        intro detached later spares
        split
        · exact (spares.ends_perform _ _ (.detachUserPolicies _ _) trivial).mono
            (fun _ _ _ => trivial) fun _ _ other => other
        · trivial
      rw [applyPolicies, ends_bind]
      apply (userInfo_ne_alreadyExists spares user spent).mono
      · intro info later spares
        dsimp only
        split
        · rw [ends_bind]
          exact (spares.ends_perform _ _ (.attachUserPolicies _ _) trivial).mono
            (fun _ last spares => detaches _ last spares) fun _ _ other => other
        · exact detaches _ later spares
      · exact fun _ _ other => other

/-- If the create of a user finds that something exists already, it has not made the user. -/
theorem register_tells_absent (binding : PolicyBinding)
    (absent : ¬ world.plane.Has .user record.targetName) (spares : world.plane.Spares)
    (spent : world.plane.faults.next.get? "user_info" = none) :
    Ends (register binding record) world (fun _ _ => True) fun error later =>
      error.isAlreadyExists = true → ¬ later.plane.Has .user record.targetName := by
  rw [register, ends_bind, ends_lift]
  cases specOf record with
  | error wrong => exact fun _ => absent
  | ok spec =>
      dsimp only
      rw [ends_bind]
      apply (ends_stays (reads_checkPoliciesExist _) world .user record.targetName).mono
      · rintro _ later ⟨stays, -⟩
        rw [ends_bind, ends_secret, ends_bind]
        let drawn : World := { later with secrets := later.secrets.draw.2 }
        have gone : ¬ drawn.plane.Has .user record.targetName := stays.absent absent
        apply (ends_making _ _ _ gone).mono
        · intro _ last disarms
          have applies := @applyPolicies_ne_alreadyExists last binding record.targetName
            spec.policies (disarms.spares (stays.disarms.spares spares))
            (disarms.spent (stays.disarms.spent spent))
          split
          · rw [ends_bind]
            apply applies.mono
            · exact fun _ _ _ => trivial
            · exact fun error last other told => by cases other.symm.trans told
          · trivial
        · exact fun error last gone _ => gone
      · rintro error later ⟨stays, -⟩ _
        exact stays.absent absent

end User

/-- If the create of a policy finds that something exists already, it has not made the policy. -/
theorem Policy.create_tells_absent (absent : ¬ world.plane.Has .policy record.targetName) :
    Ends (create record) world (fun _ _ => True) fun error later =>
      error.isAlreadyExists = true → ¬ later.plane.Has .policy record.targetName := by
  rw [create, ends_bind, ends_lift]
  cases desiredDocument record with
  | error wrong => exact fun _ => absent
  | ok document =>
      dsimp only
      rw [ends_bind, ends_lift]
      cases Drift.sameObject document document with
      | error wrong => exact fun _ => absent
      | ok same =>
          dsimp only
          rw [ends_bind]
          exact (ends_making _ _ _ absent).mono (fun _ _ _ => trivial) fun _ _ gone _ => gone

/-- If a create finds that something exists already, it has not made its resource. -/
theorem Engine.clientCreate_tells_absent (engine : Engine) (named : record.kind ≠ .serviceAccount)
    (absent : ¬ world.plane.Has record.kind record.targetName) (spares : world.plane.Spares)
    (spent : world.plane.faults.next.get? record.kind.lookup = none) :
    Ends ((engine.clientOf record.kind).create record) world (fun _ _ => True)
      fun error later => error.isAlreadyExists = true →
        ¬ later.plane.Has record.kind record.targetName := by
  cases kind : record.kind with
  | bucket =>
      rw [kind] at absent
      exact Bucket.create_tells_absent absent spares
  | user =>
      rw [kind] at absent spent
      exact User.register_tells_absent engine.binding absent spares spent
  | policy =>
      rw [kind] at absent
      exact Policy.create_tells_absent absent
  | serviceAccount => exact absurd kind named

end Creates

/-- What a look at the resource of a record tells: one that is seen is there, and one that is not
seen is not there unless a fault was armed for the look. That fault is used up. -/
structure Plane.Looked (before : Plane) (record : Record) (seen : Option Observed)
    (after : Plane) : Prop where
  there : seen ≠ none → before.Has record.kind record.targetName
  gone : before.faults.next.get? record.kind.lookup = none → seen = none →
    ¬ before.Has record.kind record.targetName
  spent : after.faults.next.get? record.kind.lookup = none

/-- One that is seen is there. -/
theorem Plane.Looked.has {before after : Plane} {record : Record} {observed : Observed}
    (looked : before.Looked record (some observed) after) :
    before.Has record.kind record.targetName :=
  looked.there (Option.some_ne_none observed)

/-- A look that shows a resource is right if the resource is there. -/
theorem Plane.looked_of_has {before after : Plane} {record : Record}
    (there : before.Has record.kind record.targetName)
    (spent : after.faults.next.get? record.kind.lookup = none) (observed : Observed) :
    before.Looked record (some observed) after :=
  ⟨fun _ => there, fun _ unseen => absurd unseen (Option.some_ne_none observed), spent⟩

section Looks

variable {world : World} {record : Record} {kind : Kind} {name : String}

namespace RemoteCall

variable {call : RemoteCall} {plane : Plane}

theorem faulted_of_sought? (seeks : call.sought? = some (kind, name)) (error : RemoteError) :
    Plane.faulted error call = .error error := by
  cases call with
  | listObjects _ => cases seeks
  | _ => rfl

/-- What a look shows is there, whatever faults are armed. -/
theorem has_of_shown (seeks : call.sought? = some (kind, name)) {result : call.Result}
    (answered : (plane.perform call).1 = .ok result) : plane.Has kind name := by
  obtain ⟨error, -, faulted⟩ | ⟨-, told⟩ := plane.perform_cases call
  · rw [faulted, faulted_of_sought? seeks] at answered
    cases answered
  · rw [told] at answered
    exact (plane.sameAt_enter call).has_iff.1 (Plane.has_of_sought? seeks answered)

/-- What a look misses is not there, if no fault was armed for it. -/
theorem not_has_of_missed (seeks : call.sought? = some (kind, name))
    (spent : plane.faults.next.get? call.name = none) {error : RemoteError}
    (answered : (plane.perform call).1 = .error error) : ¬ plane.Has kind name := by
  obtain ⟨fault, armed, -⟩ | ⟨-, told⟩ := plane.perform_cases call
  · cases spent.symm.trans armed
  · rw [told] at answered
    intro there
    have entered := (plane.sameAt_enter call).has_iff.2 there
    exact (Plane.not_has_of_sought? seeks answered).1 entered

end RemoteCall

/-- What is found under an answer is the result, or nothing if the answer is that it is not
found. -/
theorem ends_found {α : Type} {operation resource : String} {answer : Except RemoteError α}
    {good : Option α → World → Prop} (seen : ∀ value, answer = .ok value → good (some value) world)
    (unseen : ∀ what, answer = .error (.notFound what) → good none world) :
    Ends (found operation resource answer) world good fun _ _ => True := by
  cases answer with
  | ok value => exact seen value rfl
  | error error =>
      cases error with
      | notFound what => exact unseen what rfl
      | _ => trivial

/-- A bucket that is said to be there or not is there or not, whatever faults are armed. -/
theorem Plane.answer_bucketExists {plane : Plane} {bucket : String} {found : Bool}
    (answered : (plane.perform (.bucketExists bucket)).1 = .ok found) :
    plane.buckets.contains bucket = found := by
  obtain ⟨error, -, faulted⟩ | ⟨-, told⟩ := plane.perform_cases (.bucketExists bucket)
  · rw [faulted] at answered
    cases answered
  · rw [told] at answered
    simp only [respond] at answered
    split at answered
    · cases answered
    · cases answered
      rfl

/-- A look at a bucket tells whether it is there, also if its policy cannot be read. -/
theorem Bucket.probe_looks (kind : record.kind = .bucket) :
    Ends (probe record) world (fun seen later => world.plane.Looked record seen later.plane)
      fun _ _ => True := by
  let after := (world.plane.perform (.bucketExists record.targetName)).2
  have spent : after.faults.next.get? record.kind.lookup = none := by
    rw [kind]
    exact world.plane.spent_perform (.bucketExists record.targetName)
  rw [probe, ends_bind, ends_perform]
  cases answered : (world.plane.perform (.bucketExists record.targetName)).1 with
  | error error => trivial
  | ok found =>
      have told := Plane.answer_bucketExists answered
      have held : world.plane.Has record.kind record.targetName ↔ found = true := by
        rw [kind, ← told]
        rfl
      cases found with
      | false =>
          have absent : ¬ world.plane.Has record.kind record.targetName := fun there =>
            Bool.false_ne_true (held.1 there)
          exact ⟨fun seen => absurd rfl seen, fun _ _ => absent, spent⟩
      | true =>
          have later := (after.disarms_perform (.bucketPolicy record.targetName)).spent spent
          simp only [not_true_eq_false, if_false]
          rw [ends_bind, ends_call, ends_bind]
          apply ends_found
          · exact fun policy _ => Plane.looked_of_has (held.2 rfl) later _
          · exact fun what _ => Plane.looked_of_has (held.2 rfl) later _

/-- A look for the resource of a record by one call. -/
theorem RemoteCall.ends_looked {call : RemoteCall}
    (seeks : call.sought? = some (record.kind, record.targetName))
    (named : call.name = record.kind.lookup) (operation resource : String)
    (shown : call.Result → Observed) :
    Ends (do
        let answer ← Pass.call call
        let seen ← found operation resource answer
        return seen.map shown) world
      (fun seen later => world.plane.Looked record seen later.plane) fun _ _ => True := by
  have spent := world.plane.spent_perform call
  rw [named] at spent
  rw [ends_bind, ends_call, ends_bind]
  apply ends_found
  · exact fun result answered => Plane.looked_of_has (has_of_shown seeks answered) spent _
  · intro what answered
    refine ⟨fun seen => absurd rfl seen, fun unarmed _ => ?_, spent⟩
    exact not_has_of_missed seeks (named ▸ unarmed) answered

/-- What a look at the resource of a record tells is so, unless a fault was armed for it. -/
theorem Engine.probe_looks (engine : Engine) (named : record.kind ≠ .serviceAccount) :
    Ends ((engine.clientOf record.kind).probe record) world
      (fun seen later => world.plane.Looked record seen later.plane) fun _ _ => True := by
  cases kind : record.kind with
  | bucket => exact Bucket.probe_looks kind
  | user =>
      have seeks : (RemoteCall.userInfo record.targetName).sought? = some (_, _) := rfl
      rw [← kind] at seeks
      exact RemoteCall.ends_looked seeks (kind ▸ rfl) _ _ _
  | policy =>
      have seeks : (RemoteCall.cannedPolicy record.targetName).sought? = some (_, _) := rfl
      rw [← kind] at seeks
      exact RemoteCall.ends_looked seeks (kind ▸ rfl) _ _ _
  | serviceAccount => exact absurd kind named

end Looks

end Steward
