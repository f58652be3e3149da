/-
This file says what the work on a service account does in a calm world.
-/

import Steward.Proofs.Calm
import Steward.Proofs.Drift
import Steward.Resource.ServiceAccount

namespace Steward.ServiceAccount

open Pass

variable {world : World}

/-- What a probe shows of an account. -/
def shown (accessKey : String) (account : ServiceAccount) : Observed where
  accessKey := some accessKey
  parentUser := some account.parentUser
  description := account.description
  expiry := account.expiry
  policy := account.policy
  accountStatus := some account.status

/-- What a probe shows of the service account under an access key. -/
def seenOf (plane : Plane) (accessKey : String) : Option Observed :=
  (plane.accounts.get? accessKey).map (shown accessKey)

/-- To look for a service account only reads. -/
theorem only_probe (record : Record) : Only Request.Reads (probe record) := by
  unfold probe
  cases record.metadata.externalName with
  | none => exact only_pure _
  | some accessKey =>
      apply (only_call (Request.reads_of_reading rfl)).bind
      intro answer
      exact (only_found answer).bind fun _ => only_pure _

/-- In a calm world, a look for a service account shows the one whose access key the record
bears. -/
theorem answer_probe (calm : world.plane.IsCalm) (record : Record) :
    (probe record).answer world =
      .ok (record.metadata.externalName.bind (seenOf world.plane)) := by
  apply Ends.answer_eq
  unfold probe
  cases record.metadata.externalName with
  | none => rfl
  | some accessKey =>
      simp only [seenOf, ends_bind, Option.bind_some]
      rw [calm.ends_look rfl]
      cases found : world.plane.accounts.get? accessKey with
      | none => simp [Plane.respond, Plane.serviceAccountInfo, found, Pass.found, Plane.noAccount]
      | some _ => simp [Plane.respond, Plane.serviceAccountInfo, found, Pass.found, shown]

/-- A service account that is seen is there under the access key that the record bears. -/
theorem present_of_seen {plane : Plane} {externalName : Option String} {observed : Observed}
    (sight : externalName.bind (seenOf plane) = some observed) :
    ∃ accessKey account, externalName = some accessKey ∧
      plane.accounts.get? accessKey = some account ∧ observed = shown accessKey account := by
  obtain ⟨accessKey, named, seen⟩ := Option.bind_eq_some_iff.1 sight
  obtain ⟨account, present, same⟩ := Option.map_eq_some_iff.1 seen
  exact ⟨accessKey, account, named, present, same.symm⟩

section Work

variable {record : Record} {spec : ServiceAccountSpec} {bad : PassError → World → Prop}

theorem specOf_eq (asked : record.spec = .serviceAccount spec) : specOf record = .ok spec := by
  rw [specOf, asked]

def parentDrift (spec : ServiceAccountSpec) (observed : Observed) : List Drift :=
  if observed.parentUser = some spec.parentUser then []
  else
    [⟨.parentUser, "want " ++ Text.quoted spec.parentUser ++ ", have " ++
      Text.quotedOption Text.quoted observed.parentUser⟩]

def policyDrift (spec : ServiceAccountSpec) (observed : Observed) :
    Except PassError (Option Drift) :=
  if spec.policy.isSome then Drift.ofPolicy .policy spec.policy observed.policy else .ok none

/-- An account is compared setting by setting. -/
theorem diff_eq (asked : record.spec = .serviceAccount spec) (observed : Observed) :
    diff record observed = (policyDrift spec observed).map fun policy =>
      parentDrift spec observed ++
        (Drift.ofValue .description Text.quoted spec.description observed.description).toList ++
        (Drift.ofValue .expiry Timestamp.render spec.expiry observed.expiry).toList ++
        policy.toList := by
  simp only [diff, specOf_eq asked, policyDrift, bind, Except.bind]
  split
  · cases Drift.ofPolicy .policy spec.policy observed.policy
    · rfl
    · rfl
  · rfl

/-- The account that a record asks for. -/
def accountOf (record : Record) (spec : ServiceAccountSpec) : ServiceAccount where
  parentUser := spec.parentUser
  name := some record.targetName
  description := spec.description
  expiry := spec.expiry
  policy := spec.policy

/-- What the owner of a new account is told. -/
def creationOf (credentials : Credentials) (spec : ServiceAccountSpec) : Creation where
  details := Table.ofList
    [("accessKey", credentials.accessKey), ("secretKey", credentials.secretKey),
      ("parentUser", spec.parentUser)]
  externalName := some credentials.accessKey

/-- An account can be made for a user who exists, with a policy that is JSON if there is one. -/
def CanMake (plane : Plane) (spec : ServiceAccountSpec) : Prop :=
  (∀ policy, spec.policy = some policy → ∃ value, Json.read policy = .ok value) ∧
    plane.users.contains spec.parentUser = true

/-- The call makes an account if its parent exists. -/
theorem addServiceAccount_ends (calm : world.plane.IsCalm) {operation resource : String}
    {account : ServiceAccount} (running : account.status = "on")
    {good : Credentials → World → Prop}
    (made : ∀ mutations, world.plane.users.contains account.parentUser = true →
      good (nextCredentials world.plane)
        { world with
          plane := world.plane.withAccount (nextCredentials world.plane).accessKey account
            (nextNumber world.plane) mutations })
    (failed : ∀ mutations, world.plane.users.contains account.parentUser = false →
      bad (.notFound resource) { world with plane := { world.plane with mutations } }) :
    Ends (Pass.perform operation resource (.addServiceAccount account)) world good bad := by
  simp only [calm.ends_perform, Plane.respond, Plane.addServiceAccount, Plane.counted_users]
  by_cases parent : world.plane.users.contains account.parentUser = true
  · simp only [parent, if_true]
    have whole := made (world.plane.mutations + 1) parent
    cases account
    cases running
    exact whole
  · simp only [parent]
    exact failed _ (by simpa using parent)

theorem accessKeyOf_ne_empty (number : Nat) : Plane.accessKeyOf number ≠ "" := by
  intro empty
  have length := congrArg String.length empty
  simp [Plane.accessKeyOf] at length

/-- A create makes an account under the next keys, and fails where it cannot be made. -/
theorem create_ends (calm : world.plane.IsCalm) (asked : record.spec = .serviceAccount spec)
    {good : Creation → World → Prop}
    (made : ∀ mutations, CanMake world.plane spec →
      good (creationOf (nextCredentials world.plane) spec)
        { world with
          plane := world.plane.withAccount (nextCredentials world.plane).accessKey
            (accountOf record spec) (nextNumber world.plane) mutations })
    (failed : ∀ error mutations, ¬ CanMake world.plane spec → error.isAlreadyExists = false →
      bad error { world with plane := { world.plane with mutations } }) :
    Ends (create record) world good bad := by
  have called : (∀ policy, spec.policy = some policy → ∃ value, Json.read policy = .ok value) →
      Ends (Pass.perform "add service account" spec.parentUser
        (.addServiceAccount (accountOf record spec))) world
        (fun credentials later => good (creationOf credentials spec) later) bad := by
    intro readable
    apply addServiceAccount_ends calm rfl
    · intro mutations parent
      exact made mutations ⟨readable, parent⟩
    · intro mutations missing
      refine failed _ mutations ?_ rfl
      rintro ⟨-, present⟩
      cases present.symm.trans missing
  simp only [create, specOf_eq asked, ends_bind, ends_lift]
  cases policy : spec.policy with
  | none =>
      have whole := called (by simp [policy])
      rw [accountOf, policy] at whole
      simp only [ends_bind]
      exact whole
  | some document =>
      cases read : Json.read document with
      | error unread =>
          simp only [Drift.sameObject_of_unread read, ends_bind, ends_lift]
          refine failed _ world.plane.mutations ?_ rfl
          rintro ⟨readable, -⟩
          obtain ⟨value, accepted⟩ := readable document policy
          cases accepted.symm.trans read
      | ok value =>
          have whole := called (by simp [policy, read])
          rw [accountOf, policy] at whole
          simp only [Drift.sameObject_self read, ends_bind, ends_lift]
          exact whole

/-- The settings of an account after those in which it differs have been overwritten. -/
def revised (spec : ServiceAccountSpec) (drifts : List Drift) (account : ServiceAccount) :
    ServiceAccount :=
  let flagged := fun {α : Type} (field : Field) (value : Option α) =>
    value.filter fun _ => Drift.flags drifts field
  { account with
    description := flagged .description spec.description <|> account.description
    expiry := flagged .expiry spec.expiry <|> account.expiry
    policy := match flagged .policy spec.policy with
      | none => account.policy
      | some policy => if policy = "" then none else some policy }

/-- A new account shows no difference. -/
theorem diff_accountOf (asked : record.spec = .serviceAccount spec) {accessKey : String}
    {other : Record} (sound : Drift.IsSound spec.policy) :
    diff record (shown accessKey (accountOf other spec)) = .ok [] := by
  have policy : policyDrift spec (shown accessKey (accountOf other spec)) = .ok none := by
    unfold policyDrift
    split
    · exact Drift.ofPolicy_of_same sound rfl
    · rfl
  rw [diff_eq asked, policy]
  simp [parentDrift, shown, accountOf, Drift.ofValue_self, Except.map]

/-- A comparison flags the parent exactly if another one is seen. -/
theorem flags_parentDrift (observed : Observed) (field : Field) :
    Drift.flags (parentDrift spec observed) field =
      (decide (Field.parentUser = field) && decide (observed.parentUser ≠ some spec.parentUser)) := by
  unfold parentDrift
  by_cases same : observed.parentUser = some spec.parentUser
  · simp [same, Drift.flags]
  · simp [same, Drift.flags]

/-- A difference between two policies is flagged as one of the policy. -/
theorem field_of_policyDrift {observed : Observed} {difference : Option Drift}
    (found : policyDrift spec observed = .ok difference) (drift : Drift)
    (same : difference = some drift) : drift.field = .policy := by
  unfold policyDrift at found
  split at found
  · subst same
    exact Drift.field_of_ofPolicy found
  · cases found
    cases same

/-- A policy that is overwritten where it differs does not differ any more. -/
theorem policyDrift_revised {accessKey : String} {account : ServiceAccount} {drifts : List Drift}
    {difference : Option Drift} (sound : Drift.IsSound spec.policy)
    (found : policyDrift spec (shown accessKey account) = .ok difference)
    (flagged : Drift.flags drifts .policy = difference.isSome) :
    policyDrift spec (shown accessKey (revised spec drifts account)) = .ok none := by
  cases policy : spec.policy with
  | none => simp [policyDrift, policy]
  | some document =>
      simp only [policyDrift, policy, Option.isSome_some, if_true] at found ⊢
      cases difference with
      | none =>
          simpa [shown, revised, policy, flagged, Option.filter] using found
      | some drift =>
          apply Drift.ofPolicy_of_same (policy ▸ sound)
          by_cases empty : document = ""
          · simp [shown, revised, policy, flagged, empty, Option.filter, Drift.nonBlank,
              Text.isBlank]
          · simp [shown, revised, policy, flagged, empty, Option.filter]

/-- The fields in which an account differs are those whose comparison tells a difference. -/
theorem flags_of_diff (asked : record.spec = .serviceAccount spec) {observed : Observed}
    {drifts : List Drift} (differs : diff record observed = .ok drifts) :
    ∃ difference, policyDrift spec observed = .ok difference ∧ ∀ field,
      Drift.flags drifts field =
        ((decide (Field.parentUser = field) &&
            decide (observed.parentUser ≠ some spec.parentUser)) ||
          (decide (Field.description = field) && (Drift.ofValue .description Text.quoted
            spec.description observed.description).isSome) ||
          (decide (Field.expiry = field) && (Drift.ofValue .expiry Timestamp.render
            spec.expiry observed.expiry).isSome) ||
          (decide (Field.policy = field) && difference.isSome)) := by
  rw [diff_eq asked] at differs
  cases policy : policyDrift spec observed with
  | error error => simp [policy, Except.map] at differs
  | ok difference =>
      simp only [policy, Except.map, Except.ok.injEq] at differs
      refine ⟨difference, rfl, fun field => ?_⟩
      rw [← differs, Drift.flags_append, Drift.flags_append, Drift.flags_append,
        flags_parentDrift, Drift.flags_toList fun _ => Drift.field_of_ofValue,
        Drift.flags_toList fun _ => Drift.field_of_ofValue,
        Drift.flags_toList (field_of_policyDrift policy)]

/-- A revised account shows no difference any more. -/
theorem diff_revised (asked : record.spec = .serviceAccount spec) {accessKey : String}
    {account : ServiceAccount} {drifts : List Drift}
    (differs : diff record (shown accessKey account) = .ok drifts)
    (alike : Drift.flags drifts .parentUser = false) (sound : Drift.IsSound spec.policy) :
    diff record (shown accessKey (revised spec drifts account)) = .ok [] := by
  obtain ⟨difference, policy, flagged⟩ := flags_of_diff asked differs
  simp only [shown] at flagged
  have parent : account.parentUser = spec.parentUser := by
    simpa [flagged] using alike
  have description : Drift.ofValue .description Text.quoted spec.description
      (revised spec drifts account).description = none := by
    simpa [revised, flagged] using
      @Drift.ofValue_overwritten _ _ .description Text.quoted spec.description account.description
  have expiry : Drift.ofValue .expiry Timestamp.render spec.expiry
      (revised spec drifts account).expiry = none := by
    simpa [revised, flagged] using
      @Drift.ofValue_overwritten _ _ .expiry Timestamp.render spec.expiry account.expiry
  have alike : parentDrift spec (shown accessKey (revised spec drifts account)) = [] := by
    simp [parentDrift, shown, revised, parent]
  rw [diff_eq asked, policyDrift_revised sound policy (by simp [flagged]), alike, shown, description,
    expiry]
  rfl

/-- An account whose parent is as desired is revised. -/
theorem update_ends (calm : world.plane.IsCalm) (asked : record.spec = .serviceAccount spec)
    {accessKey : String} (named : record.metadata.externalName = some accessKey)
    {account : ServiceAccount} (present : world.plane.accounts.get? accessKey = some account)
    {drifts : List Drift} {good : Unit → World → Prop}
    (changed : ∀ mutations, Drift.flags drifts .parentUser = false →
      good () { world with
        plane := world.plane.withAccount accessKey (revised spec drifts account)
          world.plane.lastKey mutations })
    (refused : Drift.flags drifts .parentUser = true →
      bad (.immutableField accessKey "parentUser") world) :
    Ends (update record drifts) world good bad := by
  simp only [update, specOf_eq asked, ends_bind, ends_lift, named]
  by_cases parent : Drift.flags drifts .parentUser = true
  · simp only [parent, if_true]
    exact refused parent
  · simp only [parent, Bool.false_eq_true, if_false]
    have alike : Drift.flags drifts .parentUser = false := by simpa using parent
    split
    · rename_i nothing
      simp only [ServiceAccountUpdate.isEmpty, Bool.and_eq_true, Option.isNone_iff_eq_none]
        at nothing
      obtain ⟨⟨description, expiry⟩, policy⟩ := nothing
      have same : revised spec drifts account = account := by
        simp only [revised, description, expiry, policy]
        rfl
      have whole := changed world.plane.mutations alike
      rw [same, Plane.withAccount, Table.insert_of_get? present] at whole
      exact whole
    · simp only [calm.ends_perform, Plane.respond, Plane.updateServiceAccount,
        Plane.counted_accounts, present]
      exact changed _ alike

end Work

end Steward.ServiceAccount
