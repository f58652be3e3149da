/-
This file says what the work on a user does in a calm world.
-/

import Steward.Proofs.Calm
import Steward.Proofs.Drift
import Steward.Resource.User

namespace Steward.User

open Pass

variable {world : World}

/-- What a probe shows of a user. -/
def shown (name : String) (user : User) : Observed where
  userName := some name
  policies := ascending user.policies
  accountStatus := some user.status

def seenOf (plane : Plane) (name : String) : Option Observed :=
  (plane.users.get? name).map (shown name)

theorem only_probe (record : Record) : Only Request.Reads (probe record) := by
  unfold probe
  apply (only_call (Request.reads_of_reading rfl)).bind
  intro answer
  exact (only_found answer).bind fun _ => only_pure _

/-- In a calm world a probe shows the user who is there, or none. -/
theorem answer_probe (calm : world.plane.IsCalm) (record : Record) :
    (probe record).answer world = .ok (seenOf world.plane record.targetName) := by
  apply Ends.answer_eq
  simp only [probe, seenOf, ends_bind]
  rw [calm.ends_look rfl]
  cases found : world.plane.users.get? record.targetName with
  | none => simp [Plane.respond, Plane.userInfo, found, Pass.found, Plane.noUser]
  | some _ => simp [Plane.respond, Plane.userInfo, found, Pass.found, shown]

/-- Who has been seen is there, and as it was shown. -/
theorem present_of_seen {plane : Plane} {name : String} {observed : Observed}
    (sight : seenOf plane name = some observed) :
    ∃ user, plane.users.get? name = some user ∧ observed = shown name user := by
  obtain ⟨user, present, seen⟩ := Option.map_eq_some_iff.1 sight
  exact ⟨user, present, seen.symm⟩

/-- To put a name in its place adds this name only. -/
theorem mem_insertAscending {name other : String} {names : List String} :
    other ∈ insertAscending name names ↔ other = name ∨ other ∈ names := by
  induction names with
  | nil => simp [insertAscending]
  | cons first rest inductionHypothesis =>
      unfold insertAscending
      split
      · simp only [List.mem_cons, inductionHypothesis]
        constructor
        · rintro (same | same | later)
          · exact .inr (.inl same)
          · exact .inl same
          · exact .inr (.inr later)
        · rintro (same | same | later)
          · exact .inr (.inl same)
          · exact .inl same
          · exact .inr (.inr later)
      · simp

/-- To arrange names adds none and drops none. -/
@[simp] theorem mem_ascending {name : String} {names : List String} :
    name ∈ ascending names ↔ name ∈ names := by
  induction names with
  | nil => simp [ascending]
  | cons first rest inductionHypothesis =>
      have step : ascending (first :: rest) = insertAscending first (ascending rest) := rfl
      rw [step, mem_insertAscending, inductionHypothesis, List.mem_cons]

/-- Keeping the items that are new, one by one, keeps the first of each. -/
theorem firstOccurrences_eq {α : Type} [DecidableEq α] (items : List α) :
    firstOccurrences items = items.eraseDups := by
  have kept : ∀ kept : List α,
      items.foldl (fun kept item => if item ∈ kept then kept else kept ++ [item]) kept =
        kept ++ (items.filter (· ∉ kept)).eraseDups := by
    induction items with
    | nil => simp
    | cons item items inductionHypothesis =>
        intro kept
        rw [List.foldl_cons, inductionHypothesis]
        by_cases member : item ∈ kept
        · simp [member]
        · have narrowed : items.filter (· ∉ kept ++ [item]) =
              (items.filter (· ∉ kept)).filter fun other => !other == item := by
            rw [List.filter_filter]
            apply List.filter_congr
            intro other _
            by_cases same : other = item
            · simp [same]
            · simp [same]
          have listed : (item :: items).filter (· ∉ kept) =
              item :: items.filter (· ∉ kept) := by
            simp [member]
          rw [if_neg member, listed, List.eraseDups_cons, narrowed]
          simp
  have whole : items.filter (· ∉ ([] : List α)) = items :=
    List.filter_eq_self.2 (by simp)
  rw [firstOccurrences, kept [], whole]
  rfl

theorem mem_firstOccurrences {α : Type} [DecidableEq α] {items : List α} {item : α} :
    item ∈ firstOccurrences items ↔ item ∈ items := by
  rw [firstOccurrences_eq, List.mem_eraseDups]

section Work

variable {record : Record} {spec : UserSpec} {bad : PassError → World → Prop}

theorem specOf_eq (asked : record.spec = .user spec) : specOf record = .ok spec := by
  rw [specOf, asked]

theorem diff_eq (asked : record.spec = .user spec) (observed : Observed) :
    diff record observed = .ok (Drift.ofSets .policies spec.policies observed.policies).toList := by
  simp only [diff, specOf_eq asked, bind, Except.bind]
  rfl

/-- If a user differs from its record at all, its policies are flagged. -/
theorem flags_of_diff (asked : record.spec = .user spec) {observed : Observed}
    {drifts : List Drift} (differs : diff record observed = .ok drifts) (drifted : drifts ≠ []) :
    Drift.flags drifts .policies = true := by
  rw [diff_eq asked] at differs
  cases differs
  unfold Drift.ofSets at drifted ⊢
  dsimp only at drifted ⊢
  split at drifted
  · exact absurd rfl drifted
  · rename_i apart
    rw [if_neg apart]
    rfl

/-- All of some access policies exist. -/
def Known (plane : Plane) (policies : List String) : Prop :=
  ∀ name ∈ policies, plane.policies.contains name = true

/-- No policy is missing where all are known. -/
theorem missingPolicy?_of_known {plane : Plane} {policies : List String}
    (known : Known plane policies) : plane.missingPolicy? policies = none := by
  rw [Plane.missingPolicy?, Option.map_eq_none_iff, List.find?_eq_none]
  intro name member
  simp [known name member]

@[simp] theorem missingPolicy?_counted (plane : Plane) (call : RemoteCall)
    (policies : List String) :
    (plane.counted call).missingPolicy? policies = plane.missingPolicy? policies :=
  rfl

/-- The check passes if all policies are known, and else names one that is missing. -/
theorem checkPoliciesExist_ends (calm : world.plane.IsCalm) {policies : List String}
    {good : Unit → World → Prop} (all : Known world.plane policies → good () world)
    (lacks : ∀ missing, ¬ Known world.plane policies →
      bad (.missingDependency .policy missing) world) :
    Ends (checkPoliciesExist policies) world good bad := by
  unfold checkPoliciesExist
  split
  · rename_i empty
    rw [List.isEmpty_iff] at empty
    exact all (by simp [Known, empty])
  · simp only [ends_bind]
    rw [calm.ends_inspect _ _ rfl]
    simp only [Plane.respond]
    cases found : policies.find? (· ∉ world.plane.policies.keys) with
    | none =>
        apply all
        intro name member
        have listed := List.find?_eq_none.1 found name member
        simpa [Table.mem_keys_iff] using listed
    | some missing =>
        apply lacks missing
        intro known
        have unlisted := List.find?_some found
        have member := List.mem_of_find?_eq_some found
        simp [Table.mem_keys_iff, known missing member] at unlisted

/-- What the owner of a new user is told. -/
def creationOf (name secret : String) : Creation where
  details := Table.ofList [("username", name), ("password", secret)]

/-- To attach policies adds just these to those of the user. -/
theorem mem_attachTo (policy : String) (attached policies : List String) :
    policy ∈ Plane.attachTo attached policies ↔ policy ∈ attached ∨ policy ∈ policies := by
  induction policies generalizing attached with
  | nil => simp [Plane.attachTo]
  | cons first rest inductionHypothesis =>
      rw [Plane.attachTo, inductionHypothesis]
      by_cases member : first ∈ attached
      · simp only [member, if_true, List.mem_cons]
        constructor
        · rintro (held | later)
          · exact .inl held
          · exact .inr (.inr later)
        · rintro (held | rfl | later)
          · exact .inl held
          · exact .inl member
          · exact .inr later
      · simp [member, or_assoc]

/-- Policies that are known are attached to a user who is there. -/
theorem attach_ends (calm : world.plane.IsCalm) {operation resource name : String} {user : User}
    (present : world.plane.users.get? name = some user) {policies : List String}
    (known : Known world.plane policies) {good : Unit → World → Prop}
    (attached : ∀ mutations, good () { world with
        plane := world.plane.withUser name
          { user with policies := Plane.attachTo user.policies policies } mutations }) :
    Ends (perform operation resource (.attachUserPolicies name policies)) world good bad := by
  simp only [calm.ends_perform, Plane.respond, Plane.attachUserPolicies, missingPolicy?_counted,
    missingPolicy?_of_known known, Plane.changeUserPolicies, Plane.counted_users, present]
  exact attached _

/-- Of the policies that were held at first, those that are not desired are taken away. -/
theorem detach_ends (calm : world.plane.IsCalm) {operation resource name : String} {user : User}
    (present : world.plane.users.get? name = some user) {first desired : List String}
    (held : ∀ policy, policy ∈ user.policies ↔ policy ∈ first ∨ policy ∈ desired)
    {good : Unit → World → Prop}
    (left : ∀ policies mutations, (∀ policy, policy ∈ policies ↔ policy ∈ desired) →
      good () { world with plane := world.plane.withUser name { user with policies } mutations }) :
    Ends (if first.filter (· ∉ desired) ≠ [] then
        perform operation resource (.detachUserPolicies name (first.filter (· ∉ desired)))
      else pure ()) world good bad := by
  split
  · simp only [calm.ends_perform, Plane.respond, Plane.detachUserPolicies,
      Plane.changeUserPolicies, Plane.counted_users, present]
    apply left _ (world.plane.mutations + 1)
    intro policy
    rw [List.mem_filter, held]
    by_cases wanted : policy ∈ desired
    · simp [wanted]
    · simp [wanted]
  · rename_i nothing
    have surplus : ∀ policy ∈ first, policy ∈ desired := by
      simpa [List.filter_eq_nil_iff] using nothing
    have whole := left user.policies world.plane.mutations fun policy => by
      rw [held]
      constructor
      · rintro (early | wanted)
        · exact surplus policy early
        · exact wanted
      · exact .inr
    rw [Plane.withUser, Table.insert_of_get? present] at whole
    exact whole

/-- The policies of a user are exactly the desired ones, in some order. -/
theorem applyPolicies_ends (calm : world.plane.IsCalm) (binding : PolicyBinding) {name : String}
    {user : User} (present : world.plane.users.get? name = some user) {desired : List String}
    (known : Known world.plane desired) {good : Unit → World → Prop}
    (applied : ∀ policies mutations, (∀ policy, policy ∈ policies ↔ policy ∈ desired) →
      good () { world with plane := world.plane.withUser name { user with policies } mutations }) :
    Ends (applyPolicies binding name desired) world good bad := by
  cases binding with
  | replace =>
      simp only [applyPolicies, calm.ends_perform, Plane.respond, Plane.setUserPolicies,
        missingPolicy?_counted, missingPolicy?_of_known known,
        Plane.changeUserPolicies, Plane.counted_users, present]
      exact applied desired _ fun _ => Iff.rfl
  | attach =>
      simp only [applyPolicies, ends_bind]
      rw [calm.ends_inspect _ _ rfl]
      simp only [Plane.respond, Plane.userInfo, present]
      split
      · rw [ends_bind]
        refine attach_ends calm present ?_ fun mutations => ?_
        · intro policy member
          exact known policy (List.mem_filter.1 (mem_firstOccurrences.1 member)).1
        · refine detach_ends ?_ Plane.get?_withUser ?_ ?_
          · exact calm
          · intro policy
            rw [mem_attachTo, mem_firstOccurrences, List.mem_filter]
            by_cases held : policy ∈ user.policies
            · simp [held]
            · simp [held]
          · intro policies count same
            rw [Plane.withUser_withUser]
            exact applied policies count same
      · rename_i nothing
        refine detach_ends calm present ?_ applied
        intro policy
        constructor
        · exact .inl
        · rintro (held | wanted)
          · exact held
          · refine Decidable.byContradiction fun lacking => nothing ?_
            refine List.ne_nil_of_mem (mem_firstOccurrences.2 (List.mem_filter.2 ⟨wanted, ?_⟩))
            simpa using lacking

/-- In a calm world a user is added with the secret, and keeps the policies it had. -/
theorem addUser_ends (calm : world.plane.IsCalm) {operation resource name secret : String}
    {good : Unit → World → Prop}
    (added : ∀ mutations, good () { world with
        plane := world.plane.withUser name
          { (world.plane.users.get? name).getD {} with secret } mutations }) :
    Ends (perform operation resource (.addUser name secret)) world good bad := by
  simp only [calm.ends_perform, Plane.respond]
  exact added (world.plane.mutations + 1)

/-- A user is added, or given another secret, if all the policies asked for exist. -/
theorem register_ends (calm : world.plane.IsCalm) (binding : PolicyBinding)
    (asked : record.spec = .user spec) {good : Creation → World → Prop}
    (registered : ∀ policies mutations, Known world.plane spec.policies →
      (spec.policies = [] →
        policies = ((world.plane.users.get? record.targetName).getD {}).policies) →
      (spec.policies ≠ [] → ∀ policy, policy ∈ policies ↔ policy ∈ spec.policies) →
      good (creationOf record.targetName world.secrets.draw.1)
        { world with
          plane := world.plane.withUser record.targetName
            { (world.plane.users.get? record.targetName).getD {} with
              secret := world.secrets.draw.1, policies } mutations
          secrets := world.secrets.draw.2 })
    (failed : ∀ missing, ¬ Known world.plane spec.policies →
      bad (.missingDependency .policy missing) world) :
    Ends (register binding record) world good bad := by
  simp only [register, specOf_eq asked, ends_bind, ends_lift]
  refine checkPoliciesExist_ends calm (fun known => ?_) failed
  simp only [ends_secret]
  refine addUser_ends ?_ fun count => ?_
  · exact calm
  · by_cases wanted : spec.policies ≠ []
    · rw [if_pos wanted, ends_bind]
      refine applyPolicies_ends ?_ binding Plane.get?_withUser ?_ fun policies mutations same => ?_
      · exact calm
      · exact known
      · rw [Plane.withUser_withUser]
        exact registered policies mutations known (fun empty => absurd empty wanted) fun _ => same
    · rw [if_neg wanted]
      exact registered _ count known (fun _ => rfl) fun more => absurd more wanted

/-- An update of a user leaves it the policies of its record, in some order. -/
theorem update_ends (calm : world.plane.IsCalm) (binding : PolicyBinding)
    (asked : record.spec = .user spec) {user : User}
    (present : world.plane.users.get? record.targetName = some user) {drifts : List Drift}
    (flagged : Drift.flags drifts .policies = true) {good : Unit → World → Prop}
    (applied : ∀ policies mutations, Known world.plane spec.policies →
      (∀ policy, policy ∈ policies ↔ policy ∈ spec.policies) →
      good () { world with
        plane := world.plane.withUser record.targetName { user with policies } mutations })
    (failed : ∀ missing, ¬ Known world.plane spec.policies →
      bad (.missingDependency .policy missing) world) :
    Ends (update binding record drifts) world good bad := by
  simp only [update, specOf_eq asked, ends_bind, ends_lift, flagged, if_true]
  refine checkPoliciesExist_ends calm (fun known => ?_) failed
  exact applyPolicies_ends calm binding present known fun policies mutations same =>
    applied policies mutations known same

end Work

end Steward.User
