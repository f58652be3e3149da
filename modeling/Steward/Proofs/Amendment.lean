/-
This file says what a pass rewrites that updates a resource.
It rewrites the parts in which the resource differs from its record, and these only, so that they
are as the record wants them. A service account whose parent differs is not touched at all.
-/

import Steward.Proofs.Advance
import Steward.Proofs.Foresight
import Steward.Proofs.Rounds

namespace Steward

open Pass

/-- The fields in which a resource is compared with its record, in their order. -/
def Kind.compared : Kind → List Field
  | .bucket | .policy => [.policy]
  | .user => [.policies]
  | .serviceAccount => [.parentUser, .description, .expiry, .policy]

namespace Plane

/-- On the remote side no more has changed than those parts of the resource of a record that some
fields name, and the count of calls. These parts are as the record wants them. -/
def Rewrites (before : Plane) (record : Record) (fields : List Field) (after : Plane) : Prop :=
  match record.spec with
  | .bucket spec =>
      ∃ bucket policy mutations, before.buckets.get? record.targetName = some bucket ∧
        after = before.withBucket record.targetName { bucket with policy } mutations ∧
        (.policy ∉ fields → policy = bucket.policy) ∧
        (.policy ∈ fields → policy = spec.policy.filter (· ≠ ""))
  | .user spec =>
      ∃ user policies mutations, before.users.get? record.targetName = some user ∧
        after = before.withUser record.targetName { user with policies } mutations ∧
        (.policies ∉ fields → policies = user.policies) ∧
        (.policies ∈ fields → ∀ policy, policy ∈ policies ↔ policy ∈ spec.policies)
  | .policy _ =>
      ∃ present document mutations, before.policies.get? record.targetName = some present ∧
        after = before.withPolicy record.targetName document mutations ∧
        (.policy ∉ fields → document = present) ∧
        (.policy ∈ fields → Policy.desiredDocument record = .ok document)
  | .serviceAccount spec =>
      ∃ accessKey account description expiry policy mutations,
        record.metadata.externalName = some accessKey ∧
        before.accounts.get? accessKey = some account ∧
        after = before.withAccount accessKey { account with description, expiry, policy }
          before.lastKey mutations ∧
        (.description ∉ fields → description = account.description) ∧
        (.description ∈ fields → spec.description.isSome ∧ description = spec.description) ∧
        (.expiry ∉ fields → expiry = account.expiry) ∧
        (.expiry ∈ fields → spec.expiry.isSome ∧ expiry = spec.expiry) ∧
        (.policy ∉ fields → policy = account.policy) ∧
        (.policy ∈ fields → spec.policy.isSome ∧ policy = spec.policy.filter (· ≠ ""))

end Plane

namespace Drift

/-- A field is flagged if one of the differences is in it. -/
theorem flags_iff {drifts : List Drift} {field : Field} :
    flags drifts field = true ↔ field ∈ drifts.map Drift.field := by
  rw [flags, List.any_eq_true, List.mem_map]
  simp only [decide_eq_true_eq]

theorem flags_eq_false_iff {drifts : List Drift} {field : Field} :
    flags drifts field = false ↔ field ∉ drifts.map Drift.field := by
  rw [← Bool.not_eq_true, flags_iff]

/-- The difference in a field, if there is one, is told under this field. -/
theorem sublist_toList {difference : Option Drift} {field : Field}
    (named : ∀ drift, difference = some drift → drift.field = field) :
    (difference.toList.map Drift.field).Sublist [field] := by
  cases difference with
  | none => exact List.nil_sublist _
  | some drift =>
      rw [← named drift rfl]
      exact List.Sublist.refl _

/-- The comparison of two policies finds one difference at most. -/
theorem sublist_of_ofPolicy {field : Field} {desired observed : Option String}
    {drifts : List Drift}
    (differs : (ofPolicy field desired observed).map Option.toList = .ok drifts) :
    (drifts.map Drift.field).Sublist [field] := by
  cases found : ofPolicy field desired observed with
  | error error => simp [found, Except.map] at differs
  | ok difference =>
      rw [found] at differs
      cases differs
      exact sublist_toList fun drift same => field_of_ofPolicy (same ▸ found)

end Drift

/-- A list without repetitions has only first occurrences. -/
theorem User.firstOccurrences_of_nodup {α : Type} [DecidableEq α] {items : List α}
    (nodup : items.Nodup) : firstOccurrences items = items := by
  rw [firstOccurrences_eq]
  induction items with
  | nil => rfl
  | cons item items inductionHypothesis =>
      obtain ⟨fresh, distinct⟩ := List.nodup_cons.1 nodup
      have whole : items.filter (fun other => !other == item) = items := by
        refine List.filter_eq_self.2 fun other member => ?_
        have apart : other ≠ item := fun same => fresh (same ▸ member)
        simpa using apart
      rw [List.eraseDups_cons, whole, inductionHypothesis distinct]

/-- A comparison tells the fields of an access policy in their order, each once at most. -/
theorem Policy.sublist_of_diff {record : Record} {observed : Observed} {drifts : List Drift}
    (differs : diff record observed = .ok drifts) :
    (drifts.map Drift.field).Sublist Kind.policy.compared := by
  unfold diff at differs
  cases desired : desiredDocument record with
  | error error => simp [desired, bind, Except.bind] at differs
  | ok document =>
      simp only [desired, bind, Except.bind] at differs
      have told : (Drift.ofPolicy .policy (some document) observed.policy).map Option.toList =
          .ok drifts := by
        rw [← differs]
        cases Drift.ofPolicy .policy (some document) observed.policy
        · rfl
        · rfl
      exact Drift.sublist_of_ofPolicy told

namespace ServiceAccount

variable {record : Record} {spec : ServiceAccountSpec} {observed : Observed} {drifts : List Drift}

/-- The settings of an account are compared one after the other. -/
theorem sublist_of_diff (asked : record.spec = .serviceAccount spec)
    (differs : diff record observed = .ok drifts) :
    (drifts.map Drift.field).Sublist Kind.serviceAccount.compared := by
  rw [diff_eq asked] at differs
  cases found : policyDrift spec observed with
  | error error => simp [found, Except.map] at differs
  | ok difference =>
      rw [found] at differs
      cases differs
      have parent : ((parentDrift spec observed).map Drift.field).Sublist [.parentUser] := by
        unfold parentDrift
        split
        · exact List.nil_sublist _
        · exact List.Sublist.refl _
      have description : ((Drift.ofValue .description Text.quoted spec.description
          observed.description).toList.map Drift.field).Sublist [.description] :=
        Drift.sublist_toList fun _ => Drift.field_of_ofValue
      have expiry : ((Drift.ofValue .expiry Timestamp.render spec.expiry
          observed.expiry).toList.map Drift.field).Sublist [.expiry] :=
        Drift.sublist_toList fun _ => Drift.field_of_ofValue
      have policy : (difference.toList.map Drift.field).Sublist [.policy] :=
        Drift.sublist_toList (field_of_policyDrift found)
      rw [List.map_append, List.map_append, List.map_append]
      exact ((parent.append description).append expiry).append policy

/-- Only a setting that is desired differs. -/
theorem desired_of_flags (asked : record.spec = .serviceAccount spec)
    (differs : diff record observed = .ok drifts) :
    (Drift.flags drifts .description = true → spec.description.isSome = true) ∧
      (Drift.flags drifts .expiry = true → spec.expiry.isSome = true) ∧
      (Drift.flags drifts .policy = true → spec.policy.isSome = true) := by
  obtain ⟨difference, found, flagged⟩ := flags_of_diff asked differs
  refine ⟨fun told => ?_, fun told => ?_, fun told => ?_⟩
  · cases desired : spec.description with
    | none => simp [flagged, desired, Drift.ofValue] at told
    | some _ => rfl
  · cases desired : spec.expiry with
    | none => simp [flagged, desired, Drift.ofValue] at told
    | some _ => rfl
  · cases desired : spec.policy with
    | none =>
        simp only [policyDrift, desired, Option.isSome_none, Bool.false_eq_true, if_false] at found
        cases found
        simp [flagged] at told
    | some _ => rfl

/-- An account is revised in the settings that differ, which are then as desired. -/
theorem revised_eq (asked : record.spec = .serviceAccount spec)
    (differs : diff record observed = .ok drifts) (account : ServiceAccount) :
    revised spec drifts account = { account with
      description :=
        if Drift.flags drifts .description then spec.description else account.description
      expiry := if Drift.flags drifts .expiry then spec.expiry else account.expiry
      policy :=
        if Drift.flags drifts .policy then spec.policy.filter (· ≠ "") else account.policy } := by
  have overwritten : ∀ {α : Type} (flag : Bool) (desired present : Option α),
      (flag = true → desired.isSome = true) →
      ((desired.filter fun _ => flag) <|> present) = if flag then desired else present := by
    intro α flag desired present given
    cases flag with
    | false => cases desired <;> rfl
    | true =>
        obtain ⟨value, rfl⟩ := Option.isSome_iff_exists.1 (given rfl)
        rfl
  obtain ⟨description, expiry, policy⟩ := desired_of_flags asked differs
  unfold revised
  dsimp only
  rw [overwritten _ _ _ description, overwritten _ _ _ expiry]
  congr 1
  cases told : Drift.flags drifts .policy with
  | false => cases spec.policy <;> rfl
  | true =>
      obtain ⟨document, desired⟩ := Option.isSome_iff_exists.1 (policy told)
      by_cases empty : document = ""
      · simp [desired, empty, Option.filter]
      · simp [desired, empty, Option.filter]

end ServiceAccount

section Updates

variable {world : World} {record : Record} {observed : Observed} {drifts : List Drift}

namespace Engine

variable {engine : Engine}

/-- Each field differs at most once, and the differences are told in the order of the fields. -/
theorem sublist_of_diff (engine : Engine)
    (differs : (engine.clientOf record.kind).diff record observed = .ok drifts) :
    (drifts.map Drift.field).Sublist record.kind.compared := by
  rw [Record.kind] at differs ⊢
  cases asked : record.spec with
  | bucket spec =>
      rw [asked] at differs
      exact Drift.sublist_of_ofPolicy ((Bucket.diff_eq asked observed).symm.trans differs)
  | user spec =>
      rw [asked] at differs
      cases (User.diff_eq asked observed).symm.trans differs
      refine Drift.sublist_toList fun drift found => ?_
      unfold Drift.ofSets at found
      dsimp only at found
      split at found
      · cases found
      · cases found
        rfl
  | policy spec =>
      rw [asked] at differs
      exact Policy.sublist_of_diff differs
  | serviceAccount spec =>
      rw [asked] at differs
      exact ServiceAccount.sublist_of_diff asked differs

theorem nodup_compared (kind : Kind) : kind.compared.Nodup := by
  cases kind
  all_goals decide

/-- Where a resource is compared in one field only, a difference is in this field. -/
theorem mem_of_sublist_singleton {field : Field} {fields : List Field}
    (sublist : fields.Sublist [field]) (differs : fields ≠ []) : field ∈ fields := by
  cases sublist with
  | cons _ none => exact absurd (List.sublist_nil.1 none) differs
  | cons_cons _ _ => exact .head _

/-- A resource that has been amended has been rewritten in the fields that differ. -/
theorem rewrites_of_amends {before after : Plane}
    (sight : before.sight record = .ok (some observed))
    (differs : (engine.clientOf record.kind).diff record observed = .ok drifts)
    (drifted : drifts ≠ []) (amended : before.Amends record drifts after) :
    before.Rewrites record (drifts.map Drift.field) after := by
  have sublist := engine.sublist_of_diff differs
  have told : drifts.map Drift.field ≠ [] := fun none => drifted (List.map_eq_nil_iff.1 none)
  unfold Plane.sight at sight
  unfold Plane.Amends at amended
  unfold Plane.Rewrites
  rw [Record.kind] at sublist sight differs
  cases asked : record.spec with
  | bucket spec =>
      rw [asked] at sublist amended
      obtain ⟨bucket, mutations, present, rfl⟩ := amended
      have named : .policy ∈ drifts.map Drift.field := mem_of_sublist_singleton sublist told
      exact ⟨bucket, _, mutations, present, rfl, absurd named, fun _ => rfl⟩
  | user spec =>
      rw [asked] at sublist amended
      obtain ⟨user, policies, mutations, present, same, rfl⟩ := amended
      have named : .policies ∈ drifts.map Drift.field := mem_of_sublist_singleton sublist told
      exact ⟨user, policies, mutations, present, rfl, absurd named, fun _ => same⟩
  | policy spec =>
      rw [asked] at sublist sight amended
      obtain ⟨document, mutations, ⟨desired, -⟩, rfl⟩ := amended
      obtain ⟨present, found, -⟩ := Option.map_eq_some_iff.1 (Except.ok.inj sight)
      have named : .policy ∈ drifts.map Drift.field := mem_of_sublist_singleton sublist told
      exact ⟨present, document, mutations, found, rfl, absurd named, fun _ => desired⟩
  | serviceAccount spec =>
      rw [asked] at differs amended
      obtain ⟨accessKey, account, mutations, named, present, -, rfl⟩ := amended
      obtain ⟨description, expiry, policy⟩ := ServiceAccount.desired_of_flags asked differs
      rw [ServiceAccount.revised_eq asked differs]
      simp only [← Drift.flags_iff]
      refine ⟨accessKey, account, _, _, _, mutations, named, present, rfl, fun other => if_neg other,
        fun told => ⟨description told, if_pos told⟩, fun other => if_neg other,
        fun told => ⟨expiry told, if_pos told⟩, fun other => if_neg other,
        fun told => ⟨policy told, if_pos told⟩⟩

/-- The differences that a pass has found are told by their fields, each once and in their order, and
the parts that these fields name have been rewritten. -/
structure Mends (engine : Engine) (before : World) (record : Record) (observed : Observed)
    (drifts : List Drift) (fields : List Field) (after : World) : Prop where
  seen : ((engine.clientOf record.kind).probe record).answer before = .ok (some observed)
  differs : (engine.clientOf record.kind).diff record observed = .ok drifts
  told : fields = drifts.map Drift.field
  once : fields.Nodup
  rewritten : before.plane.Rewrites record fields after.plane

/-- An update mends the differences that it tells. -/
theorem update_mends (calm : world.plane.IsCalm)
    (stored : world.store.get? record.id = some record)
    (sight : world.plane.sight record = .ok (some observed))
    (differs : (engine.clientOf record.kind).diff record observed = .ok drifts)
    (drifted : drifts ≠ []) :
    Ends (update (engine.clientOf record.kind) record observed drifts) world
      (fun outcome later => ∃ fields, outcome = .updated fields ∧
        engine.Mends world record observed drifts fields later)
      fun _ _ => True := by
  apply (update_pass_effect calm stored sight differs drifted).mono
  · rintro outcome later ⟨rfl, amended, -⟩
    have nodup : (drifts.map Drift.field).Nodup :=
      (engine.sublist_of_diff differs).nodup (nodup_compared record.kind)
    rw [driftedFields, User.firstOccurrences_of_nodup nodup]
    exact ⟨_, rfl, (engine.answer_probe calm record).trans sight, differs, rfl, nodup,
      rewrites_of_amends sight differs drifted amended⟩
  · exact fun _ _ _ => trivial

/-- A pass that tells of an update has mended what it tells. -/
theorem advance_mends (calm : world.plane.IsCalm)
    (stored : world.store.get? record.id = some record) :
    Ends (engine.advance record) world
      (fun outcome later => ∀ fields, outcome = .updated fields →
        ∃ observed drifts, engine.Mends world record observed drifts fields later)
      fun _ _ => True := by
  cases deleting : record.isDeleting with
  | true =>
      refine advance_ends_of_deleting deleting (fun _ => ?_) (fun _ => ?_) fun _ => trivial
      · simp only [ends_bind, ends_erase, stored, ends_pure]
        intro fields told
        cases told
      · apply delete_ends_deleted.mono
        · rintro _ later rfl fields told
          cases told
        · exact fun _ _ _ => trivial
  | false =>
      have created : ∀ (outcome : Outcome) (later : World), outcome = .created →
          ∀ fields, outcome = .updated fields →
            ∃ observed drifts, engine.Mends world record observed drifts fields later := by
        rintro _ later rfl fields told
        cases told
      refine advance_ends deleting (fun ready => ?_) fun _ => trivial
      refine drive_ends ready calm ?_ ?_ ?_ ?_ fun _ _ => trivial
      · intro _
        exact create_ends_created.mono created fun _ _ _ => trivial
      · intro _ _ _ _
        exact resume_ends_created.mono created fun _ _ _ => trivial
      · intro _ _ _ _
        refine ends_reportSuccess stored fun _ _ _ _ fields told => ?_
        cases told
      · intro observed drifts sight _ differs drifted
        apply (update_mends calm stored sight differs drifted).mono
        · rintro _ later ⟨fields, rfl, mends⟩ _ told
          cases told
          exact ⟨observed, drifts, mends⟩
        · exact fun _ _ _ => trivial

/-- A service account whose parent differs is not updated, and nothing is called for it. -/
theorem pass_refuses_parent (ready : engine.Ready record) (calm : world.plane.IsCalm)
    (stored : world.store.get? record.id = some record) (claimed : record.isClaimed = true)
    (sight : world.plane.sight record = .ok (some observed))
    (differs : (engine.clientOf record.kind).diff record observed = .ok drifts)
    (told : Field.parentUser ∈ drifts.map Drift.field) :
    Ends (engine.pass record.id) world (fun _ _ => False) fun error later =>
      later.plane = world.plane ∧ ∃ accessKey, record.metadata.externalName = some accessKey ∧
        error = .immutableField accessKey "parentUser" := by
  have account : record.kind = .serviceAccount := by
    have among : Field.parentUser ∈ record.kind.compared :=
      (engine.sublist_of_diff differs).subset told
    revert among
    cases record.kind
    all_goals decide
  have updates : Ends (update (engine.clientOf record.kind) record observed drifts) world
      (fun _ _ => False) fun error later => later = world ∧
        ∃ accessKey, record.metadata.externalName = some accessKey ∧
          error = .immutableField accessKey "parentUser" := by
    rw [update, ends_bind, account]
    rw [Plane.sight, account] at sight
    rw [Record.kind] at account
    cases asked : record.spec with
    | serviceAccount spec =>
        obtain ⟨accessKey, found, named, present, -⟩ :=
          ServiceAccount.present_of_seen (Except.ok.inj sight)
        apply ServiceAccount.update_ends calm asked named present
        · intro _ same
          exact absurd told (Drift.flags_eq_false_iff.1 same)
        · exact fun _ => ⟨rfl, accessKey, named, rfl⟩
    | _ =>
        rw [asked] at account
        cases account
  have drives : Ends (drive (engine.clientOf record.kind) record) world
      (fun _ _ => False) fun error later => later = world ∧
        ∃ accessKey, record.metadata.externalName = some accessKey ∧
          error = .immutableField accessKey "parentUser" := by
    apply drive_ends ready calm
    · intro absent
      cases sight.symm.trans absent
    · intro _ _ free
      cases claimed.symm.trans free
    · intro other seen _ none
      cases sight.symm.trans seen
      cases differs.symm.trans none
      cases told
    · intro other others seen _ found _
      cases sight.symm.trans seen
      cases differs.symm.trans found
      exact updates
    · intro error blocked
      simp [sight, Except.bind, Client.regard, claimed, differs, Except.map] at blocked
  rw [ends_pass stored, ends_advance_of_ready ready]
  apply drives.mono (fun _ _ never => never)
  rintro error _ ⟨rfl, accessKey, named, rfl⟩
  apply ends_reportError
  · exact fun _ _ _ _ => ⟨rfl, accessKey, named, rfl⟩
  · exact fun _ => ⟨rfl, accessKey, named, rfl⟩

/-- Without faults, a pass that updates a resource tells the fields in which the resource differs
from its record, each once and in their order, and rewrites the parts that they name, and these only.
If the parent of a service account differs, the pass refuses and makes no call that could change
anything. -/
theorem update_rewrites_differences (engine : Engine) (world : World) (record : Record)
    (calm : world.plane.IsCalm) (stored : world.store.get? record.id = some record) :
    let pass := engine.reconcile record.id false
    (∀ fields, pass.answer world = .ok (.updated fields) →
      ∃ observed drifts, engine.Mends world record observed drifts fields (pass.after world)) ∧
    ∀ observed drifts, engine.Ready record → record.isClaimed = true →
      ((engine.clientOf record.kind).probe record).answer world = .ok (some observed) →
      (engine.clientOf record.kind).diff record observed = .ok drifts →
      Field.parentUser ∈ drifts.map Drift.field →
      ∃ accessKey, record.metadata.externalName = some accessKey ∧
        pass.answer world = .error (.immutableField accessKey "parentUser") ∧
        (pass.after world).plane = world.plane := by
  intro pass
  constructor
  · intro fields answered
    have ends : Ends (engine.pass record.id) world
        (fun outcome later => ∀ fields, outcome = .updated fields →
          ∃ observed drifts, engine.Mends world record observed drifts fields later)
        fun _ _ => True :=
      ends_pass_of_advance stored (advance_mends calm stored)
    exact ends.of_ok answered fields rfl
  · intro observed drifts ready claimed seen differs told
    have sight := (engine.answer_probe calm record).symm.trans seen
    obtain ⟨error, failed, untouched, accessKey, named, rfl⟩ :=
      (pass_refuses_parent ready calm stored claimed sight differs told).exists_error
    exact ⟨accessKey, named, failed, untouched⟩

end Engine

end Updates

namespace Sample

/-- A record that owns a service account. -/
def clerk (parentUser description : String) : Record where
  id := .plain "clerk"
  spec := .serviceAccount
    { parentUser, name := none, description := some description, expiry := none,
      policy := some "{}" }
  metadata := (Metadata.setExternalName ∅ "SVCACCT00000001").claim

/-- The sample world with such a record, and with the account of a clerk at a desk. -/
def attended (record : Record) : World :=
  { world with
    store := world.store.put record
    plane := {
      users := Table.ofList [("alice", {})]
      accounts := Table.ofList
        [("SVCACCT00000001",
          { parentUser := "alice", name := some "clerk", description := some "desk",
            expiry := none, policy := some "{}" })] } }

end Sample

namespace Engine

/-- Another description is written into a service account, and another parent is refused. -/
theorem update_rewrites_differences_of_clerk :
    let described := Sample.clerk "alice" "counter"
    let moved := Sample.clerk "bob" "desk"
    let pass := Sample.engine.reconcile (.plain "clerk") false
    (pass.answer (Sample.attended described) = .ok (.updated [.description]) ∧
      ∃ observed drifts, Sample.engine.Mends (Sample.attended described) described observed drifts
        [.description] (pass.after (Sample.attended described))) ∧
    pass.answer (Sample.attended moved) =
        .error (.immutableField "SVCACCT00000001" "parentUser") ∧
      (pass.after (Sample.attended moved)).plane = (Sample.attended moved).plane := by
  intro described moved pass
  have calm : ∀ record, (Sample.attended record).plane.IsCalm := fun _ => rfl
  have stored : ∀ parentUser description,
      (Sample.attended (Sample.clerk parentUser description)).store.get? (.plain "clerk") =
        some (Sample.clerk parentUser description) :=
    fun _ _ => (Store.get?_put _ _ _).trans (if_pos rfl)
  have updated : pass.answer (Sample.attended described) = .ok (.updated [.description]) := by
    decide +kernel
  have mends := (update_rewrites_differences Sample.engine _ described (calm _) (stored _ _)).1 _
    updated
  have ready : Sample.engine.Ready moved :=
    ⟨by decide +kernel, rfl, Sample.connect_engine rfl⟩
  let observed := ((Sample.attended moved).plane.sight moved).toOption.join.getD {}
  let drifts := (((Sample.engine.clientOf moved.kind).diff moved observed).toOption).getD []
  obtain ⟨accessKey, named, refused, untouched⟩ :=
    (update_rewrites_differences Sample.engine _ moved (calm _) (stored _ _)).2 observed drifts ready
      (by decide +kernel) (by decide +kernel) (by decide +kernel) (by decide +kernel)
  cases named
  exact ⟨⟨updated, mends⟩, refused, untouched⟩

end Engine

end Steward
