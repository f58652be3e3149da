/-
This file describes a remote side that holds what some records ask for, and nothing else.
Such a remote side is the same in whatever order its resources were made, but for the keys of
service accounts and the secrets of users.
-/

import Steward.Proofs.Lines
import Steward.Proofs.Presence

namespace Steward

namespace Table

variable {κ α : Type} [Ord κ]

/-- A new key adds one entry, wherever its place is. -/
theorem perm_insertEntries {key : κ} {value : α} {entries : List (κ × α)}
    (absent : lookupEntries key entries = none) :
    (insertEntries key value entries).Perm ((key, value) :: entries) := by
  induction entries with
  | nil => exact .refl _
  | cons entry rest inductionHypothesis =>
      unfold insertEntries
      unfold lookupEntries at absent
      cases order : compare key entry.1 with
      | lt => exact .refl _
      | eq =>
          rw [order] at absent
          cases absent
      | gt =>
          rw [order] at absent
          exact ((inductionHypothesis absent).cons entry).trans (.swap _ _ _)

/-- A value under a new key comes to the others. -/
theorem perm_values_insert [Std.TransOrd κ] {table : Table κ α} {key : κ} {value : α}
    (absent : table.get? key = none) :
    (table.insert key value).values.Perm (value :: table.values) :=
  (perm_insertEntries absent).map Prod.snd

end Table

namespace Record

/-- The record asks for a bucket of this form. -/
def AsksBucket (record : Record) (bucket : Bucket) : Prop :=
  ∃ spec, record.spec = .bucket spec ∧ bucket = Bucket.provided spec none

/-- The record asks for a user with the policies that this one has. -/
def AsksUser (record : Record) (user : User) : Prop :=
  ∃ spec, record.spec = .user spec ∧ ∀ policy, policy ∈ user.policies ↔ policy ∈ spec.policies

/-- The service account that a record asks for. -/
def account? (record : Record) : Option ServiceAccount :=
  match record.spec with
  | .serviceAccount spec => some (ServiceAccount.accountOf record spec)
  | .bucket _ | .user _ | .policy _ => none

/-- The record with other markers and another status. -/
def marked (record : Record) (metadata : Metadata) (status : Status) : Record :=
  { record with metadata, status }

/-- None of some records is of the kind and the name of this one. -/
def IsApartFrom (record : Record) (made : List Record) : Prop :=
  ∀ other ∈ made, other.kind = record.kind → other.targetName ≠ record.targetName

/-- No two of some records are of one kind and name. -/
def AreDistinct (records : List Record) : Prop :=
  ∀ first ∈ records, ∀ second ∈ records, first.kind = second.kind →
    first.targetName = second.targetName → first = second

theorem AreDistinct.mono {records made : List Record} (distinct : AreDistinct records)
    (ours : made ⊆ records) : AreDistinct made :=
  fun first early second late => distinct first (ours early) second (ours late)

/-- A record of a manifest is told from those of it that were worked on before. -/
theorem AreDistinct.isApartFrom {records made : List Record} {record : Record}
    (distinct : AreDistinct records) (ours : made ⊆ records) (member : record ∈ records)
    (missing : record ∉ made) : record.IsApartFrom made := by
  intro other inside kind name
  cases distinct other (ours inside) record member kind name
  exact missing inside

/-- Only a record of a service account asks for one. -/
theorem account?_of_kind {record : Record} (other : record.kind ≠ .serviceAccount) :
    record.account? = none := by
  unfold account?
  split
  · rename_i asked
    rw [Record.kind, asked] at other
    exact absurd rfl other
  · rfl
  · rfl
  · rfl

end Record

/-- A table holds what the records of one kind ask for under their names, and nothing else. -/
structure Table.Supplies {α : Type} (table : Table String α) (kind : Kind)
    (asks : Record → α → Prop) (made : List Record) : Prop where
  asked : ∀ name value, table.get? name = some value →
    ∃ record ∈ made, record.kind = kind ∧ record.targetName = name ∧ asks record value
  held : ∀ record ∈ made, record.kind = kind → table.contains record.targetName = true

namespace Table.Supplies

variable {α : Type} {table : Table String α} {kind : Kind} {asks : Record → α → Prop}
  {made : List Record} {record : Record}

/-- An empty table supplies nobody, as nobody has asked. -/
theorem empty : (∅ : Table String α).Supplies kind asks [] where
  asked := by
    intro name value found
    cases (get?_empty name).symm.trans found
  held := by
    intro record member
    cases member

/-- A record of another kind makes no difference. -/
theorem skip (supplies : table.Supplies kind asks made) (other : record.kind ≠ kind) :
    table.Supplies kind asks (record :: made) where
  asked := by
    intro name value found
    obtain ⟨earlier, member, right⟩ := supplies.asked name value found
    exact ⟨earlier, .tail _ member, right⟩
  held := by
    intro earlier member same
    cases member with
    | head => exact absurd same other
    | tail _ member => exact supplies.held earlier member same

/-- What a record of the kind asks for is put under its name. -/
theorem add (supplies : table.Supplies kind asks made) (same : record.kind = kind) {value : α}
    (right : asks record value) :
    (table.insert record.targetName value).Supplies kind asks (record :: made) where
  asked := by
    intro name other found
    rw [get?_insert] at found
    split at found
    · rename_i own
      cases found
      exact ⟨record, .head _, same, own.symm, right⟩
    · obtain ⟨earlier, member, fine⟩ := supplies.asked name other found
      exact ⟨earlier, .tail _ member, fine⟩
  held := by
    intro earlier member kind
    cases member with
    | head => exact contains_insert_self
    | tail _ member => exact contains_insert (supplies.held earlier member kind)

/-- What nobody has asked for yet is not there. -/
theorem absent (supplies : table.Supplies kind asks made) (apart : record.IsApartFrom made)
    (same : record.kind = kind) : table.get? record.targetName = none := by
  cases found : table.get? record.targetName with
  | none => rfl
  | some value =>
      obtain ⟨other, member, kind, name, -⟩ := supplies.asked _ _ found
      exact absurd name (apart other member (kind.trans same.symm))

/-- The value under the name of a record is one that it asks for. -/
theorem present (supplies : table.Supplies kind asks made) (distinct : Record.AreDistinct made)
    (member : record ∈ made) (same : record.kind = kind) :
    ∃ value, table.get? record.targetName = some value ∧ asks record value := by
  obtain ⟨value, found⟩ := Option.isSome_iff_exists.1 (supplies.held record member same)
  obtain ⟨other, inside, kind, name, right⟩ := supplies.asked _ _ found
  cases distinct other inside record member (kind.trans same.symm) name
  exact ⟨value, found, right⟩

/-- Two tables that supply the same records agree under every name. -/
theorem agree {other : Table String α} {others : List Record} {alike : α → α → Prop}
    (supplies : table.Supplies kind asks made) (also : other.Supplies kind asks others)
    (same : ∀ record, record ∈ made ↔ record ∈ others) (distinct : Record.AreDistinct others)
    (settled : ∀ record first second, asks record first → asks record second → alike first second)
    (name : String) : Option.Rel alike (table.get? name) (other.get? name) := by
  cases found : table.get? name with
  | some value =>
      obtain ⟨record, member, kind, rfl, right⟩ := supplies.asked name value found
      obtain ⟨second, held, fine⟩ := also.present distinct ((same record).1 member) kind
      rw [held]
      exact .some (settled record value second right fine)
  | none =>
      cases held : other.get? name with
      | none => exact .none
      | some value =>
          obtain ⟨record, member, kind, rfl, -⟩ := also.asked name value held
          have present := supplies.held record ((same record).2 member) kind
          rw [Table.contains, found] at present
          cases present

/-- If all records ask for one value each, the tables are the same. -/
theorem eq {other : Table String α} {others : List Record}
    (supplies : table.Supplies kind asks made) (also : other.Supplies kind asks others)
    (same : ∀ record, record ∈ made ↔ record ∈ others) (distinct : Record.AreDistinct others)
    (settled : ∀ record first second, asks record first → asks record second → first = second) :
    table = other := by
  apply ext_get?
  intro name
  have agreed := supplies.agree also same distinct settled name
  generalize table.get? name = one, other.get? name = another at agreed ⊢
  cases agreed with
  | none => rfl
  | some equal => rw [equal]

end Table.Supplies

namespace Plane

/-- The accounts are those that the records ask for, each under a number of its own. -/
structure AccountsOf (accounts : Table String ServiceAccount) (lastKey : Nat)
    (made : List Record) : Prop where
  asked : accounts.values.Perm (made.filterMap Record.account?)
  numbered : ∀ accessKey, accounts.contains accessKey = true →
    ∃ number, number ≤ lastKey ∧ accessKey = accessKeyOf number
  counted : lastKey ≤ made.length

/-- The remote side holds what the records ask for, and nothing else, and no fault is armed. -/
structure HoldsOnly (plane : Plane) (made : List Record) : Prop where
  clear : plane.faults = {}
  buckets : plane.buckets.Supplies .bucket Record.AsksBucket made
  users : plane.users.Supplies .user Record.AsksUser made
  policies : plane.policies.Supplies .policy Policy.Asks made
  accounts : AccountsOf plane.accounts plane.lastKey made

variable {plane : Plane} {made : List Record} {record : Record}

/-- Different numbers give different keys. -/
theorem accessKeyOf_injective {first second : Nat} (same : accessKeyOf first = accessKeyOf second) :
    first = second := by
  have digits := congrArg String.toList same
  simp only [accessKeyOf, String.toList_append, String.toList_ofList] at digits
  exact Text.padded_injective (List.append_cancel_left digits)

/-- If every account is under the key of a number that was given, the next key is a new one. -/
theorem get?_next_of_numbered {accounts : Table String ServiceAccount} {lastKey : Nat}
    (numbered : ∀ accessKey, accounts.contains accessKey = true →
      ∃ number, number ≤ lastKey ∧ accessKey = accessKeyOf number) :
    accounts.get? (accessKeyOf (lastKey + 1)) = none := by
  cases found : accounts.get? (accessKeyOf (lastKey + 1)) with
  | none => rfl
  | some account =>
      have held : accounts.contains (accessKeyOf (lastKey + 1)) = true := by
        rw [Table.contains, found]
        rfl
      obtain ⟨number, small, same⟩ := numbered _ held
      have next := accessKeyOf_injective same
      omega

namespace AccountsOf

variable {accounts : Table String ServiceAccount} {lastKey : Nat}

theorem empty : AccountsOf ∅ 0 [] where
  asked := .refl _
  numbered := by
    intro accessKey held
    cases held
  counted := Nat.le_refl 0

theorem skip (whole : AccountsOf accounts lastKey made) (other : record.kind ≠ .serviceAccount) :
    AccountsOf accounts lastKey (record :: made) where
  asked := by
    rw [List.filterMap_cons_none (Record.account?_of_kind other)]
    exact whole.asked
  numbered := whole.numbered
  counted := Nat.le_succ_of_le whole.counted

/-- The next key is a new one. -/
theorem absent (whole : AccountsOf accounts lastKey made) :
    accounts.get? (accessKeyOf (lastKey + 1)) = none :=
  get?_next_of_numbered whole.numbered

/-- The account that the record asks for is put under the next key. -/
theorem add (whole : AccountsOf accounts lastKey made) {spec : ServiceAccountSpec}
    (asked : record.spec = .serviceAccount spec) :
    AccountsOf
      (accounts.insert (accessKeyOf (lastKey + 1)) (ServiceAccount.accountOf record spec))
      (lastKey + 1) (record :: made) where
  asked := by
    have own : record.account? = some (ServiceAccount.accountOf record spec) := by
      rw [Record.account?, asked]
    rw [List.filterMap_cons_some own]
    exact (Table.perm_values_insert whole.absent).trans (whole.asked.cons _)
  numbered := by
    intro accessKey held
    rw [Table.contains, Table.get?_insert] at held
    split at held
    · rename_i same
      exact ⟨lastKey + 1, Nat.le_refl _, same⟩
    · obtain ⟨number, small, same⟩ := whole.numbered accessKey held
      exact ⟨number, Nat.le_succ_of_le small, same⟩
  counted := Nat.succ_le_succ whole.counted

end AccountsOf

namespace HoldsOnly

theorem empty : ({} : Plane).HoldsOnly [] :=
  ⟨rfl, .empty, .empty, .empty, .empty⟩

theorem counting (holds : plane.HoldsOnly made) (mutations : Nat) :
    HoldsOnly { plane with mutations } made :=
  ⟨holds.clear, holds.buckets, holds.users, holds.policies, holds.accounts⟩

theorem calm (holds : plane.HoldsOnly made) : plane.IsCalm := by
  rw [IsCalm, holds.clear]

theorem accessible (holds : plane.HoldsOnly made) (bucket : String) :
    plane.accessError? bucket = none := by
  rw [accessError?, holds.clear]
  rfl

/-- What has not been made is not seen. -/
theorem sight_of_apart (holds : plane.HoldsOnly made) (apart : record.IsApartFrom made)
    (unnamed : record.metadata.externalName = none) : plane.sight record = .ok none := by
  unfold Plane.sight
  cases kind : record.kind with
  | bucket =>
      simp only [Bucket.seenOf, holds.accessible, holds.buckets.absent apart kind]
      rfl
  | user =>
      simp only [User.seenOf, holds.users.absent apart kind]
      rfl
  | policy =>
      simp only [Policy.seenOf, holds.policies.absent apart kind]
      rfl
  | serviceAccount =>
      simp only [unnamed]
      rfl

/-- As long as numbers are left, the next account is given a new one. -/
theorem nextNumber_eq (holds : plane.HoldsOnly made) (few : made.length < Word.max) :
    ServiceAccount.nextNumber plane = plane.lastKey + 1 := by
  have counted := holds.accounts.counted
  unfold ServiceAccount.nextNumber
  omega

/-- To provide what a record asks for adds it to what is held. -/
theorem provides {after : Plane} {creation : Creation} (holds : plane.HoldsOnly made)
    (apart : record.IsApartFrom made) (few : made.length < Word.max)
    (provided : plane.Provides record creation after) : after.HoldsOnly (record :: made) := by
  unfold Provides at provided
  cases asked : record.spec with
  | bucket spec =>
      have kind : record.kind = .bucket := congrArg Spec.kind asked
      rw [asked] at provided
      obtain ⟨-, -, mutations, rfl⟩ := provided
      rw [holds.buckets.absent apart kind]
      exact ⟨holds.clear, holds.buckets.add kind ⟨spec, asked, rfl⟩,
        holds.users.skip (by simp [kind]),
        holds.policies.skip (by simp [kind]), holds.accounts.skip (by simp [kind])⟩
  | user spec =>
      have kind : record.kind = .user := congrArg Spec.kind asked
      rw [asked] at provided
      obtain ⟨secret, policies, mutations, -, kept, same, rfl⟩ := provided
      rw [holds.users.absent apart kind] at kept ⊢
      have right : ∀ policy, policy ∈ policies ↔ policy ∈ spec.policies := by
        by_cases empty : spec.policies = []
        · intro policy
          rw [kept empty, empty]
          rfl
        · exact same empty
      exact ⟨holds.clear, holds.buckets.skip (by simp [kind]),
        holds.users.add kind ⟨spec, asked, right⟩,
        holds.policies.skip (by simp [kind]), holds.accounts.skip (by simp [kind])⟩
  | policy spec =>
      have kind : record.kind = .policy := congrArg Spec.kind asked
      rw [asked] at provided
      obtain ⟨-, document, mutations, asks, rfl⟩ := provided
      exact ⟨holds.clear, holds.buckets.skip (by simp [kind]), holds.users.skip (by simp [kind]),
        holds.policies.add kind asks, holds.accounts.skip (by simp [kind])⟩
  | serviceAccount spec =>
      have kind : record.kind = .serviceAccount := congrArg Spec.kind asked
      rw [asked] at provided
      obtain ⟨-, mutations, rfl⟩ := provided
      have added := holds.accounts.add asked
      rw [← holds.nextNumber_eq few] at added
      exact ⟨holds.clear, holds.buckets.skip (by simp [kind]), holds.users.skip (by simp [kind]),
        holds.policies.skip (by simp [kind]), added⟩

/-- To provide what a record asks for leaves the accounts that are there. -/
theorem keeps_account {after : Plane} {creation : Creation} (holds : plane.HoldsOnly made)
    (few : made.length < Word.max) (provided : plane.Provides record creation after)
    {accessKey : String} {account : ServiceAccount}
    (present : plane.accounts.get? accessKey = some account) :
    after.accounts.get? accessKey = some account := by
  unfold Provides at provided
  split at provided
  · obtain ⟨-, -, mutations, rfl⟩ := provided
    exact present
  · obtain ⟨secret, policies, mutations, -, -, -, rfl⟩ := provided
    exact present
  · obtain ⟨-, document, mutations, -, rfl⟩ := provided
    exact present
  · obtain ⟨-, mutations, rfl⟩ := provided
    change (plane.accounts.insert (accessKeyOf (ServiceAccount.nextNumber plane)) _).get?
      accessKey = some account
    rw [Table.get?_insert, if_neg, present]
    rintro rfl
    rw [holds.nextNumber_eq few, holds.accounts.absent] at present
    cases present

end HoldsOnly

/-- If a record asks for a service account, that is there under the key in its marker. -/
def HasAccountOf (plane : Plane) (record : Record) : Prop :=
  ∀ spec, record.spec = .serviceAccount spec →
    ∃ accessKey, record.metadata.externalName = some accessKey ∧
      plane.accounts.get? accessKey = some (ServiceAccount.accountOf record spec)

/-- A service account that has been provided is found under the key that the record holds. -/
theorem Provides.hasAccountOf {after : Plane} {creation : Creation}
    (provided : plane.Provides record creation after) :
    after.HasAccountOf (record.claimedBy creation) := by
  intro spec asked
  change record.spec = .serviceAccount spec at asked
  rw [Provides, asked] at provided
  obtain ⟨created, mutations, rfl⟩ := provided
  refine ⟨(ServiceAccount.nextCredentials plane).accessKey, ?_, get?_withAccount⟩
  exact Engine.externalName_claimedBy (congrArg Creation.externalName created)
    (ServiceAccount.accessKeyOf_ne_empty _)

/-- What is held for a record is in line with it, whatever its markers and its status are. -/
theorem HoldsOnly.inLine {engine : Engine} {metadata : Metadata} {status : Status}
    (holds : plane.HoldsOnly made) (distinct : Record.AreDistinct made) (member : record ∈ made)
    (sound : record.HasSoundPolicies) (keyed : plane.HasAccountOf (record.marked metadata status)) :
    engine.InLine plane (record.marked metadata status) := by
  unfold Record.HasSoundPolicies at sound
  cases asked : record.spec with
  | bucket spec =>
      have kind : record.kind = .bucket := congrArg Spec.kind asked
      rw [asked] at sound
      obtain ⟨bucket, present, other, same, rfl⟩ := holds.buckets.present distinct member kind
      cases asked.symm.trans same
      exact Engine.inLine_of_bucket asked (holds.accessible _) present sound
        (Drift.nonBlank_nonBlank spec.policy)
  | user spec =>
      have kind : record.kind = .user := congrArg Spec.kind asked
      obtain ⟨user, present, other, same, right⟩ := holds.users.present distinct member kind
      cases asked.symm.trans same
      exact Engine.inLine_of_user asked present right
  | policy spec =>
      have kind : record.kind = .policy := congrArg Spec.kind asked
      obtain ⟨document, present, asks⟩ := holds.policies.present distinct member kind
      exact Engine.inLine_of_policy asked asks present
  | serviceAccount spec =>
      rw [asked] at sound
      obtain ⟨accessKey, named, present⟩ := keyed spec asked
      exact Engine.inLine_of_account asked named present
        (ServiceAccount.diff_accountOf asked sound)

/-- Two remote sides hold the same resources, but for the keys of service accounts and the
secrets of users. -/
structure Resembles (first second : Plane) : Prop where
  buckets : first.buckets = second.buckets
  policies : first.policies = second.policies
  users : ∀ name, Option.Rel
    (fun one other : User => ∀ policy, policy ∈ one.policies ↔ policy ∈ other.policies)
    (first.users.get? name) (second.users.get? name)
  accounts : first.accounts.values.Perm second.accounts.values

/-- What is held for some records does not depend on the order in which it was made. -/
theorem HoldsOnly.resembles {other : Plane} {others : List Record} (holds : plane.HoldsOnly made)
    (also : other.HoldsOnly others) (same : made.Perm others)
    (distinct : Record.AreDistinct others) : plane.Resembles other where
  buckets := by
    refine holds.buckets.eq also.buckets (fun _ => same.mem_iff) distinct ?_
    rintro record first second ⟨spec, asked, rfl⟩ ⟨again, also, rfl⟩
    cases asked.symm.trans also
    rfl
  policies := by
    refine holds.policies.eq also.policies (fun _ => same.mem_iff) distinct ?_
    rintro record first second ⟨asked, -⟩ ⟨also, -⟩
    exact Except.ok.inj (asked.symm.trans also)
  users := by
    refine holds.users.agree also.users (fun _ => same.mem_iff) distinct ?_
    rintro record first second ⟨spec, asked, right⟩ ⟨again, also, fine⟩ policy
    cases asked.symm.trans also
    rw [right, fine]
  accounts := by
    have asked := same.filterMap Record.account?
    exact (holds.accounts.asked.trans asked).trans also.accounts.asked.symm

end Plane

end Steward
