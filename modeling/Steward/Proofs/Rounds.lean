/-
This file shows that the records of a manifest come into line in three rounds of passes, and that
the remote side is the same then, whatever the order of the passes in each round is.
A pass that comes too early fails and leaves nothing behind; the next round makes up for it.
-/

import Steward.Proofs.Inventory
import Steward.Proofs.Settling

namespace Steward

open Pass

/-- How many rounds it takes at most until everything is there that a resource needs. -/
def Kind.rank : Kind → Nat
  | .bucket | .policy => 0
  | .user => 1
  | .serviceAccount => 2

theorem Kind.rank_lt (kind : Kind) : kind.rank < 3 := by
  cases kind
  all_goals decide

namespace Record

/-- The policy documents of a record can be read: that of a bucket unless it is blank, that of an
access policy unless it is empty, and that of a service account if there is one. -/
def HasReadablePolicies (record : Record) : Prop :=
  match record.spec with
  | .bucket spec => Drift.IsSound spec.policy
  | .user _ => True
  | .policy spec => ∀ document, spec.rawPolicy = some document → document ≠ "" →
      ∃ value, Json.read document = .ok value
  | .serviceAccount spec => ∀ document, spec.policy = some document →
      ∃ value, Json.read document = .ok value

variable {record : Record}

theorem claimedBy_marked {metadata : Metadata} {status : Status} {creation : Creation} :
    (record.marked metadata status).claimedBy creation =
      record.marked (Engine.claimedMetadata (record.marked metadata status) creation) status :=
  rfl

/-- A record whose documents can be read asks for sound ones. -/
theorem HasReadablePolicies.sound (readable : record.HasReadablePolicies) :
    record.HasSoundPolicies := by
  unfold HasReadablePolicies at readable
  unfold HasSoundPolicies
  cases asked : record.spec with
  | bucket spec =>
      rw [asked] at readable
      exact readable
  | user spec => trivial
  | policy spec =>
      rw [asked] at readable
      intro document kept
      exact readable document (Option.filter_eq_some_iff.1 kept).1 (Drift.ne_empty_of_nonBlank kept)
  | serviceAccount spec =>
      rw [asked] at readable
      intro document kept
      exact readable document (Option.filter_eq_some_iff.1 kept).1

end Record

namespace Engine

/-- Records as a manifest declares them: none carries markers, each can be worked on, and they
need nothing but each other. There are no more of them than a machine can count. -/
structure Admits (engine : Engine) (records : List Record) : Prop where
  few : records.length ≤ Word.max
  identified : ∀ first ∈ records, ∀ second ∈ records, first.id = second.id → first = second
  distinct : Record.AreDistinct records
  unmarked : ∀ record ∈ records, record.metadata = ∅
  ready : ∀ record ∈ records, engine.Ready record
  readable : ∀ record ∈ records, record.HasReadablePolicies
  policies : ∀ record ∈ records, ∀ spec, record.spec = .user spec → ∀ policy ∈ spec.policies,
    ∃ other ∈ records, other.kind = .policy ∧ other.targetName = policy
  parents : ∀ record ∈ records, ∀ spec, record.spec = .serviceAccount spec →
    ∃ other ∈ records, other.kind = .user ∧ other.targetName = spec.parentUser

end Engine

/-- A record owns its resource, and its status says that all is well. -/
def World.HasMade (world : World) (record : Record) : Prop :=
  ∃ metadata status, world.store.get? record.id = some (record.marked metadata status) ∧
    metadata.isClaimed = true ∧ status.isReady = true ∧ status.isSynced = true ∧
    world.plane.HasAccountOf (record.marked metadata status)

/-- How far passes over some records have come. The remote side holds what the records made so
far ask for and nothing else, these records own it, and the others wait as they were declared. -/
structure World.IsUnderway (world : World) (records made : List Record) : Prop where
  ours : made ⊆ records
  once : made.Nodup
  holds : world.plane.HoldsOnly made
  waiting : ∀ record ∈ records, record ∉ made →
    ∃ status, world.store.get? record.id = some (record.marked ∅ status)
  stands : ∀ record ∈ made, world.HasMade record

namespace Engine

variable {engine : Engine} {records made : List Record} {record : Record} {world : World}

namespace Admits

/-- A record can be made once all that rank below it have been made. -/
theorem permits {plane : Plane} (admits : engine.Admits records) (holds : plane.HoldsOnly made)
    (member : record ∈ records)
    (below : ∀ other ∈ records, other.kind.rank < record.kind.rank → other ∈ made) :
    plane.Permits record := by
  have readable := admits.readable record member
  unfold Record.HasReadablePolicies at readable
  unfold Plane.Permits
  cases asked : record.spec with
  | bucket spec => exact holds.accessible _
  | user spec =>
      have kind : record.kind = .user := congrArg Spec.kind asked
      intro policy listed
      obtain ⟨other, inside, access, rfl⟩ := admits.policies record member spec asked policy listed
      have lower : other.kind.rank < record.kind.rank := by
        rw [kind, access]
        decide
      exact holds.policies.held other (below other inside lower) access
  | policy spec =>
      rw [asked] at readable
      exact Policy.exists_asks asked (admits.ready record member).valid readable
  | serviceAccount spec =>
      have kind : record.kind = .serviceAccount := congrArg Spec.kind asked
      rw [asked] at readable
      obtain ⟨other, inside, user, named⟩ := admits.parents record member spec asked
      have lower : other.kind.rank < record.kind.rank := by
        rw [kind, user]
        decide
      refine ⟨readable, ?_⟩
      rw [← named]
      exact holds.users.held other (below other inside lower) user

theorem ready_marked (admits : engine.Admits records) (member : record ∈ records)
    (metadata : Metadata) (status : Status) : engine.Ready (record.marked metadata status) :=
  have ready := admits.ready record member
  ⟨ready.valid, ready.kept, ready.connected⟩

end Admits

/-- What is written into one record concerns no other, so passes have come as far as the record
itself has. -/
theorem isUnderway_of_writes {later : World} {left : Record} {reached : List Record}
    (admits : engine.Admits records) (underway : world.IsUnderway records made)
    (member : record ∈ records) (wrote : world.store.Writes left later.store)
    (named : left.id = record.id) (ours : reached ⊆ records)
    (once : reached.Nodup) (holds : later.plane.HoldsOnly reached)
    (others : ∀ other, other ≠ record → (other ∈ reached ↔ other ∈ made))
    (kept : ∀ accessKey account, world.plane.accounts.get? accessKey = some account →
      later.plane.accounts.get? accessKey = some account)
    (waits : record ∉ reached → ∃ status, left = record.marked ∅ status)
    (stands : record ∈ reached → later.HasMade record) : later.IsUnderway records reached := by
  have alone : ∀ other ∈ records, other ≠ record →
      later.store.get? other.id = world.store.get? other.id := by
    intro other inside apart
    rw [wrote.get?, if_neg]
    intro same
    exact apart (admits.identified other inside record member (same.trans named))
  refine ⟨ours, once, holds, ?_, ?_⟩
  · intro other inside missing
    by_cases own : other = record
    · subst own
      obtain ⟨status, rfl⟩ := waits missing
      exact ⟨status, wrote.get?_self⟩
    · rw [alone other inside own]
      exact underway.waiting other inside (mt (others other own).2 missing)
  · intro other inside
    by_cases own : other = record
    · subst own
      exact stands inside
    · obtain ⟨metadata, status, stored, claimed, ready, synced, keyed⟩ :=
        underway.stands other ((others other own).1 inside)
      refine ⟨metadata, status, ?_, claimed, ready, synced, ?_⟩
      · rw [alone other (ours inside) own]
        exact stored
      · intro spec asked
        obtain ⟨accessKey, external, present⟩ := keyed spec asked
        exact ⟨accessKey, external, kept accessKey _ present⟩

/-- A pass over a record that has been made finds nothing to do. -/
theorem pass_of_made (admits : engine.Admits records) (underway : world.IsUnderway records made)
    (member : record ∈ made) :
    Ends (engine.pass record.id) world
      (fun outcome later => outcome = .upToDate ∧ later.plane = world.plane ∧
        later.IsUnderway records made)
      (fun _ _ => False) := by
  obtain ⟨metadata, status, stored, claimed, -, -, keyed⟩ := underway.stands record member
  have inside := underway.ours member
  have sound := (admits.readable record inside).sound
  have owns : engine.Owns world (record.marked metadata status) :=
    ⟨underway.holds.calm, stored, admits.ready_marked inside metadata status, claimed, sound⟩
  have distinct := admits.distinct.mono underway.ours
  have effect := pass_of_inLine owns (underway.holds.inLine distinct member sound keyed)
  refine effect.mono ?_ fun _ _ never => never
  intro outcome later ended
  obtain ⟨rfl, same, observed, ready, synced, last, -, wrote⟩ := ended
  rw [← same] at keyed
  refine ⟨rfl, same, isUnderway_of_writes admits underway inside wrote rfl underway.ours
    underway.once ?_ (fun _ _ => Iff.rfl) ?_ (absurd member) fun _ => ?_⟩
  · rw [same]
    exact underway.holds
  · intro accessKey account present
    rw [same]
    exact present
  · exact ⟨metadata, _, wrote.get?_self, claimed, Record.isReady_succeeded _ _ _ _ _,
      Record.isSynced_succeeded _ _ _ _ _, keyed⟩

/-- A record whose resource was provided and claimed is made. -/
theorem hasMade_of_claim (engine : Engine) {later : World} {creation : Creation} {status : Status}
    {ready synced last : Timestamp} (distinct : Record.AreDistinct (record :: made))
    (sound : record.HasSoundPolicies) (holds : later.plane.HoldsOnly (record :: made))
    (provided : world.plane.Provides (record.marked ∅ status) creation later.plane)
    (wrote : world.store.Writes
      (((record.marked ∅ status).claimedBy creation).reported
        (later.plane.sight ((record.marked ∅ status).claimedBy creation)).toOption.join
        ready synced last) later.store) : later.HasMade record := by
  have keyed := provided.hasAccountOf
  rw [Record.claimedBy_marked] at keyed wrote
  have line : engine.InLine later.plane (record.marked _ status) :=
    holds.inLine distinct (.head _) sound keyed
  obtain ⟨observed, sight, -⟩ := line
  rw [sight] at wrote
  exact ⟨_, _, wrote.get?_self, isClaimed_claimedBy creation, Record.isReady_succeeded _ _ _ _ _,
    Record.isSynced_succeeded _ _ _ _ _, keyed⟩

/-- A pass over a record that has not been made makes it, or comes too early and leaves things as
they are. -/
theorem pass_of_waiting (admits : engine.Admits records) (underway : world.IsUnderway records made)
    (member : record ∈ records) (missing : record ∉ made) :
    Ends (engine.pass record.id) world
      (fun _ later => later.IsUnderway records (record :: made))
      (fun _ later => ¬ world.plane.Permits record ∧ later.IsUnderway records made) := by
  obtain ⟨status, stored⟩ := underway.waiting record member missing
  have apart := admits.distinct.isApartFrom underway.ours member missing
  have calm := underway.holds.calm
  have ready := admits.ready_marked member ∅ status
  have sight : world.plane.sight (record.marked ∅ status) = .ok none :=
    underway.holds.sight_of_apart apart rfl
  have ours : record :: made ⊆ records := List.cons_subset.2 ⟨member, underway.ours⟩
  have distinct := admits.distinct.mono ours
  have once : (record :: made).Nodup := List.nodup_cons.2 ⟨missing, underway.once⟩
  have few : made.length < Word.max :=
    Nat.lt_of_lt_of_le (once.length_le_of_subset ours) admits.few
  change Ends (engine.pass (record.marked ∅ status).id) world _ _
  rw [ends_pass stored, ends_advance_of_ready ready]
  refine drive_ends ready calm (fun _ => ?_) ?_ ?_ ?_ ?_
  · apply (create_pass_effect calm stored sight).mono
    · intro outcome later ended
      obtain ⟨-, -, creation, first, synced, last, provided, wrote⟩ := ended
      have holds : later.plane.HoldsOnly (record :: made) :=
        underway.holds.provides apart few provided
      have made := hasMade_of_claim engine distinct (admits.readable record member).sound holds
        provided wrote
      apply isUnderway_of_writes admits underway member wrote rfl ours once holds
      · intro other different
        simp [different]
      · intro accessKey account present
        exact underway.holds.keeps_account few provided present
      · intro absent
        exact absurd (.head _) absent
      · exact fun _ => made
    · intro error left ended
      obtain ⟨lacking, ⟨mutations, same⟩, early⟩ := ended
      refine (reportError_effect rfl early error).mono ?_ fun _ _ never => never.elim
      intro _ later ended
      obtain ⟨also, after, wrote⟩ := ended
      rw [same] at also
      refine ⟨lacking, isUnderway_of_writes admits underway member wrote rfl underway.ours
        underway.once ?_ (fun _ _ => Iff.rfl) ?_ (fun _ => ⟨after, rfl⟩) (absurd · missing)⟩
      · rw [also]
        exact underway.holds.counting mutations
      · rw [also]
        exact fun _ _ present => present
  · intro observed seen
    cases seen.symm.trans sight
  · intro observed seen
    cases seen.symm.trans sight
  · intro observed drifts seen
    cases seen.symm.trans sight
  · intro error blocked
    rw [sight] at blocked
    cases blocked

/-- A pass makes its record if that is permitted, and undoes nothing. -/
theorem pass_isUnderway (admits : engine.Admits records) (underway : world.IsUnderway records made)
    (member : record ∈ records) :
    ∃ reached, ((engine.pass record.id).after world).IsUnderway records reached ∧
      made ⊆ reached ∧ (world.plane.Permits record → record ∈ reached) := by
  by_cases done : record ∈ made
  · obtain ⟨outcome, -, -, -, still⟩ := (pass_of_made admits underway done).exists_ok
    exact ⟨made, still, fun _ inside => inside, fun _ => done⟩
  · have ends := pass_of_waiting admits underway member done
    cases answered : (engine.pass record.id).answer world with
    | ok outcome =>
        have more := ends.of_ok answered
        exact ⟨record :: made, more, List.subset_cons_self _ _, fun _ => .head _⟩
    | error error =>
        obtain ⟨lacking, still⟩ := ends.of_error answered
        exact ⟨made, still, fun _ inside => inside, fun permitted => absurd permitted lacking⟩

/-- The world after a pass for each of some records, one after the other. -/
def afterRound (engine : Engine) (ids : List RecordId) (world : World) : World :=
  ids.foldl (fun world id => (engine.pass id).after world) world

/-- The world after some rounds, one after the other. -/
def afterRounds (engine : Engine) (rounds : List (List RecordId)) (world : World) : World :=
  rounds.foldl (fun world ids => engine.afterRound ids world) world

/-- A round makes all records it visits for which everything below has been made. -/
theorem round_isUnderway (admits : engine.Admits records) (ids : List RecordId)
    (underway : world.IsUnderway records made)
    (known : ∀ id ∈ ids, ∃ record ∈ records, record.id = id) :
    ∃ reached, (engine.afterRound ids world).IsUnderway records reached ∧ made ⊆ reached ∧
      ∀ record ∈ records, record.id ∈ ids →
        (∀ other ∈ records, other.kind.rank < record.kind.rank → other ∈ made) →
        record ∈ reached := by
  induction ids generalizing world made with
  | nil => exact ⟨made, underway, fun _ inside => inside, by simp⟩
  | cons id ids inductionHypothesis =>
      obtain ⟨own, member, rfl⟩ := known id (.head _)
      obtain ⟨middle, early, more, makes⟩ := pass_isUnderway admits underway member
      obtain ⟨reached, late, most, rest⟩ :=
        inductionHypothesis early fun id inside => known id (.tail _ inside)
      refine ⟨reached, late, fun _ inside => most (more inside), ?_⟩
      intro record inside visited below
      rcases List.mem_cons.1 visited with same | later
      · cases admits.identified record inside own member same
        exact most (makes (admits.permits underway.holds inside below))
      · exact rest record inside later fun other known lower => more (below other known lower)

/-- Every round makes the records of one more rank. -/
theorem rounds_isUnderway (admits : engine.Admits records) (rank : Nat)
    (rounds : List (List RecordId)) (underway : world.IsUnderway records made)
    (visits : ∀ ids ∈ rounds, ids.Perm (records.map Record.id))
    (below : ∀ record ∈ records, record.kind.rank < rank → record ∈ made) :
    ∃ reached, (engine.afterRounds rounds world).IsUnderway records reached ∧
      ∀ record ∈ records, record.kind.rank < rank + rounds.length → record ∈ reached := by
  induction rounds generalizing rank world made with
  | nil => exact ⟨made, underway, below⟩
  | cons ids rounds inductionHypothesis =>
      have visit := visits ids (.head _)
      obtain ⟨middle, early, more, makes⟩ := round_isUnderway admits ids underway fun id listed =>
        List.mem_map.1 (visit.mem_iff.1 listed)
      -- What a record of this rank needs was there when the round began.
      have next : ∀ record ∈ records, record.kind.rank < rank + 1 → record ∈ middle := by
        intro record inside low
        apply makes record inside (visit.mem_iff.2 (List.mem_map_of_mem inside))
        intro other known lower
        exact below other known (by omega)
      obtain ⟨reached, late, rest⟩ :=
        inductionHypothesis (rank + 1) early (fun ids listed => visits ids (.tail _ listed)) next
      refine ⟨reached, late, ?_⟩
      intro record inside low
      apply rest record inside
      rw [List.length_cons] at low
      omega

/-- At first nothing has been made. -/
theorem isUnderway_of_empty (admits : engine.Admits world.store.list) (empty : world.plane = {}) :
    world.IsUnderway world.store.list [] where
  ours := List.nil_subset _
  once := List.nodup_nil
  holds := by
    rw [empty]
    exact .empty
  waiting := by
    intro record inside _
    refine ⟨record.status, ?_⟩
    have stored := world.store.mem_list_iff.1 inside
    have unmarked := admits.unmarked record inside
    rw [Record.marked, ← unmarked]
    exact stored
  stands := by
    intro record inside
    cases inside

/-- After three rounds all records have been made. -/
theorem isUnderway_of_rounds (admits : engine.Admits world.store.list) (empty : world.plane = {})
    {rounds : List (List RecordId)} (three : rounds.length = 3)
    (visits : ∀ ids ∈ rounds, ids.Perm (world.store.list.map Record.id)) :
    ∃ made, (engine.afterRounds rounds world).IsUnderway world.store.list made ∧
      ∀ record, record ∈ made ↔ record ∈ world.store.list := by
  obtain ⟨made, underway, all⟩ :=
    rounds_isUnderway admits 0 rounds (isUnderway_of_empty admits empty) visits (by simp)
  refine ⟨made, underway, fun record => ⟨fun inside => underway.ours inside, fun inside => ?_⟩⟩
  have low := record.kind.rank_lt
  exact all record inside (by omega)

end Engine

namespace Sample

def reader : Record where
  id := .plain "reader"
  spec := .user { userName := none, policies := ["reading"] }

def reading : Record where
  id := .plain "reading"
  spec := .policy { policyName := none, allowBucket := some "first", rawPolicy := none }

def robot : Record where
  id := .plain "robot"
  spec := .serviceAccount
    { parentUser := "reader", name := none, description := none, expiry := none, policy := none }

/-- A bucket, a user, the access policy that the user holds, and a service account of the user, in
the order of their identities. -/
def household : List Record :=
  [bucket "first" none, reader, reading, robot]

/-- The sample world after these records have been declared. -/
def inhabited : World :=
  household.foldl (fun world record => engine.carryOut world (.apply record)) world

/-- Three rounds that visit what is needed last. -/
def rounds : List (List RecordId) :=
  [[.plain "robot", .plain "reader", .plain "reading", .plain "first"],
    [.plain "robot", .plain "reader", .plain "first", .plain "reading"],
    [.plain "first", .plain "robot", .plain "reader", .plain "reading"]]

/-- The default profile can be connected, however policies are bound. -/
theorem connect_binding (binding : PolicyBinding) {kind : Kind} {record : Record}
    (unnamed : record.credentialsRef = none) :
    { engine with binding }.connect kind record = .ok ({ engine with binding }.clientOf kind) := by
  have same : engine.resolver.connect engine.environment record =
      engine.resolver.connect engine.environment (bucket "first" none) := by
    simp only [Resolver.connect, Resolver.resolve, Resolver.profileName, unnamed, bucket]
  have kept : { engine with binding }.checkKind kind = .ok () := by
    cases kind
    all_goals rfl
  have reached : (engine.resolver.connect engine.environment (bucket "first" none)).isOk = true := by
    decide +kernel
  cases connected : engine.resolver.connect engine.environment (bucket "first" none) with
  | ok connection =>
      rw [Engine.connect, kept, same, connected]
      rfl
  | error error =>
      rw [connected] at reached
      cases reached

theorem connect_engine {kind : Kind} {record : Record} (unnamed : record.credentialsRef = none) :
    engine.connect kind record = .ok (engine.clientOf kind) :=
  connect_binding .replace unnamed

/-- What holds of the four records holds of the whole household. -/
theorem forall_household {holds : Record → Prop} (first : holds (bucket "first" none))
    (second : holds reader) (third : holds reading) (last : holds robot) :
    ∀ record ∈ household, holds record := by
  simp only [household, List.mem_cons, List.not_mem_nil, or_false]
  rintro record (rfl | rfl | rfl | rfl)
  · exact first
  · exact second
  · exact third
  · exact last

/-- The household can be served as a whole. -/
theorem admits_household : engine.Admits household where
  few := by decide
  identified := by decide +kernel
  distinct := by
    unfold Record.AreDistinct
    decide +kernel
  unmarked := by decide +kernel
  ready := by
    apply forall_household
    all_goals exact ⟨rfl, rfl, connect_engine rfl⟩
  readable := by
    refine forall_household Drift.isSound_none trivial ?_ ?_
    · rintro document ⟨⟩
    · rintro document ⟨⟩
  policies := by
    apply forall_household
    · rintro spec ⟨⟩
    · rintro spec ⟨⟩ policy listed
      cases List.mem_singleton.1 listed
      exact ⟨reading, .tail _ (.tail _ (.head _)), rfl, rfl⟩
    · rintro spec ⟨⟩
    · rintro spec ⟨⟩
  parents := by
    apply forall_household
    · rintro spec ⟨⟩
    · rintro spec ⟨⟩
    · rintro spec ⟨⟩
    · rintro spec ⟨⟩
      exact ⟨reader, .tail _ (.head _), rfl, rfl⟩

end Sample

namespace Engine

/-- Three rounds of passes over the records of a manifest bring all of them in line, and what is
on the remote side then does not depend on the order of the passes in each round. -/
theorem rounds_converge (engine : Engine) (world : World) (rounds : List (List RecordId))
    (admits : engine.Admits world.store.list) (empty : world.plane = {})
    (three : rounds.length = 3)
    (visits : ∀ ids ∈ rounds, ids.Perm (world.store.list.map Record.id)) :
    (∀ record ∈ world.store.list, ∃ current,
        (engine.afterRounds rounds world).store.get? record.id = some current ∧
          current.isClaimed = true ∧ current.status.isReady = true ∧
          current.status.isSynced = true) ∧
      (∀ record ∈ world.store.list,
        (engine.pass record.id).answer (engine.afterRounds rounds world) = .ok .upToDate ∧
          ((engine.pass record.id).after (engine.afterRounds rounds world)).plane =
            (engine.afterRounds rounds world).plane) ∧
      ∀ others : List (List RecordId), others.length = 3 →
        (∀ ids ∈ others, ids.Perm (world.store.list.map Record.id)) →
          (engine.afterRounds rounds world).plane.Resembles
            (engine.afterRounds others world).plane := by
  obtain ⟨made, underway, all⟩ := isUnderway_of_rounds admits empty three visits
  refine ⟨?_, ?_, ?_⟩
  · intro record inside
    obtain ⟨metadata, status, stored, claimed, ready, synced, -⟩ :=
      underway.stands record ((all record).2 inside)
    exact ⟨_, stored, claimed, ready, synced⟩
  · intro record inside
    obtain ⟨outcome, answered, rfl, same, -⟩ :=
      (pass_of_made admits underway ((all record).2 inside)).exists_ok
    exact ⟨answered, same⟩
  · intro others length orders
    obtain ⟨more, also, whole⟩ := isUnderway_of_rounds admits empty length orders
    have same : made.Perm more := by
      apply (List.perm_ext_iff_of_nodup underway.once also.once).2
      intro record
      rw [all, whole]
    exact underway.holds.resembles also.holds same (admits.distinct.mono also.ours)

/-- A bucket, a policy, a user who holds it and a service account of the user come into line, even
if each round visits the account before its user and the user before the policy. -/
theorem rounds_converge_of_household :
    Sample.engine.Admits Sample.inhabited.store.list ∧ Sample.inhabited.plane = {} ∧
      Sample.rounds.length = 3 ∧
      (∀ ids ∈ Sample.rounds, ids.Perm (Sample.inhabited.store.list.map Record.id)) ∧
      ∀ record ∈ Sample.inhabited.store.list, ∃ current,
        (Sample.engine.afterRounds Sample.rounds Sample.inhabited).store.get? record.id =
            some current ∧
          current.isClaimed = true ∧ current.status.isReady = true ∧
          current.status.isSynced = true := by
  have listed : Sample.inhabited.store.list = Sample.household := by decide +kernel
  have admits : Sample.engine.Admits Sample.inhabited.store.list := by
    rw [listed]
    exact Sample.admits_household
  have empty : Sample.inhabited.plane = {} := by decide +kernel
  have visits : ∀ ids ∈ Sample.rounds,
      ids.Perm (Sample.inhabited.store.list.map Record.id) := by decide +kernel
  obtain ⟨settled, -⟩ :=
    rounds_converge Sample.engine Sample.inhabited Sample.rounds admits empty rfl visits
  exact ⟨admits, empty, rfl, visits, settled⟩

end Engine

end Steward
