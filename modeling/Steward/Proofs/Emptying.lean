/-
This file shows what comes of emptying a bucket, in whatever order the two workers move.
The objects that have been in a removal request are at every time the first of those that can be
read. So the workers end when all of these are removed, or at one that cannot be.
-/

import Mathlib.Algebra.GroupWithZero.Nat
import Steward.Proofs.Calm
import Steward.Proofs.Pipeline

namespace Steward

open Pass

namespace Plane

/-- Whether a request to remove an object removes it. -/
def isRemovable (removal : Table String RemoteError) (isProtected : Bool) (key : String) : Bool :=
  !removal.contains key && !isProtected

section Removal

variable {removal : Table String RemoteError} {isProtected : Bool} {key : String}

/-- An object that can be removed is removed. -/
theorem removeObject_of_isRemovable (removable : isRemovable removal isProtected key = true)
    (objects : Table String Nat) :
    removeObject removal isProtected objects key = (none, objects.erase key) := by
  simp only [isRemovable, Table.contains, Bool.and_eq_true, Bool.not_eq_true',
    Option.isSome_eq_false_iff, Option.isNone_iff_eq_none] at removable
  simp only [removeObject, removable.1, removable.2, Bool.false_eq_true, if_false]

/-- An object that cannot be removed stays, and the failure names it. -/
theorem removeObject_of_not (stays : isRemovable removal isProtected key = false)
    (objects : Table String Nat) :
    ∃ error, removeObject removal isProtected objects key = (some ⟨key, error⟩, objects) := by
  unfold removeObject
  cases faulty : removal.get? key with
  | some error => exact ⟨error, rfl⟩
  | none =>
      simp only [isRemovable, Table.contains, faulty, Option.isSome_none, Bool.not_false,
        Bool.true_and, Bool.not_eq_false'] at stays
      simp only [stays, if_true]
      exact ⟨_, rfl⟩

/-- A request removes the objects in it that can be removed, and no others. -/
theorem get?_removeObjectsFrom (keys : List String) (objects : Table String Nat)
    (other : String) :
    (removeObjectsFrom removal isProtected keys objects).2.get? other =
      if other ∈ keys ∧ isRemovable removal isProtected other = true then none
      else objects.get? other := by
  induction keys generalizing objects with
  | nil => rfl
  | cons key keys inductionHypothesis =>
      simp only [removeObjectsFrom]
      rw [inductionHypothesis]
      cases removable : isRemovable removal isProtected key with
      | true =>
          rw [removeObject_of_isRemovable removable, Table.get?_erase]
          by_cases same : other = key
          · simp [same, removable]
          · simp [same]
      | false =>
          obtain ⟨error, stays⟩ := removeObject_of_not removable objects
          rw [stays]
          by_cases same : other = key
          · simp [same, removable]
          · simp [same]

/-- A request fails exactly for the objects in it that cannot be removed. -/
theorem map_key_removeObjectsFrom (keys : List String) (objects : Table String Nat) :
    (removeObjectsFrom removal isProtected keys objects).1.map RemovalFailure.key =
      keys.filter fun key => !isRemovable removal isProtected key := by
  induction keys generalizing objects with
  | nil => rfl
  | cons key keys inductionHypothesis =>
      simp only [removeObjectsFrom, List.map_append]
      rw [inductionHypothesis]
      cases removable : isRemovable removal isProtected key with
      | true => simp [removeObject_of_isRemovable removable, removable]
      | false =>
          obtain ⟨error, stays⟩ := removeObject_of_not removable objects
          simp [stays, removable]

end Removal

/-- Whether a request to remove an object of a bucket removes it. -/
def letsGo (plane : Plane) (found : Bucket) (bypass : Bool) (key : String) : Bool :=
  isRemovable plane.faults.removal (found.objectLock && !bypass) key

/-- The remote side after requests of the given sizes to remove objects of a bucket. -/
def Thinned (before : Plane) (name : String) (found : Bucket) (bypass : Bool)
    (tried : List String) (sizes : List Nat) (after : Plane) : Prop :=
  ∃ objects mutations,
    (∀ key, objects.get? key =
      if key ∈ tried ∧ before.letsGo found bypass key = true then none
      else found.objects.get? key) ∧
    after = { before with
      buckets := before.buckets.insert name { found with objects }
      mutations
      removalBatches := before.removalBatches ++ sizes }

/-- Whether a drain of a bucket removes its objects with the bypass of retention. -/
def canBypass (plane : Plane) (found : Bucket) : Bool :=
  found.objectLock && plane.faults.lockQuery.isNone

/-- The objects of a bucket that a listing shows. -/
def shownKeys (plane : Plane) (found : Bucket) : List String :=
  found.objects.keys.filter fun key => !plane.faults.listing.contains key

/-- A listing shows the objects that can be shown, in the order of their keys. -/
theorem filterMap_readable_listObjects {plane : Plane} {name : String} {found : Bucket}
    (present : plane.buckets.get? name = some found) :
    (plane.listObjects name).filterMap Pipeline.readable = plane.shownKeys found := by
  simp only [listObjects, present, shownKeys, Table.keys]
  induction found.objects.entries with
  | nil => rfl
  | cons entry entries inductionHypothesis =>
      simp only [List.map_cons, List.filterMap_cons, List.filter_cons, inductionHypothesis]
      cases plane.faults.listing.contains entry.1 with
      | true => rfl
      | false => rfl

section Thinned

variable {before after : Plane} {name : String} {found : Bucket} {bypass : Bool}
  {tried : List String} {sizes : List Nat}

/-- A bucket that nothing was taken from is whole. -/
theorem thinned_self (present : before.buckets.get? name = some found) :
    before.Thinned name found bypass [] [] before := by
  refine ⟨found.objects, before.mutations, fun key => ?_, ?_⟩
  · simp
  · simp [Table.insert_of_get? present]

theorem Thinned.isCalm (thinned : before.Thinned name found bypass tried sizes after)
    (calm : before.IsCalm) : after.IsCalm := by
  obtain ⟨objects, mutations, -, rfl⟩ := thinned
  exact calm

/-- One more request removes what it can, and fails for the rest of its objects. -/
theorem Thinned.removes (thinned : before.Thinned name found bypass tried sizes after)
    (batch : List String) :
    ∃ failures later,
      (after.counted (.removeObjects name batch bypass)).respond
          (.removeObjects name batch bypass) = (.ok failures, later) ∧
        failures.map RemovalFailure.key =
          batch.filter (fun key => !before.letsGo found bypass key) ∧
        before.Thinned name found bypass (tried ++ batch) (sizes ++ [batch.length]) later := by
  obtain ⟨objects, mutations, remaining, rfl⟩ := thinned
  have fails := @map_key_removeObjectsFrom before.faults.removal (found.objectLock && !bypass)
    batch objects
  have keeps := @get?_removeObjectsFrom before.faults.removal (found.objectLock && !bypass)
    batch objects
  rcases removed : removeObjectsFrom before.faults.removal (found.objectLock && !bypass) batch
    objects with ⟨failures, left⟩
  rw [removed] at fails keeps
  refine ⟨failures, _, ?_, fails, left, mutations + 1, fun key => ?_, rfl⟩
  · simp [respond, removeObjects, putBucket, counted, removed, Table.insert_insert,
      RemoteCall.isMutating]
  · rw [keeps, remaining]
    by_cases again : key ∈ batch
    · by_cases goes : before.letsGo found bypass key = true
      · rw [if_pos ⟨again, goes⟩, if_pos ⟨List.mem_append_right tried again, goes⟩]
      · rw [if_neg fun both => goes both.2, if_neg fun both => goes both.2,
          if_neg fun both => goes both.2]
    · rw [if_neg fun both => again both.1]
      simp only [List.mem_append, again, or_false]

end Thinned

end Plane

namespace Drain

/-- How far the removal of some objects has come, of which those in `tried` have been in a
request. Those that are left are with the remover or on their way to it. -/
inductive Stage (lets : String → Bool) (limit : Nat) (keys tried : List String)
    (pipeline : Pipeline) : Prop
  | waiting (waits : pipeline.remover = .waiting) (told : pipeline.HasTold)
      (order : tried ++ pipeline.onTheWay = keys) (gone : ∀ key ∈ tried, lets key = true)
  | removing {batch : List String} (removes : pipeline.remover = .removing batch)
      (told : pipeline.HasTold) (order : tried ++ (batch ++ pipeline.onTheWay) = keys)
      (small : batch.length ≤ limit) (gone : ∀ key ∈ tried, lets key = true)
  | finished (ended : pipeline.remover = .finished) (all : tried = keys)
      (gone : ∀ key ∈ tried, lets key = true)
  | failed {key reason : String} (ended : pipeline.remover = .failed (.partialDeletion key reason))
      (some : tried ⊆ keys) (wasTried : key ∈ tried) (stays : lets key = false)

namespace Stage

variable {settings : DeletionSettings} {count : Nat} {lets : String → Bool} {limit : Nat}
  {keys tried : List String} {pipeline next : Pipeline}

theorem start (entries : List (Except RemoteError ObjectInfo)) :
    Stage lets limit (entries.filterMap Pipeline.readable) [] { unlisted := entries } :=
  .waiting rfl nofun rfl nofun

/-- The lister does not change how far the removal has come. -/
theorem lists (stage : Stage lets limit keys tried pipeline)
    (listed : pipeline.list? settings = some next) : Stage lets limit keys tried next := by
  obtain ⟨listing, lists⟩ := Pipeline.lists_of_list? listed
  have same := lists.remover_eq
  cases stage with
  | waiting waits _ order gone =>
      have works : pipeline.remover.hasStopped = false := by rw [waits]; rfl
      rw [← lists.onTheWay_eq works] at order
      exact .waiting (same.trans waits) (lists.hasTold listing works) order gone
  | removing removes _ order small gone =>
      have works : pipeline.remover.hasStopped = false := by rw [removes]; rfl
      rw [← lists.onTheWay_eq works] at order
      exact .removing (same.trans removes) (lists.hasTold listing works) order small gone
  | finished ended all gone => exact .finished (same.trans ended) all gone
  | failed ended some wasTried stays => exact .failed (same.trans ended) some wasTried stays

/-- A remover that waits takes the next objects, or ends when all of them have been taken. -/
theorem receives (stage : Stage lets settings.limit keys tried pipeline)
    (received : pipeline.receive? settings count = some next) :
    Stage lets settings.limit keys tried next := by
  obtain ⟨waits, step⟩ := Pipeline.receive?_cases received
  cases stage with
  | removing removes _ _ _ _ => cases removes.symm.trans waits
  | finished ended _ _ => cases ended.symm.trans waits
  | failed ended _ _ _ => cases ended.symm.trans waits
  | waiting _ told order gone =>
      obtain ⟨empty, ended, rfl⟩ | ⟨size, -, bounded, -, rfl⟩ := step
      · obtain ⟨free, done⟩ := told ended
        simp only [Pipeline.onTheWay, empty, free, done, Option.toList_none, List.filterMap_nil,
          List.append_nil] at order
        exact .finished rfl order gone
      · have parts : pipeline.queue.take size ++ pipeline.queue.drop size = pipeline.queue :=
          List.take_append_drop size pipeline.queue
        have small : (pipeline.queue.take size).length ≤ settings.limit :=
          Nat.le_trans (List.length_take_le size _) bounded
        refine .removing rfl told ?_ small gone
        rw [← order, Pipeline.onTheWay, Pipeline.onTheWay, ← List.append_assoc (List.take _ _),
          parts]

/-- The answer to a request sends the remover on, or stops it at an object that stays. -/
theorem answered (stage : Stage lets limit keys tried pipeline) {name : String}
    {batch : List String} (removes : pipeline.remover = .removing batch)
    {failures : List RemovalFailure}
    (named : failures.map RemovalFailure.key = batch.filter fun key => !lets key) :
    batch.length ≤ limit ∧
      Stage lets limit keys (tried ++ batch) (pipeline.afterRemoval name batch (.ok failures)) := by
  cases stage with
  | waiting waits _ _ _ => cases waits.symm.trans removes
  | finished ended _ _ => cases ended.symm.trans removes
  | failed ended _ _ _ => cases ended.symm.trans removes
  | removing same told order small gone =>
      cases same.symm.trans removes
      refine ⟨small, ?_⟩
      rw [← List.append_assoc] at order
      cases failures with
      | nil =>
          refine .waiting rfl told order fun key member => ?_
          rcases List.mem_append.1 member with earlier | now
          · exact gone key earlier
          · have none := List.filter_eq_nil_iff.1 named.symm key now
            simpa using none
      | cons failure failures =>
          have first : failure.key ∈ batch.filter fun key => !lets key := by
            rw [← named]
            exact List.mem_cons_self
          obtain ⟨now, stays⟩ := List.mem_filter.1 first
          refine .failed rfl ?_ (List.mem_append_right tried now) ?_
          · rw [← order]
            exact List.subset_append_left _ _
          · simpa using stays

end Stage

section Drive

variable {settings : DeletionSettings} {name : String} {bypass : Bool} {pipeline : Pipeline}

/-- The requests so far are small enough, have tried some of the objects, and have left the rest of
the remote side as it was. -/
structure InStep (settings : DeletionSettings) (before : Plane) (name : String) (found : Bucket)
    (bypass : Bool) (keys tried : List String) (sizes : List Nat) (pipeline : Pipeline)
    (after : Plane) : Prop where
  thinned : before.Thinned name found bypass tried sizes after
  small : ∀ size ∈ sizes, size ≤ settings.limit
  counted : sizes.sum = tried.length
  stage : Stage (before.letsGo found bypass) settings.limit keys tried pipeline

variable {before : Plane} {found : Bucket} {keys : List String}

/-- A move keeps in step. -/
theorem move_ends (calm : before.IsCalm) {move : Pass Pipeline}
    (moves : Moves settings name bypass pipeline move) {tried : List String} {sizes : List Nat}
    {world : World}
    (inStep : InStep settings before name found bypass keys tried sizes pipeline world.plane) :
    Ends move world
      (fun next later => ∃ plane tried sizes, later = { world with plane } ∧
        InStep settings before name found bypass keys tried sizes next plane)
      (fun _ _ => False) := by
  obtain ⟨thinned, small, counted, stage⟩ := inStep
  cases moves with
  | list listed => exact ⟨_, _, _, rfl, thinned, small, counted, stage.lists listed⟩
  | receive received => exact ⟨_, _, _, rfl, thinned, small, counted, stage.receives received⟩
  | @remove batch removes =>
      obtain ⟨failures, plane, responded, named, again⟩ := thinned.removes batch
      have ⟨fits, next⟩ := @Stage.answered _ _ _ _ _ stage name _ removes _ named
      have whole : (sizes ++ [batch.length]).sum = (tried ++ batch).length := by
        rw [List.sum_append, List.length_append, counted, List.sum_singleton]
      have limited : ∀ size ∈ sizes ++ [batch.length], size ≤ settings.limit := by
        intro size member
        rcases List.mem_append.1 member with earlier | now
        · exact small size earlier
        · rw [List.mem_singleton.1 now]
          exact fits
      simp only [request, ends_bind, (thinned.isCalm calm).ends_call, responded, ends_pure]
      exact ⟨plane, _, _, rfl, again, limited, whole, next⟩

/-- The workers move until the remover has stopped, and keep in step. -/
theorem drive_ends (calm : before.IsCalm) (scheduler : Scheduler) (moves taken : Nat)
    (enough : pipeline.ahead ≤ moves) {tried : List String} {sizes : List Nat} {world : World}
    (inStep : InStep settings before name found bypass keys tried sizes pipeline world.plane) :
    Ends (drive settings scheduler name bypass moves taken pipeline) world
      (fun last later => last.remover.hasStopped = true ∧
        ∃ plane tried sizes, later = { world with plane } ∧
          InStep settings before name found bypass keys tried sizes last plane)
      (fun _ _ => False) := by
  have keeps : Ends (drive settings scheduler name bypass moves taken pipeline) world
      (fun last later => ∃ plane tried sizes, later = { world with plane } ∧
        InStep settings before name found bypass keys tried sizes last plane)
      (fun _ _ => False) := by
    refine drive_keeps ?_ scheduler moves taken ⟨_, _, _, rfl, inStep⟩
    rintro earlier move _ moves ⟨_, _, _, rfl, still⟩
    apply (move_ends calm moves still).mono
    · rintro next _ ⟨plane, tried, sizes, rfl, stays⟩
      exact ⟨plane, tried, sizes, rfl, stays⟩
    · exact fun _ _ never => never
  apply ((drive_ends_hasEnded scheduler moves taken enough).and keeps).mono
  · rintro last later ⟨ended, stays⟩
    exact ⟨(Pipeline.hasEnded_iff.1 ended).2, stays⟩
  · exact fun _ _ never => never.1

end Drive

section Whole

variable {world : World} {name : String} {found : Bucket} {bad : PassError → World → Prop}

/-- In a calm world the bypass is used if the lock of the bucket can be asked about and is on. -/
theorem ends_governanceBypass (calm : world.plane.IsCalm)
    (present : world.plane.buckets.get? name = some found) {good : Bool → World → Prop} :
    Ends (governanceBypass name) world good bad ↔ good (world.plane.canBypass found) world := by
  unfold governanceBypass
  rw [ends_bind, calm.ends_look rfl]
  cases asked : world.plane.faults.lockQuery with
  | some error => simp [Plane.respond, Plane.objectLockEnabled, Plane.canBypass, asked]
  | none => simp [Plane.respond, Plane.objectLockEnabled, Plane.canBypass, asked, present]

/-- In a calm world the listing is what the remote side shows. -/
theorem ends_listing (calm : world.plane.IsCalm)
    {good : List (Except RemoteError ObjectInfo) → World → Prop} :
    Ends (listing name) world good bad ↔ good (world.plane.listObjects name) world := by
  unfold listing
  rw [ends_bind, calm.ends_look rfl]
  rfl

/-- Every shown object of a bucket is removed, or one of them cannot be. -/
theorem empty_ends (settings : DeletionSettings) (scheduler : Scheduler)
    (calm : world.plane.IsCalm) (present : world.plane.buckets.get? name = some found) :
    Ends (empty settings scheduler name false) world
      (fun _ later => ∃ plane sizes, later = { world with plane } ∧
        (∀ size ∈ sizes, size ≤ settings.limit) ∧
        sizes.sum = (world.plane.shownKeys found).length ∧
        (∀ key ∈ world.plane.shownKeys found,
          world.plane.letsGo found (world.plane.canBypass found) key = true) ∧
        world.plane.Thinned name found (world.plane.canBypass found)
          (world.plane.shownKeys found) sizes plane)
      (fun error later => ∃ plane tried sizes key reason, later = { world with plane } ∧
        error = .partialDeletion key reason ∧
        (∀ size ∈ sizes, size ≤ settings.limit) ∧ tried ⊆ world.plane.shownKeys found ∧
        key ∈ tried ∧ world.plane.letsGo found (world.plane.canBypass found) key = false ∧
        world.plane.Thinned name found (world.plane.canBypass found) tried sizes plane) := by
  have start := @Stage.start (world.plane.letsGo found (world.plane.canBypass found))
    settings.limit (world.plane.listObjects name)
  rw [Plane.filterMap_readable_listObjects present] at start
  have enough : ({ unlisted := world.plane.listObjects name } : Pipeline).ahead ≤
      4 * (world.plane.listObjects name).length + 2 := Nat.le_refl _
  have driven := drive_ends calm scheduler _ 0 enough
    ⟨Plane.thinned_self present, nofun, rfl, start⟩
  unfold empty
  rw [ends_bind, ends_governanceBypass calm present, ends_bind, ends_listing calm]
  simp only [Bool.false_eq_true, if_false, ends_bind]
  apply driven.mono
  · rintro last _ ⟨stopped, plane, tried, sizes, rfl, thinned, small, counted, stage⟩
    cases stage with
    | waiting waits _ _ _ => rw [waits] at stopped; cases stopped
    | removing removes _ _ _ _ => rw [removes] at stopped; cases stopped
    | finished ended all gone =>
        subst all
        rw [ended]
        exact ⟨plane, sizes, rfl, small, counted, gone, thinned⟩
    | @failed key reason ended some wasTried stays =>
        rw [ended]
        exact ⟨plane, tried, sizes, key, reason, rfl, rfl, small, some, wasTried, stays, thinned⟩
  · exact fun _ _ never => never.elim

end Whole

end Drain

namespace Plane

/-- Nothing keeps the objects of a bucket in it: each can be listed and removed, and the bypass that
retention asks for is known to be needed. -/
structure CanEmpty (plane : Plane) (found : Bucket) : Prop where
  free : ∀ key ∈ found.objects.keys,
    plane.faults.removal.contains key = false ∧ plane.faults.listing.contains key = false
  released : found.objects.isEmpty = true ∨ found.objectLock = false ∨
    plane.faults.lockQuery = none

/-- The remote side after a bucket has been emptied in requests of limited sizes and removed. -/
def Cleared (before : Plane) (name : String) (found : Bucket) (limit : Nat) (after : Plane) : Prop :=
  ∃ sizes mutations, (∀ size ∈ sizes, size ≤ limit) ∧ sizes.sum = found.objects.size ∧
    after = { before with
      buckets := before.buckets.erase name
      mutations
      removalBatches := before.removalBatches ++ sizes }

/-- The remote side after a bucket could not be emptied. The objects that are left are among those
that were there, and none is gone that cannot be listed or removed. -/
def Spared (before : Plane) (name : String) (found : Bucket) (limit : Nat)
    (left : Table String Nat) (after : Plane) : Prop :=
  (∀ key, left.get? key = none ∨ left.get? key = found.objects.get? key) ∧
    (∀ key, before.faults.removal.contains key = true ∨ before.faults.listing.contains key = true →
      left.get? key = found.objects.get? key) ∧
    ∃ sizes mutations, (∀ size ∈ sizes, size ≤ limit) ∧
      after = { before with
        buckets := before.buckets.insert name { found with objects := left }
        mutations
        removalBatches := before.removalBatches ++ sizes }

variable {before after : Plane} {name : String} {found : Bucket} {tried : List String}
  {sizes : List Nat} {key : String}

/-- An object can be removed if no fault is armed for it and retention is off or can be bypassed. -/
theorem letsGo_canBypass_iff :
    before.letsGo found (before.canBypass found) key = true ↔
      before.faults.removal.contains key = false ∧
        (found.objectLock = false ∨ before.faults.lockQuery = none) := by
  unfold letsGo isRemovable canBypass
  cases found.objectLock with
  | false => simp
  | true => simp

theorem mem_shownKeys_iff :
    key ∈ before.shownKeys found ↔
      key ∈ found.objects.keys ∧ before.faults.listing.contains key = false := by
  simp [shownKeys]

/-- A bucket can be emptied when all of its objects are shown and can be removed. -/
theorem canEmpty_iff :
    before.CanEmpty found ↔ ∀ key ∈ found.objects.keys, key ∈ before.shownKeys found ∧
      before.letsGo found (before.canBypass found) key = true := by
  constructor
  · intro can key member
    obtain ⟨removable, listed⟩ := can.free key member
    refine ⟨mem_shownKeys_iff.2 ⟨member, listed⟩, letsGo_canBypass_iff.2 ⟨removable, ?_⟩⟩
    rcases can.released with empty | released
    · have missing := Table.isEmpty_iff.1 empty key
      have held := Table.mem_keys_iff.1 member
      rw [Table.contains, missing] at held
      cases held
    · exact released
  · intro goes
    constructor
    · intro key member
      obtain ⟨shown, lets⟩ := goes key member
      exact ⟨(letsGo_canBypass_iff.1 lets).1, (mem_shownKeys_iff.1 shown).2⟩
    · cases keys : found.objects.entries with
      | nil =>
          left
          rw [Table.isEmpty, keys]
          rfl
      | cons entry rest =>
          right
          have member : entry.1 ∈ found.objects.keys := by simp [Table.keys, keys]
          exact (letsGo_canBypass_iff.1 (goes entry.1 member).2).2

/-- A bucket that can be emptied shows all its objects. -/
theorem length_shownKeys (can : before.CanEmpty found) :
    (before.shownKeys found).length = found.objects.size := by
  have all : before.shownKeys found = found.objects.keys := by
    apply List.filter_eq_self.2
    intro key member
    rw [(can.free key member).2]
    rfl
  rw [all, Table.keys, List.length_map]
  rfl

/-- Requests for shown objects leave all others, and those that cannot be removed. -/
theorem Thinned.spared {limit : Nat}
    (thinned : before.Thinned name found (before.canBypass found) tried sizes after)
    (shown : tried ⊆ before.shownKeys found) (small : ∀ size ∈ sizes, size ≤ limit) :
    ∃ left, before.Spared name found limit left after := by
  obtain ⟨left, mutations, remaining, rfl⟩ := thinned
  refine ⟨left, ?_, ?_, sizes, mutations, small, rfl⟩
  · intro key
    rw [remaining]
    split
    · exact .inl rfl
    · exact .inr rfl
  · intro key faulty
    rw [remaining, if_neg]
    rintro ⟨member, lets⟩
    obtain ⟨-, listed⟩ := mem_shownKeys_iff.1 (shown member)
    obtain ⟨removable, -⟩ := letsGo_canBypass_iff.1 lets
    rw [listed, removable] at faulty
    simp at faulty

/-- That a call is counted puts nothing back. -/
theorem Thinned.counted {bypass : Bool}
    (thinned : before.Thinned name found bypass tried sizes after) (call : RemoteCall) :
    before.Thinned name found bypass tried sizes (after.counted call) := by
  obtain ⟨left, mutations, remaining, rfl⟩ := thinned
  exact ⟨left, _, remaining, rfl⟩

/-- When all shown objects have been in a request, none is left if nothing kept any in the bucket. -/
theorem isEmpty_left_iff {left : Table String Nat}
    (remaining : ∀ key, left.get? key =
      if key ∈ before.shownKeys found ∧ before.letsGo found (before.canBypass found) key = true
      then none else found.objects.get? key) :
    left.isEmpty = true ↔ before.CanEmpty found := by
  rw [Table.isEmpty_iff, canEmpty_iff]
  constructor
  · intro none key member
    by_contra stays
    have held := none key
    rw [remaining, if_neg stays] at held
    rw [Table.mem_keys_iff, Table.contains, held] at member
    cases member
  · intro goes key
    rw [remaining]
    split
    · rfl
    · rename_i stays
      cases held : found.objects.get? key with
      | none => rfl
      | some size =>
          refine absurd (goes key ?_) stays
          rw [Table.mem_keys_iff, Table.contains, held]
          rfl

/-- After requests for all shown objects, the bucket can be removed if nothing kept any object in
it, and its removal is refused otherwise. -/
theorem Thinned.removeBucket {limit : Nat}
    (thinned : before.Thinned name found (before.canBypass found) (before.shownKeys found) sizes
      after)
    (small : ∀ size ∈ sizes, size ≤ limit)
    (whole : sizes.sum = (before.shownKeys found).length)
    (accessible : before.accessError? name = none) :
    (before.CanEmpty found ∧ ∃ later, after.removeBucket name = (.ok (), later) ∧
      before.Cleared name found limit later) ∨
    (¬ before.CanEmpty found ∧ ∃ reason left,
      after.removeBucket name = (.error (.rejected reason), after) ∧
        before.Spared name found limit left after) := by
  obtain ⟨left, spared⟩ := thinned.spared (fun _ member => member) small
  obtain ⟨objects, mutations, remaining, rfl⟩ := thinned
  have empty := isEmpty_left_iff remaining
  have reached : ∀ buckets batches, Plane.accessError?
      { before with buckets, mutations, removalBatches := batches } name = none :=
    fun _ _ => accessible
  simp only [Plane.removeBucket, reached, Table.get?_insert, if_true]
  by_cases can : before.CanEmpty found
  · refine .inl ⟨can, _, if_pos (empty.2 can), sizes, mutations, small, ?_, ?_⟩
    · rw [whole, length_shownKeys can]
    · rw [Table.erase_insert]
  · exact .inr ⟨can, _, left, if_neg (empty.not.2 can), spared⟩

end Plane

namespace Drain

variable {world : World} {name : String} {found : Bucket}

/-- A bucket is removed with all of its objects, if nothing keeps any of them in it. -/
theorem delete_ends (settings : DeletionSettings) (scheduler : Scheduler)
    (calm : world.plane.IsCalm) (accessible : world.plane.accessError? name = none)
    (present : world.plane.buckets.get? name = some found) :
    Ends (delete settings scheduler name false) world
      (fun _ later => world.plane.CanEmpty found ∧
        ∃ plane, later = { world with plane } ∧
          world.plane.Cleared name found settings.limit plane)
      (fun error later => ¬ world.plane.CanEmpty found ∧ error.isNotFound = false ∧
        ∃ plane left, later = { world with plane } ∧
          world.plane.Spared name found settings.limit left plane) := by
  unfold delete
  rw [ends_bind]
  apply (empty_ends settings scheduler calm present).mono
  · rintro report _ ⟨plane, sizes, rfl, small, whole, -, thinned⟩
    have calmer := thinned.isCalm calm
    have removed := (thinned.counted (.removeBucket name)).removeBucket small whole accessible
    rw [ends_bind, calmer.ends_perform]
    obtain ⟨can, later, answered, cleared⟩ | ⟨cannot, reason, left, answered, spared⟩ := removed
    · simp only [Plane.respond, answered]
      exact ⟨can, later, rfl, cleared⟩
    · simp only [Plane.respond, answered]
      exact ⟨cannot, rfl, _, left, rfl, spared⟩
  · rintro error _ ⟨plane, tried, sizes, key, reason, rfl, rfl, small, shown, wasTried, stays, thinned⟩
    obtain ⟨left, spared⟩ := thinned.spared shown small
    refine ⟨fun can => ?_, rfl, plane, left, rfl, spared⟩
    have member := (Plane.mem_shownKeys_iff.1 (shown wasTried)).1
    have goes := (Plane.canEmpty_iff.1 can key member).2
    cases goes.symm.trans stays

end Drain

end Steward
