/-
This file names the writes to the record store and says what each of them tells watchers.
A write tells of one change at most: of the one record that it makes say something else, with what
this record says from then on.
-/

import Steward.Store.Basic

namespace Steward

/-- What a record says beside its status and its metadata, which a pass writes. -/
def Record.declaration (record : Record) : Record :=
  { record with status := {}, metadata := ∅ }

namespace Store

def holds (store : Store) (id : RecordId) : Bool :=
  (store.get? id).isSome

/-- What the record with an identity says, if there is one. -/
def declared? (store : Store) (id : RecordId) : Option Record :=
  (store.get? id).map Record.declaration

variable {store : Store} {id : RecordId} {record : Record}

theorem declared?_of_get? (stored : store.get? id = some record) :
    store.declared? id = some record.declaration := by
  rw [declared?, stored, Option.map_some]

theorem holds_of_get? (stored : store.get? id = some record) : store.holds id = true := by
  rw [holds, stored, Option.isSome_some]

theorem declared?_eq_none (absent : store.get? id = none) : store.declared? id = none := by
  rw [declared?, absent, Option.map_none]

theorem holds_eq_false (absent : store.get? id = none) : store.holds id = false := by
  rw [holds, absent, Option.isSome_none]

theorem holds_eq_isSome_declared? (store : Store) (id : RecordId) :
    store.holds id = (store.declared? id).isSome := by
  rw [declared?, Option.isSome_map, holds]

end Store

namespace Change

/-- A change that makes work, of the record with an identity. -/
def Concerns (change : Change) (id : RecordId) : Prop :=
  change.kind ≠ .deleted ∧ change.record.id = id

/-- What a record says after a change. -/
def declared? (change : Change) : Option Record :=
  if change.kind = .deleted then none else some change.record.declaration

/-- A change creates what a store does not hold, and makes a record say something else. -/
structure Fits (change : Change) (store : Store) : Prop where
  created : change.kind = .created ↔ store.holds change.record.id = false
  differs : change.declared? ≠ store.declared? change.record.id

end Change

namespace Store

/-- One change at most has been told of between two stores, and it alone makes the later one say
something else. -/
def Tells (before after : Store) : Prop :=
  (∃ change, after.log = before.log.add change ∧ change.Fits before ∧
    ∀ id, after.declared? id =
      if id = change.record.id then change.declared? else before.declared? id) ∨
  (after.log = before.log ∧ ∀ id, after.declared? id = before.declared? id)

variable (store : Store)

theorem tells_refl : store.Tells store :=
  .inr ⟨rfl, fun _ => rfl⟩

/-- A record that is put and told of is the only one that says something else than before. -/
theorem tells_put {kind : ChangeKind} {record : Record} (left : kind ≠ .deleted)
    (fits : Change.Fits ⟨kind, record⟩ store) :
    store.Tells ((store.put record).announce ⟨kind, record⟩) := by
  refine .inl ⟨⟨kind, record⟩, rfl, fits, fun id => ?_⟩
  rw [declared?, get?_announce, get?_put]
  split
  · rw [Change.declared?, if_neg left, Option.map_some]
  · rfl

/-- What a pass writes into a record is not told of. -/
theorem tells_modify (id : RecordId) {change : Record → Record}
    (keeps : ∀ record, (change record).declaration = record.declaration) :
    store.Tells ((store.modify id change).toOption.getD store) := by
  unfold modify
  cases stored : store.get? id with
  | none => exact store.tells_refl
  | some record =>
      refine .inr ⟨rfl, fun other => ?_⟩
      have named : (change record).id = id := by
        have same := congrArg Record.id (keeps record)
        have own := store.id_of_get? stored
        exact same.trans own
      change (store.put (change record)).declared? other = store.declared? other
      rw [declared?, get?_put, named]
      split
      · rename_i same
        rw [same, Option.map_some, keeps, declared?_of_get? stored]
      · rfl

/-- To apply a record tells of it, unless it says what it said before. -/
theorem tells_apply (record : Record) : store.Tells (store.apply record).2 := by
  unfold apply
  cases stored : store.get? record.id with
  | none =>
      refine store.tells_put nofun ⟨iff_of_true rfl (holds_eq_false stored), ?_⟩
      rw [declared?_eq_none stored]
      nofun
  | some existing =>
      dsimp only
      split
      · exact store.tells_refl
      · rename_i differs
        have own : existing.id = record.id := store.id_of_get? stored
        rw [← own] at stored
        refine store.tells_put nofun ⟨iff_of_false nofun ?_, fun same => differs ?_⟩
        · rw [holds_of_get? stored]
          nofun
        · rw [declared?_of_get? stored] at same
          have alike := Option.some.inj same
          exact ⟨(congrArg Record.spec alike).symm, (congrArg Record.credentialsRef alike).symm⟩

/-- To ask for a deletion tells of the record, unless it is asked for already. -/
theorem tells_requestDeletion (id : RecordId) (now : Timestamp) :
    store.Tells ((store.requestDeletion id now).toOption.getD store) := by
  unfold requestDeletion
  cases stored : store.get? id with
  | none => exact store.tells_refl
  | some record =>
      dsimp only
      split
      · exact store.tells_refl
      · rename_i unmarked
        obtain rfl := store.id_of_get? stored
        refine store.tells_put nofun ⟨iff_of_false nofun ?_, fun same => unmarked ?_⟩
        · rw [holds_of_get? stored]
          nofun
        · rw [declared?_of_get? stored] at same
          have mark := congrArg Record.deletionRequested (Option.some.inj same)
          exact congrArg Option.isSome mark.symm

/-- What is published for the owner of a record is not told of. -/
theorem tells_publish (id : RecordId) (details : Details) :
    store.Tells ((store.publish id details).toOption.getD store) := by
  unfold publish
  cases store.get? id with
  | none => exact store.tells_refl
  | some record => exact .inr ⟨rfl, fun _ => rfl⟩

/-- The record that is erased is not held any more, and no other one changes. -/
theorem tells_erase (id : RecordId) : store.Tells ((store.erase id).toOption.getD store) := by
  unfold erase
  cases stored : store.get? id with
  | none => exact store.tells_refl
  | some record =>
      obtain rfl := store.id_of_get? stored
      refine .inl ⟨⟨.deleted, record⟩, rfl, ⟨iff_of_false nofun ?_, ?_⟩, fun other => ?_⟩
      · rw [holds_of_get? stored]
        nofun
      · rw [declared?_of_get? stored]
        nofun
      · change Option.map _ (((store.without record.id).announce ⟨.deleted, record⟩).get? other) = _
        rw [get?_announce, get?_without]
        split
        · rfl
        · rfl

end Store

/-- A write to the record store, by a user or by a pass. -/
inductive StoreWrite where
  | apply (record : Record)
  | requestDeletion (id : RecordId) (now : Timestamp)
  | putStatus (id : RecordId) (status : Status)
  | putMetadata (id : RecordId) (metadata : Metadata)
  | publish (id : RecordId) (details : Details)
  | erase (id : RecordId)

namespace StoreWrite

/-- The store after a write; it is as before if the write is refused. -/
def carryOut (store : Store) : StoreWrite → Store
  | .apply record => (store.apply record).2
  | .requestDeletion id now => (store.requestDeletion id now).toOption.getD store
  | .putStatus id status => (store.putStatus id status).toOption.getD store
  | .putMetadata id metadata => (store.putMetadata id metadata).toOption.getD store
  | .publish id details => (store.publish id details).toOption.getD store
  | .erase id => (store.erase id).toOption.getD store

/-- The store after a write, or why the write is refused. -/
def attempt (store : Store) : StoreWrite → Except StoreError Store
  | .apply record => .ok (store.apply record).2
  | .requestDeletion id now => store.requestDeletion id now
  | .putStatus id status => store.putStatus id status
  | .putMetadata id metadata => store.putMetadata id metadata
  | .publish id details => store.publish id details
  | .erase id => store.erase id

theorem carryOut_eq_attempt (store : Store) (write : StoreWrite) :
    write.carryOut store = (write.attempt store).toOption.getD store := by
  cases write <;> rfl

/-- A write that is refused changes nothing. -/
theorem carryOut_of_refused {store : Store} {write : StoreWrite} {error : StoreError}
    (refused : write.attempt store = .error error) : write.carryOut store = store := by
  rw [carryOut_eq_attempt, refused]
  rfl

/-- The changes that a write tells of. -/
def fresh (store : Store) (write : StoreWrite) : List Change :=
  (write.carryOut store).log.changes.drop store.log.changes.length

/-- A write to the records and the details, of which watchers have not been told. -/
def quietly (store : Store) (write : StoreWrite) : Store :=
  { write.carryOut store with log := store.log }

/-- Every write tells of one change at most. -/
theorem carryOut_tells (store : Store) (write : StoreWrite) :
    store.Tells (write.carryOut store) := by
  cases write with
  | apply record => exact store.tells_apply record
  | requestDeletion id now => exact store.tells_requestDeletion id now
  | putStatus id status => exact store.tells_modify id fun _ => rfl
  | putMetadata id metadata => exact store.tells_modify id fun _ => rfl
  | publish id details => exact store.tells_publish id details
  | erase id => exact store.tells_erase id

/-- A write tells of one change that makes a record say something else, or of nothing when all
records say what they have said before. -/
theorem fresh_cases (store : Store) (write : StoreWrite) :
    (∃ change, write.fresh store = [change] ∧ change.Fits store ∧
      ∀ id, (write.carryOut store).declared? id =
        if id = change.record.id then change.declared? else store.declared? id) ∨
    (write.fresh store = [] ∧ ∀ id, (write.carryOut store).declared? id = store.declared? id) := by
  rcases write.carryOut_tells store with ⟨change, log, fits, after⟩ | ⟨log, after⟩
  · refine .inl ⟨change, ?_, fits, after⟩
    rw [fresh, log, ChangeLog.add, List.drop_left]
  · refine .inr ⟨?_, after⟩
    rw [fresh, log, List.drop_length]

/-- A write that leaves all that the records say as it was tells of nothing. -/
theorem fresh_of_same {store : Store} {write : StoreWrite}
    (same : ∀ id, (write.carryOut store).declared? id = store.declared? id) :
    write.fresh store = [] := by
  rcases write.fresh_cases store with ⟨change, -, fits, after⟩ | ⟨silent, -⟩
  · have now := after change.record.id
    rw [if_pos rfl, same] at now
    exact absurd now.symm fits.differs
  · exact silent

/-- What a write tells of is what has come into the log. -/
theorem log_carryOut (store : Store) (write : StoreWrite) :
    (write.carryOut store).log =
      { store.log with changes := store.log.changes ++ write.fresh store } := by
  rcases write.carryOut_tells store with ⟨change, log, -⟩ | ⟨log, -⟩
  · rw [fresh, log, ChangeLog.add, List.drop_left]
  · rw [fresh, log, List.drop_length, List.append_nil]

theorem changes_carryOut (store : Store) (write : StoreWrite) :
    (write.carryOut store).log.changes = store.log.changes ++ write.fresh store := by
  rw [log_carryOut]

theorem capacity_carryOut (store : Store) (write : StoreWrite) :
    (write.carryOut store).log.capacity = store.log.capacity := by
  rw [log_carryOut]

/-- A write whose changes are told of at once is what the store does. -/
theorem announce_fresh (store : Store) (write : StoreWrite) :
    (write.fresh store).foldl Store.announce (write.quietly store) = write.carryOut store := by
  have told : ∀ (changes : List Change) (store : Store),
      changes.foldl Store.announce store =
        { store with log := { store.log with changes := store.log.changes ++ changes } } := by
    intro changes
    induction changes with
    | nil =>
        intro store
        rw [List.foldl_nil, List.append_nil]
    | cons change rest inductionHypothesis =>
        intro store
        rw [List.foldl_cons, inductionHypothesis, Store.announce, ChangeLog.add]
        dsimp only
        rw [List.append_assoc]
        rfl
  rw [told, quietly]
  dsimp only
  rw [← log_carryOut]

/-- A write tells of each record that it leaves stored and that says something else than before. -/
theorem exists_fresh {store : Store} {write : StoreWrite} {id : RecordId}
    (left : (write.carryOut store).holds id = true)
    (differs : (write.carryOut store).declared? id ≠ store.declared? id) :
    ∃ change ∈ write.fresh store, change.Concerns id := by
  rcases write.fresh_cases store with ⟨change, told, -, after⟩ | ⟨-, same⟩
  · have now := after id
    split at now
    · rename_i own
      refine ⟨change, told ▸ List.mem_singleton_self change, fun gone => ?_, own.symm⟩
      rw [Store.holds_eq_isSome_declared?, now, Change.declared?, if_pos gone] at left
      cases left
    · exact absurd now differs
  · exact absurd (same id) differs

end StoreWrite

namespace ChangeLog

/-- A watcher is told that it has fallen behind, or reads the first change that it has not read, or
has read all of them. -/
theorem receive_cases (log : ChangeLog) (watcher : Watcher) :
    (∃ skipped later, log.receive watcher = (.lagged skipped, later) ∧
      later.position ≤ log.changes.length ∧ watcher.position < later.position) ∨
    (∃ change later, log.receive watcher = (.change change, later) ∧
      later.position ≤ log.changes.length ∧
      log.changes.drop watcher.position = change :: log.changes.drop later.position) ∨
    (log.receive watcher = (.none, watcher) ∧ log.changes.drop watcher.position = []) := by
  unfold receive
  dsimp only
  split
  · rename_i behind
    exact .inl ⟨_, _, rfl, Nat.sub_le _ _, behind⟩
  · refine .inr ?_
    cases next : log.changes[watcher.position]? with
    | none => exact .inr ⟨rfl, List.drop_eq_nil_of_le (List.getElem?_eq_none_iff.1 next)⟩
    | some change =>
        obtain ⟨inside, same⟩ := List.getElem?_eq_some_iff.1 next
        exact .inl ⟨change, _, rfl, inside, same ▸ List.drop_eq_getElem_cons inside⟩

end ChangeLog

namespace Sample

/-- A record for a bucket. -/
def newcomer (name : String) : Record where
  id := .plain name
  spec := .bucket
    { bucketName := none, region := none, deletionPolicy := .deleteIfEmpty, policy := none }

end Sample

end Steward
