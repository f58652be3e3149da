/-
This file shows that the changes of which a watcher is told give back what the records say.
Whoever follows them from the start, one by one, always knows which records there are and what each
of them says, and never hears of a record that comes twice or goes twice.
-/

import Steward.Proofs.StoreWrite

namespace Steward

/-- The records as somebody knows them who follows the changes. -/
abbrev Replica := Table RecordId Record

namespace Replica

/-- Takes a change over. -/
def follow (replica : Replica) (change : Change) : Replica :=
  match change.kind with
  | .created | .updated => replica.insert change.record.id change.record
  | .deleted => replica.erase change.record.id

/-- What the changes give when nothing is known before. -/
def replay (changes : List Change) : Replica :=
  changes.foldl follow ∅

/-- What is created is not known, and what is updated or deleted is known. -/
def Expects (replica : Replica) (change : Change) : Prop :=
  change.kind = .created ↔ replica.contains change.record.id = false

/-- Each change is expected after the changes before it. -/
def IsCoherent (changes : List Change) : Prop :=
  ∀ early change late, changes = early ++ change :: late → (replay early).Expects change

/-- The replica knows the records of a store, with what each of them says. -/
def Mirrors (replica : Replica) (store : Store) : Prop :=
  ∀ id, (replica.get? id).map Record.declaration = store.declared? id

variable {replica : Replica} {store : Store} {changes : List Change} {change : Change}

theorem isCoherent_nil : IsCoherent [] := by
  intro early change late split
  simp at split

/-- A row of changes goes on with one that fits the records so far. -/
theorem IsCoherent.append_singleton (coherent : IsCoherent changes)
    (expected : (replay changes).Expects change) : IsCoherent (changes ++ [change]) := by
  intro early next late split
  rcases List.eq_nil_or_concat late with rfl | ⟨rest, last, rfl⟩
  · obtain ⟨rfl, same⟩ := List.append_inj' split rfl
    obtain rfl := List.head_eq_of_cons_eq same
    exact expected
  · have whole : changes ++ [change] = (early ++ next :: rest) ++ [last] := by
      simpa using split
    obtain ⟨rfl, -⟩ := List.append_inj' whole rfl
    exact coherent early next rest rfl

/-- To follow a change alters what one record says, and no other. -/
theorem map_get?_follow (replica : Replica) (change : Change) (id : RecordId) :
    ((replica.follow change).get? id).map Record.declaration =
      if id = change.record.id then change.declared?
      else (replica.get? id).map Record.declaration := by
  obtain ⟨kind, record⟩ := change
  cases kind with
  | created | updated =>
      simp only [follow, Change.declared?, Table.get?_insert]
      split
      · rfl
      · rfl
  | deleted =>
      simp only [follow, Change.declared?, Table.get?_erase]
      split
      · rfl
      · rfl

theorem mirrors_ofCapacity (capacity : Nat) : Mirrors ∅ (.ofCapacity capacity) :=
  fun _ => rfl

theorem Mirrors.contains_eq (mirrors : replica.Mirrors store) (id : RecordId) :
    replica.contains id = store.holds id := by
  rw [Store.holds_eq_isSome_declared?, ← mirrors id, Option.isSome_map, Table.contains]

/-- A change that fits a store is expected by whoever mirrors it. -/
theorem Mirrors.expects (mirrors : replica.Mirrors store) (fits : change.Fits store) :
    replica.Expects change := by
  rw [Expects, mirrors.contains_eq]
  exact fits.created

/-- Whoever follows what a write tells of mirrors the store after the write. -/
theorem Mirrors.carryOut (mirrors : replica.Mirrors store) (write : StoreWrite) :
    ((write.fresh store).foldl follow replica).Mirrors (write.carryOut store) := by
  intro id
  rcases write.fresh_cases store with ⟨change, told, -, after⟩ | ⟨silent, after⟩
  · rw [told, List.foldl_cons, List.foldl_nil, map_get?_follow, after, mirrors id]
  · rw [silent, List.foldl_nil, after, mirrors id]

end Replica

namespace Store

/-- All that has been told of a store is coherent and gives back what its records say. -/
structure IsReplayed (store : Store) : Prop where
  coherent : Replica.IsCoherent store.log.changes
  mirrors : (Replica.replay store.log.changes).Mirrors store

/-- There are connection details for stored records only. -/
def KeepsOwnDetails (store : Store) : Prop :=
  ∀ id details, store.details.get? id = some details → store.holds id = true

variable {store : Store}

theorem isReplayed_ofCapacity (capacity : Nat) : (ofCapacity capacity).IsReplayed where
  coherent := Replica.isCoherent_nil
  mirrors := Replica.mirrors_ofCapacity capacity

/-- A write is told of by the changes that it adds to the row. -/
theorem IsReplayed.carryOut (replayed : store.IsReplayed) (write : StoreWrite) :
    (write.carryOut store).IsReplayed := by
  have mirrors := replayed.mirrors.carryOut write
  rw [Replica.replay, ← List.foldl_append] at mirrors
  constructor
  · rw [write.changes_carryOut]
    rcases write.fresh_cases store with ⟨change, told, fits, -⟩ | ⟨silent, -⟩
    · rw [told]
      exact replayed.coherent.append_singleton (replayed.mirrors.expects fits)
    · rw [silent, List.append_nil]
      exact replayed.coherent
  · rw [write.changes_carryOut]
    exact mirrors

theorem keepsOwnDetails_ofCapacity (capacity : Nat) : (ofCapacity capacity).KeepsOwnDetails := by
  intro id details given
  cases given

/-- What stores a record and leaves the details alone leaves them to stored records. -/
theorem KeepsOwnDetails.of_holds (own : store.KeepsOwnDetails) {later : Store}
    (details : later.details = store.details)
    (left : ∀ id, store.holds id = true → later.holds id = true) : later.KeepsOwnDetails := by
  intro id given found
  rw [details] at found
  exact left id (own id given found)

theorem holds_put (store : Store) (record : Record) (id : RecordId)
    (held : store.holds id = true) : (store.put record).holds id = true := by
  rw [holds, get?_put]
  split
  · rfl
  · exact held

/-- To change a record that is stored leaves the details of stored records only. -/
theorem KeepsOwnDetails.modify (own : store.KeepsOwnDetails) (id : RecordId)
    (change : Record → Record) :
    ((store.modify id change).toOption.getD store).KeepsOwnDetails := by
  unfold Store.modify
  cases store.get? id with
  | none => exact own
  | some record => exact own.of_holds rfl (store.holds_put (change record))

/-- Whatever is written, only stored records have details. -/
theorem KeepsOwnDetails.carryOut (own : store.KeepsOwnDetails) (write : StoreWrite) :
    (write.carryOut store).KeepsOwnDetails := by
  cases write with
  | apply record =>
      show (store.apply record).2.KeepsOwnDetails
      unfold Store.apply
      cases store.get? record.id with
      | none => exact own.of_holds rfl (store.holds_put _)
      | some existing =>
          dsimp only
          split
          · exact own
          · exact own.of_holds rfl (store.holds_put _)
  | requestDeletion id now =>
      show ((store.requestDeletion id now).toOption.getD store).KeepsOwnDetails
      unfold Store.requestDeletion
      cases store.get? id with
      | none => exact own
      | some record =>
          dsimp only
          split
          · exact own
          · exact own.of_holds rfl (store.holds_put _)
  | putStatus id status => exact own.modify id _
  | putMetadata id metadata => exact own.modify id _
  | publish id details =>
      show ((store.publish id details).toOption.getD store).KeepsOwnDetails
      unfold Store.publish
      cases stored : store.get? id with
      | none => exact own
      | some record =>
          intro other given found
          show store.holds other = true
          have held : (store.details.insert id details).get? other = some given := found
          rw [Table.get?_insert] at held
          split at held
          · rename_i same
            exact same ▸ holds_of_get? stored
          · exact own other given held
  | erase id =>
      show ((store.erase id).toOption.getD store).KeepsOwnDetails
      unfold Store.erase
      cases store.get? id with
      | none => exact own
      | some record =>
          intro other given found
          have held : (store.details.erase id).get? other = some given := found
          rw [Table.get?_erase] at held
          split at held
          · cases held
          · rename_i apart
            show Option.isSome ((store.without id).get? other) = true
            rw [get?_without, if_neg apart]
            exact own other given held

end Store

/-- A record store with a watcher who is there from the start. -/
structure Viewing where
  store : Store
  watcher : Watcher
  /-- The changes that the watcher has read. -/
  received : List Change := []
  /-- The watcher has been told that it has fallen behind. -/
  hasLagged : Bool := false

/-- What can happen while somebody watches. -/
inductive ViewingMove where
  | write (write : StoreWrite)
  /-- The watcher reads what it finds at its place. -/
  | receive

namespace Viewing

/-- The watcher subscribes before anything is stored. -/
def start (capacity : Nat) : Viewing where
  store := .ofCapacity capacity
  watcher := (Store.ofCapacity capacity).log.subscribe

/-- The viewing after a move. -/
def carryOut (viewing : Viewing) : ViewingMove → Viewing
  | .write write => { viewing with store := write.carryOut viewing.store }
  | .receive =>
      match viewing.store.log.receive viewing.watcher with
      | (.change change, watcher) =>
          { viewing with watcher, received := viewing.received ++ [change] }
      | (.lagged _, watcher) => { viewing with watcher, hasLagged := true }
      | (.none, watcher) => { viewing with watcher }

/-- The viewing after a row of moves. -/
def play (viewing : Viewing) (moves : List ViewingMove) : Viewing :=
  moves.foldl carryOut viewing

/-- The changes that the watcher has not read. -/
def unread (viewing : Viewing) : List Change :=
  viewing.store.log.changes.drop viewing.watcher.position

/-- What holds at any time while somebody watches who has been there from the start. -/
structure IsFaithful (viewing : Viewing) : Prop where
  replayed : viewing.store.IsReplayed
  own : viewing.store.KeepsOwnDetails
  place : viewing.watcher.position ≤ viewing.store.log.changes.length
  whole : viewing.hasLagged = false →
    viewing.received ++ viewing.unread = viewing.store.log.changes

variable {viewing : Viewing}

/-- A watcher who begins with an empty store has seen all of it. -/
theorem isFaithful_start (capacity : Nat) : (start capacity).IsFaithful where
  replayed := Store.isReplayed_ofCapacity capacity
  own := Store.keepsOwnDetails_ofCapacity capacity
  place := Nat.le_refl _
  whole := fun _ => rfl

/-- A write puts its changes behind those that are unread. -/
theorem IsFaithful.write (faithful : viewing.IsFaithful) (write : StoreWrite) :
    (viewing.carryOut (.write write)).IsFaithful where
  replayed := faithful.replayed.carryOut write
  own := faithful.own.carryOut write
  place := by
    show viewing.watcher.position ≤ (write.carryOut viewing.store).log.changes.length
    rw [write.changes_carryOut, List.length_append]
    exact Nat.le_add_right_of_le faithful.place
  whole := by
    intro current
    have before : viewing.received ++ viewing.unread = viewing.store.log.changes :=
      faithful.whole current
    show viewing.received ++ (write.carryOut viewing.store).log.changes.drop
      viewing.watcher.position = (write.carryOut viewing.store).log.changes
    rw [write.changes_carryOut, List.drop_append_of_le_length faithful.place,
      ← List.append_assoc]
    exact congrArg (· ++ write.fresh viewing.store) before

/-- Reading leaves the store alone. -/
theorem store_receive (viewing : Viewing) :
    (viewing.carryOut .receive).store = viewing.store := by
  unfold carryOut
  dsimp only
  split
  · rfl
  · rfl
  · rfl

/-- What the watcher reads was the first change that it had not read. -/
theorem IsFaithful.receive (faithful : viewing.IsFaithful) :
    (viewing.carryOut .receive).IsFaithful := by
  unfold carryOut
  dsimp only
  rcases viewing.store.log.receive_cases viewing.watcher with
    ⟨skipped, later, found, inside, -⟩ | ⟨change, later, found, inside, read⟩ | ⟨found, -⟩
  · rw [found]
    exact ⟨faithful.replayed, faithful.own, inside, nofun⟩
  · rw [found]
    refine ⟨faithful.replayed, faithful.own, inside, fun current => ?_⟩
    have before := faithful.whole current
    rw [unread, read] at before
    show (viewing.received ++ [change]) ++ _ = _
    rw [List.append_assoc]
    exact before
  · rw [found]
    exact faithful

/-- Whatever the moves, the view stays faithful. -/
theorem IsFaithful.play (faithful : viewing.IsFaithful) (moves : List ViewingMove) :
    (viewing.play moves).IsFaithful := by
  induction moves generalizing viewing with
  | nil => exact faithful
  | cons move rest inductionHypothesis =>
      cases move with
      | write write => exact inductionHypothesis (faithful.write write)
      | receive => exact inductionHypothesis faithful.receive

/-- A watcher that reads after each write. -/
def attentively (writes : List StoreWrite) : List ViewingMove :=
  writes.flatMap fun write => [.write write, .receive]

/-- Who has read everything reads what one write tells of before he can fall behind. -/
theorem IsFaithful.keepsUp (faithful : viewing.IsFaithful) (read : viewing.unread = [])
    (roomy : 0 < viewing.store.log.capacity) (write : StoreWrite) :
    ((viewing.carryOut (.write write)).carryOut .receive).unread = [] ∧
      ((viewing.carryOut (.write write)).carryOut .receive).hasLagged = viewing.hasLagged := by
  have place : viewing.watcher.position = viewing.store.log.changes.length :=
    Nat.le_antisymm faithful.place (List.drop_eq_nil_iff.1 read)
  have changes := write.changes_carryOut viewing.store
  have capacity := write.capacity_carryOut viewing.store
  have near : ¬ viewing.watcher.position <
      (write.carryOut viewing.store).log.changes.length -
        (write.carryOut viewing.store).log.capacity := by
    have short : (write.fresh viewing.store).length ≤ 1 := by
      rcases write.fresh_cases viewing.store with ⟨change, told, -⟩ | ⟨silent, -⟩
      · simp [told]
      · simp [silent]
    rw [changes, capacity, List.length_append]
    omega
  have found : (write.carryOut viewing.store).log.changes[viewing.watcher.position]? =
      (write.fresh viewing.store)[0]? := by
    rw [changes, place, List.getElem?_append_right (Nat.le_refl _), Nat.sub_self]
  simp only [carryOut, unread, ChangeLog.receive, if_neg near, found]
  rcases write.fresh_cases viewing.store with ⟨change, told, -⟩ | ⟨silent, -⟩
  · simp [told, changes, place]
  · simp [silent, changes, place]

/-- A watcher who reads after every write never lags, if a single change can be kept. -/
theorem IsFaithful.keepsUp_attentively (faithful : viewing.IsFaithful)
    (read : viewing.unread = []) (roomy : 0 < viewing.store.log.capacity)
    (writes : List StoreWrite) :
    (viewing.play (attentively writes)).unread = [] ∧
      (viewing.play (attentively writes)).hasLagged = viewing.hasLagged := by
  induction writes generalizing viewing with
  | nil => exact ⟨read, rfl⟩
  | cons write rest inductionHypothesis =>
      obtain ⟨readNext, current⟩ := faithful.keepsUp read roomy write
      rw [← current]
      refine inductionHypothesis (faithful.write write).receive readNext ?_
      rw [store_receive]
      show 0 < (write.carryOut viewing.store).log.capacity
      rw [write.capacity_carryOut]
      exact roomy

/-- Who reads after each write never falls behind, however few changes are kept. -/
theorem attentive_watcher_keeps_up (capacity : Nat) (writes : List StoreWrite) :
    ((start capacity).play (attentively writes)).unread = [] ∧
      ((start capacity).play (attentively writes)).hasLagged = false :=
  (isFaithful_start capacity).keepsUp_attentively rfl
    (Nat.pos_of_isPowerOfTwo (Nat.isPowerOfTwo_nextPowerOfTwo _)) writes

/-- Whatever is written, and whenever a watcher reads that has been there from the start and has not
fallen behind: its changes, with those that it can still read, come in turn and give back what the
records say, and so do those that it has read when there are no others. A write that is refused, or
that leaves all records as they were, tells of nothing. A record is stored under its own identity,
and there are connection details for stored records only. -/
theorem changes_give_back_the_records (capacity : Nat) (moves : List ViewingMove)
    (current : ((start capacity).play moves).hasLagged = false) :
    let viewing := (start capacity).play moves
    Replica.IsCoherent (viewing.received ++ viewing.unread) ∧
    (Replica.replay (viewing.received ++ viewing.unread)).Mirrors viewing.store ∧
    (viewing.unread = [] → Replica.IsCoherent viewing.received ∧
      (Replica.replay viewing.received).Mirrors viewing.store) ∧
    (∀ write : StoreWrite, ((∃ error, write.attempt viewing.store = .error error) ∨
        ∀ id, (write.carryOut viewing.store).declared? id = viewing.store.declared? id) →
      write.fresh viewing.store = []) ∧
    (∀ id record, viewing.store.get? id = some record → record.id = id) ∧
    ∀ id details, viewing.store.details.get? id = some details →
      ∃ record, viewing.store.get? id = some record := by
  intro viewing
  have faithful : viewing.IsFaithful := (isFaithful_start capacity).play moves
  have whole := faithful.whole current
  have coherent := faithful.replayed.coherent
  have mirrors := faithful.replayed.mirrors
  rw [← whole] at coherent mirrors
  refine ⟨coherent, mirrors, fun read => ?_, fun write idle => ?_, fun id record stored => ?_,
    fun id details given => ?_⟩
  · rw [read, List.append_nil] at coherent mirrors
    exact ⟨coherent, mirrors⟩
  · have same : ∀ id, (write.carryOut viewing.store).declared? id = viewing.store.declared? id := by
      rcases idle with ⟨error, refused⟩ | same
      · rw [StoreWrite.carryOut_of_refused refused]
        exact fun _ => rfl
      · exact same
    exact write.fresh_of_same same
  · exact viewing.store.id_of_get? stored
  · exact Option.isSome_iff_exists.1 (faithful.own id details given)

end Viewing

namespace Sample

/-- The life of a record, with a profile that it gets later, writes that change nothing and writes
that are refused; in the end it is made anew. -/
def lifetime : List StoreWrite :=
  [.requestDeletion (.plain "first") default, .apply (newcomer "first"), .apply (newcomer "first"),
    .putMetadata (.plain "first") ∅, .apply { newcomer "first" with credentialsRef := some "else" },
    .publish (.plain "first") ∅, .requestDeletion (.plain "first") default,
    .requestDeletion (.plain "first") default, .apply (newcomer "second"),
    .erase (.plain "first"), .erase (.plain "first"), .putStatus (.plain "first") {},
    .apply (newcomer "first")]

end Sample

namespace Viewing

/-- The record that is made anew is created a second time, and the watcher knows both records. -/
theorem changes_give_back_the_records_of_lifetime :
    let viewing := (start 1).play (attentively Sample.lifetime)
    viewing.received.map (fun change => (change.kind, change.record.id)) =
      [(.created, .plain "first"), (.updated, .plain "first"), (.updated, .plain "first"),
        (.created, .plain "second"), (.deleted, .plain "first"), (.created, .plain "first")] ∧
      viewing.hasLagged = false ∧ Replica.IsCoherent viewing.received ∧
      (Replica.replay viewing.received).Mirrors viewing.store := by
  obtain ⟨read, current⟩ := attentive_watcher_keeps_up 1 Sample.lifetime
  have given := changes_give_back_the_records 1 (attentively Sample.lifetime) current
  obtain ⟨-, -, complete, -⟩ := given
  exact ⟨by decide +kernel, current, complete read⟩

end Viewing

end Steward
