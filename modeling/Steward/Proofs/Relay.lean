/-
This file shows that no change of a record is lost on its way to the work queue.
A write changes the records first and tells of it later, the forwarder may fall behind and then
lists every record, and callers take from the queue and give back meanwhile, all in any order.
-/

import Steward.Controller.Forwarder
import Steward.Proofs.StoreWrite
import Steward.Proofs.WorkQueue

namespace Steward

namespace Store

/-- A listing of the store gives the identities that it holds. -/
theorem mem_allIds_iff {store : Store} {id : RecordId} :
    id ∈ Forwarder.allIds store ↔ store.holds id = true := by
  rw [Forwarder.allIds, List.mem_map, holds, Option.isSome_iff_exists]
  constructor
  · rintro ⟨record, member, rfl⟩
    exact ⟨record, store.mem_list_iff.1 member⟩
  · rintro ⟨record, stored⟩
    obtain rfl := store.id_of_get? stored
    exact ⟨record, store.mem_list_iff.2 stored, rfl⟩

end Store

namespace Forwarder

/-- What the forwarder does in one step: it notes which records there are, adds the next one of
them, goes back to listening, starts to list since it has fallen behind, or reads a change. -/
theorem step?_cases {store : Store} {forwarder later : Forwarder} {queue queue' : WorkQueue}
    (moved : forwarder.step? store queue = some (later, queue')) :
    (forwarder.phase = .listing ∧ queue' = queue ∧
      later = { forwarder with phase := .adding (allIds store) }) ∨
    (∃ id rest, forwarder.phase = .adding (id :: rest) ∧ queue' = (queue.add id).2 ∧
      later = { forwarder with phase := .adding rest }) ∨
    (forwarder.phase = .adding [] ∧ queue' = queue ∧
      later = { forwarder with phase := .listening }) ∨
    (forwarder.phase = .listening ∧ queue' = queue ∧ later.phase = .listing ∧
      later.watcher.position ≤ store.log.changes.length ∧
      forwarder.watcher.position < later.watcher.position) ∨
    ∃ change, forwarder.phase = .listening ∧ later.phase = .listening ∧
      later.watcher.position ≤ store.log.changes.length ∧
      store.log.changes.drop forwarder.watcher.position =
        change :: store.log.changes.drop later.watcher.position ∧
      queue' = if change.kind = .deleted then queue else (queue.add change.record.id).2 := by
  unfold step? at moved
  split at moved
  · rename_i phase
    cases moved
    exact .inl ⟨phase, rfl, rfl⟩
  · rename_i phase
    cases moved
    exact .inr (.inr (.inl ⟨phase, rfl, rfl⟩))
  · rename_i id rest phase
    cases moved
    exact .inr (.inl ⟨id, rest, phase, rfl, rfl⟩)
  · rename_i phase
    rcases store.log.receive_cases forwarder.watcher with
      ⟨skipped, watcher, received, inside, ahead⟩ | ⟨change, watcher, received, inside, read⟩ |
      ⟨received, -⟩
    · rw [received] at moved
      cases moved
      exact .inr (.inr (.inr (.inl ⟨phase, rfl, rfl, inside, ahead⟩)))
    · rw [received] at moved
      cases moved
      exact .inr (.inr (.inr (.inr ⟨change, phase, rfl, inside, read, rfl⟩)))
    · rw [received] at moved
      cases moved

/-- How far the forwarder is from having read all changes: it lists at most once for each change that
it has not read, and once more if it is about to. -/
def rank (store : Store) (forwarder : Forwarder) : Nat :=
  (forwarder.unread store) * (store.list.length + 3) +
    match forwarder.phase with
    | .listening => 0
    | .listing => store.list.length + 2
    | .adding ids => ids.length + 1

/-- Each step of the forwarder brings it closer to having read all changes. -/
theorem rank_lt {store : Store} {forwarder later : Forwarder} {queue queue' : WorkQueue}
    (moved : forwarder.step? store queue = some (later, queue')) :
    later.rank store < forwarder.rank store := by
  unfold rank
  -- Each change that is read pays for one more listing.
  have pays : later.unread store < forwarder.unread store → later.unread store *
      (store.list.length + 3) + (store.list.length + 3) ≤
        forwarder.unread store * (store.list.length + 3) := by
    intro fewer
    rw [← Nat.succ_mul]
    exact Nat.mul_le_mul_right _ fewer
  rcases step?_cases moved with ⟨phase, -, rfl⟩ | ⟨id, rest, phase, -, rfl⟩ | ⟨phase, -, rfl⟩ |
    ⟨phase, -, listing, inside, ahead⟩ | ⟨change, phase, listening, inside, read, -⟩
  · rw [phase]
    exact Nat.add_lt_add_left (by simp [allIds]) _
  · rw [phase]
    exact Nat.add_lt_add_left (by simp) _
  · rw [phase]
    exact Nat.add_lt_add_left (by simp) _
  · rw [phase, listing]
    have fewer : later.unread store < forwarder.unread store := by
      unfold unread
      omega
    have enough := pays fewer
    dsimp only
    omega
  · rw [phase, listening]
    have lengths := congrArg List.length read
    rw [List.length_cons, List.length_drop, List.length_drop] at lengths
    have enough := pays (by unfold unread; omega)
    dsimp only
    omega

/-- A forwarder without a next step listens and has read all changes. -/
theorem step?_eq_none {store : Store} {forwarder : Forwarder} {queue : WorkQueue}
    (rests : forwarder.step? store queue = none) :
    forwarder.phase = .listening ∧ store.log.changes.drop forwarder.watcher.position = [] := by
  unfold step? at rests
  split at rests
  · cases rests
  · cases rests
  · cases rests
  · rename_i phase
    rcases store.log.receive_cases forwarder.watcher with
      ⟨skipped, watcher, received, -⟩ | ⟨change, watcher, received, -, -⟩ | ⟨-, read⟩
    · rw [received] at rests
      cases rests
    · rw [received] at rests
      cases rests
    · exact ⟨phase, read⟩

end Forwarder

/-- A record store with its forwarder and its work queue. -/
structure Relay where
  store : Store
  /-- The changes that have been made and not been told of. -/
  untold : List Change := []
  forwarder : Forwarder
  queue : WorkQueue := {}
  /-- The stored records of which a change has been told since they were last handed out. -/
  told : List RecordId
  /-- The stored records that have been written anew since they were last handed out. -/
  changed : List RecordId

/-- What can happen at a relay. -/
inductive RelayMove where
  | write (write : StoreWrite)
  /-- Watchers are told of one of the changes that have been made. -/
  | tell (index : Nat)
  /-- From now on more or fewer changes can be read back. -/
  | keep (capacity : Nat)
  /-- The forwarder takes a step. -/
  | forward
  /-- Somebody else adds an identity, such as a poll. -/
  | add (id : RecordId)
  | next
  | done (id : RecordId)

namespace Relay

/-- The forwarder starts at a store; all records that are there are to be handed out. -/
def start (store : Store) : Relay where
  store := store
  forwarder := .start store
  told := Forwarder.allIds store
  changed := Forwarder.allIds store

/-- The relay after a move. -/
def carryOut (relay : Relay) : RelayMove → Relay
  | .write write =>
      let after := write.carryOut relay.store
      { relay with
        store := write.quietly relay.store
        untold := relay.untold ++ write.fresh relay.store
        told := relay.told.filter after.holds
        changed := (Forwarder.allIds after).filter fun id =>
          id ∈ relay.changed ∨ after.declared? id ≠ relay.store.declared? id }
  | .tell index =>
      match relay.untold[index]? with
      | none => relay
      | some change =>
          { relay with
            store := relay.store.announce change
            untold := relay.untold.eraseIdx index
            told :=
              if change.kind ≠ .deleted ∧ relay.store.holds change.record.id then
                change.record.id :: relay.told
              else relay.told }
  | .keep capacity =>
      { relay with store := { relay.store with log := { relay.store.log with capacity } } }
  | .forward =>
      match relay.forwarder.step? relay.store relay.queue with
      | none => relay
      | some (forwarder, queue) => { relay with forwarder, queue }
  | .add id => { relay with queue := (relay.queue.add id).2 }
  | .next =>
      match relay.queue.take? with
      | none => relay
      | some (id, queue) =>
          { relay with
            queue
            told := relay.told.filter (· ≠ id)
            changed := relay.changed.filter (· ≠ id) }
  | .done id => { relay with queue := (relay.queue.done id).2 }

/-- The relay after a row of moves. -/
def play (relay : Relay) (moves : List RelayMove) : Relay :=
  moves.foldl carryOut relay

/-- The changes that the forwarder has not read. -/
def unread (relay : Relay) : List Change :=
  relay.store.log.changes.drop relay.forwarder.watcher.position

/-- An identity is wanted at the queue, or the forwarder is going to add it. -/
def IsUnderway (relay : Relay) (id : RecordId) : Prop :=
  relay.queue.Wants id ∨
  (match relay.forwarder.phase with
    | .listening => False
    | .listing => True
    | .adding ids => id ∈ ids) ∨
  ∃ change ∈ relay.unread, change.Concerns id

variable {relay : Relay} {id : RecordId}

/-- What holds of a relay at any time. -/
structure IsSound (relay : Relay) : Prop where
  consistent : relay.queue.IsConsistent
  running : relay.queue.isShutdown = false
  place : relay.forwarder.watcher.position ≤ relay.store.log.changes.length
  told : ∀ id ∈ relay.told, relay.store.holds id = true ∧ relay.IsUnderway id
  changed : ∀ id ∈ relay.changed, relay.store.holds id = true ∧
    (relay.IsUnderway id ∨ ∃ change ∈ relay.untold, change.Concerns id)

/-- A relay is sound at the start, where the forwarder is about to list the store. -/
theorem isSound_start (store : Store) : (start store).IsSound where
  consistent := WorkQueue.isConsistent_empty
  running := rfl
  place := Nat.le_refl _
  told := fun _ member => ⟨Store.mem_allIds_iff.1 member, .inr (.inl trivial)⟩
  changed := fun _ member => ⟨Store.mem_allIds_iff.1 member, .inl (.inr (.inl trivial))⟩

/-- What a queue does beside the forwarder leaves underway what it does not take. -/
theorem IsUnderway.of_wants (underway : relay.IsUnderway id) {queue : WorkQueue}
    (wants : relay.queue.Wants id → queue.Wants id) : IsUnderway { relay with queue } id :=
  underway.imp_left wants

/-- The changes of which watchers are told come behind those that have not been read. -/
theorem mem_unread_announce {change told : Change} (unread : change ∈ relay.unread) :
    change ∈ Relay.unread { relay with store := relay.store.announce told } := by
  unfold Relay.unread at unread ⊢
  change change ∈ List.drop _ (relay.store.log.changes ++ [told])
  rw [List.drop_append]
  exact List.mem_append_left _ unread

/-- An identity stays underway when another change is told. -/
theorem IsUnderway.announce (underway : relay.IsUnderway id) (told : Change) :
    IsUnderway { relay with store := relay.store.announce told } id := by
  refine underway.imp_right (Or.imp_right ?_)
  rintro ⟨change, unread, concerns⟩
  exact ⟨change, mem_unread_announce unread, concerns⟩

/-- A change of which watchers have just been told has not been read. -/
theorem isUnderway_announce (sound : relay.IsSound) {told : Change} (concerns : told.Concerns id) :
    IsUnderway { relay with store := relay.store.announce told } id := by
  refine .inr (.inr ⟨told, ?_, concerns⟩)
  change told ∈ List.drop _ (relay.store.log.changes ++ [told])
  rw [List.drop_append_of_le_length sound.place]
  exact List.mem_append_right _ (List.mem_singleton_self told)

/-- A step of the forwarder adds what it has read, and it lists every record before it listens again
if it has fallen behind. -/
theorem IsSound.forward_underway (sound : relay.IsSound) (held : relay.store.holds id = true)
    (underway : relay.IsUnderway id) {forwarder : Forwarder} {queue : WorkQueue}
    (moved : relay.forwarder.step? relay.store relay.queue = some (forwarder, queue)) :
    IsUnderway { relay with forwarder, queue } id := by
  have added : ∀ other, relay.queue.Wants id → (relay.queue.add other).2.Wants id :=
    fun other wants => wants.add sound.consistent other
  have wanted : (relay.queue.add id).2.Wants id :=
    WorkQueue.wants_add sound.consistent sound.running id
  rcases Forwarder.step?_cases moved with
    ⟨phase, rfl, rfl⟩ | ⟨other, rest, phase, rfl, rfl⟩ | ⟨phase, rfl, rfl⟩ |
    ⟨phase, rfl, listing, -⟩ | ⟨change, phase, listening, -, read, rfl⟩
  · exact .inr (.inl (Store.mem_allIds_iff.2 held))
  · rcases underway with wants | adding | unread
    · exact .inl (added other wants)
    · rw [phase] at adding
      rcases List.mem_cons.1 adding with rfl | later
      · exact .inl wanted
      · exact .inr (.inl later)
    · exact .inr (.inr unread)
  · rcases underway with wants | adding | unread
    · exact .inl wants
    · rw [phase] at adding
      cases adding
    · exact .inr (.inr unread)
  · refine .inr (.inl ?_)
    change match forwarder.phase with | .listening => _ | .listing => _ | .adding ids => _
    rw [listing]
    trivial
  · rcases underway with wants | adding | ⟨other, unread, concerns⟩
    · refine .inl ?_
      change WorkQueue.Wants (ite _ _ _) id
      split
      · exact wants
      · exact added _ wants
    · rw [phase] at adding
      cases adding
    · unfold Relay.unread at unread
      rw [read] at unread
      rcases List.mem_cons.1 unread with rfl | later
      · obtain ⟨work, rfl⟩ := concerns
        refine .inl ?_
        change WorkQueue.Wants (ite _ _ _) _
        rw [if_neg work]
        exact wanted
      · exact .inr (.inr ⟨other, later, concerns⟩)

/-- A move of which only the queue takes notice. -/
theorem IsSound.of_queue (sound : relay.IsSound) {queue : WorkQueue}
    (consistent : queue.IsConsistent) (running : queue.isShutdown = false)
    (wants : ∀ id, relay.queue.Wants id → queue.Wants id) :
    IsSound { relay with queue } where
  consistent := consistent
  running := running
  place := sound.place
  told := fun id member => (sound.told id member).imp_right (·.of_wants (wants id))
  changed := fun id member =>
    (sound.changed id member).imp_right (Or.imp_left (·.of_wants (wants id)))

/-- A write to the store keeps a relay sound. -/
theorem IsSound.write (sound : relay.IsSound) (write : StoreWrite) :
    (relay.carryOut (.write write)).IsSound where
  consistent := sound.consistent
  running := sound.running
  place := sound.place
  told := by
    intro id member
    obtain ⟨early, left⟩ := List.mem_filter.1 member
    exact ⟨left, (sound.told id early).2⟩
  changed := by
    intro id member
    obtain ⟨stored, reason⟩ := List.mem_filter.1 member
    have left := Store.mem_allIds_iff.1 stored
    refine ⟨left, ?_⟩
    rcases of_decide_eq_true reason with early | differs
    · rcases (sound.changed id early).2 with underway | ⟨change, waits, concerns⟩
      · exact .inl underway
      · exact .inr ⟨change, List.mem_append_left _ waits, concerns⟩
    · obtain ⟨change, fresh, concerns⟩ := StoreWrite.exists_fresh left differs
      exact .inr ⟨change, List.mem_append_right _ fresh, concerns⟩

/-- Of what watchers are told the forwarder learns in time. -/
theorem IsSound.tell (sound : relay.IsSound) (index : Nat) :
    (relay.carryOut (.tell index)).IsSound := by
  unfold carryOut
  dsimp only
  cases next : relay.untold[index]? with
  | none => exact sound
  | some change =>
      refine ⟨sound.consistent, sound.running, ?_, ?_, ?_⟩
      · change _ ≤ (relay.store.log.changes ++ [change]).length
        rw [List.length_append]
        exact Nat.le_add_right_of_le sound.place
      · have early : ∀ id ∈ relay.told, relay.store.holds id = true ∧
            IsUnderway { relay with store := relay.store.announce change } id :=
          fun id member => (sound.told id member).imp_right (·.announce change)
        intro id member
        dsimp only at member
        split at member
        · rename_i works
          rcases List.mem_cons.1 member with rfl | before
          · exact ⟨works.2, isUnderway_announce sound ⟨works.1, rfl⟩⟩
          · exact early id before
        · exact early id member
      · intro id member
        refine ⟨(sound.changed id member).1, ?_⟩
        rcases (sound.changed id member).2 with underway | ⟨other, waits, concerns⟩
        · exact .inl (underway.announce change)
        · by_cases same : other = change
          · subst same
            exact .inl (isUnderway_announce sound concerns)
          · refine .inr ⟨other, ?_, concerns⟩
            obtain ⟨place, found⟩ := List.mem_iff_getElem?.1 waits
            refine List.mem_eraseIdx_iff_getElem?.2 ⟨place, ?_, found⟩
            rintro rfl
            exact same (Option.some.inj (found.symm.trans next))

/-- A step of the forwarder keeps a relay sound. -/
theorem IsSound.forward (sound : relay.IsSound) : (relay.carryOut .forward).IsSound := by
  unfold carryOut
  dsimp only
  cases moved : relay.forwarder.step? relay.store relay.queue with
  | none => exact sound
  | some result =>
      obtain ⟨forwarder, queue⟩ := result
      have added : ∀ id, (relay.queue.add id).2.IsConsistent ∧
          (relay.queue.add id).2.isShutdown = false := fun id =>
        ⟨sound.consistent.add id, (relay.queue.isShutdown_add id).trans sound.running⟩
      have queued : queue.IsConsistent ∧ queue.isShutdown = false := by
        rcases Forwarder.step?_cases moved with ⟨-, rfl, -⟩ | ⟨id, rest, -, rfl, -⟩ |
          ⟨-, rfl, -⟩ | ⟨-, rfl, -, -⟩ | ⟨change, -, -, -, -, rfl⟩
        · exact ⟨sound.consistent, sound.running⟩
        · exact added id
        · exact ⟨sound.consistent, sound.running⟩
        · exact ⟨sound.consistent, sound.running⟩
        · split
          · exact ⟨sound.consistent, sound.running⟩
          · exact added change.record.id
      have place : forwarder.watcher.position ≤ relay.store.log.changes.length := by
        rcases Forwarder.step?_cases moved with ⟨-, -, rfl⟩ | ⟨id, rest, -, -, rfl⟩ |
          ⟨-, -, rfl⟩ | ⟨-, -, -, inside, -⟩ | ⟨change, -, -, inside, -, -⟩
        · exact sound.place
        · exact sound.place
        · exact sound.place
        · exact inside
        · exact inside
      refine ⟨queued.1, queued.2, place, fun id member => ?_, fun id member => ?_⟩
      · obtain ⟨held, underway⟩ := sound.told id member
        exact ⟨held, sound.forward_underway held underway moved⟩
      · obtain ⟨held, underway | untold⟩ := sound.changed id member
        · exact ⟨held, .inl (sound.forward_underway held underway moved)⟩
        · exact ⟨held, .inr untold⟩

/-- What is handed out is not owed any more, and everything else stays underway. -/
theorem IsSound.next (sound : relay.IsSound) : (relay.carryOut .next).IsSound := by
  unfold carryOut
  dsimp only
  cases taken : relay.queue.take? with
  | none => exact sound
  | some result =>
      obtain ⟨other, queue⟩ := result
      have others : ∀ id, id ≠ other → relay.IsUnderway id →
          IsUnderway { relay with queue } id := fun id apart underway =>
        underway.of_wants (·.take? taken apart)
      have running : queue.isShutdown = false := by
        obtain ⟨before, rest, -, rfl⟩ := WorkQueue.take?_eq_some taken
        exact before
      refine ⟨sound.consistent.take? taken, running, sound.place, fun id member => ?_,
        fun id member => ?_⟩
      · obtain ⟨early, apart⟩ := List.mem_filter.1 member
        exact (sound.told id early).imp_right (others id (of_decide_eq_true apart))
      · obtain ⟨early, apart⟩ := List.mem_filter.1 member
        exact (sound.changed id early).imp_right (Or.imp_left (others id (of_decide_eq_true apart)))

/-- Each move keeps a relay sound. -/
theorem IsSound.carryOut (sound : relay.IsSound) (move : RelayMove) :
    (relay.carryOut move).IsSound := by
  cases move with
  | write write => exact sound.write write
  | tell index => exact sound.tell index
  | keep capacity => exact ⟨sound.consistent, sound.running, sound.place, sound.told, sound.changed⟩
  | forward => exact sound.forward
  | add id =>
      exact sound.of_queue (sound.consistent.add id)
        ((relay.queue.isShutdown_add id).trans sound.running)
        fun _ wants => wants.add sound.consistent id
  | next => exact sound.next
  | done id =>
      exact sound.of_queue (sound.consistent.done id)
        ((relay.queue.isShutdown_done id).trans sound.running)
        fun _ wants => wants.done sound.consistent sound.running id

/-- A relay stays sound, whatever moves are made. -/
theorem IsSound.play (sound : relay.IsSound) (moves : List RelayMove) :
    (relay.play moves).IsSound := by
  induction moves generalizing relay with
  | nil => exact sound
  | cons move rest inductionHypothesis => exact inductionHypothesis (sound.carryOut move)

/-- The forwarder has nothing left to do. -/
def IsAtRest (relay : Relay) : Prop :=
  relay.forwarder.step? relay.store relay.queue = none

instance (relay : Relay) : Decidable relay.IsAtRest :=
  inferInstanceAs (Decidable (_ = none))

/-- By its own steps the forwarder comes to rest. -/
theorem exists_isAtRest (relay : Relay) :
    ∃ count, (relay.play (List.replicate count .forward)).IsAtRest := by
  induction bound : relay.forwarder.rank relay.store using Nat.strongRecOn generalizing relay with
  | ind bound inductionHypothesis =>
      subst bound
      cases moved : relay.forwarder.step? relay.store relay.queue with
      | none => exact ⟨0, moved⟩
      | some result =>
          obtain ⟨forwarder, queue⟩ := result
          have next : relay.carryOut .forward = { relay with forwarder, queue } := by
            unfold carryOut
            rw [moved]
          obtain ⟨count, rests⟩ := inductionHypothesis _ (Forwarder.rank_lt moved)
            { relay with forwarder, queue } rfl
          refine ⟨count + 1, ?_⟩
          rw [List.replicate_succ, play, List.foldl_cons, next]
          exact rests

/-- What is underway is wanted when the forwarder has read all changes. -/
theorem IsUnderway.wants (underway : relay.IsUnderway id) (rests : relay.IsAtRest) :
    relay.queue.Wants id := by
  obtain ⟨phase, read⟩ := Forwarder.step?_eq_none rests
  rcases underway with wants | adding | ⟨change, unread, -⟩
  · exact wants
  · rw [phase] at adding
    cases adding
  · unfold Relay.unread at unread
    rw [read] at unread
    cases unread

/-- Whatever happens in whatever order, and whichever changes the log has let go: when the forwarder
has read all changes, each stored record of which a change has been told since it was last handed
out is wanted at the queue. So is each one that has been written anew since then, unless watchers are
still to be told of that. The forwarder gets there by its own steps. -/
theorem no_change_is_missed (store : Store) (moves : List RelayMove) :
    (((start store).play moves).IsAtRest →
      (∀ id ∈ ((start store).play moves).told, ((start store).play moves).queue.Wants id) ∧
      ∀ id ∈ ((start store).play moves).changed, ((start store).play moves).queue.Wants id ∨
        ∃ change ∈ ((start store).play moves).untold, change.Concerns id) ∧
    ∃ count, ((start store).play (moves ++ List.replicate count .forward)).IsAtRest := by
  have sound : ((start store).play moves).IsSound := (isSound_start store).play moves
  refine ⟨fun rests => ⟨fun id member => ?_, fun id member => ?_⟩, ?_⟩
  · exact (sound.told id member).2.wants rests
  · exact (sound.changed id member).2.imp_left (·.wants rests)
  · obtain ⟨count, rests⟩ := exists_isAtRest ((start store).play moves)
    refine ⟨count, ?_⟩
    rw [play, List.foldl_append]
    exact rests

end Relay

namespace Sample

/-- Three records are written at a log that keeps one change, the first one is handed out from a
poll, and all changes are told of before the forwarder looks; then the second one is erased. -/
def bustle : List RelayMove :=
  [.keep 1, .forward, .forward, .write (.apply (newcomer "first")), .add (.plain "first"), .next,
    .write (.apply (newcomer "second")), .write (.apply (newcomer "third")), .tell 2, .tell 0,
    .tell 0, .forward, .write (.erase (.plain "second")), .tell 0] ++ List.replicate 10 .forward

end Sample

namespace Relay

/-- The forwarder falls behind, and yet the record that was told of while it was held is wanted again,
and the other one that is left is wanted too. -/
theorem no_change_is_missed_of_bustle :
    ((start (.ofCapacity 1)).play Sample.bustle).IsAtRest ∧
      ((start (.ofCapacity 1)).play Sample.bustle).told = [.plain "first", .plain "third"] ∧
      ∀ id ∈ ((start (.ofCapacity 1)).play Sample.bustle).told,
        ((start (.ofCapacity 1)).play Sample.bustle).queue.Wants id := by
  have rests : ((start (.ofCapacity 1)).play Sample.bustle).IsAtRest := by decide +kernel
  have missed := no_change_is_missed (.ofCapacity 1) Sample.bustle
  exact ⟨rests, by decide +kernel, (missed.1 rests).1⟩

end Relay

end Steward
