/-
This file shows what a work queue does over any row of calls.
An identity waits once at most and is not held meanwhile, identities leave in the order in which
they have come, and none that has been added is forgotten before it is handed out.
-/

import Mathlib.Data.List.Induction
import Mathlib.Data.List.Nodup
import Steward.Queue.Basic

namespace Steward

namespace Table

variable {κ α : Type} [Ord κ] [Std.TransOrd κ] [Std.LawfulEqOrd κ] [DecidableEq κ]
  {table : Table κ α} {key other : κ}

theorem contains_insert_iff {value : α} :
    (table.insert key value).contains other = true ↔ other = key ∨ table.contains other = true := by
  rw [contains, get?_insert, contains]
  split
  · simp [*]
  · simp [*]

omit [Std.TransOrd κ] in
theorem contains_erase_iff :
    (table.erase key).contains other = true ↔ other ≠ key ∧ table.contains other = true := by
  rw [contains, get?_erase, contains]
  split
  · simp [*]
  · simp [*]

end Table

namespace WorkQueue

/-- The collections of a queue agree: an identity waits once at most, the set of those that wait
is told by the row of them, none of them is held, and only what is held can be dirty. -/
structure IsConsistent (queue : WorkQueue) : Prop where
  nodup : queue.pending.Nodup
  queued : ∀ id, queue.queued.contains id = true ↔ id ∈ queue.pending
  apart : ∀ id ∈ queue.pending, queue.processing.contains id = false
  held : ∀ id, queue.dirty.contains id = true → queue.processing.contains id = true

/-- An identity waits, or it will wait as soon as its holder is done. -/
def Wants (queue : WorkQueue) (id : RecordId) : Prop :=
  id ∈ queue.pending ∨ queue.dirty.contains id = true

variable {queue : WorkQueue} {id other : RecordId}

/-- A queue without entries is consistent. -/
theorem isConsistent_empty : IsConsistent {} where
  nodup := List.nodup_nil
  queued := fun _ => ⟨nofun, nofun⟩
  apart := nofun
  held := nofun

section Steps

/-- Whether an identity waits already makes the difference to one that is to wait. -/
theorem enqueue_cases (queue : WorkQueue) (id : RecordId) :
    (queue.queued.contains id = true ∧ (queue.enqueue id).2 = queue) ∨
    (queue.queued.contains id = false ∧ (queue.enqueue id).2 = { queue with
      pending := queue.pending ++ [id]
      queued := queue.queued.insert id () }) := by
  unfold enqueue
  cases waits : queue.queued.contains id
  · exact .inr ⟨rfl, rfl⟩
  · exact .inl ⟨rfl, rfl⟩

/-- To let an identity wait leaves who holds what, what is dirty and whether the queue is open. -/
theorem enqueue_keeps (queue : WorkQueue) (id : RecordId) :
    (queue.enqueue id).2.processing = queue.processing ∧
      (queue.enqueue id).2.dirty = queue.dirty ∧
      (queue.enqueue id).2.isShutdown = queue.isShutdown := by
  rcases queue.enqueue_cases id with ⟨-, same⟩ | ⟨-, waits⟩
  · rw [same]
    exact ⟨rfl, rfl, rfl⟩
  · rw [waits]
    exact ⟨rfl, rfl, rfl⟩

/-- What is added after the shutdown is ignored, what is held becomes dirty, and anything else
waits. -/
theorem add_cases (queue : WorkQueue) (id : RecordId) :
    (queue.isShutdown = true ∧ (queue.add id).2 = queue) ∨
    (queue.isShutdown = false ∧ queue.processing.contains id = true ∧
      (queue.add id).2 = { queue with dirty := queue.dirty.insert id () }) ∨
    (queue.isShutdown = false ∧ queue.processing.contains id = false ∧
      (queue.add id).2 = (queue.enqueue id).2) := by
  unfold add
  cases stopped : queue.isShutdown with
  | true => exact .inl ⟨rfl, rfl⟩
  | false =>
      cases held : queue.processing.contains id with
      | true => exact .inr (.inl ⟨rfl, rfl, rfl⟩)
      | false => exact .inr (.inr ⟨rfl, rfl, rfl⟩)

/-- Only the first identity that waits is handed out, and not after the shutdown. -/
theorem take?_eq_some {next : WorkQueue} (taken : queue.take? = some (id, next)) :
    queue.isShutdown = false ∧ ∃ rest, queue.pending = id :: rest ∧ next = { queue with
      pending := rest
      queued := queue.queued.erase id
      processing := queue.processing.insert id () } := by
  unfold take? at taken
  cases stopped : queue.isShutdown with
  | true =>
      rw [stopped] at taken
      cases taken
  | false =>
      rw [stopped] at taken
      cases waiting : queue.pending with
      | nil =>
          rw [waiting] at taken
          cases taken
      | cons first rest =>
          rw [waiting] at taken
          cases taken
          exact ⟨rfl, rest, rfl, rfl⟩

/-- Nothing is handed out only when nothing waits, or after the shutdown. -/
theorem take?_eq_none (empty : queue.take? = none) :
    queue.isShutdown = true ∨ queue.pending = [] := by
  unfold take? at empty
  cases stopped : queue.isShutdown with
  | true => exact .inl rfl
  | false =>
      rw [stopped] at empty
      cases waiting : queue.pending with
      | nil => exact .inr rfl
      | cons first rest =>
          rw [waiting] at empty
          cases empty

/-- A queue in which an identity is held by nobody, and is not to wait again. -/
def release (queue : WorkQueue) (id : RecordId) : WorkQueue :=
  { queue with processing := queue.processing.erase id, dirty := queue.dirty.erase id }

/-- What was dirty waits when its holder is done, unless the queue has been shut down. -/
theorem done_cases (queue : WorkQueue) (id : RecordId) :
    (queue.dirty.contains id = true ∧ queue.isShutdown = false ∧
      (queue.done id).2 = ((queue.release id).enqueue id).2) ∨
    ((queue.dirty.contains id = false ∨ queue.isShutdown = true) ∧
      (queue.done id).2 = queue.release id) := by
  unfold done
  dsimp only
  split
  · rename_i again
    exact .inl ⟨again.1, Bool.eq_false_iff.2 again.2, rfl⟩
  · rename_i ended
    refine .inr ⟨?_, rfl⟩
    by_contra otherwise
    rw [not_or, Bool.not_eq_false] at otherwise
    exact ended otherwise

end Steps

namespace IsConsistent

/-- To take an entry off its holder keeps the queue consistent. -/
theorem release (consistent : queue.IsConsistent) (id : RecordId) :
    (queue.release id).IsConsistent where
  nodup := consistent.nodup
  queued := consistent.queued
  apart := by
    intro other waits
    rw [Bool.eq_false_iff]
    intro held
    have free := consistent.apart other waits
    rw [(Table.contains_erase_iff.1 held).2] at free
    cases free
  held := by
    intro other again
    obtain ⟨apart, dirty⟩ := Table.contains_erase_iff.1 again
    exact Table.contains_erase_iff.2 ⟨apart, consistent.held other dirty⟩

/-- What nobody holds may wait. -/
theorem enqueue (consistent : queue.IsConsistent) (free : queue.processing.contains id = false) :
    (queue.enqueue id).2.IsConsistent := by
  rcases queue.enqueue_cases id with ⟨-, same⟩ | ⟨absent, waits⟩
  · rwa [same]
  · rw [waits]
    have fresh : id ∉ queue.pending := by
      intro member
      rw [(consistent.queued id).2 member] at absent
      cases absent
    refine ⟨?_, ?_, ?_, consistent.held⟩
    · exact consistent.nodup.append (List.nodup_singleton id) (List.disjoint_singleton.2 fresh)
    · intro other
      dsimp only
      rw [Table.contains_insert_iff, consistent.queued, List.mem_append, List.mem_singleton]
      exact or_comm
    · intro other member
      rcases List.mem_append.1 member with early | last
      · exact consistent.apart other early
      · rw [List.mem_singleton.1 last]
        exact free

/-- To add an entry, known or not, keeps the queue consistent. -/
theorem add (consistent : queue.IsConsistent) (id : RecordId) : (queue.add id).2.IsConsistent := by
  rcases queue.add_cases id with ⟨-, same⟩ | ⟨-, held, marked⟩ | ⟨-, free, waits⟩
  · rwa [same]
  · rw [marked]
    refine ⟨consistent.nodup, consistent.queued, consistent.apart, ?_⟩
    intro other again
    rcases Table.contains_insert_iff.1 again with rfl | dirty
    · exact held
    · exact consistent.held other dirty
  · rw [waits]
    exact consistent.enqueue free

/-- To hand out the entry that has waited longest keeps the queue consistent. -/
theorem take? (consistent : queue.IsConsistent) {next : WorkQueue}
    (taken : queue.take? = some (id, next)) : next.IsConsistent := by
  obtain ⟨-, rest, waiting, rfl⟩ := take?_eq_some taken
  have nodup := consistent.nodup
  rw [waiting, List.nodup_cons] at nodup
  obtain ⟨gone, distinct⟩ := nodup
  have free : queue.processing.contains id = false :=
    consistent.apart id (waiting ▸ List.mem_cons_self)
  refine ⟨distinct, ?_, ?_, ?_⟩
  · intro other
    dsimp only
    rw [Table.contains_erase_iff, consistent.queued, waiting, List.mem_cons]
    constructor
    · rintro ⟨apart, same | later⟩
      · exact absurd same apart
      · exact later
    · intro later
      exact ⟨fun same => gone (same ▸ later), .inr later⟩
  · intro other later
    rw [Bool.eq_false_iff]
    intro held
    rcases Table.contains_insert_iff.1 held with rfl | before
    · exact gone later
    · have apart := consistent.apart other (waiting ▸ List.mem_cons_of_mem _ later)
      rw [before] at apart
      cases apart
  · intro other again
    exact Table.contains_insert_iff.2 (.inr (consistent.held other again))

/-- To end the work on an entry keeps the queue consistent, whether it waits again or not. -/
theorem done (consistent : queue.IsConsistent) (id : RecordId) :
    (queue.done id).2.IsConsistent := by
  rcases queue.done_cases id with ⟨-, -, waits⟩ | ⟨-, ended⟩
  · rw [waits]
    apply (consistent.release id).enqueue
    rw [Bool.eq_false_iff]
    intro held
    exact (Table.contains_erase_iff.1 held).1 rfl
  · rw [ended]
    exact consistent.release id

/-- To shut a queue down drops nothing that waits in it. -/
theorem shutdown (consistent : queue.IsConsistent) : queue.shutdown.IsConsistent :=
  ⟨consistent.nodup, consistent.queued, consistent.apart, consistent.held⟩

end IsConsistent

section Order

/-- The row of those that wait has grown at its end, by identities that did not wait before. -/
def Grows (before after : WorkQueue) : Prop :=
  ∃ fresh, after.pending = before.pending ++ fresh ∧ ∀ id ∈ fresh, id ∉ before.pending

theorem grows_of_eq {next : WorkQueue} (same : next.pending = queue.pending) : queue.Grows next :=
  ⟨[], by rw [same, List.append_nil], nofun⟩

/-- What waits already keeps its place when an entry joins. -/
theorem grows_enqueue (consistent : queue.IsConsistent) (id : RecordId) :
    queue.Grows (queue.enqueue id).2 := by
  rcases queue.enqueue_cases id with ⟨-, same⟩ | ⟨absent, waits⟩
  · exact grows_of_eq (by rw [same])
  · refine ⟨[id], by rw [waits], fun other member => ?_⟩
    rw [List.mem_singleton.1 member]
    intro early
    rw [(consistent.queued id).2 early] at absent
    cases absent

/-- To add an entry puts it at the end, or changes nothing in the row. -/
theorem grows_add (consistent : queue.IsConsistent) (id : RecordId) :
    queue.Grows (queue.add id).2 := by
  rcases queue.add_cases id with ⟨-, same⟩ | ⟨-, -, marked⟩ | ⟨-, -, waits⟩
  · exact grows_of_eq (by rw [same])
  · exact grows_of_eq (by rw [marked])
  · rw [waits]
    exact grows_enqueue consistent id

/-- To finish an entry puts it at the end, or changes nothing in the row. -/
theorem grows_done (consistent : queue.IsConsistent) (id : RecordId) :
    queue.Grows (queue.done id).2 := by
  rcases queue.done_cases id with ⟨-, -, waits⟩ | ⟨-, ended⟩
  · rw [waits]
    exact grows_enqueue (consistent.release id) id
  · exact grows_of_eq (by rw [ended, release])

end Order

section Wanting

variable (consistent : queue.IsConsistent) (running : queue.isShutdown = false)

/-- What is to wait does so. -/
theorem mem_pending_enqueue (consistent : queue.IsConsistent) (id : RecordId) :
    id ∈ (queue.enqueue id).2.pending := by
  rcases queue.enqueue_cases id with ⟨waits, same⟩ | ⟨-, waits⟩
  · rw [same]
    exact (consistent.queued id).1 waits
  · rw [waits]
    exact List.mem_append_right _ (List.mem_singleton_self id)

theorem Grows.mem {next : WorkQueue} (grows : queue.Grows next) (waits : id ∈ queue.pending) :
    id ∈ next.pending := by
  obtain ⟨fresh, grown, -⟩ := grows
  rw [grown]
  exact List.mem_append_left _ waits

include consistent running in
/-- What is added is wanted. -/
theorem wants_add (id : RecordId) : (queue.add id).2.Wants id := by
  rcases queue.add_cases id with ⟨stopped, -⟩ | ⟨-, -, marked⟩ | ⟨-, -, waits⟩
  · rw [running] at stopped
    cases stopped
  · rw [marked]
    exact .inr (Table.contains_insert_iff.2 (.inl rfl))
  · rw [waits]
    exact .inl (mem_pending_enqueue consistent id)

include consistent in
/-- An entry that is wanted stays wanted when another one is added. -/
theorem Wants.add (wants : queue.Wants id) (other : RecordId) : (queue.add other).2.Wants id := by
  rcases wants with waits | dirty
  · exact .inl ((grows_add consistent other).mem waits)
  · refine .inr ?_
    rcases queue.add_cases other with ⟨-, same⟩ | ⟨-, -, marked⟩ | ⟨-, -, waits⟩
    · rwa [same]
    · rw [marked]
      exact Table.contains_insert_iff.2 (.inr dirty)
    · rwa [waits, (queue.enqueue_keeps other).2.1]

/-- Only what is handed out is no longer wanted. -/
theorem Wants.take? (wants : queue.Wants id) {next : WorkQueue}
    (taken : queue.take? = some (other, next)) (apart : id ≠ other) : next.Wants id := by
  obtain ⟨-, rest, waiting, rfl⟩ := take?_eq_some taken
  rcases wants with waits | dirty
  · rw [waiting, List.mem_cons] at waits
    exact .inl (waits.resolve_left apart)
  · exact .inr dirty

include consistent running in
/-- A holder that is done lets an identity wait if that has been wanted meanwhile. -/
theorem mem_pending_done (wants : queue.Wants id) : id ∈ (queue.done id).2.pending := by
  rcases wants with waits | dirty
  · exact (grows_done consistent id).mem waits
  · rcases queue.done_cases id with ⟨-, -, waits⟩ | ⟨clean | stopped, -⟩
    · rw [waits]
      exact mem_pending_enqueue (consistent.release id) id
    · rw [dirty] at clean
      cases clean
    · rw [running] at stopped
      cases stopped

include consistent running in
/-- An entry that is wanted stays wanted when work is over. -/
theorem Wants.done (wants : queue.Wants id) (other : RecordId) :
    (queue.done other).2.Wants id := by
  by_cases own : id = other
  · subst own
    exact .inl (mem_pending_done consistent running wants)
  · rcases wants with waits | dirty
    · exact .inl ((grows_done consistent other).mem waits)
    · refine .inr ?_
      have still : (queue.release other).dirty.contains id = true :=
        Table.contains_erase_iff.2 ⟨own, dirty⟩
      rcases queue.done_cases other with ⟨-, -, waits⟩ | ⟨-, ended⟩
      · rwa [waits, ((queue.release other).enqueue_keeps other).2.1]
      · rwa [ended]

end Wanting

theorem isShutdown_add (queue : WorkQueue) (id : RecordId) :
    (queue.add id).2.isShutdown = queue.isShutdown := by
  rcases queue.add_cases id with ⟨-, same⟩ | ⟨-, -, marked⟩ | ⟨-, -, waits⟩
  · rw [same]
  · rw [marked]
  · rw [waits, (queue.enqueue_keeps id).2.2]

theorem isShutdown_done (queue : WorkQueue) (id : RecordId) :
    (queue.done id).2.isShutdown = queue.isShutdown := by
  rcases queue.done_cases id with ⟨-, -, waits⟩ | ⟨-, ended⟩
  · rw [waits, ((queue.release id).enqueue_keeps id).2.2, release]
  · rw [ended, release]

end WorkQueue

/-- A call at a work queue; who asks for the next identity tells who he is, and so does who is done
with one. -/
inductive QueueCall where
  | add (id : RecordId)
  | next (caller : Nat)
  | done (caller : Nat) (id : RecordId)
  | shutdown
  deriving DecidableEq

namespace QueueCall

/-- The identity that a call is handed, if any, and the queue after it. -/
def answer (queue : WorkQueue) : QueueCall → Option RecordId × WorkQueue
  | .add id => (none, (queue.add id).2)
  | .next _ =>
      match queue.take? with
      | some (id, queue) => (some id, queue)
      | none => (none, queue)
  | .done _ id => (none, (queue.done id).2)
  | .shutdown => (none, queue.shutdown)

def isNext : QueueCall → Bool
  | .next _ => true
  | _ => false

variable {queue : WorkQueue} {call : QueueCall}

/-- A caller is given the entry that has waited longest, or nothing. -/
theorem answer_next (queue : WorkQueue) (caller : Nat) :
    (∃ id queue', queue.take? = some (id, queue') ∧
      answer queue (.next caller) = (some id, queue')) ∨
    (queue.take? = none ∧ answer queue (.next caller) = (none, queue)) := by
  unfold answer
  cases taken : queue.take? with
  | none => exact .inr ⟨rfl, rfl⟩
  | some result => exact .inl ⟨result.1, result.2, rfl, rfl⟩

/-- Every call keeps the queue consistent. -/
theorem answer_isConsistent (consistent : queue.IsConsistent) (call : QueueCall) :
    (call.answer queue).2.IsConsistent := by
  cases call with
  | add id => exact consistent.add id
  | next caller =>
      rcases answer_next queue caller with ⟨id, next, taken, answered⟩ | ⟨-, answered⟩
      · rw [answered]
        exact consistent.take? taken
      · rwa [answered]
  | done caller id => exact consistent.done id
  | shutdown => exact consistent.shutdown

/-- What is handed out stood first, and what has come since stands last. -/
theorem answer_pending (consistent : queue.IsConsistent) (call : QueueCall) :
    (call.answer queue).1.toList ++ (call.answer queue).2.pending =
      queue.pending ++ (call.answer queue).2.pending.filter (· ∉ queue.pending) := by
  have grown : ∀ next : WorkQueue, queue.Grows next →
      next.pending = queue.pending ++ next.pending.filter (· ∉ queue.pending) := by
    rintro next ⟨fresh, whole, new⟩
    have early : queue.pending.filter (· ∉ queue.pending) = [] := by
      rw [List.filter_eq_nil_iff]
      intro id member
      simpa using member
    have late : fresh.filter (· ∉ queue.pending) = fresh := by
      rw [List.filter_eq_self]
      intro id member
      simpa using new id member
    rw [whole, List.filter_append, early, late, List.nil_append]
  cases call with
  | add id => exact grown _ (WorkQueue.grows_add consistent id)
  | next caller =>
      rcases answer_next queue caller with ⟨id, next, taken, answered⟩ | ⟨-, answered⟩
      · rw [answered]
        obtain ⟨-, rest, waiting, rfl⟩ := WorkQueue.take?_eq_some taken
        have none : rest.filter (· ∉ queue.pending) = [] := by
          rw [List.filter_eq_nil_iff]
          intro other member
          simp [waiting, member]
        dsimp only
        rw [none, List.append_nil, waiting]
        rfl
      · rw [answered]
        exact grown queue (WorkQueue.grows_of_eq rfl)
  | done caller id => exact grown _ (WorkQueue.grows_done consistent id)
  | shutdown => exact grown _ (WorkQueue.grows_of_eq rfl)

/-- Only one call shuts a queue down, and nothing opens it again. -/
theorem answer_isShutdown_iff (queue : WorkQueue) (call : QueueCall) :
    (call.answer queue).2.isShutdown = true ↔ queue.isShutdown = true ∨ call = .shutdown := by
  cases call with
  | add id => simp [answer, queue.isShutdown_add id]
  | next caller =>
      rcases answer_next queue caller with ⟨id, next, taken, answered⟩ | ⟨-, answered⟩
      · obtain ⟨-, rest, -, rfl⟩ := WorkQueue.take?_eq_some taken
        simp [answered]
      · simp [answered]
  | done caller id => simp [answer, queue.isShutdown_done id]
  | shutdown => simp [answer, WorkQueue.shutdown]

/-- After the shutdown no call is handed anything. -/
theorem answer_of_shutdown (stopped : queue.isShutdown = true) (call : QueueCall) :
    (call.answer queue).1 = none := by
  cases call with
  | next caller =>
      rcases answer_next queue caller with ⟨id, next, taken, -⟩ | ⟨-, answered⟩
      · rw [(WorkQueue.take?_eq_some taken).1] at stopped
        cases stopped
      · rw [answered]
  | add id | done caller id | shutdown => rfl

/-- A call changes who holds what as it tells, and what is held besides stays so. -/
theorem answer_processing (queue : WorkQueue) (call : QueueCall) (id : RecordId) :
    (call.answer queue).2.processing.contains id = true ↔
      (call.answer queue).1 = some id ∨
        (queue.processing.contains id = true ∧ ∀ caller, call ≠ .done caller id) := by
  cases call with
  | add other =>
      have same : (queue.add other).2.processing = queue.processing := by
        rcases queue.add_cases other with ⟨-, same⟩ | ⟨-, -, marked⟩ | ⟨-, -, waits⟩
        · rw [same]
        · rw [marked]
        · rw [waits, (queue.enqueue_keeps other).1]
      simp [answer, same]
  | next caller =>
      rcases answer_next queue caller with ⟨other, next, taken, answered⟩ | ⟨-, answered⟩
      · obtain ⟨-, rest, -, rfl⟩ := WorkQueue.take?_eq_some taken
        rw [answered]
        dsimp only
        rw [Table.contains_insert_iff, Option.some_inj, eq_comm]
        simp
      · simp [answered]
  | done caller other =>
      have same : (queue.done other).2.processing = queue.processing.erase other := by
        rcases queue.done_cases other with ⟨-, -, waits⟩ | ⟨-, ended⟩
        · rw [waits, ((queue.release other).enqueue_keeps other).1, WorkQueue.release]
        · rw [ended, WorkQueue.release]
      rw [answer, same, Table.contains_erase_iff]
      constructor
      · rintro ⟨apart, held⟩
        refine .inr ⟨held, fun caller same => ?_⟩
        cases same
        exact apart rfl
      · rintro (given | ⟨held, apart⟩)
        · cases given
        · exact ⟨fun same => apart caller (same ▸ rfl), held⟩
  | shutdown => simp [answer, WorkQueue.shutdown]

end QueueCall

/-- A work queue with what has happened at it. -/
structure QueueHistory where
  queue : WorkQueue := {}
  /-- Who has been handed which identity and is not done with it. -/
  held : List (Nat × RecordId) := []
  /-- The identities that have come to wait, in their order. -/
  arrivals : List RecordId := []
  /-- The identities that have been handed out, in their order. -/
  handOuts : List RecordId := []
  /-- The identities that have been added since they were last handed out. -/
  added : List RecordId := []

namespace QueueHistory

/-- What a call leaves those with that hold something. -/
def heldAfter (held : List (Nat × RecordId)) (given : Option RecordId) :
    QueueCall → List (Nat × RecordId)
  | .next caller => held ++ given.toList.map (caller, ·)
  | .done caller id => held.filter (· ≠ (caller, id))
  | .add _ | .shutdown => held

/-- What has been added and not handed out since, after a call. -/
def addedAfter (added : List RecordId) (given : Option RecordId) : QueueCall → List RecordId
  | .add id => id :: added
  | .next _ | .done _ _ | .shutdown => added.filter (some · ≠ given)

/-- One more call. -/
def call (history : QueueHistory) (made : QueueCall) : QueueHistory :=
  let (given, queue) := made.answer history.queue
  { queue
    held := heldAfter history.held given made
    arrivals := history.arrivals ++ queue.pending.filter (· ∉ history.queue.pending)
    handOuts := history.handOuts ++ given.toList
    added := addedAfter history.added given made }

/-- A call adds to the history what was answered, and to whom. -/
theorem call_eq {history : QueueHistory} {made : QueueCall} {given : Option RecordId}
    {queue : WorkQueue} (answered : made.answer history.queue = (given, queue)) :
    history.call made =
      { queue
        held := heldAfter history.held given made
        arrivals := history.arrivals ++ queue.pending.filter (· ∉ history.queue.pending)
        handOuts := history.handOuts ++ given.toList
        added := addedAfter history.added given made } := by
  rw [call, answered]

/-- The history of a row of calls at a new queue. -/
def of (calls : List QueueCall) : QueueHistory :=
  calls.foldl call {}

theorem of_append (calls more : List QueueCall) : of (calls ++ more) = more.foldl call (of calls) :=
  List.foldl_append

/-- Who says that he is done with an identity holds it. -/
def Allows (history : QueueHistory) : QueueCall → Prop
  | .done caller id => (caller, id) ∈ history.held
  | .add _ | .next _ | .shutdown => True

instance (history : QueueHistory) : DecidablePred history.Allows
  | .done caller id => inferInstanceAs (Decidable ((caller, id) ∈ history.held))
  | .add _ | .next _ | .shutdown => .isTrue trivial

/-- Each call of a row is allowed when it is made. -/
def IsHonest (history : QueueHistory) : List QueueCall → Prop
  | [] => True
  | made :: rest => history.Allows made ∧ (history.call made).IsHonest rest

instance decidableIsHonest : (history : QueueHistory) → DecidablePred history.IsHonest
  | _, [] => .isTrue trivial
  | history, made :: rest =>
      have := decidableIsHonest (history.call made) rest
      inferInstanceAs (Decidable (history.Allows made ∧ (history.call made).IsHonest rest))

variable {history : QueueHistory} {calls more : List QueueCall}

/-- What holds of a history at any time: the collections of the queue agree, those that have come
have been handed out in order as far as they do not wait, and what has been added is wanted. -/
structure IsSound (history : QueueHistory) : Prop where
  consistent : history.queue.IsConsistent
  inOrder : history.handOuts ++ history.queue.pending = history.arrivals
  wanted : history.queue.isShutdown = false → ∀ id ∈ history.added, history.queue.Wants id

theorem isSound_empty : IsSound {} where
  consistent := WorkQueue.isConsistent_empty
  inOrder := rfl
  wanted := nofun

/-- One call keeps the history sound. -/
theorem IsSound.call (sound : history.IsSound) (made : QueueCall) : (history.call made).IsSound where
  consistent := made.answer_isConsistent sound.consistent
  inOrder := by
    change history.handOuts ++ (made.answer history.queue).1.toList ++
      (made.answer history.queue).2.pending = _
    rw [List.append_assoc, QueueCall.answer_pending sound.consistent, ← List.append_assoc,
      sound.inOrder]
    rfl
  wanted := by
    intro running id added
    have before : history.queue.isShutdown = false := by
      rw [Bool.eq_false_iff]
      intro stopped
      have still := (made.answer_isShutdown_iff history.queue).2 (.inl stopped)
      cases still.symm.trans running
    have wants := sound.wanted before
    cases made with
    | add other =>
        change id ∈ other :: history.added at added
        rcases List.mem_cons.1 added with rfl | early
        · exact WorkQueue.wants_add sound.consistent before id
        · exact (wants id early).add sound.consistent other
    | next caller =>
        rcases QueueCall.answer_next history.queue caller with
          ⟨other, next, taken, answered⟩ | ⟨-, answered⟩
        · rw [call_eq answered] at added ⊢
          obtain ⟨early, apart⟩ := List.mem_filter.1 added
          exact (wants id early).take? taken (by simpa using apart)
        · rw [call_eq answered] at added ⊢
          exact wants id (List.mem_filter.1 added).1
    | done caller other =>
        obtain ⟨early, -⟩ := List.mem_filter.1 added
        exact (wants id early).done sound.consistent before other
    | shutdown => cases running

/-- So do all calls of a list, one after the other. -/
theorem IsSound.foldl (sound : history.IsSound) (calls : List QueueCall) :
    (calls.foldl QueueHistory.call history).IsSound := by
  induction calls generalizing history with
  | nil => exact sound
  | cons made rest inductionHypothesis => exact inductionHypothesis (sound.call made)

/-- Nobody holds what another one holds, and what is held is what the queue takes for held. -/
structure IsExclusive (history : QueueHistory) : Prop where
  once : (history.held.map Prod.snd).Nodup
  held : ∀ id, id ∈ history.held.map Prod.snd ↔ history.queue.processing.contains id = true

theorem isExclusive_empty : IsExclusive {} where
  once := List.nodup_nil
  held := fun _ => ⟨nofun, nofun⟩

/-- What is handed out was held by nobody, since it was waiting. -/
theorem IsExclusive.next (exclusive : history.IsExclusive) (sound : history.IsSound)
    (caller : Nat) : (history.call (.next caller)).IsExclusive := by
  rcases QueueCall.answer_next history.queue caller with
    ⟨id, next, taken, answered⟩ | ⟨-, answered⟩
  · rw [call_eq answered]
    obtain ⟨-, rest, waiting, rfl⟩ := WorkQueue.take?_eq_some taken
    have waits : id ∈ history.queue.pending := waiting ▸ List.mem_cons_self
    have free : id ∉ history.held.map Prod.snd := by
      intro holds
      have held := (exclusive.held id).1 holds
      rw [sound.consistent.apart id waits] at held
      cases held
    have names : (heldAfter history.held (some id) (.next caller)).map Prod.snd =
        history.held.map Prod.snd ++ [id] := by
      simp [heldAfter]
    refine ⟨?_, fun other => ?_⟩
    · rw [names]
      exact exclusive.once.append (List.nodup_singleton id) (List.disjoint_singleton.2 free)
    · rw [names, List.mem_append, List.mem_singleton, exclusive.held, Table.contains_insert_iff]
      exact or_comm
  · rw [call_eq answered]
    have names : heldAfter history.held none (.next caller) = history.held :=
      List.append_nil _
    rw [names]
    exact ⟨exclusive.once, exclusive.held⟩

/-- Who is done with what he holds leaves it to be held by nobody. -/
theorem IsExclusive.done (exclusive : history.IsExclusive) {caller : Nat} {id : RecordId}
    (holds : (caller, id) ∈ history.held) : (history.call (.done caller id)).IsExclusive := by
  have released : ∀ other,
      (history.call (.done caller id)).queue.processing.contains other = true ↔
        other ≠ id ∧ history.queue.processing.contains other = true := by
    intro other
    apply (QueueCall.answer_processing history.queue (.done caller id) other).trans
    constructor
    · rintro (given | ⟨held, apart⟩)
      · cases given
      · exact ⟨fun same => apart caller (same ▸ rfl), held⟩
    · rintro ⟨apart, held⟩
      refine .inr ⟨held, fun caller' same => ?_⟩
      cases same
      exact apart rfl
  have apart : ∀ pair ∈ history.held, pair ≠ (caller, id) ↔ pair.2 ≠ id := by
    intro pair member
    constructor
    · rintro distinct same
      exact distinct (List.inj_on_of_nodup_map exclusive.once member holds same)
    · rintro distinct rfl
      exact distinct rfl
  refine ⟨?_, fun other => ?_⟩
  · exact exclusive.once.sublist (List.filter_sublist.map Prod.snd)
  · rw [released, ← exclusive.held]
    change other ∈ (history.held.filter (· ≠ (caller, id))).map Prod.snd ↔ _
    simp only [List.mem_map, List.mem_filter, decide_eq_true_eq]
    constructor
    · rintro ⟨pair, ⟨member, distinct⟩, rfl⟩
      exact ⟨(apart pair member).1 distinct, pair, member, rfl⟩
    · rintro ⟨distinct, pair, member, rfl⟩
      exact ⟨pair, ⟨member, (apart pair member).2 distinct⟩, rfl⟩

/-- One honest call leaves every entry with one holder at most. -/
theorem IsExclusive.call (exclusive : history.IsExclusive) (sound : history.IsSound)
    {made : QueueCall} (honest : history.Allows made) : (history.call made).IsExclusive := by
  cases made with
  | add other =>
      refine ⟨exclusive.once, fun id => (exclusive.held id).trans ?_⟩
      apply Iff.trans _ (QueueCall.answer_processing history.queue (.add other) id).symm
      simp [QueueCall.answer]
  | next caller => exact exclusive.next sound caller
  | done caller other => exact exclusive.done honest
  | shutdown => exact ⟨exclusive.once, exclusive.held⟩

/-- So do all calls of an honest list, one after the other. -/
theorem IsExclusive.foldl (exclusive : history.IsExclusive) (sound : history.IsSound)
    (honest : history.IsHonest calls) :
    (calls.foldl QueueHistory.call history).IsExclusive := by
  induction calls generalizing history with
  | nil => exact exclusive
  | cons made rest inductionHypothesis =>
      exact inductionHypothesis (exclusive.call sound honest.1) (sound.call made) honest.2

/-- A queue is shut down after some calls if it was before, or if one of them shut it down. -/
theorem isShutdown_foldl_iff : (calls.foldl call history).queue.isShutdown = true ↔
    history.queue.isShutdown = true ∨ .shutdown ∈ calls := by
  induction calls generalizing history with
  | nil => simp
  | cons made rest inductionHypothesis =>
      rw [List.foldl_cons, inductionHypothesis, List.mem_cons]
      have first : (history.call made).queue.isShutdown = true ↔
          history.queue.isShutdown = true ∨ made = .shutdown :=
        made.answer_isShutdown_iff history.queue
      rw [first, or_assoc, eq_comm (a := made)]

/-- A queue is shut down if and only if one of the calls did so. -/
theorem isShutdown_of_iff : (of calls).queue.isShutdown = true ↔ .shutdown ∈ calls := by
  rw [of, isShutdown_foldl_iff]
  simp

/-- After the shutdown no more is handed out. -/
theorem handOuts_of_shutdown (stopped : history.queue.isShutdown = true) :
    (calls.foldl call history).handOuts = history.handOuts := by
  induction calls generalizing history with
  | nil => rfl
  | cons made rest inductionHypothesis =>
      have still : (history.call made).queue.isShutdown = true :=
        (made.answer_isShutdown_iff history.queue).2 (.inl stopped)
      rw [List.foldl_cons, inductionHypothesis still]
      change history.handOuts ++ (made.answer history.queue).1.toList = _
      rw [QueueCall.answer_of_shutdown stopped made]
      exact List.append_nil _

/-- What has arrived stays on record, in its order. -/
theorem arrivals_prefix_foldl (history : QueueHistory) (calls : List QueueCall) :
    history.arrivals <+: (calls.foldl call history).arrivals := by
  induction calls generalizing history with
  | nil => exact List.prefix_rfl
  | cons made rest inductionHypothesis =>
      exact (List.prefix_append _ _).trans (inductionHypothesis (history.call made))

/-- Each time that somebody asks, one more is handed out, as long as any that have come are left. -/
theorem length_handOuts_foldl (sound : history.IsSound)
    (running : history.queue.isShutdown = false) (stays : .shutdown ∉ more) {count : Nat}
    (come : count ≤ history.arrivals.length)
    (asked : count ≤ history.handOuts.length + more.countP QueueCall.isNext) :
    count ≤ (more.foldl call history).handOuts.length := by
  induction more generalizing history with
  | nil => simpa using asked
  | cons made rest inductionHypothesis =>
      rw [List.mem_cons, not_or] at stays
      obtain ⟨other, later⟩ := stays
      have still : (history.call made).queue.isShutdown = false := by
        rw [Bool.eq_false_iff]
        intro stopped
        rcases (made.answer_isShutdown_iff history.queue).1 stopped with before | same
        · cases before.symm.trans running
        · exact other same.symm
      have grown : history.arrivals.length ≤ (history.call made).arrivals.length := by
        change _ ≤ (history.arrivals ++ _).length
        rw [List.length_append]
        omega
      have whole := congrArg List.length sound.inOrder
      rw [List.length_append] at whole
      refine inductionHypothesis (sound.call made) still later (by omega) ?_
      cases made with
      | next caller =>
          rw [List.countP_cons_of_pos (by rfl)] at asked
          rcases QueueCall.answer_next history.queue caller with
            ⟨id, next, taken, answered⟩ | ⟨empty, answered⟩
          · rw [call_eq answered]
            simp only [Option.toList_some, List.length_append, List.length_singleton]
            omega
          · have nobody : history.queue.pending = [] := by
              rcases WorkQueue.take?_eq_none empty with stopped | nobody
              · cases stopped.symm.trans running
              · exact nobody
            rw [nobody] at whole
            rw [call_eq answered]
            simp only [Option.toList_none, List.append_nil, List.length_nil] at whole ⊢
            omega
      | add id | done caller id | shutdown =>
          rw [List.countP_cons_of_neg (by simp [QueueCall.isNext])] at asked
          change count ≤ (history.handOuts ++ []).length + _
          rwa [List.append_nil]

/-- Those that wait are handed out in their order and before all others, if enough is asked for. -/
theorem handOuts_prefix_foldl (sound : history.IsSound)
    (running : history.queue.isShutdown = false) (stays : .shutdown ∉ more)
    (asked : history.queue.pending.length ≤ more.countP QueueCall.isNext) :
    history.handOuts ++ history.queue.pending <+: (more.foldl call history).handOuts := by
  have whole := congrArg List.length sound.inOrder
  rw [List.length_append] at whole
  have enough : history.arrivals.length ≤ (more.foldl call history).handOuts.length :=
    length_handOuts_foldl sound running stays (Nat.le_refl _) (by omega)
  rw [sound.inOrder]
  apply List.prefix_of_prefix_length_le (arrivals_prefix_foldl history more) _ enough
  rw [← (sound.foldl more).inOrder]
  exact List.prefix_append _ _

/-- At a queue with any calls in any order the collections agree. Nobody holds what another one
holds, if callers are done only with what they hold. Before the shutdown, what has been added since
it was last handed out waits or is dirty, and after its holder is done it is handed out when as many
have asked as wait by then. Identities leave in the order in which they have come to wait. After the
shutdown none leaves, and to add one changes nothing. -/
theorem calls_lose_nothing (calls : List QueueCall) :
    (of calls).queue.IsConsistent ∧
    (IsHonest {} calls → ((of calls).held.map Prod.snd).Nodup ∧
      ∀ id, id ∈ (of calls).held.map Prod.snd ↔
        (of calls).queue.processing.contains id = true) ∧
    (.shutdown ∉ calls → ∀ id ∈ (of calls).added, (of calls).queue.Wants id ∧
      ∀ caller more, .shutdown ∉ more →
        (of (calls ++ [.done caller id])).queue.pending.length ≤ more.countP QueueCall.isNext →
        ∃ served, id ∈ served ∧
          (of (calls ++ .done caller id :: more)).handOuts = (of calls).handOuts ++ served) ∧
    (of calls).handOuts ++ (of calls).queue.pending = (of calls).arrivals ∧
    (.shutdown ∈ calls → (∀ more, (of (calls ++ more)).handOuts = (of calls).handOuts) ∧
      ∀ id, (of (calls ++ [.add id])).queue = (of calls).queue) := by
  have sound : (of calls).IsSound := isSound_empty.foldl calls
  refine ⟨sound.consistent, fun honest => ?_, fun running id added => ?_, sound.inOrder,
    fun stopped => ?_⟩
  · have exclusive : (of calls).IsExclusive := isExclusive_empty.foldl isSound_empty honest
    exact ⟨exclusive.once, exclusive.held⟩
  · have before : (of calls).queue.isShutdown = false := by
      rw [Bool.eq_false_iff]
      exact fun stopped => running (isShutdown_of_iff.1 stopped)
    have wants := sound.wanted before id added
    refine ⟨wants, fun caller more stays asked => ?_⟩
    rw [of_append] at asked ⊢
    have waits := WorkQueue.mem_pending_done sound.consistent before wants
    have still : ((of calls).call (.done caller id)).queue.isShutdown = false :=
      ((of calls).queue.isShutdown_done id).trans before
    obtain ⟨rest, served⟩ := handOuts_prefix_foldl (sound.call (.done caller id)) still stays asked
    refine ⟨((of calls).queue.done id).2.pending ++ rest, List.mem_append_left _ waits, ?_⟩
    rw [List.foldl_cons, ← served]
    change (of calls).handOuts ++ [] ++ _ ++ rest = _
    rw [List.append_nil, List.append_assoc]
    rfl
  · have after : (of calls).queue.isShutdown = true := isShutdown_of_iff.2 stopped
    refine ⟨fun more => ?_, fun id => ?_⟩
    · rw [of_append, handOuts_of_shutdown after]
    · rw [of_append]
      change ((of calls).queue.add id).2 = _
      rw [WorkQueue.add, if_pos after]

end QueueHistory

namespace Sample

/-- One record is added again while the first caller holds it, and another one after that. -/
def readding : List QueueCall :=
  [.add (.plain "first"), .next 0, .add (.plain "first"), .next 1, .add (.plain "second")]

end Sample

namespace QueueHistory

/-- A record that has been added again is held by one caller only, and it is handed out after that
one is done, but no more if the queue has been shut down. -/
theorem calls_lose_nothing_of_readding :
    IsHonest {} Sample.readding ∧ .shutdown ∉ Sample.readding ∧
      ((of Sample.readding).held.map Prod.snd).Nodup ∧
      .plain "first" ∈ (of Sample.readding).added ∧
      (of Sample.readding).queue.Wants (.plain "first") ∧
      (∃ served, .plain "first" ∈ served ∧
        (of (Sample.readding ++ .done 0 (.plain "first") :: [.next 2, .next 3])).handOuts =
          (of Sample.readding).handOuts ++ served) ∧
      (of (Sample.readding ++ [.shutdown] ++ [.done 0 (.plain "first"), .next 2])).handOuts =
        (of (Sample.readding ++ [.shutdown])).handOuts := by
  have loses := calls_lose_nothing Sample.readding
  have stopped := calls_lose_nothing (Sample.readding ++ [.shutdown])
  have honest : IsHonest {} Sample.readding := by decide +kernel
  have running : QueueCall.shutdown ∉ Sample.readding := by decide +kernel
  have added : .plain "first" ∈ (of Sample.readding).added := by decide +kernel
  have shut : QueueCall.shutdown ∈ Sample.readding ++ [.shutdown] := by decide +kernel
  obtain ⟨wants, served⟩ := loses.2.2.1 running _ added
  refine ⟨honest, running, (loses.2.1 honest).1, added, wants, ?_, ?_⟩
  · exact served 0 [.next 2, .next 3] (by decide +kernel) (by decide +kernel)
  · exact (stopped.2.2.2.2 shut).1 _

end QueueHistory

end Steward
