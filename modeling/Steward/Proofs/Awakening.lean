/-
This file shows that no wake-up is lost at a work queue.
The queue is changed first and a caller is woken for it later, and callers look, start to wait,
notice and give up meanwhile. What waits in the queue is then always on its way to be noticed: there
is a wake-up to come, or one that is kept, or a caller that has been woken or is about to look.
-/

import Steward.Proofs.WorkQueue
import Steward.Queue.Callers

namespace Steward

namespace WorkQueue

variable {queue : WorkQueue} {id : RecordId}

/-- An identity that is let wait without a wake-up waited before. -/
theorem pending_enqueue_of_quiet (quiet : (queue.enqueue id).1 = false) :
    (queue.enqueue id).2.pending = queue.pending := by
  unfold enqueue at quiet ⊢
  split
  · rfl
  · rename_i free
    rw [if_neg free] at quiet
    cases quiet

/-- What is added without a wake-up does not wait anew. -/
theorem pending_add_of_quiet (quiet : (queue.add id).1 = false) :
    (queue.add id).2.pending = queue.pending := by
  unfold add at quiet ⊢
  split
  · rfl
  · rename_i running
    rw [if_neg running] at quiet
    split
    · rfl
    · rename_i free
      rw [if_neg free] at quiet
      exact pending_enqueue_of_quiet quiet

/-- What is given back without a wake-up does not wait anew. -/
theorem pending_done_of_quiet (quiet : (queue.done id).1 = false) :
    (queue.done id).2.pending = queue.pending := by
  unfold done at quiet ⊢
  dsimp only at quiet ⊢
  split
  · rename_i again
    rw [if_pos again] at quiet
    exact pending_enqueue_of_quiet quiet
  · rfl

end WorkQueue

/-- A queue room in which a wake-up comes later than the change that calls for it. -/
structure QueueHall where
  room : QueueRoom := {}
  /-- How many wake-ups for one caller are still to come. -/
  dueOne : Nat := 0
  /-- How many wake-ups for all callers are still to come. -/
  dueAll : Nat := 0
  deriving DecidableEq

/-- What can happen in a queue hall. -/
inductive HallMove where
  /-- Somebody asks for the next identity, unless he is about that already. -/
  | call (caller : Nat)
  | step (caller : Nat)
  /-- A caller that waits gives up. -/
  | abandon (caller : Nat)
  | add (id : RecordId)
  | done (id : RecordId)
  | shutdown
  /-- A wake-up for one caller comes. -/
  | wakeOne
  /-- A wake-up for all callers comes. -/
  | wakeAll
  deriving DecidableEq

namespace QueueHall

/-- Changes the queue, and owes a wake-up if the change calls for it. -/
def change (hall : QueueHall) (result : Bool × WorkQueue) : QueueHall :=
  { hall with
    room := { hall.room with queue := result.2 }
    dueOne := if result.1 then hall.dueOne + 1 else hall.dueOne }

/-- The hall after a move; a move that cannot be made changes nothing. -/
def carryOut (hall : QueueHall) : HallMove → QueueHall
  | .call caller =>
      match hall.room.callers.get? caller with
      | none | some (.returned _) => { hall with room := hall.room.call caller }
      | some _ => hall
  | .step caller => { hall with room := (hall.room.step? caller).getD hall.room }
  | .abandon caller =>
      if hall.room.callers.get? caller = some .waiting then
        { hall with room := hall.room.abandon caller }
      else hall
  | .add id => hall.change (hall.room.queue.add id)
  | .done id => hall.change (hall.room.queue.done id)
  | .shutdown =>
      { hall with
        room := { hall.room with queue := hall.room.queue.shutdown }
        dueAll := hall.dueAll + 1 }
  | .wakeOne =>
      if hall.dueOne = 0 then hall
      else
        { hall with
          room := { hall.room with notifier := hall.room.notifier.notifyOne }
          dueOne := hall.dueOne - 1 }
  | .wakeAll =>
      if hall.dueAll = 0 then hall
      else
        { hall with
          room := { hall.room with notifier := hall.room.notifier.notifyAll }
          dueAll := hall.dueAll - 1 }

/-- The hall after a row of moves. -/
def play (hall : QueueHall) (moves : List HallMove) : QueueHall :=
  moves.foldl carryOut hall

/-- A change whose wake-up comes at once is the one that the room makes. -/
theorem change_carryOut_wakeOne (room : QueueRoom) (result : Bool × WorkQueue) :
    (change { room } result).carryOut .wakeOne = { room := room.change result } := by
  obtain ⟨wakes, queue⟩ := result
  cases wakes
  · rfl
  · rfl

theorem play_shutdown_wakeAll (room : QueueRoom) :
    play { room } [.shutdown, .wakeAll] = { room := room.shutdown } :=
  rfl

/-- No wake-up is to come, and no caller can take a step. -/
def IsStill (hall : QueueHall) : Prop :=
  hall.dueOne = 0 ∧ hall.dueAll = 0 ∧ ∀ caller, hall.room.step? caller = none

/-- A hall is still when no wake-up is due and no caller can move. -/
theorem isStill_iff {hall : QueueHall} :
    hall.IsStill ↔ hall.dueOne = 0 ∧ hall.dueAll = 0 ∧
      ∀ caller ∈ hall.room.callers.keys, hall.room.step? caller = none := by
  unfold IsStill
  refine and_congr_right fun _ => and_congr_right fun _ => ⟨fun stuck caller _ => stuck caller, ?_⟩
  intro stuck caller
  by_cases present : caller ∈ hall.room.callers.keys
  · exact stuck caller present
  · rw [Table.mem_keys_iff, Table.contains, Bool.not_eq_true, Option.isSome_eq_false_iff,
      Option.isNone_iff_eq_none] at present
    rw [QueueRoom.step?, present]

instance (hall : QueueHall) : Decidable hall.IsStill :=
  decidable_of_iff _ isStill_iff.symm

end QueueHall

namespace Notifier

/-- A caller waits to be woken, or has been woken alone and has not noticed. -/
def Knows (notifier : Notifier) (caller : Nat) : Prop :=
  caller ∈ notifier.waiting ∨ caller ∈ notifier.wokenAlone

/-- A wake-up for one caller is kept, or somebody has it and has not noticed. -/
def Stirs (notifier : Notifier) : Prop :=
  notifier.permit = true ∨ notifier.wokenAlone ≠ []

/-- Nobody is known twice, and a wake-up is kept only while nobody waits. -/
structure IsOrderly (notifier : Notifier) : Prop where
  nodup : (notifier.waiting ++ notifier.wokenAlone).Nodup
  quiet : notifier.permit = true → notifier.waiting = []

variable {notifier : Notifier} {caller other : Nat}

/-- A wake-up for one caller is kept or given. -/
theorem stirs_notifyOne (notifier : Notifier) : notifier.notifyOne.Stirs := by
  unfold notifyOne
  split
  · exact .inl rfl
  · exact .inr (by simp)

/-- To wake one caller lets nobody else begin to wait. -/
theorem mem_waiting_notifyOne (waits : other ∈ notifier.notifyOne.waiting) :
    other ∈ notifier.waiting := by
  unfold notifyOne at waits
  split at waits
  · exact waits
  · rename_i first rest row
    rw [row]
    exact List.mem_cons_of_mem _ waits

/-- To wake one caller makes nobody known. -/
theorem knows_of_notifyOne (knows : notifier.notifyOne.Knows other) : notifier.Knows other := by
  unfold notifyOne Knows at knows
  unfold Knows
  split at knows
  · exact knows
  · rename_i first rest row
    rw [row]
    simpa [or_assoc, or_left_comm, or_comm] using knows

/-- To wake one caller keeps the notifier in order. -/
theorem IsOrderly.notifyOne (orderly : notifier.IsOrderly) : notifier.notifyOne.IsOrderly := by
  obtain ⟨nodup, quiet⟩ := orderly
  unfold Notifier.notifyOne
  split
  · rename_i empty
    exact ⟨nodup, fun _ => empty⟩
  · rename_i first rest row
    rw [row] at nodup quiet
    refine ⟨?_, fun kept => absurd (quiet kept) nofun⟩
    have moved : (rest ++ (notifier.wokenAlone ++ [first])).Perm
        (first :: rest ++ notifier.wokenAlone) := by
      rw [← List.append_assoc]
      exact List.perm_append_singleton first (rest ++ notifier.wokenAlone)
    exact moved.nodup_iff.2 nodup

/-- Who is woken alone does not wait any more. -/
theorem IsOrderly.apart (orderly : notifier.IsOrderly) (woken : caller ∈ notifier.wokenAlone) :
    caller ∉ notifier.waiting := by
  intro waits
  exact (List.nodup_append.1 orderly.nodup).2.2 caller waits caller woken rfl

/-- Who enters becomes known, and nobody else does. -/
theorem knows_enter (knows : (notifier.enter caller).Knows other) :
    notifier.Knows other ∨ other = caller := by
  unfold enter at knows
  split at knows
  · exact .inl knows
  · rcases knows with waits | woken
    · rcases List.mem_append.1 waits with before | own
      · exact .inl (.inl before)
      · exact .inr (List.mem_singleton.1 own)
    · exact .inl (.inr woken)

/-- Who is not known yet may enter. -/
theorem IsOrderly.enter (orderly : notifier.IsOrderly) (unknown : ¬ notifier.Knows caller) :
    (notifier.enter caller).IsOrderly := by
  obtain ⟨nodup, quiet⟩ := orderly
  unfold Notifier.enter
  split
  · exact ⟨nodup, nofun⟩
  · rename_i gone
    refine ⟨?_, fun kept => absurd kept gone⟩
    have moved : (notifier.waiting ++ [caller] ++ notifier.wokenAlone).Perm
        (caller :: (notifier.waiting ++ notifier.wokenAlone)) := by
      rw [List.append_assoc]
      exact List.perm_middle
    refine moved.nodup_iff.2 (List.nodup_cons.2 ⟨fun member => unknown ?_, nodup⟩)
    exact List.mem_append.1 member

theorem mem_waiting_enter (waits : other ∈ (notifier.enter caller).waiting)
    (apart : other ≠ caller) : other ∈ notifier.waiting := by
  unfold enter at waits
  split at waits
  · exact waits
  · rcases List.mem_append.1 waits with before | own
    · exact before
    · exact absurd (List.mem_singleton.1 own) apart

theorem IsOrderly.notice (orderly : notifier.IsOrderly) (caller : Nat) :
    (notifier.notice caller).IsOrderly := by
  refine ⟨orderly.nodup.sublist ?_, orderly.quiet⟩
  exact List.Sublist.append (List.Sublist.refl _) List.erase_sublist

/-- Who has noticed and does not wait is not known any more. -/
theorem knows_notice (orderly : notifier.IsOrderly)
    (knows : (notifier.notice caller).Knows other) :
    notifier.Knows other ∧ (caller ∉ notifier.waiting → other ≠ caller) := by
  have distinct : notifier.wokenAlone.Nodup := (List.nodup_append.1 orderly.nodup).2.1
  rcases knows with waits | woken
  · exact ⟨.inl waits, fun gone same => gone (same ▸ waits)⟩
  · obtain ⟨apart, member⟩ := distinct.mem_erase_iff.1 woken
    exact ⟨.inr member, fun _ => apart⟩

/-- To leave keeps the notifier in order. -/
theorem IsOrderly.leave (orderly : notifier.IsOrderly) (caller : Nat) :
    (notifier.leave caller).IsOrderly := by
  unfold Notifier.leave
  split
  · exact (orderly.notice caller).notifyOne
  · refine ⟨orderly.nodup.sublist ?_, fun kept => ?_⟩
    · exact List.Sublist.append List.erase_sublist (List.Sublist.refl _)
    · dsimp only at kept ⊢
      rw [orderly.quiet kept, List.erase_nil]

/-- Who leaves is not known any more. -/
theorem knows_leave (orderly : notifier.IsOrderly)
    (knows : (notifier.leave caller).Knows other) : notifier.Knows other ∧ other ≠ caller := by
  unfold leave at knows
  split at knows
  · rename_i woken
    obtain ⟨known, apart⟩ := knows_notice orderly (knows_of_notifyOne knows)
    exact ⟨known, apart (orderly.apart woken)⟩
  · rename_i asleep
    rcases knows with waits | woken
    · have distinct : notifier.waiting.Nodup := (List.nodup_append.1 orderly.nodup).1
      obtain ⟨apart, member⟩ := distinct.mem_erase_iff.1 waits
      exact ⟨.inl member, apart⟩
    · exact ⟨.inr woken, fun same => asleep (same ▸ woken)⟩

/-- Who leaves passes on a wake-up that he has not noticed. -/
theorem Stirs.leave (stirs : notifier.Stirs) (caller : Nat) : (notifier.leave caller).Stirs := by
  unfold Notifier.leave
  split
  · exact stirs_notifyOne _
  · exact stirs

theorem mem_waiting_leave (waits : other ∈ (notifier.leave caller).waiting) :
    other ∈ notifier.waiting := by
  unfold leave at waits
  split at waits
  · exact @mem_waiting_notifyOne (notifier.notice caller) other waits
  · exact List.mem_of_mem_erase waits

end Notifier

namespace CallPhase

/-- The caller may be known to the notifier. -/
def IsEnrolled : CallPhase → Prop
  | .looking | .passingOn _ | .leaving _ | .waiting => True
  | .entering | .returned _ => False

/-- The caller is about to look at the queue or to wake another one. -/
def IsAlert : CallPhase → Prop
  | .entering | .looking | .passingOn _ => True
  | .leaving _ | .waiting | .returned _ => False

def HasReturned : CallPhase → Prop
  | .returned _ => True
  | _ => False

end CallPhase

namespace QueueHall

/-- Every caller known to the notifier is in the midst of a call. What waits in the queue is on its
way to be noticed, and after a shutdown so is the shutdown by everybody who waits. -/
structure IsWatched (hall : QueueHall) : Prop where
  orderly : hall.room.notifier.IsOrderly
  known : ∀ caller, hall.room.notifier.Knows caller →
    ∃ phase, hall.room.callers.get? caller = some phase ∧ phase.IsEnrolled
  noticed : hall.room.queue.isShutdown = false → hall.room.queue.pending ≠ [] →
    hall.room.notifier.Stirs ∨ 0 < hall.dueOne ∨
      ∃ caller phase, hall.room.callers.get? caller = some phase ∧ phase.IsAlert
  dismissed : hall.room.queue.isShutdown = true → 0 < hall.dueAll ∨
    ∀ caller ∈ hall.room.notifier.waiting, hall.room.callers.get? caller ≠ some .waiting

variable {hall : QueueHall} {caller : Nat}

/-- In an empty hall nothing waits to be noticed. -/
theorem isWatched_empty : IsWatched {} where
  orderly := ⟨List.nodup_nil, nofun⟩
  known := by
    rintro caller (waits | woken)
    · cases waits
    · cases woken
  noticed := fun _ waits => absurd rfl waits
  dismissed := nofun

/-- A move of one caller leaves the hall watched if he is about to look himself, or leaves a wake-up
behind, or was not about to look before either. -/
theorem IsWatched.of_caller (watched : hall.IsWatched) {queue : WorkQueue} {notifier : Notifier}
    {callers : Table Nat CallPhase}
    (others : ∀ other, other ≠ caller → callers.get? other = hall.room.callers.get? other)
    (orderly : notifier.IsOrderly)
    (known : ∀ other, notifier.Knows other → (other ≠ caller ∧ hall.room.notifier.Knows other) ∨
      ∃ phase, callers.get? other = some phase ∧ phase.IsEnrolled)
    (noticed : queue.isShutdown = false → queue.pending ≠ [] → notifier.Stirs ∨
      (∃ phase, callers.get? caller = some phase ∧ phase.IsAlert) ∨
      (hall.room.queue = queue ∧ (hall.room.notifier.Stirs → notifier.Stirs) ∧
        ∀ phase, hall.room.callers.get? caller = some phase → ¬ phase.IsAlert))
    (dismissed : queue.isShutdown = true → hall.room.queue.isShutdown = true ∧
      callers.get? caller ≠ some .waiting ∧
      ∀ other ∈ notifier.waiting, other ≠ caller → other ∈ hall.room.notifier.waiting) :
    IsWatched { hall with room := { queue, notifier, callers } } where
  orderly := orderly
  known := by
    intro other knows
    rcases known other knows with ⟨apart, before⟩ | enrolled
    · obtain ⟨phase, stands, enrolled⟩ := watched.known other before
      exact ⟨phase, (others other apart).trans stands, enrolled⟩
    · exact enrolled
  noticed := by
    intro running waits
    rcases noticed running waits with stirs | ⟨phase, stands, alert⟩ | ⟨rfl, stirs, idle⟩
    · exact .inl stirs
    · exact .inr (.inr ⟨caller, phase, stands, alert⟩)
    · rcases watched.noticed running waits with before | due | ⟨other, phase, stands, alert⟩
      · exact .inl (stirs before)
      · exact .inr (.inl due)
      · have apart : other ≠ caller := by
          rintro rfl
          exact idle phase stands alert
        exact .inr (.inr ⟨other, phase, (others other apart).trans stands, alert⟩)
  dismissed := by
    intro stopped
    obtain ⟨before, moved, fewer⟩ := dismissed stopped
    refine (watched.dismissed before).imp_right fun left other waits => ?_
    by_cases own : other = caller
    · rw [own]
      exact moved
    · rw [others other own]
      exact left other (fewer other waits own)

section Moves

theorem get?_setPhase_of_ne {room : QueueRoom} {phase : CallPhase} {other : Nat}
    (apart : other ≠ caller) :
    (room.callers.insert caller phase).get? other = room.callers.get? other :=
  (Table.get?_insert _ _ _ _).trans (if_neg apart)

theorem get?_setPhase_self {room : QueueRoom} {phase : CallPhase} :
    (room.callers.insert caller phase).get? caller = some phase :=
  (Table.get?_insert _ _ _ _).trans (if_pos rfl)

/-- Nobody is known who is not in the midst of a call, past its beginning. -/
theorem IsWatched.not_knows (watched : hall.IsWatched)
    (idle : ∀ phase, hall.room.callers.get? caller = some phase → ¬ phase.IsEnrolled) :
    ¬ hall.room.notifier.Knows caller := by
  intro knows
  obtain ⟨phase, stands, enrolled⟩ := watched.known caller knows
  exact idle phase stands enrolled

/-- A caller who begins a call leaves the hall watched. -/
theorem IsWatched.call (watched : hall.IsWatched) (caller : Nat) :
    (hall.carryOut (.call caller)).IsWatched := by
  have begins : (∀ phase, hall.room.callers.get? caller = some phase → ¬ phase.IsEnrolled) →
      IsWatched { hall with room := hall.room.call caller } := by
    intro idle
    have unknown := watched.not_knows idle
    refine watched.of_caller (fun _ => get?_setPhase_of_ne) watched.orderly ?_ ?_ ?_
    · intro other knows
      exact .inl ⟨fun own => unknown (own ▸ knows), knows⟩
    · intro _ _
      exact .inr (.inl ⟨.entering, get?_setPhase_self, trivial⟩)
    · intro stopped
      refine ⟨stopped, ?_, fun _ waits _ => waits⟩
      rw [get?_setPhase_self]
      nofun
  unfold carryOut
  dsimp only
  split
  · rename_i absent
    apply begins
    intro phase stands
    cases absent.symm.trans stands
  · rename_i result returned
    apply begins
    intro phase stands
    cases returned.symm.trans stands
    exact id
  · exact watched

/-- A step leaves the notifier alone in which a caller looks: he takes an identity, or there is
nothing to take, or he learns of the shutdown. -/
theorem IsWatched.look (watched : hall.IsWatched) :
    IsWatched { hall with room := hall.room.look caller } := by
  have stays : ∀ {queue : WorkQueue} {phase : CallPhase}, phase.IsEnrolled →
      (queue.isShutdown = false → queue.pending ≠ [] → phase.IsAlert) →
      (queue.isShutdown = true → hall.room.queue.isShutdown = true ∧ phase ≠ .waiting) →
      IsWatched { hall with room := { hall.room with queue }.setPhase caller phase } := by
    intro queue phase enrolled alert leaves
    refine watched.of_caller (fun _ => get?_setPhase_of_ne) watched.orderly ?_ ?_ ?_
    · intro other knows
      by_cases own : other = caller
      · rw [own]
        exact .inr ⟨phase, get?_setPhase_self, enrolled⟩
      · exact .inl ⟨own, knows⟩
    · intro running waits
      exact .inr (.inl ⟨phase, get?_setPhase_self, alert running waits⟩)
    · intro stopped
      obtain ⟨before, left⟩ := leaves stopped
      refine ⟨before, ?_, fun _ waits _ => waits⟩
      rw [get?_setPhase_self]
      exact fun same => left (Option.some.inj same)
  unfold QueueRoom.look
  split
  · rename_i stopped
    apply @stays hall.room.queue (.leaving none) trivial
    · intro running
      cases running.symm.trans stopped
    · intro _
      exact ⟨stopped, nofun⟩
  · rename_i running
    split
    · rename_i nothing
      apply @stays hall.room.queue .waiting trivial
      · intro _ waits
        rcases WorkQueue.take?_eq_none nothing with stopped | empty
        · exact absurd stopped running
        · exact absurd empty waits
      · intro stopped
        exact absurd stopped running
    · rename_i id queue taken
      have opened : queue.isShutdown = false := by
        obtain ⟨before, rest, -, rfl⟩ := WorkQueue.take?_eq_some taken
        exact before
      apply stays
      · split
        · trivial
        · trivial
      · intro _ waits
        rw [WorkQueue.isEmpty, if_neg (by simpa using waits)]
        trivial
      · intro stopped
        cases opened.symm.trans stopped

/-- A caller that enters is known from then on, and looks next. -/
theorem IsWatched.enter (watched : hall.IsWatched)
    (entering : hall.room.callers.get? caller = some .entering) :
    IsWatched { hall with
      room := { hall.room with notifier := hall.room.notifier.enter caller }.setPhase caller
        .looking } := by
  have unknown : ¬ hall.room.notifier.Knows caller := by
    apply watched.not_knows
    intro phase stands
    cases entering.symm.trans stands
    exact id
  refine watched.of_caller (fun _ => get?_setPhase_of_ne) (watched.orderly.enter unknown) ?_ ?_ ?_
  · intro other knows
    rcases Notifier.knows_enter knows with before | rfl
    · exact .inl ⟨fun own => unknown (own ▸ before), before⟩
    · exact .inr ⟨.looking, get?_setPhase_self, trivial⟩
  · intro _ _
    exact .inr (.inl ⟨.looking, get?_setPhase_self, trivial⟩)
  · intro stopped
    refine ⟨stopped, ?_, fun _ => Notifier.mem_waiting_enter⟩
    exact fun same => nomatch get?_setPhase_self.symm.trans same

/-- A caller that has left something behind wakes another before it leaves. -/
theorem IsWatched.passOn (watched : hall.IsWatched) (id : RecordId) :
    IsWatched { hall with
      room := { hall.room with notifier := hall.room.notifier.notifyOne }.setPhase caller
        (.leaving (some id)) } := by
  refine watched.of_caller (fun _ => get?_setPhase_of_ne) watched.orderly.notifyOne ?_ ?_ ?_
  · intro other knows
    by_cases own : other = caller
    · rw [own]
      exact .inr ⟨_, get?_setPhase_self, trivial⟩
    · exact .inl ⟨own, Notifier.knows_of_notifyOne knows⟩
  · intro _ _
    exact .inl (Notifier.stirs_notifyOne _)
  · intro stopped
    refine ⟨stopped, ?_, fun _ waits _ => Notifier.mem_waiting_notifyOne waits⟩
    exact fun same => nomatch get?_setPhase_self.symm.trans same

/-- A wake-up that a caller has got and leaves with goes to another. -/
theorem IsWatched.leave (watched : hall.IsWatched) {result : Option RecordId}
    (leaving : hall.room.callers.get? caller = some (.leaving result)) :
    IsWatched { hall with
      room := { hall.room with notifier := hall.room.notifier.leave caller }.setPhase caller
        (.returned result) } := by
  refine watched.of_caller (fun _ => get?_setPhase_of_ne) (watched.orderly.leave caller) ?_ ?_ ?_
  · intro other knows
    exact .inl (Notifier.knows_leave watched.orderly knows).symm
  · intro _ _
    refine .inr (.inr ⟨rfl, fun stirs => stirs.leave caller, fun phase stands => ?_⟩)
    cases leaving.symm.trans stands
    exact id
  · intro stopped
    refine ⟨stopped, ?_, fun _ waits _ => Notifier.mem_waiting_leave waits⟩
    exact fun same => nomatch get?_setPhase_self.symm.trans same

/-- A caller that notices that it has been woken enters again. -/
theorem IsWatched.notice (watched : hall.IsWatched)
    (gone : caller ∉ hall.room.notifier.waiting) :
    IsWatched { hall with
      room := { hall.room with notifier := hall.room.notifier.notice caller }.setPhase caller
        .entering } := by
  refine watched.of_caller (fun _ => get?_setPhase_of_ne) (watched.orderly.notice caller) ?_ ?_ ?_
  · intro other knows
    obtain ⟨before, apart⟩ := Notifier.knows_notice watched.orderly knows
    exact .inl ⟨apart gone, before⟩
  · intro _ _
    exact .inr (.inl ⟨.entering, get?_setPhase_self, trivial⟩)
  · intro stopped
    refine ⟨stopped, ?_, fun _ waits _ => waits⟩
    exact fun same => nomatch get?_setPhase_self.symm.trans same

/-- Whatever step a caller takes, the hall stays watched. -/
theorem IsWatched.step (watched : hall.IsWatched) (caller : Nat) :
    (hall.carryOut (.step caller)).IsWatched := by
  unfold carryOut
  dsimp only
  cases stepped : hall.room.step? caller with
  | none => exact watched
  | some room =>
      unfold QueueRoom.step? at stepped
      split at stepped
      · rename_i entering
        cases stepped
        exact watched.enter entering
      · cases stepped
        exact watched.look
      · cases stepped
        exact watched.passOn _
      · rename_i result leaving
        cases stepped
        exact watched.leave leaving
      · split at stepped
        · cases stepped
        · rename_i woken
          cases stepped
          exact watched.notice (by simpa [Notifier.isWaiting] using woken)
      · cases stepped
      · cases stepped

/-- A caller who gives up leaves the hall watched, since a wake-up it was given is passed on. -/
theorem IsWatched.abandon (watched : hall.IsWatched) (caller : Nat) :
    (hall.carryOut (.abandon caller)).IsWatched := by
  unfold carryOut
  dsimp only
  split
  · rename_i waiting
    have gone : (hall.room.callers.erase caller).get? caller = none :=
      (Table.get?_erase _ _ _).trans (if_pos rfl)
    have others : ∀ other, other ≠ caller →
        (hall.room.callers.erase caller).get? other = hall.room.callers.get? other :=
      fun other apart => (Table.get?_erase _ _ _).trans (if_neg apart)
    refine watched.of_caller others (watched.orderly.leave caller) ?_ ?_ ?_
    · intro other knows
      exact .inl (Notifier.knows_leave watched.orderly knows).symm
    · intro _ _
      refine .inr (.inr ⟨rfl, fun stirs => stirs.leave caller, fun phase stands => ?_⟩)
      cases waiting.symm.trans stands
      exact id
    · intro stopped
      refine ⟨stopped, ?_, fun _ waits _ => Notifier.mem_waiting_leave waits⟩
      exact fun same => nomatch gone.symm.trans same
  · exact watched

/-- A change of the queue that lets an identity wait owes a wake-up. -/
theorem IsWatched.change (watched : hall.IsWatched) {result : Bool × WorkQueue}
    (still : result.2.isShutdown = hall.room.queue.isShutdown)
    (quiet : result.1 = false → result.2.pending = hall.room.queue.pending) :
    (hall.change result).IsWatched where
  orderly := watched.orderly
  known := watched.known
  noticed := by
    intro running waits
    change result.2.isShutdown = false at running
    change result.2.pending ≠ [] at waits
    change _ ∨ 0 < (if result.1 then hall.dueOne + 1 else hall.dueOne) ∨ _
    cases wakes : result.1 with
    | true => exact .inr (.inl (Nat.succ_pos _))
    | false =>
        rw [still] at running
        rw [quiet wakes] at waits
        exact watched.noticed running waits
  dismissed := fun stopped => watched.dismissed (still.symm.trans stopped)

/-- A shutdown leaves the hall watched, since a wake-up for everybody is due after it. -/
theorem IsWatched.shutdown (watched : hall.IsWatched) : (hall.carryOut .shutdown).IsWatched where
  orderly := watched.orderly
  known := watched.known
  noticed := nofun
  dismissed := fun _ => .inl (Nat.succ_pos _)

/-- A wake-up for one caller leaves the hall watched when it comes. -/
theorem IsWatched.wakeOne (watched : hall.IsWatched) : (hall.carryOut .wakeOne).IsWatched := by
  unfold carryOut
  dsimp only
  split
  · exact watched
  · refine ⟨watched.orderly.notifyOne, fun caller knows => ?_, fun _ _ => ?_, fun stopped => ?_⟩
    · exact watched.known caller (Notifier.knows_of_notifyOne knows)
    · exact .inl (Notifier.stirs_notifyOne _)
    · refine (watched.dismissed stopped).imp_right fun left caller waits => ?_
      exact left caller (Notifier.mem_waiting_notifyOne waits)

/-- A wake-up for everybody leaves the hall watched when it comes. -/
theorem IsWatched.wakeAll (watched : hall.IsWatched) : (hall.carryOut .wakeAll).IsWatched := by
  unfold carryOut
  dsimp only
  split
  · exact watched
  · refine ⟨⟨?_, fun _ => rfl⟩, fun caller knows => ?_, watched.noticed, fun _ => .inr nofun⟩
    · exact (List.nodup_append.1 watched.orderly.nodup).2.1
    · rcases knows with waits | woken
      · cases waits
      · exact watched.known caller (.inr woken)

/-- Every move keeps the hall watched. -/
theorem IsWatched.carryOut (watched : hall.IsWatched) (move : HallMove) :
    (hall.carryOut move).IsWatched := by
  cases move with
  | call caller => exact watched.call caller
  | step caller => exact watched.step caller
  | abandon caller => exact watched.abandon caller
  | add id =>
      exact watched.change (hall.room.queue.isShutdown_add id) WorkQueue.pending_add_of_quiet
  | done id =>
      exact watched.change (hall.room.queue.isShutdown_done id) WorkQueue.pending_done_of_quiet
  | shutdown => exact watched.shutdown
  | wakeOne => exact watched.wakeOne
  | wakeAll => exact watched.wakeAll

/-- So do all moves of a row, one after the other. -/
theorem IsWatched.play (watched : hall.IsWatched) (moves : List HallMove) :
    (hall.play moves).IsWatched := by
  induction moves generalizing hall with
  | nil => exact watched
  | cons move rest inductionHypothesis => exact inductionHypothesis (watched.carryOut move)

end Moves

/-- In a still hall a caller has returned, or he waits and nothing has woken him. -/
theorem IsStill.cases (still : hall.IsStill) {phase : CallPhase}
    (stands : hall.room.callers.get? caller = some phase) :
    phase.HasReturned ∨ (phase = .waiting ∧ caller ∈ hall.room.notifier.waiting) := by
  have stuck := still.2.2 caller
  unfold QueueRoom.step? at stuck
  rw [stands] at stuck
  cases phase with
  | entering | looking | passingOn _ | leaving _ => cases stuck
  | returned result => exact .inl trivial
  | waiting =>
      dsimp only at stuck
      split at stuck
      · rename_i waits
        exact .inr ⟨rfl, by simpa [Notifier.isWaiting] using waits⟩
      · cases stuck

/-- Whoever waits in a still hall has been overlooked by nothing: the queue runs and is empty. -/
theorem IsWatched.of_still (watched : hall.IsWatched) (still : hall.IsStill)
    (waits : hall.room.callers.get? caller = some .waiting) :
    hall.room.queue.isShutdown = false ∧ hall.room.queue.pending = [] := by
  have asleep : caller ∈ hall.room.notifier.waiting :=
    (still.cases waits).elim False.elim And.right
  have running : hall.room.queue.isShutdown = false := by
    rw [Bool.eq_false_iff]
    intro stopped
    rcases watched.dismissed stopped with due | left
    · rw [still.2.1] at due
      cases due
    · exact left caller asleep waits
  refine ⟨running, ?_⟩
  by_contra pending
  rcases watched.noticed running pending with (kept | woken) | due | ⟨other, phase, stands, alert⟩
  · rw [watched.orderly.quiet kept] at asleep
    cases asleep
  · obtain ⟨other, member⟩ := List.exists_mem_of_ne_nil _ woken
    obtain ⟨phase, stands, enrolled⟩ := watched.known other (.inr member)
    rcases still.cases stands with returned | ⟨-, asleep⟩
    · cases phase with
      | returned result => exact enrolled
      | _ => exact returned
    · exact watched.orderly.apart member asleep
  · rw [still.1] at due
    cases due
  · rcases still.cases stands with returned | ⟨rfl, -⟩
    · cases phase with
      | returned result => exact alert
      | _ => exact returned
    · exact alert

/-- However callers ask, look, wait and give up between the changes of a queue and the wake-ups for
them: when nobody can take a step any more and no wake-up is to come, then every caller has returned
if the queue has been shut down or something waits in it. -/
theorem no_wake_up_is_lost (moves : List HallMove) (still : (play {} moves).IsStill)
    (reason : (play {} moves).room.queue.isShutdown = true ∨
      (play {} moves).room.queue.pending ≠ []) (caller : Nat) (phase : CallPhase)
    (stands : (play {} moves).room.callers.get? caller = some phase) : phase.HasReturned := by
  have watched := isWatched_empty.play moves
  rcases still.cases stands with returned | ⟨rfl, -⟩
  · exact returned
  · obtain ⟨running, empty⟩ := watched.of_still still stands
    rcases reason with stopped | pending
    · cases running.symm.trans stopped
    · exact absurd empty pending

end QueueHall

namespace Sample

/-- Two callers start to wait, and the one who is woken for the first identity gives up; two more
identities come before the other one looks. -/
def rush : List HallMove :=
  [.call 1, .step 1, .step 1, .call 2, .step 2, .step 2, .add (.plain "first"), .wakeOne,
    .abandon 1, .add (.plain "second"), .add (.plain "third"), .wakeOne] ++
    List.replicate 5 (.step 2) ++ [.wakeOne]

end Sample

namespace QueueHall

/-- The wake-up that was passed on has its identity fetched, and nobody waits for the others. -/
theorem no_wake_up_is_lost_of_rush :
    (play {} Sample.rush).IsStill ∧
      (play {} Sample.rush).room.queue.pending = [.plain "second", .plain "third"] ∧
      (play {} Sample.rush).room.callers.get? 2 =
        some (.returned (some (.plain "first"))) ∧
      ∀ caller phase, (play {} Sample.rush).room.callers.get? caller = some phase →
        phase.HasReturned := by
  have still : (play {} Sample.rush).IsStill := by decide +kernel
  have pending : (play {} Sample.rush).room.queue.pending = [.plain "second", .plain "third"] := by
    decide +kernel
  refine ⟨still, pending, by decide +kernel, ?_⟩
  exact no_wake_up_is_lost Sample.rush still (.inr (by rw [pending]; nofun))

end QueueHall

end Steward
