/-
This file describes the moves of the two workers that empty a bucket.
Every move leaves less to do, and one of the workers can move until both have ended. The lister
keeps the order of the objects that are on their way to the remover.
-/

import Mathlib.Data.Option.Basic
import Steward.Deletion.Drain
import Steward.Proofs.Execution

namespace Steward

/-- How many moves the remover is from its end at least, when nothing is in its way. -/
def Remover.ahead : Remover → Nat
  | .waiting => 1
  | .removing _ => 2
  | .finished | .failed _ => 0

namespace Pipeline

/-- The object of an entry that can be read. -/
def readable : Except RemoteError ObjectInfo → Option String
  | .ok object => some object.key
  | .error _ => none

/-- The objects that the remover has not taken yet, in the order of the listing. -/
def onTheWay (pipeline : Pipeline) : List String :=
  pipeline.queue ++ (pipeline.held.toList ++ pipeline.unlisted.filterMap readable)

/-- What is left to do. -/
def ahead (pipeline : Pipeline) : Nat :=
  4 * pipeline.unlisted.length + 3 * pipeline.held.toList.length + 2 * pipeline.queue.length +
    pipeline.isListing.toNat + pipeline.remover.ahead

/-- A lister that has ended has told of every object. -/
def HasTold (pipeline : Pipeline) : Prop :=
  pipeline.isListing = false → pipeline.held = none ∧ pipeline.unlisted = []

variable {settings : DeletionSettings} {count : Nat} {pipeline next : Pipeline}

/-- What the lister can do: it gives up, puts an object into the queue, ends, skips an entry, or
reads one. -/
inductive Lists (settings : DeletionSettings) (pipeline : Pipeline) : Pipeline → Prop
  | giveUp {key : String} (holds : pipeline.held = some key)
      (stopped : pipeline.remover.hasStopped = true) :
      Lists settings pipeline { pipeline with isListing := false }
  | send {key : String} (holds : pipeline.held = some key)
      (room : pipeline.queue.length < settings.capacity) :
      Lists settings pipeline { pipeline with
        held := none
        queue := pipeline.queue ++ [key]
        listed := pipeline.listed + 1 }
  | finish (free : pipeline.held = none) (done : pipeline.unlisted = []) :
      Lists settings pipeline { pipeline with isListing := false }
  | skip {error : RemoteError} {rest : List (Except RemoteError ObjectInfo)}
      (free : pipeline.held = none) (entry : pipeline.unlisted = .error error :: rest) :
      Lists settings pipeline { pipeline with unlisted := rest, skipped := pipeline.skipped + 1 }
  | read {object : ObjectInfo} {rest : List (Except RemoteError ObjectInfo)}
      (free : pipeline.held = none) (entry : pipeline.unlisted = .ok object :: rest) :
      Lists settings pipeline { pipeline with unlisted := rest, held := some object.key }

/-- A move of the lister is one that a listing worker can make. -/
theorem lists_of_list? (listed : pipeline.list? settings = some next) :
    pipeline.isListing = true ∧ Lists settings pipeline next := by
  unfold list? at listed
  split at listed
  · cases listed
  · rename_i listing
    refine ⟨Decidable.of_not_not listing, ?_⟩
    split at listed
    · rename_i key holds
      split at listed
      · rename_i stopped
        cases listed
        exact .giveUp holds stopped
      · split at listed
        · rename_i room
          cases listed
          exact .send holds room
        · cases listed
    · rename_i free
      split at listed
      · rename_i done
        cases listed
        exact .finish free done
      · rename_i entry
        cases listed
        exact .skip free entry
      · rename_i entry
        cases listed
        exact .read free entry

namespace Lists

theorem remover_eq (lists : Lists settings pipeline next) : next.remover = pipeline.remover := by
  cases lists with
  | giveUp _ _ | send _ _ | finish _ _ | skip _ _ | read _ _ => rfl

/-- With each move of the lister less is left to do. -/
theorem ahead_lt (lists : Lists settings pipeline next) (listing : pipeline.isListing = true) :
    next.ahead < pipeline.ahead := by
  cases lists with
  | giveUp _ _ | finish _ _ =>
      simp only [ahead, listing, Bool.toNat_true, Bool.toNat_false]
      omega
  | send holds _ =>
      simp only [ahead, holds, Option.toList_some, Option.toList_none, List.length_append,
        List.length_singleton, List.length_nil]
      omega
  | skip _ entry =>
      simp only [ahead, entry, List.length_cons]
      omega
  | read free entry =>
      simp only [ahead, free, entry, Option.toList_some, Option.toList_none, List.length_cons,
        List.length_nil]
      omega

/-- While the remover works, the lister hands over all objects that can be read, in their order. -/
theorem onTheWay_eq (lists : Lists settings pipeline next)
    (works : pipeline.remover.hasStopped = false) : next.onTheWay = pipeline.onTheWay := by
  cases lists with
  | giveUp _ stopped => cases stopped.symm.trans works
  | send holds _ =>
      simp only [onTheWay, holds, Option.toList_some, Option.toList_none, List.append_assoc,
        List.nil_append]
  | finish _ _ => rfl
  | skip _ entry => simp only [onTheWay, entry, List.filterMap_cons, readable]
  | read free entry =>
      simp only [onTheWay, free, entry, readable, List.filterMap_cons, Option.toList_some,
        Option.toList_none, List.singleton_append, List.nil_append]

/-- A lister ends with objects untold only if the remover has stopped. -/
theorem hasTold (lists : Lists settings pipeline next) (listing : pipeline.isListing = true)
    (works : pipeline.remover.hasStopped = false) : next.HasTold := by
  intro ended
  cases lists with
  | giveUp _ stopped => cases stopped.symm.trans works
  | finish free done => exact ⟨free, done⟩
  | send _ _ | skip _ _ | read _ _ => cases listing.symm.trans ended

end Lists

/-- A remover that waits ends when there is nothing left to wait for, or takes a batch. -/
theorem receive?_cases (received : pipeline.receive? settings count = some next) :
    pipeline.remover = .waiting ∧
      ((pipeline.queue = [] ∧ pipeline.isListing = false ∧
          next = { pipeline with remover := .finished }) ∨
        ∃ size, 1 ≤ size ∧ size ≤ settings.limit ∧ pipeline.queue ≠ [] ∧
          next = { pipeline with
            remover := .removing (pipeline.queue.take size)
            queue := pipeline.queue.drop size }) := by
  unfold receive? at received
  cases remover : pipeline.remover with
  | waiting =>
      refine ⟨rfl, ?_⟩
      simp only [remover] at received
      split at received
      · rename_i empty
        split at received
        · cases received
        · rename_i ended
          cases received
          exact .inl ⟨List.isEmpty_iff.1 empty, Bool.eq_false_iff.2 ended, rfl⟩
      · rename_i full
        cases received
        have bounded : max 1 (min count settings.limit) ≤ settings.limit := by
          have room : 1 ≤ settings.limit := Nat.le_max_right _ _
          omega
        exact .inr ⟨_, Nat.le_max_left _ _, bounded, fun empty => full (List.isEmpty_iff.2 empty), rfl⟩
  | removing _ | finished | failed _ =>
      rw [remover] at received
      cases received

/-- The remover has less to do after a move of its own. -/
theorem ahead_lt_of_receive? (received : pipeline.receive? settings count = some next) :
    next.ahead < pipeline.ahead := by
  obtain ⟨waits, ⟨-, -, rfl⟩ | ⟨size, some, -, full, rfl⟩⟩ := receive?_cases received
  · simp only [ahead, waits, Remover.ahead]
    omega
  · have taken : 0 < pipeline.queue.length := List.length_pos_iff.2 full
    simp only [ahead, waits, Remover.ahead, List.length_drop]
    omega

/-- With each request of the remover less is left to do, whatever the answer. -/
theorem ahead_afterRemoval_lt {bucket : String} {batch : List String}
    (removing : pipeline.remover = .removing batch)
    (answer : Except RemoteError (List RemovalFailure)) :
    (pipeline.afterRemoval bucket batch answer).ahead < pipeline.ahead := by
  rcases answer with error | _ | ⟨failure, failures⟩
  all_goals
    simp only [afterRemoval, ahead, removing, Remover.ahead]
    omega

/-- One move of either worker, if `answer` is what the remote side says to a request made now. -/
inductive Step (settings : DeletionSettings) (bucket : String)
    (answer : Except RemoteError (List RemovalFailure)) (pipeline : Pipeline) : Pipeline → Prop
  | list {next : Pipeline} (listed : pipeline.list? settings = some next) :
      Step settings bucket answer pipeline next
  | receive {count : Nat} {next : Pipeline}
      (received : pipeline.receive? settings count = some next) :
      Step settings bucket answer pipeline next
  | remove {batch : List String} (removes : pipeline.remover = .removing batch) :
      Step settings bucket answer pipeline (pipeline.afterRemoval bucket batch answer)

/-- With each move of either worker less is left to do. -/
theorem Step.ahead_lt {bucket : String} {answer : Except RemoteError (List RemovalFailure)}
    (step : Step settings bucket answer pipeline next) : next.ahead < pipeline.ahead := by
  cases step with
  | list listed =>
      obtain ⟨listing, lists⟩ := lists_of_list? listed
      exact lists.ahead_lt listing
  | receive received => exact ahead_lt_of_receive? received
  | remove removes => exact ahead_afterRemoval_lt removes answer

/-- The workers have ended once the lister lists no more and the remover has stopped. -/
theorem hasEnded_iff :
    pipeline.hasEnded = true ↔ pipeline.isListing = false ∧ pipeline.remover.hasStopped = true := by
  rw [hasEnded, Bool.and_eq_true, Bool.not_eq_true']

/-- If nothing is left to do, the workers have ended. -/
theorem hasEnded_of_ahead (done : pipeline.ahead = 0) : pipeline.hasEnded = true := by
  rw [hasEnded_iff]
  constructor
  · cases listing : pipeline.isListing with
    | false => rfl
    | true =>
        simp only [ahead, listing, Bool.toNat_true] at done
        omega
  · cases remover : pipeline.remover with
    | finished | failed _ => rfl
    | waiting | removing _ =>
        simp only [ahead, remover, Remover.ahead] at done
        omega

/-- The lister only waits for room in the queue, as long as the remover has not stopped. -/
theorem list?_ne_none (listing : pipeline.isListing = true)
    (free : pipeline.remover.hasStopped = true ∨ pipeline.queue.length < settings.capacity) :
    pipeline.list? settings ≠ none := by
  intro idle
  simp only [list?, listing, not_true_eq_false, if_false] at idle
  split at idle
  · split at idle
    · cases idle
    · rename_i works
      rcases free with stopped | room
      · exact works stopped
      · rw [if_pos room] at idle
        cases idle
  · split at idle
    · cases idle
    · cases idle
    · cases idle

/-- When neither worker can move, the remover has stopped. -/
theorem hasStopped_of_stuck (idle : pipeline.list? settings = none)
    (busy : ∀ batch, pipeline.remover ≠ .removing batch)
    (waits : pipeline.receive? settings count = none) : pipeline.remover.hasStopped = true := by
  cases remover : pipeline.remover with
  | finished | failed _ => rfl
  | removing batch => exact absurd remover (busy batch)
  | waiting =>
      exfalso
      -- The remover waits for the lister, and the lister for room in a queue that is empty.
      simp only [receive?, remover] at waits
      split at waits
      · rename_i empty
        have none : pipeline.queue = [] := List.isEmpty_iff.1 empty
        have room : pipeline.queue.length < settings.capacity := by
          rw [none]
          exact Nat.lt_of_lt_of_le Nat.zero_lt_one (Nat.le_max_right _ _)
        split at waits
        · rename_i listing
          exact list?_ne_none listing (.inr room) idle
        · cases waits
      · cases waits

/-- When neither worker can move, both have ended. -/
theorem hasEnded_of_stuck (idle : pipeline.list? settings = none)
    (busy : ∀ batch, pipeline.remover ≠ .removing batch)
    (waits : pipeline.receive? settings count = none) : pipeline.hasEnded = true := by
  have stopped := hasStopped_of_stuck idle busy waits
  refine hasEnded_iff.2 ⟨Bool.eq_false_iff.2 fun listing => ?_, stopped⟩
  exact list?_ne_none listing (.inl stopped) idle

end Pipeline

namespace Drain

open Pass

variable {settings : DeletionSettings} {name : String} {bypass : Bool} {turn : Turn} {count : Nat}
  {pipeline : Pipeline}

/-- The request of a remover that has taken a batch. -/
def request (name : String) (bypass : Bool) (batch : List String) (pipeline : Pipeline) :
    Pass Pipeline := do
  let answer ← Pass.call (.removeObjects name batch bypass)
  return pipeline.afterRemoval name batch answer

/-- What a move can be: one of the lister, one of the remover, or a request. -/
inductive Moves (settings : DeletionSettings) (name : String) (bypass : Bool)
    (pipeline : Pipeline) : Pass Pipeline → Prop
  | list {next : Pipeline} (listed : pipeline.list? settings = some next) :
      Moves settings name bypass pipeline (pure next)
  | receive {count : Nat} {next : Pipeline}
      (received : pipeline.receive? settings count = some next) :
      Moves settings name bypass pipeline (pure next)
  | remove {batch : List String} (removes : pipeline.remover = .removing batch) :
      Moves settings name bypass pipeline (request name bypass batch pipeline)

/-- A turn of the lister is one of the moves of the workers. -/
theorem moves_of_list? {move : Pass Pipeline}
    (made : (pipeline.list? settings).map pure = some move) :
    Moves settings name bypass pipeline move := by
  obtain ⟨next, listed, rfl⟩ := Option.map_eq_some_iff.1 made
  exact .list listed

/-- A turn of the remover is one of the moves of the workers. -/
theorem moves_of_remove? {move : Pass Pipeline}
    (made : remove? settings name bypass count pipeline = some move) :
    Moves settings name bypass pipeline move := by
  unfold remove? at made
  split at made
  · rename_i removes
    cases made
    exact .remove removes
  · obtain ⟨next, received, rfl⟩ := Option.map_eq_some_iff.1 made
    exact .receive received

/-- A turn of either worker is one of their moves. -/
theorem moves_of_move? {move : Pass Pipeline}
    (made : move? settings name bypass turn pipeline = some move) :
    Moves settings name bypass pipeline move := by
  unfold move? at made
  cases turn with
  | list =>
      rcases (Option.orElse_eq_some _ _ _).1 made with listed | ⟨-, removed⟩
      · exact moves_of_list? listed
      · exact moves_of_remove? removed
  | remove count =>
      rcases (Option.orElse_eq_some _ _ _).1 made with removed | ⟨-, listed⟩
      · exact moves_of_remove? removed
      · exact moves_of_list? listed

/-- As long as not both workers have ended, one of them can move. -/
theorem hasEnded_of_move? (idle : move? settings name bypass turn pipeline = none) :
    pipeline.hasEnded = true := by
  have both : pipeline.list? settings = none ∧
      ∃ count, remove? settings name bypass count pipeline = none := by
    unfold move? at idle
    cases turn with
    | list =>
        obtain ⟨waits, stays⟩ := (Option.orElse_eq_none _ _).1 idle
        exact ⟨Option.map_eq_none_iff.1 waits, _, stays⟩
    | remove count =>
        obtain ⟨stays, waits⟩ := (Option.orElse_eq_none _ _).1 idle
        exact ⟨Option.map_eq_none_iff.1 waits, _, stays⟩
  obtain ⟨waits, count, stays⟩ := both
  unfold remove? at stays
  split at stays
  · cases stays
  · rename_i busy
    exact Pipeline.hasEnded_of_stuck waits busy (Option.map_eq_none_iff.1 stays)

section Drive

variable {world : World}

/-- Whatever the remote side answers, a move is a step of one of the workers. -/
theorem Moves.ends_step {move : Pass Pipeline} (moves : Moves settings name bypass pipeline move) :
    Ends move world
      (fun next _ => ∃ answer, Pipeline.Step settings name answer pipeline next)
      fun _ _ => False := by
  cases moves with
  | list listed => exact ⟨.ok [], .list listed⟩
  | receive received => exact ⟨.ok [], .receive received⟩
  | remove removes =>
      rw [request, ends_bind, ends_call]
      exact ⟨_, .remove removes⟩

/-- What each move of the two workers keeps, they keep to the end. -/
theorem drive_keeps {kept : Pipeline → World → Prop}
    (keeps : ∀ (pipeline : Pipeline) (move : Pass Pipeline) (world : World),
      Moves settings name bypass pipeline move → kept pipeline world →
      Ends move world kept fun _ _ => False)
    (scheduler : Scheduler) (moves taken : Nat) (start : kept pipeline world) :
    Ends (drive settings scheduler name bypass moves taken pipeline) world kept
      fun _ _ => False := by
  induction moves generalizing taken pipeline world with
  | zero => exact start
  | succ moves inductionHypothesis =>
      unfold drive
      split
      · exact start
      · rename_i move made
        rw [ends_bind]
        apply (keeps pipeline move world (moves_of_move? made) start).mono
        · intro next later still
          exact inductionHypothesis _ still
        · exact fun _ _ never => never

/-- Workers that may make as many moves as there is left to do come to their end. -/
theorem drive_ends_hasEnded (scheduler : Scheduler) (moves taken : Nat)
    (enough : pipeline.ahead ≤ moves) :
    Ends (drive settings scheduler name bypass moves taken pipeline) world
      (fun last _ => last.hasEnded = true) fun _ _ => False := by
  induction moves generalizing taken pipeline world with
  | zero => exact Pipeline.hasEnded_of_ahead (Nat.le_zero.1 enough)
  | succ moves inductionHypothesis =>
      unfold drive
      split
      · rename_i idle
        exact hasEnded_of_move? idle
      · rename_i move made
        rw [ends_bind]
        apply (moves_of_move? made).ends_step.mono
        · rintro next later ⟨answer, step⟩
          have less := step.ahead_lt
          exact inductionHypothesis _ (by omega)
        · exact fun _ _ never => never

end Drive

end Drain

end Steward
