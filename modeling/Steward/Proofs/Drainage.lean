/-
This file shows that the two workers that empty a bucket cannot get stuck.
Until both have ended one of them can move, whatever the remote side answers, and as every move
leaves less to do, they end. A remover that ends well has removed as many objects as it was handed,
and these are all that could be listed.
-/

import Steward.Proofs.Pipeline

namespace Steward

open Pass

namespace Remover

/-- The objects that have been taken and may not be removed yet. -/
def inHand : Remover → List String
  | .removing batch => batch
  | .waiting | .finished | .failed _ => []

def hasFailed : Remover → Bool
  | .failed _ => true
  | .waiting | .removing _ | .finished => false

/-- A remover that has neither failed nor finished goes on. -/
theorem hasStopped_eq_false {remover : Remover} (fine : remover.hasFailed = false)
    (unfinished : remover ≠ .finished) : remover.hasStopped = false := by
  cases remover with
  | waiting | removing _ => rfl
  | finished => exact absurd rfl unfinished
  | failed _ => cases fine

end Remover

namespace Pipeline

variable {settings : DeletionSettings} {bucket : String} {pipeline next : Pipeline}
  {entries : List (Except RemoteError ObjectInfo)} {answer : Except RemoteError (List RemovalFailure)}

/-- What a run over a listing can have come to after some moves. The workers move in any order, and
the remote side gives any answers. -/
inductive Reaches (settings : DeletionSettings) (bucket : String)
    (entries : List (Except RemoteError ObjectInfo)) : Nat → Pipeline → Prop
  | start : Reaches settings bucket entries 0 { unlisted := entries }
  | move {moves : Nat} {pipeline next : Pipeline}
      {answer : Except RemoteError (List RemovalFailure)}
      (reached : Reaches settings bucket entries moves pipeline)
      (step : Step settings bucket answer pipeline next) :
      Reaches settings bucket entries (moves + 1) next

section Moves

variable {moves : Nat}

/-- What is listed leads on to what can be reached. -/
theorem Reaches.list (reached : Reaches settings bucket entries moves pipeline)
    (listed : pipeline.list? settings = some next) :
    Reaches settings bucket entries (moves + 1) next :=
  have step : Step settings bucket (.ok []) pipeline next := .list listed
  reached.move step

/-- What is taken over leads on to what can be reached. -/
theorem Reaches.receive (reached : Reaches settings bucket entries moves pipeline) (count : Nat)
    (received : pipeline.receive? settings count = some next) :
    Reaches settings bucket entries (moves + 1) next :=
  have step : Step settings bucket (.ok []) pipeline next := .receive received
  reached.move step

/-- What is answered to a removal leads on to what can be reached. -/
theorem Reaches.remove {batch : List String}
    (reached : Reaches settings bucket entries moves pipeline)
    (removes : pipeline.remover = .removing batch)
    (answer : Except RemoteError (List RemovalFailure)) :
    Reaches settings bucket entries (moves + 1) (pipeline.afterRemoval bucket batch answer) :=
  have step : Step settings bucket answer pipeline _ := .remove removes
  reached.move step

end Moves

section Progress

/-- A run makes no more moves than there was to do at its start. -/
theorem Reaches.moves_add_ahead_le {moves : Nat}
    (reached : Reaches settings bucket entries moves pipeline) :
    moves + pipeline.ahead ≤ 4 * entries.length + 2 := by
  induction reached with
  | start =>
      simp only [ahead, Remover.ahead, Option.toList_none, List.length_nil, Bool.toNat_true]
      omega
  | move _ step inductionHypothesis =>
      have less := step.ahead_lt
      omega

/-- Workers that have both ended do not move any more. -/
theorem Step.hasEnded_eq_false (step : Step settings bucket answer pipeline next) :
    pipeline.hasEnded = false := by
  rw [Bool.eq_false_iff, ne_eq, hasEnded_iff]
  rintro ⟨told, stopped⟩
  cases step with
  | list listed => cases told.symm.trans (lists_of_list? listed).1
  | receive received =>
      rw [(receive?_cases received).1] at stopped
      cases stopped
  | remove removes =>
      rw [removes] at stopped
      cases stopped

/-- One of the workers can move just as long as not both have ended. -/
theorem exists_step_iff (answer : Except RemoteError (List RemovalFailure)) :
    (∃ next, Step settings bucket answer pipeline next) ↔ pipeline.hasEnded = false := by
  constructor
  · rintro ⟨next, step⟩
    exact step.hasEnded_eq_false
  · intro active
    by_contra stuck
    -- A state without a step is one in which the lister and the remover both wait.
    have idle : pipeline.list? settings = none := by
      rw [Option.eq_none_iff_forall_ne_some]
      exact fun next listed => stuck ⟨next, .list listed⟩
    have waits : pipeline.receive? settings settings.limit = none := by
      rw [Option.eq_none_iff_forall_ne_some]
      exact fun next received => stuck ⟨next, .receive received⟩
    have busy : ∀ batch, pipeline.remover ≠ .removing batch :=
      fun batch removes => stuck ⟨_, .remove removes⟩
    cases active.symm.trans (hasEnded_of_stuck idle busy waits)

end Progress

section Account

/-- The entries that are counted, held or still to come. -/
def entryCount (pipeline : Pipeline) : Nat :=
  pipeline.listed + pipeline.skipped + pipeline.held.toList.length + pipeline.unlisted.length

/-- Those of them that can be read. -/
def objectCount (pipeline : Pipeline) : Nat :=
  pipeline.listed + pipeline.held.toList.length + (pipeline.unlisted.filterMap readable).length

/-- Every object handed to the remover is removed, in its hand or in the queue. -/
def IsPassedOn (pipeline : Pipeline) : Prop :=
  pipeline.removed + pipeline.remover.inHand.length + pipeline.queue.length = pipeline.listed

/-- To list drops no entry. -/
theorem Lists.entryCount_eq (lists : Lists settings pipeline next) :
    next.entryCount = pipeline.entryCount := by
  cases lists with
  | giveUp _ _ | finish _ _ => rfl
  | send holds _ =>
      simp only [entryCount, holds, Option.toList_some, Option.toList_none, List.length_singleton,
        List.length_nil]
      omega
  | skip _ entry =>
      simp only [entryCount, entry, List.length_cons]
      omega
  | read free entry =>
      simp only [entryCount, free, entry, Option.toList_some, Option.toList_none, List.length_nil,
        List.length_cons]
      omega

/-- To list drops no object. -/
theorem Lists.objectCount_eq (lists : Lists settings pipeline next) :
    next.objectCount = pipeline.objectCount := by
  cases lists with
  | giveUp _ _ | finish _ _ => rfl
  | send holds _ =>
      simp only [objectCount, holds, Option.toList_some, Option.toList_none, List.length_singleton,
        List.length_nil]
  | skip _ entry => simp only [objectCount, entry, List.filterMap_cons, readable]
  | read free entry =>
      simp only [objectCount, free, entry, readable, List.filterMap_cons, Option.toList_some,
        Option.toList_none, List.length_nil, List.length_cons]
      omega

/-- What the lister hands over is counted as listed, and stands in the queue. -/
theorem Lists.isPassedOn (lists : Lists settings pipeline next) (passed : pipeline.IsPassedOn) :
    next.IsPassedOn := by
  unfold IsPassedOn at passed ⊢
  cases lists with
  | giveUp _ _ | finish _ _ | skip _ _ | read _ _ => exact passed
  | send _ _ =>
      simp only [List.length_append, List.length_singleton]
      omega

/-- Unless the remover has failed, no object is lost between the listing and its removal. -/
structure IsAccounted (entries : List (Except RemoteError ObjectInfo)) (pipeline : Pipeline) :
    Prop where
  whole : pipeline.entryCount = entries.length
  objects : pipeline.objectCount = (entries.filterMap readable).length
  told : pipeline.remover.hasFailed = false → pipeline.HasTold
  passed : pipeline.remover.hasFailed = false → pipeline.IsPassedOn
  finished : pipeline.remover = .finished → pipeline.isListing = false ∧ pipeline.queue = []

namespace IsAccounted

/-- At the start all entries are unlisted, and accounted for. -/
theorem start : IsAccounted entries { unlisted := entries } where
  whole := Nat.zero_add _
  objects := Nat.zero_add _
  told := nofun
  passed := fun _ => rfl
  finished := nofun

/-- A move of the lister leaves all entries accounted for. -/
theorem lists (accounted : IsAccounted entries pipeline) (listing : pipeline.isListing = true)
    (lists : Lists settings pipeline next) : IsAccounted entries next := by
  -- A remover ends well only after the lister has ended, so none has done so here.
  have unfinished : pipeline.remover ≠ .finished := by
    intro finished
    cases listing.symm.trans (accounted.finished finished).1
  constructor
  · exact lists.entryCount_eq.trans accounted.whole
  · exact lists.objectCount_eq.trans accounted.objects
  · rw [lists.remover_eq]
    intro fine
    exact lists.hasTold listing (Remover.hasStopped_eq_false fine unfinished)
  · rw [lists.remover_eq]
    exact fun fine => lists.isPassedOn (accounted.passed fine)
  · rw [lists.remover_eq]
    exact fun finished => absurd finished unfinished

/-- A batch that is taken out of the queue leaves all entries accounted for. -/
theorem receive {count : Nat} (accounted : IsAccounted entries pipeline)
    (received : pipeline.receive? settings count = some next) : IsAccounted entries next := by
  obtain ⟨waits, step⟩ := receive?_cases received
  have fine : pipeline.remover.hasFailed = false := by
    rw [waits]
    rfl
  have passed := accounted.passed fine
  rw [IsPassedOn, waits] at passed
  obtain ⟨empty, ended, rfl⟩ | ⟨size, -, -, -, rfl⟩ := step
  · exact ⟨accounted.whole, accounted.objects, fun _ => accounted.told fine, fun _ => passed,
      fun _ => ⟨ended, empty⟩⟩
  · refine ⟨accounted.whole, accounted.objects, fun _ => accounted.told fine, fun _ => ?_, nofun⟩
    simp only [IsPassedOn, Remover.inHand, List.length_take, List.length_drop, List.length_nil]
      at passed ⊢
    omega

/-- A request of the remover leaves all entries accounted for, whatever it is answered. -/
theorem remove {batch : List String} (accounted : IsAccounted entries pipeline)
    (removes : pipeline.remover = .removing batch)
    (answer : Except RemoteError (List RemovalFailure)) :
    IsAccounted entries (pipeline.afterRemoval bucket batch answer) := by
  have fine : pipeline.remover.hasFailed = false := by
    rw [removes]
    rfl
  have passed := accounted.passed fine
  rw [IsPassedOn, removes] at passed
  rcases answer with error | _ | ⟨failure, failures⟩
  · exact ⟨accounted.whole, accounted.objects, nofun, nofun, nofun⟩
  · exact ⟨accounted.whole, accounted.objects, fun _ => accounted.told fine, fun _ => passed,
      nofun⟩
  · exact ⟨accounted.whole, accounted.objects, nofun, nofun, nofun⟩

/-- Every step of either worker leaves all entries accounted for. -/
theorem step (accounted : IsAccounted entries pipeline)
    (step : Step settings bucket answer pipeline next) : IsAccounted entries next := by
  cases step with
  | list listed =>
      obtain ⟨listing, lists⟩ := lists_of_list? listed
      exact accounted.lists listing lists
  | receive received => exact accounted.receive received
  | remove removes => exact accounted.remove removes answer

end IsAccounted

/-- Whatever is reached, all entries are accounted for. -/
theorem Reaches.isAccounted {moves : Nat}
    (reached : Reaches settings bucket entries moves pipeline) : IsAccounted entries pipeline := by
  induction reached with
  | start => exact .start
  | move _ step inductionHypothesis => exact inductionHypothesis.step step

/-- The lister has ended after all entries, and has counted each as an object or as skipped. -/
structure HasListed (entries : List (Except RemoteError ObjectInfo)) (pipeline : Pipeline) :
    Prop where
  ended : pipeline.isListing = false
  told : pipeline.held = none ∧ pipeline.unlisted = []
  objects : pipeline.listed = (entries.filterMap readable).length
  others : pipeline.listed + pipeline.skipped = entries.length

/-- A remover ends well only after all objects have been listed and removed. -/
theorem IsAccounted.hasListed (accounted : IsAccounted entries pipeline)
    (finished : pipeline.remover = .finished) :
    pipeline.HasListed entries ∧ pipeline.queue = [] ∧ pipeline.removed = pipeline.listed := by
  obtain ⟨ended, empty⟩ := accounted.finished finished
  have fine : pipeline.remover.hasFailed = false := by
    rw [finished]
    rfl
  obtain ⟨free, done⟩ := accounted.told fine ended
  have entryCount := accounted.whole
  have objectCount := accounted.objects
  have passed := accounted.passed fine
  simp only [Pipeline.entryCount, free, done, Option.toList_none, List.length_nil, Nat.add_zero]
    at entryCount
  simp only [Pipeline.objectCount, free, done, Option.toList_none, List.length_nil,
    List.filterMap_nil, Nat.add_zero] at objectCount
  simp only [IsPassedOn, finished, Remover.inHand, empty, List.length_nil, Nat.add_zero] at passed
  exact ⟨⟨ended, ⟨free, done⟩, objectCount, entryCount⟩, empty, passed⟩

end Account

end Pipeline

namespace Drain

open Pipeline (Reaches Step)

/-- Whoever moves when, the moves that the workers are given lead them to the end of a run. -/
theorem drive_reaches (settings : DeletionSettings) (scheduler : Scheduler) (bucket : String)
    (bypass : Bool) (entries : List (Except RemoteError ObjectInfo)) (world : World) :
    Ends (drive settings scheduler bucket bypass (4 * entries.length + 2) 0 { unlisted := entries })
      world
      (fun last _ => last.hasEnded = true ∧ ∃ moves, Reaches settings bucket entries moves last)
      fun _ _ => False := by
  have enough : ({ unlisted := entries } : Pipeline).ahead ≤ 4 * entries.length + 2 := Nat.le_refl _
  have keeps : Ends (drive settings scheduler bucket bypass (4 * entries.length + 2) 0
      { unlisted := entries }) world
      (fun last _ => ∃ moves, Reaches settings bucket entries moves last) fun _ _ => False := by
    refine drive_keeps ?_ scheduler _ 0 ⟨0, .start⟩
    rintro pipeline move world made ⟨moves, reached⟩
    apply made.ends_step.mono
    · rintro next _ ⟨answer, step⟩
      exact ⟨moves + 1, reached.move step⟩
    · exact fun _ _ never => never
  apply ((drive_ends_hasEnded scheduler _ 0 enough).and keeps).mono
  · exact fun _ _ both => both
  · exact fun _ _ never => never.1

/-- A drain that succeeds reports as many objects removed as listed. -/
theorem empty_ends_removed (settings : DeletionSettings) (scheduler : Scheduler) (bucket : String)
    (cancelled : Bool) (world : World) :
    Ends (empty settings scheduler bucket cancelled) world
      (fun report _ => report.removed = report.listed) fun _ _ => True := by
  refine ends_of_last fun bypass asked => ends_of_last fun entries shown => ?_
  cases cancelled with
  | true => trivial
  | false =>
      simp only [Bool.false_eq_true, if_false, ends_bind]
      apply (drive_reaches settings scheduler bucket bypass entries shown).of_succeeds
      rintro last later ⟨ended, moves, reached⟩
      have stopped := (Pipeline.hasEnded_iff.1 ended).2
      cases remover : last.remover with
      | finished => exact (reached.isAccounted.hasListed remover).2.2
      | failed error => trivial
      | waiting | removing _ =>
          rw [remover] at stopped
          cases stopped

/-- Whatever entries a listing has, and whatever the remote side answers, in every state that the
workers come to one of them can move, unless both have ended. They make a bounded number of moves, so
they come to such an end. When the remover ends well, all entries have been listed, and as many
objects have been removed as have been listed. -/
theorem workers_cannot_get_stuck (settings : DeletionSettings) (bucket : String)
    (entries : List (Except RemoteError ObjectInfo)) :
    (∀ moves pipeline, Reaches settings bucket entries moves pipeline →
      (∀ answer, (∃ next, Step settings bucket answer pipeline next) ↔ pipeline.hasEnded = false) ∧
      moves ≤ 4 * entries.length + 2 ∧
      (pipeline.remover = .finished →
        pipeline.HasListed entries ∧ pipeline.queue = [] ∧ pipeline.removed = pipeline.listed)) ∧
    ∀ scheduler bypass world, ∃ last moves,
      (drive settings scheduler bucket bypass (4 * entries.length + 2) 0
        { unlisted := entries }).answer world = .ok last ∧
      last.hasEnded = true ∧ Reaches settings bucket entries moves last := by
  constructor
  · intro moves pipeline reached
    have bound := reached.moves_add_ahead_le
    exact ⟨Pipeline.exists_step_iff, by omega, reached.isAccounted.hasListed⟩
  · intro scheduler bypass world
    obtain ⟨last, answered, ended, moves, reached⟩ :=
      (drive_reaches settings scheduler bucket bypass entries world).exists_ok
    exact ⟨last, moves, answered, ended, reached⟩

end Drain

namespace Sample

/-- A queue and batches that have room for one object each. -/
def narrow : DeletionSettings :=
  ⟨0, 0⟩

/-- A listing with one entry that cannot be read. -/
def strewn : List (Except RemoteError ObjectInfo) :=
  [.ok ⟨"a", 1⟩, .error (.unavailable "connection reset"), .ok ⟨"b", 2⟩, .ok ⟨"c", 3⟩]

/-- The queue is full and the remover is at its request, so the lister waits. -/
def congested : Pipeline where
  unlisted := []
  held := some "c"
  queue := ["b"]
  remover := .removing ["a"]
  listed := 2
  skipped := 1

/-- All that could be listed has been removed. -/
def swept : Pipeline where
  unlisted := []
  isListing := false
  remover := .finished
  listed := 3
  skipped := 1
  removed := 3

theorem reaches_congested : Pipeline.Reaches narrow "logs" strewn 7 congested := by
  have origin : Pipeline.Reaches narrow "logs" strewn 0 { unlisted := strewn } := .start
  have taken := ((origin.list rfl).list rfl).receive 1 rfl
  exact (((taken.list rfl).list rfl).list rfl).list rfl

theorem reaches_swept : Pipeline.Reaches narrow "logs" strewn 15 swept := by
  have removed := (reaches_congested.remove rfl (.ok [])).receive 1 rfl
  have listed := (removed.list rfl).list rfl
  have last := (listed.remove rfl (.ok [])).receive 1 rfl
  exact (last.remove rfl (.ok [])).receive 1 rfl

end Sample

/-- A lister that waits is not stuck, even if the next request fails, and the run comes to its end. -/
theorem Drain.workers_cannot_get_stuck_of_strewn :
    Pipeline.Reaches Sample.narrow "logs" Sample.strewn 7 Sample.congested ∧
      Sample.congested.list? Sample.narrow = none ∧
      (∃ next, Pipeline.Step Sample.narrow "logs" (.error (.unavailable "connection reset"))
        Sample.congested next) ∧
      Pipeline.Reaches Sample.narrow "logs" Sample.strewn 15 Sample.swept ∧
      Sample.swept.remover = .finished ∧ Sample.swept.HasListed Sample.strewn ∧
      Sample.swept.removed = Sample.swept.listed := by
  have runs := (workers_cannot_get_stuck Sample.narrow "logs" Sample.strewn).1
  have goesOn := (runs 7 _ Sample.reaches_congested).1 (.error (.unavailable "connection reset"))
  obtain ⟨listed, -, removed⟩ := (runs 15 _ Sample.reaches_swept).2.2 rfl
  exact ⟨Sample.reaches_congested, rfl, goesOn.2 rfl, Sample.reaches_swept, rfl, listed, removed⟩

end Steward
