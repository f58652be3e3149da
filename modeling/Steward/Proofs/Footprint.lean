/-
This file says which requests a program can come to make, whatever it is answered.
What all of these requests leave as it is, the whole program leaves as it is, and so does any
part of it.
-/

import Steward.Proofs.Execution
import Steward.Resource.Client

namespace Steward

namespace Program

variable {α β : Type} {allowed : Request → Prop}

/-- Whatever the answers are, the program makes only requests that are allowed. -/
def Only (allowed : Request → Prop) : Program α → Prop
  | .done _ => True
  | .ask request next => allowed request ∧ ∀ answer, (next answer).Only allowed

/-- A program asks for what its parts ask for. -/
theorem Only.bind {program : Program α} {next : α → Program β}
    (first : program.Only allowed) (rest : ∀ value, (next value).Only allowed) :
    (program >>= next).Only allowed := by
  change (program.bind next).Only allowed
  induction program with
  | done value => exact rest value
  | ask request answered inductionHypothesis =>
      exact ⟨first.1, fun answer => inductionHypothesis answer (first.2 answer)⟩

/-- What is allowed may be widened. -/
theorem Only.mono {other : Request → Prop} {program : Program α}
    (only : program.Only allowed) (wider : ∀ request, allowed request → other request) :
    program.Only other := by
  induction program with
  | done value => trivial
  | ask request next inductionHypothesis =>
      exact ⟨wider request only.1, fun answer => inductionHypothesis answer (only.2 answer)⟩

/-- Where everything is allowed, no program asks for more. -/
theorem only_of_all (fine : ∀ request, allowed request) (program : Program α) :
    program.Only allowed := by
  induction program with
  | done value => trivial
  | ask request next inductionHypothesis => exact ⟨fine request, inductionHypothesis⟩

/-- What every allowed request keeps, a run keeps. -/
theorem Only.run_keeps {program : Program α} {kept : World → Prop}
    (only : program.Only allowed)
    (keeps : ∀ request world, allowed request → kept world → kept (world.answer request).2)
    {world : World} (start : kept world) : kept (program.run world).2 := by
  induction program generalizing world with
  | done value => exact start
  | ask request next inductionHypothesis =>
      exact inductionHypothesis _ (only.2 _) (keeps request world only.1 start)

end Program

namespace Pass

variable {α β : Type} {allowed : Request → Prop}

/-- Whatever the answers are, the pass makes only requests that are allowed. -/
def Only (allowed : Request → Prop) (pass : Pass α) : Prop :=
  Program.Only allowed pass.run

theorem only_pure (value : α) : Only allowed (pure value : Pass α) :=
  trivial

theorem only_throw (error : PassError) : Only allowed (throw error : Pass α) :=
  trivial

theorem only_lift (result : Except PassError α) : Only allowed (liftM result : Pass α) :=
  trivial

/-- A pass asks for what its parts ask for. -/
theorem Only.bind {pass : Pass α} {next : α → Pass β} (first : Only allowed pass)
    (rest : ∀ value, Only allowed (next value)) : Only allowed (pass >>= next) := by
  apply Program.Only.bind first
  intro answer
  cases answer with
  | ok value => exact rest value
  | error error => trivial

theorem Only.attempt {pass : Pass α} (only : Only allowed pass) :
    Only allowed (Pass.attempt pass) :=
  Program.Only.bind only fun _ => trivial

theorem only_ask {request : Request} (fine : allowed request) : Only allowed (ask request) :=
  ⟨fine, fun _ => trivial⟩

theorem only_call {remote : RemoteCall} (fine : allowed (.remote remote)) :
    Only allowed (call remote) :=
  only_ask fine

theorem only_perform {operation resource : String} {remote : RemoteCall}
    (fine : allowed (.remote remote)) : Only allowed (perform operation resource remote) := by
  apply (only_ask fine).bind
  intro answer
  cases answer
  · trivial
  · trivial

/-- To judge an answer asks for nothing. -/
theorem only_found {operation resource : String} (answer : Except RemoteError α) :
    Only allowed (found operation resource answer) := by
  rcases answer with error | value
  · cases error
    all_goals trivial
  · trivial

theorem Only.mono {other : Request → Prop} {pass : Pass α} (only : Only allowed pass)
    (wider : ∀ request, allowed request → other request) : Only other pass :=
  Program.Only.mono only wider

/-- What every allowed request keeps, a pass keeps, however it ends. -/
theorem Only.after_keeps {pass : Pass α} {kept : World → Prop} (only : Only allowed pass)
    (keeps : ∀ request world, allowed request → kept world → kept (world.answer request).2)
    {world : World} (start : kept world) : kept (pass.after world) :=
  Program.Only.run_keeps only keeps start

/-- What every request keeps, a pass keeps. -/
theorem after_keeps {kept : World → Prop}
    (keeps : ∀ request world, kept world → kept (world.answer request).2) (pass : Pass α)
    {world : World} (start : kept world) : kept (pass.after world) := by
  have only : Only (fun _ => True) pass := Program.only_of_all (fun _ => trivial) pass.run
  exact only.after_keeps (fun request world _ => keeps request world) start

/-- What every allowed request leaves as it is, the whole pass leaves as it is, however it ends. -/
theorem Only.ends {pass : Pass α} {kept : World → Prop} (only : Only allowed pass)
    (keeps : ∀ request world, allowed request → kept world → kept (world.answer request).2)
    {world : World} (start : kept world) :
    Ends pass world (fun _ later => kept later) (fun _ later => kept later) := by
  apply (ends_answer pass world).mono
  · intro value later ended
    obtain ⟨-, rfl⟩ := ended
    exact only.after_keeps keeps start
  · intro error later ended
    obtain ⟨-, rfl⟩ := ended
    exact only.after_keeps keeps start

end Pass

/-- What every call keeps of the remote side, every request keeps. -/
theorem World.answer_keeps_plane {kept : Plane → Prop}
    (keeps : ∀ plane call, kept plane → kept (plane.perform call).2) (request : Request)
    {world : World} (start : kept world.plane) : kept (world.answer request).2.plane := by
  have written : ∀ result, kept (world.write result).2.plane := by
    intro result
    cases result
    · exact start
    · exact start
  cases request with
  | remote call => exact keeps world.plane call start
  | readRecord _ | listRecords | now | secret => exact start
  | putStatus _ _ | putMetadata _ _ | publish _ _ | erase _ => exact written _

end Steward
