/-
This file says what holds at each call of a program, and what is left of the program when it is cut
off after some of them.
-/

import Steward.Proofs.Footprint

namespace Steward

namespace Program

variable {α β : Type} {kept : Request → World → Prop}

/-- What is left of a program after its first calls, and the world then. -/
def cut : Nat → Program α → World → Program α × World
  | 0, program, world => (program, world)
  | count + 1, program, world =>
      match program.step world with
      | none => (program, world)
      | some (rest, later) => cut count rest later

/-- Whether a program is about to tell the owner of a record something. -/
def tells : Program α → Bool
  | .ask (.publish _ _) _ => true
  | _ => false

/-- Each call of a program that runs alone is allowed in the world in which it is made. -/
def Along (kept : Request → World → Prop) : Program α → World → Prop
  | .done _, _ => True
  | .ask request next, world =>
      kept request world ∧ (next (world.answer request).1).Along kept (world.answer request).2

/-- A program that is cut has ended, or it is about to make a call. -/
theorem Along.cut {program : Program α} {world : World} (along : program.Along kept world)
    (count : Nat) :
    program.cut count world = (.done (program.run world).1, (program.run world).2) ∨
      ∃ request next, (program.cut count world).1 = .ask request next ∧
        kept request (program.cut count world).2 := by
  induction count generalizing program world with
  | zero =>
      cases program with
      | done value => exact .inl rfl
      | ask request next => exact .inr ⟨request, next, rfl, along.1⟩
  | succ count inductionHypothesis =>
      cases program with
      | done value => exact .inl rfl
      | ask request next => exact inductionHypothesis along.2

/-- Each call of a program in two parts is allowed if those of the first part are, and those of the
second in the world that the first leaves. -/
theorem along_bind (program : Program α) (next : α → Program β) {world : World} :
    (program >>= next).Along kept world ↔
      program.Along kept world ∧
        (next (program.run world).1).Along kept (program.run world).2 := by
  change (program.bind next).Along kept world ↔ _
  induction program generalizing world with
  | done value => exact (iff_of_eq (true_and _)).symm
  | ask request rest inductionHypothesis =>
      refine (and_congr_right fun _ => inductionHypothesis _).trans ?_
      exact and_assoc.symm

/-- What each allowed call keeps holds along a program that makes only such calls. -/
theorem Only.along {allowed : Request → Prop} {holds : World → Prop} {program : Program α}
    (only : program.Only allowed)
    (fine : ∀ request world, allowed request → holds world →
      kept request world ∧ holds (world.answer request).2)
    {world : World} (start : holds world) : program.Along kept world := by
  induction program generalizing world with
  | done value => trivial
  | ask request next inductionHypothesis =>
      obtain ⟨now, later⟩ := fine request world only.1 start
      exact ⟨now, inductionHypothesis _ (only.2 _) later⟩

end Program

namespace Pass

variable {α β : Type} {kept : Request → World → Prop} {world : World}

/-- Each call of a pass that runs alone is allowed in the world in which it is made. -/
def Along (kept : Request → World → Prop) (pass : Pass α) (world : World) : Prop :=
  Program.Along kept pass.run world

/-- Each call of a pass in two parts is allowed if those of the first part are, and those of the
second wherever the first succeeds. -/
theorem along_bind (pass : Pass α) (next : α → Pass β) :
    Along kept (pass >>= next) world ↔
      Along kept pass world ∧
        Ends pass world (fun value later => Along kept (next value) later) fun _ _ => True := by
  refine (Program.along_bind pass.run _).trans ?_
  refine and_congr_right fun _ => ?_
  rw [Ends]
  rcases pass.run.run world with ⟨answer | answer, later⟩
  · rfl
  · rfl

theorem along_attempt (pass : Pass α) :
    Along kept (attempt pass) world ↔ Along kept pass world := by
  refine (Program.along_bind pass.run _).trans ?_
  exact and_iff_left trivial

theorem along_ask (request : Request) : Along kept (ask request) world ↔ kept request world :=
  and_iff_left trivial

/-- A remote call is one call. -/
theorem along_perform (operation resource : String) (remote : RemoteCall) :
    Along kept (perform operation resource remote) world ↔ kept (.remote remote) world := by
  refine (along_bind (call remote) _).trans ((and_iff_left ?_).trans (along_ask _))
  apply (ends_call remote).2
  split
  · trivial
  · trivial

theorem along_written (result : Except StoreError Unit) : Along kept (written result) world := by
  cases result
  · trivial
  · trivial

theorem along_putMetadata (id : RecordId) (metadata : Metadata) :
    Along kept (putMetadata id metadata) world ↔ kept (.putMetadata id metadata) world := by
  refine (along_bind (ask _) _).trans ((and_iff_left ?_).trans (along_ask _))
  exact (ends_ask _).2 (along_written _)

theorem along_publish (id : RecordId) (details : Details) :
    Along kept (publish id details) world ↔ kept (.publish id details) world := by
  refine (along_bind (ask _) _).trans ((and_iff_left ?_).trans (along_ask _))
  exact (ends_ask _).2 (along_written _)

/-- What follows on a part of a pass without calls is what counts. -/
theorem along_bind_of_lift {result : Except PassError α} {next : α → Pass β}
    (along : ∀ value, result = .ok value → Along kept (next value) world) :
    Along kept (liftM result >>= next) world := by
  cases result with
  | ok value => exact along value rfl
  | error error => trivial

/-- A pass whose calls keep a property of the world makes each of them in a world that has it. -/
theorem Only.along {allowed : Request → Prop} {holds : World → Prop} {pass : Pass α}
    (only : Only allowed pass)
    (fine : ∀ request world, allowed request → holds world →
      kept request world ∧ holds (world.answer request).2)
    (start : holds world) : Along kept pass world :=
  Program.Only.along only fine start

end Pass

end Steward
