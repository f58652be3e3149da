/-
This file runs passes for every record of a store.
The controller makes a pass for each record that has changed, and every so often one for each
record there is. A pass that failed is tried again with the next poll.
-/

import Steward.Controller.Forwarder
import Steward.Engine.Reconcile

namespace Steward

/-- A running controller. -/
structure Controller where
  forwarder : Forwarder
  queue : WorkQueue := {}
  /-- The milliseconds between two polls; zero stands for no polls. -/
  pollInterval : Nat
  /-- The milliseconds until the next poll. -/
  untilPoll : Nat
  deriving DecidableEq, Repr, Inhabited

namespace Controller

/-- Every record waits for a pass from the start. -/
def start (store : Store) (pollInterval : Nat) : Controller :=
  let (forwarder, queue) := (Forwarder.start store).settle store {}
  { forwarder, queue, pollInterval, untilPoll := pollInterval }

/-- Reads all changes of the store. -/
def forward (controller : Controller) (store : Store) : Controller :=
  let (forwarder, queue) := controller.forwarder.settle store controller.queue
  { controller with forwarder, queue }

/-- Adds every record to the queue. -/
def resync (controller : Controller) (store : Store) : Controller :=
  { controller with queue := controller.queue.addAll (Forwarder.allIds store) }

/-- The next pass, unless nothing waits for one; what came of it is in the record's status. -/
def work? (engine : Engine) (controller : Controller) (world : World) :
    Option (Controller × World) :=
  match controller.queue.take? with
  | none => none
  | some (id, queue) =>
      let (_, world) := (engine.reconcile id false).run.run world
      some ({ controller with queue := (queue.done id).2 }, world)

/-- At most the given number of passes. -/
def workThrough (engine : Engine) : Nat → Controller → World → Controller × World
  | 0, controller, world => (controller, world)
  | passes + 1, controller, world =>
      match controller.work? engine world with
      | none => (controller, world)
      | some (controller, world) => workThrough engine passes controller world

/-- Reads all changes and makes all passes that wait, at most the given number of times. -/
def rounds (engine : Engine) : Nat → Controller → World → Controller × World
  | 0, controller, world => (controller, world)
  | count + 1, controller, world =>
      let controller := controller.forward world.store
      let (controller, world) :=
        workThrough engine controller.queue.size controller world
      rounds engine count controller world

/-- Works until nothing is left to do. Passes cause further work only by erasing records, so
there are no more rounds of it than records. -/
def settle (engine : Engine) (controller : Controller) (world : World) : Controller × World :=
  rounds engine (world.store.list.length + 2) controller world

/-- Polls a number of times, one interval after the other. -/
def polls (engine : Engine) : Nat → Controller → World → Controller × World
  | 0, controller, world => (controller, world)
  | count + 1, controller, world =>
      let (controller, world) := settle engine (controller.resync world.store) world
      polls engine count controller world

/-- Works for a stretch of time. -/
def advance (engine : Engine) (milliseconds : Nat) (controller : Controller) (world : World) :
    Controller × World :=
  let (controller, world) := settle engine controller world
  if controller.pollInterval = 0 then (controller, world)
  else if milliseconds < controller.untilPoll then
    ({ controller with untilPoll := controller.untilPoll - milliseconds }, world)
  else
    let late := milliseconds - controller.untilPoll
    let (controller, world) :=
      polls engine (late / controller.pollInterval + 1) controller world
    ({ controller with
        untilPoll := controller.pollInterval - late % controller.pollInterval }, world)

/-- Stops handing out work. -/
def stop (controller : Controller) : Controller :=
  { controller with queue := controller.queue.shutdown }

end Controller

end Steward
