/-
This file describes work on the record store and the remote side as a program of single calls.
A program makes one call at a time and goes on with its answer. Running it alone and running
it between the calls of others are both defined over the same steps.
-/

import Steward.Engine.Error
import Steward.Remote.Call
import Steward.Store.Basic

namespace Steward

/-- An endless row of items, and how many of them have been drawn. -/
structure Supply (α : Type) where
  item : Nat → α
  drawn : Nat := 0

namespace Supply

def constant {α : Type} (item : α) : Supply α :=
  ⟨fun _ => item, 0⟩

def draw {α : Type} (supply : Supply α) : α × Supply α :=
  (supply.item supply.drawn, { supply with drawn := supply.drawn + 1 })

end Supply

/-- What a program can ask for. -/
inductive Request where
  | readRecord (id : RecordId)
  | listRecords
  | putStatus (id : RecordId) (status : Status)
  | putMetadata (id : RecordId) (metadata : Metadata)
  | publish (id : RecordId) (details : Details)
  | erase (id : RecordId)
  | remote (call : RemoteCall)
  /-- The time of day. -/
  | now
  /-- A secret that nobody knows. -/
  | secret

/-- What a request is answered with. -/
@[reducible] def Request.Answer : Request → Type
  | .readRecord _ => Option Record
  | .listRecords => List Record
  | .putStatus _ _ | .putMetadata _ _ | .publish _ _ | .erase _ => Except StoreError Unit
  | .remote call => Except RemoteError call.Result
  | .now => Timestamp
  | .secret => String

/-- Everything that requests read and change. -/
structure World where
  store : Store
  plane : Plane := {}
  clock : Supply Timestamp
  secrets : Supply String

namespace World

/-- Takes over the store of a write, which stays as it was if the write fails. -/
def write (world : World) (result : Except StoreError Store) :
    Except StoreError Unit × World :=
  match result with
  | .ok store => (.ok (), { world with store })
  | .error error => (.error error, world)

/-- The answer to one request, and the world after it. -/
def answer (world : World) : (request : Request) → request.Answer × World
  | .readRecord id => (world.store.get? id, world)
  | .listRecords => (world.store.list, world)
  | .putStatus id status => world.write (world.store.putStatus id status)
  | .putMetadata id metadata => world.write (world.store.putMetadata id metadata)
  | .publish id details => world.write (world.store.publish id details)
  | .erase id => world.write (world.store.erase id)
  | .remote call =>
      let (result, plane) := world.plane.perform call
      (result, { world with plane })
  | .now =>
      let (time, clock) := world.clock.draw
      (time, { world with clock })
  | .secret =>
      let (secret, secrets) := world.secrets.draw
      (secret, { world with secrets })

end World

/-- Work that is done, or that goes on with the answer to a request. -/
inductive Program (α : Type) where
  | done (value : α)
  | ask (request : Request) (next : request.Answer → Program α)

namespace Program

variable {α β : Type}

def bind (program : Program α) (next : α → Program β) : Program β :=
  match program with
  | .done value => next value
  | .ask request rest => .ask request fun answer => (rest answer).bind next

instance : Monad Program where
  pure := .done
  bind := bind

def request (request : Request) : Program request.Answer :=
  .ask request .done

/-- The value of a program that runs alone, and the world after it. -/
def run : Program α → World → α × World
  | .done value, world => (value, world)
  | .ask request next, world =>
      let (answer, world) := world.answer request
      (next answer).run world

/-- The next call of a program, made in the given world. -/
def step : Program α → World → Option (Program α × World)
  | .done _, _ => none
  | .ask request next, world =>
      let (answer, world) := world.answer request
      some (next answer, world)

@[simp] theorem run_pure (value : α) (world : World) :
    (pure value : Program α).run world = (value, world) :=
  rfl

/-- A program in two parts runs the second where the first has left the world. -/
theorem run_bind (program : Program α) (next : α → Program β) (world : World) :
    (program >>= next).run world =
      (next (program.run world).1).run (program.run world).2 := by
  change (program.bind next).run world = _
  induction program generalizing world with
  | done value => rfl
  | ask request rest inductionHypothesis => exact inductionHypothesis _ _

/-- Three parts of a program can be grouped either way. -/
theorem bind_assoc {γ : Type} (program : Program α) (first : α → Program β)
    (second : β → Program γ) :
    (program.bind first).bind second = program.bind fun value => (first value).bind second := by
  induction program with
  | done value => rfl
  | ask request rest inductionHypothesis =>
      simp only [bind]
      congr 1
      funext answer
      exact inductionHypothesis answer

theorem bind_done (program : Program α) : program.bind .done = program := by
  induction program with
  | done value => rfl
  | ask request rest inductionHypothesis =>
      simp only [bind]
      congr 1
      funext answer
      exact inductionHypothesis answer

instance : LawfulMonad Program :=
  LawfulMonad.mk' Program
    bind_done
    (fun _ _ => rfl)
    (fun program first second => bind_assoc program first second)

end Program

/-- A program that can fail. -/
abbrev Pass (α : Type) := ExceptT PassError Program α

namespace Pass

variable {α : Type}

/-- The outcome of a program, with its failure as a value. -/
def attempt (pass : Pass α) : Pass (Except PassError α) :=
  ExceptT.lift pass.run

def ask (request : Request) : Pass request.Answer :=
  ExceptT.lift (Program.request request)

/-- Goes on after a write to the store, or fails as the write did. -/
def written : Except StoreError Unit → Pass Unit
  | .ok () => return ()
  | .error error => throw (.store error)

def putStatus (id : RecordId) (status : Status) : Pass Unit := do
  written (← ask (.putStatus id status))

def putMetadata (id : RecordId) (metadata : Metadata) : Pass Unit := do
  written (← ask (.putMetadata id metadata))

def publish (id : RecordId) (details : Details) : Pass Unit := do
  written (← ask (.publish id details))

def erase (id : RecordId) : Pass Unit := do
  written (← ask (.erase id))

def now : Pass Timestamp :=
  ask .now

/-- A remote call, answered as the remote side answers it. -/
def call (remote : RemoteCall) : Pass (Except RemoteError remote.Result) :=
  ask (.remote remote)

/-- A remote call as an operation on a resource, whose failure is that of the pass. -/
def perform (operation resource : String) (remote : RemoteCall) : Pass remote.Result := do
  match ← call remote with
  | .ok result => return result
  | .error error => throw (.ofRemote operation resource error)

end Pass

end Steward
