/-
This file describes what can happen to a world from the first record on.
Users declare records and ask for their deletion, passes run one at a time, and the remote side
may be changed from outside. A property of all worlds that come of this is shown move by move.
-/

import Mathlib.Control.Monad.Basic
import Steward.Engine.Reconcile
import Steward.Proofs.Report
import Steward.Remote.Seeding

namespace Steward

/-- One thing that happens while nothing else does. -/
inductive Move where
  | apply (record : Record)
  | requestDeletion (id : RecordId) (now : Timestamp)
  | reconcile (id : RecordId) (cancelled : Bool)
  /-- A change of the remote side that no pass makes. -/
  | disturb (change : Plane → Plane)

/-- The world after a move. -/
def Engine.carryOut (engine : Engine) (world : World) : Move → World
  | .apply record => { world with store := (world.store.apply record).2 }
  | .requestDeletion id now =>
      { world with store := (world.store.requestDeletion id now).toOption.getD world.store }
  | .reconcile id cancelled => (engine.reconcile id cancelled).after world
  | .disturb change => { world with plane := change world.plane }

/-- A move of a user or of a pass. A record that is new carries no markers, and the status that
records start with. -/
def Move.IsRegular (world : World) : Move → Prop
  | .apply record =>
      world.store.get? record.id = none → record.metadata = ∅ ∧ record.status = {}
  | .requestDeletion _ _ | .reconcile _ _ => True
  | .disturb _ => False

/-- A change of the remote side that can come from outside: something is put there, faults are armed
or taken back, or somebody else makes a call. -/
inductive Disturbance where
  | seedBucket (bucket : String)
  | putObject (bucket key : String)
  | enableObjectLock (bucket : String)
  | insertUser (user : String) (policies : List String)
  | insertPolicy (name document : String)
  | changeFaults (change : Faults → Faults)
  | call (call : RemoteCall)

def Disturbance.apply (plane : Plane) : Disturbance → Plane
  | .seedBucket bucket => plane.seedBucket bucket
  | .putObject bucket key => plane.putObject bucket key
  | .enableObjectLock bucket => plane.enableObjectLock bucket
  | .insertUser user policies => plane.insertUser user policies
  | .insertPolicy name document => plane.insertPolicy name document
  | .changeFaults change => plane.changeFaults change
  | .call made => (plane.perform made).2

/-- A move of a user or of a pass, or a change of the remote side that can come from outside. -/
def Move.IsOrdinary : Move → Prop
  | .apply _ | .requestDeletion _ _ | .reconcile _ _ => True
  | .disturb change => ∃ disturbance : Disturbance, change = fun plane => disturbance.apply plane

/-- The worlds that come of a first one by moves that are admitted where they are made. -/
inductive Engine.Reaches (engine : Engine) (admitted : World → Move → Prop) (origin : World) :
    World → Prop
  | first : engine.Reaches admitted origin origin
  | move {world : World} (move : Move) (reached : engine.Reaches admitted origin world)
      (fine : admitted world move) : engine.Reaches admitted origin (engine.carryOut world move)

/-- What holds at first and outlasts every admitted move holds of every world reached. -/
theorem Engine.Reaches.keeps {engine : Engine} {admitted : World → Move → Prop}
    {origin world : World} {kept : World → Prop} (reached : engine.Reaches admitted origin world)
    (start : kept origin)
    (keeps : ∀ world move, admitted world move → kept world → kept (engine.carryOut world move)) :
    kept world := by
  induction reached with
  | first => exact start
  | move move _ fine inductionHypothesis => exact keeps _ move fine inductionHypothesis

/-- A pass for a record that is not stored changes nothing. -/
theorem Engine.after_reconcile_of_missing {engine : Engine} {world : World} {id : RecordId}
    (missing : world.store.get? id = none) (cancelled : Bool) :
    (engine.reconcile id cancelled).after world = world := by
  cases cancelled with
  | true => rfl
  | false =>
      have ends : Pass.Ends (engine.reconcile id false) world (fun _ later => later = world)
          fun _ later => later = world := by
        simp only [reconcile, Bool.false_eq_true, if_false, pass, Pass.ends_bind,
          Pass.ends_readRecord, missing, Pass.ends_pure]
      exact @Pass.Ends.after_of_both _ _ _ (fun later => later = world) ends

/-- No record is stored, and the remote side is empty. -/
def World.fresh (capacity : Nat) (clock : Supply Timestamp) (secrets : Supply String) : World :=
  { store := .ofCapacity capacity, clock, secrets }

namespace Store

variable (store : Store)

/-- A record that is applied is written as it is if it is new; otherwise its spec and its profile
are written into the one that exists. -/
theorem apply_writes (record : Record) :
    (store.get? record.id = none ∧
      store.Writes { record with generation := max record.generation 1 }
        (store.apply record).2) ∨
    ∃ existing generation, store.get? record.id = some existing ∧
      store.Writes { existing with
        spec := record.spec
        credentialsRef := record.credentialsRef
        generation } (store.apply record).2 := by
  unfold apply
  cases stored : store.get? record.id with
  | none => exact .inl ⟨rfl, rfl⟩
  | some existing =>
      refine .inr ?_
      dsimp only
      split
      · rename_i same
        refine ⟨existing, existing.generation, rfl, ?_⟩
        rw [← same.1, ← same.2]
        rw [← store.id_of_get? stored] at stored
        exact writes_of_get? stored
      · exact ⟨existing, _, rfl, rfl⟩

/-- A request for deletion writes its time, unless the record is missing or was to be deleted
already. -/
theorem requestDeletion_writes (id : RecordId) (now : Timestamp) :
    (store.requestDeletion id now).toOption.getD store = store ∨
    ∃ record, store.get? record.id = some record ∧
      store.Writes { record with deletionRequested := some now }
        ((store.requestDeletion id now).toOption.getD store) := by
  unfold requestDeletion
  cases stored : store.get? id with
  | none => exact .inl rfl
  | some record =>
      dsimp only
      split
      · exact .inl rfl
      · rw [← store.id_of_get? stored] at stored
        exact .inr ⟨record, stored, rfl⟩

end Store

namespace Sample

/-- An engine with one profile for every record. -/
def engine : Engine where
  resolver := .single
    { url := "http://localhost:9000", accessKey := "admin", secretKey := some "admin-secret" }
  environment := fun _ => none

def world : World :=
  .fresh 16 (.constant default) (.constant "secret")

/-- A bucket record that asks for no more than its name. -/
def bucket (id : String) (name : Option String) : Record where
  id := .plain id
  spec := .bucket
    { bucketName := name, region := none, deletionPolicy := .deleteIfEmpty, policy := none }

/-- The sample world after a bucket has been declared. -/
def declared : World :=
  engine.carryOut world (.apply (bucket "first" none))

/-- The sample world after that bucket has been created. -/
def settled : World :=
  engine.carryOut declared (.reconcile (.plain "first") false)

end Sample

end Steward
