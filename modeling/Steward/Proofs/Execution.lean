/-
This file says how a pass ends when nothing else happens while it runs.
Each way to put a pass together has one rule, so a proof about a pass follows its text and never
opens a run.
-/

import Steward.Engine.Program

namespace Steward.Pass

variable {α β : Type}

/-- What a pass answers that runs alone. -/
def answer (pass : Pass α) (world : World) : Except PassError α :=
  (pass.run.run world).1

/-- The world after a pass that runs alone. -/
def after (pass : Pass α) (world : World) : World :=
  (pass.run.run world).2

/-- A pass ends well with an answer in a world that `good` allows, or badly with a failure in a
world that `bad` allows. -/
def Ends (pass : Pass α) (world : World) (good : α → World → Prop)
    (bad : PassError → World → Prop) : Prop :=
  match pass.run.run world with
  | (.ok value, after) => good value after
  | (.error error, after) => bad error after

section Meaning

variable {pass : Pass α} {world : World} {good : α → World → Prop}
  {bad : PassError → World → Prop}

/-- Of a pass that answers, the good end holds. -/
theorem Ends.of_ok (ends : Ends pass world good bad) {value : α}
    (answered : pass.answer world = .ok value) : good value (pass.after world) := by
  unfold Ends at ends
  unfold answer at answered
  unfold after
  rcases run : pass.run.run world with ⟨answer, after⟩
  rw [run] at ends answered
  cases answered
  exact ends

/-- Of a pass that fails, the bad end holds. -/
theorem Ends.of_error (ends : Ends pass world good bad) {error : PassError}
    (failed : pass.answer world = .error error) : bad error (pass.after world) := by
  unfold Ends at ends
  unfold answer at failed
  unfold after
  rcases run : pass.run.run world with ⟨answer, after⟩
  rw [run] at ends failed
  cases failed
  exact ends

/-- What a pass ends with, however it ends, holds of the world after it. -/
theorem Ends.after_of_both {kept : World → Prop}
    (ends : Ends pass world (fun _ later => kept later) fun _ later => kept later) :
    kept (pass.after world) := by
  cases answered : pass.answer world with
  | ok value => exact ends.of_ok answered
  | error error => exact ends.of_error answered

/-- What is said of the ends of a pass may be weakened. -/
theorem Ends.mono {better : α → World → Prop} {worse : PassError → World → Prop}
    (ends : Ends pass world good bad) (well : ∀ value after, good value after → better value after)
    (badly : ∀ error after, bad error after → worse error after) :
    Ends pass world better worse := by
  unfold Ends at ends ⊢
  generalize pass.run.run world = result at ends ⊢
  rcases result with ⟨answer | answer, after⟩
  · exact badly _ _ ends
  · exact well _ _ ends

/-- Of a pass that cannot fail only the good end matters. -/
theorem Ends.of_succeeds {better : α → World → Prop} {worse : PassError → World → Prop}
    (ends : Ends pass world good fun _ _ => False)
    (well : ∀ value after, good value after → better value after) :
    Ends pass world better worse :=
  ends.mono well fun _ _ never => never.elim

/-- What is said twice of the ends of a pass holds at once. -/
theorem Ends.and {alsoGood : α → World → Prop} {alsoBad : PassError → World → Prop}
    (first : Ends pass world good bad) (second : Ends pass world alsoGood alsoBad) :
    Ends pass world (fun value after => good value after ∧ alsoGood value after)
      (fun error after => bad error after ∧ alsoBad error after) := by
  unfold Ends at first second ⊢
  generalize pass.run.run world = result at first second ⊢
  rcases result with ⟨answer | answer, after⟩
  · exact ⟨first, second⟩
  · exact ⟨first, second⟩

/-- Every pass ends in one way or the other, as it answers. -/
theorem ends_answer (pass : Pass α) (world : World) :
    Ends pass world
      (fun value later => pass.answer world = .ok value ∧ pass.after world = later)
      (fun error later => pass.answer world = .error error ∧ pass.after world = later) := by
  unfold Ends answer after
  rcases pass.run.run world with ⟨answer | answer, after⟩
  · exact ⟨rfl, rfl⟩
  · exact ⟨rfl, rfl⟩

/-- A pass that cannot fail answers. -/
theorem Ends.exists_ok (ends : Ends pass world good fun _ _ => False) :
    ∃ value, pass.answer world = .ok value ∧ good value (pass.after world) := by
  cases answered : pass.answer world with
  | ok value => exact ⟨value, rfl, ends.of_ok answered⟩
  | error error => exact (ends.of_error answered).elim

/-- A pass that cannot succeed fails. -/
theorem Ends.exists_error (ends : Ends pass world (fun _ _ => False) bad) :
    ∃ error, pass.answer world = .error error ∧ bad error (pass.after world) := by
  cases answered : pass.answer world with
  | ok value => exact (ends.of_ok answered).elim
  | error error => exact ⟨error, rfl, ends.of_error answered⟩

/-- A pass whose ends both name one result answers it. -/
theorem Ends.answer_eq {result : Except PassError α}
    (ends : Ends pass world (fun value _ => result = .ok value)
      (fun error _ => result = .error error)) : pass.answer world = result := by
  cases answered : pass.answer world with
  | ok value => exact (ends.of_ok answered).symm
  | error error => exact (ends.of_error answered).symm

/-- For a pass that is known to answer, its good end is all there is to say. -/
theorem ends_iff_of_ok {value : α} (answered : pass.answer world = .ok value) :
    Ends pass world good bad ↔ good value (pass.after world) := by
  constructor
  · intro ends
    exact ends.of_ok answered
  · intro holds
    apply (ends_answer pass world).mono
    · intro other later ended
      obtain ⟨same, rfl⟩ := ended
      cases same.symm.trans answered
      exact holds
    · intro error later ended
      obtain ⟨failed, -⟩ := ended
      cases failed.symm.trans answered

/-- For a pass that is known to fail, its bad end is all there is to say. -/
theorem ends_iff_of_error {error : PassError} (failed : pass.answer world = .error error) :
    Ends pass world good bad ↔ bad error (pass.after world) := by
  constructor
  · intro ends
    exact ends.of_error failed
  · intro holds
    apply (ends_answer pass world).mono
    · intro value later ended
      obtain ⟨answered, -⟩ := ended
      cases answered.symm.trans failed
    · intro other later ended
      obtain ⟨same, rfl⟩ := ended
      cases same.symm.trans failed
      exact holds

end Meaning

section Rules

variable {world : World} {good : α → World → Prop} {bad : PassError → World → Prop}

@[simp] theorem ends_pure (value : α) :
    Ends (pure value) world good bad ↔ good value world :=
  Iff.rfl

@[simp] theorem ends_throw (error : PassError) :
    Ends (throw error : Pass α) world good bad ↔ bad error world :=
  Iff.rfl

theorem mapError_ok {first second : Type} (change : first → second) (value : α) :
    (Except.ok value).mapError change = .ok value :=
  rfl

theorem mapError_error {first second : Type} (change : first → second) (error : first) :
    (Except.error error : Except first α).mapError change = .error (change error) :=
  rfl

@[simp] theorem ends_lift (result : Except PassError α) :
    Ends (liftM result : Pass α) world good bad ↔
      match result with
      | .ok value => good value world
      | .error error => bad error world := by
  cases result
  · rfl
  · rfl

/-- The rest of a pass runs where the first part has left the world, unless that part fails. -/
theorem run_bind (pass : Pass α) (next : α → Pass β) (world : World) :
    (pass >>= next).run.run world =
      match pass.run.run world with
      | (.ok value, after) => (next value).run.run after
      | (.error error, after) => (.error error, after) := by
  apply (Program.run_bind pass _ world).trans
  change _ = match Program.run pass world with
    | (.ok value, after) => Program.run (next value) after
    | (.error error, after) => (.error error, after)
  rcases Program.run pass world with ⟨answer | answer, after⟩
  · rfl
  · rfl

/-- A pass is followed part by part: where the first part ends well, the rest begins. -/
@[simp] theorem ends_bind (pass : Pass α) (next : α → Pass β) {good : β → World → Prop} :
    Ends (pass >>= next) world good bad ↔
      Ends pass world (fun value after => Ends (next value) after good bad) bad := by
  rw [Ends, Ends, run_bind]
  rcases pass.run.run world with ⟨answer | answer, after⟩
  · rfl
  · rfl

/-- The end of a pass is that of its last part, when a failure may come anywhere. -/
theorem ends_of_last {pass : Pass α} {next : α → Pass β} {good : β → World → Prop}
    (last : ∀ value after, Ends (next value) after good fun _ _ => True) :
    Ends (pass >>= next) world good fun _ _ => True := by
  rw [ends_bind]
  apply (ends_answer pass world).mono
  · intro value after _
    exact last value after
  · intro error after _
    trivial

theorem run_attempt (pass : Pass α) (world : World) :
    (attempt pass).run.run world = (.ok (pass.answer world), pass.after world) :=
  Program.run_bind pass.run _ world

@[simp] theorem answer_attempt (pass : Pass α) (world : World) :
    (attempt pass).answer world = .ok (pass.answer world) := by
  rw [answer, run_attempt]

/-- A pass that is attempted ends well either way, with its failure as a value. -/
@[simp] theorem ends_attempt (pass : Pass α) {good : Except PassError α → World → Prop} :
    Ends (attempt pass) world good bad ↔
      Ends pass world (fun value => good (.ok value)) (fun error => good (.error error)) := by
  rw [Ends, Ends, run_attempt, answer, after]
  rcases pass.run.run world with ⟨answer | answer, after⟩
  · rfl
  · rfl

@[simp] theorem ends_ite (condition : Prop) [Decidable condition] (first second : Pass α) :
    Ends (if condition then first else second) world good bad ↔
      if condition then Ends first world good bad else Ends second world good bad := by
  split
  · rfl
  · rfl

end Rules

section Requests

variable {world : World} {bad : PassError → World → Prop}

theorem ends_ask (request : Request) {good : request.Answer → World → Prop} :
    Ends (ask request) world good bad ↔
      good (world.answer request).1 (world.answer request).2 :=
  Iff.rfl

@[simp] theorem ends_readRecord (id : RecordId) {good : Option Record → World → Prop} :
    Ends (α := Option Record) (ask (.readRecord id)) world good bad ↔
      good (world.store.get? id) world :=
  Iff.rfl

@[simp] theorem ends_listRecords {good : List Record → World → Prop} :
    Ends (α := List Record) (ask .listRecords) world good bad ↔ good world.store.list world :=
  Iff.rfl

@[simp] theorem ends_now {good : Timestamp → World → Prop} :
    Ends now world good bad ↔
      good world.clock.draw.1 { world with clock := world.clock.draw.2 } :=
  Iff.rfl

@[simp] theorem ends_secret {good : String → World → Prop} :
    Ends (α := String) (ask .secret) world good bad ↔
      good world.secrets.draw.1 { world with secrets := world.secrets.draw.2 } :=
  Iff.rfl

/-- A write that fails leaves the store as it was. -/
theorem ends_written (result : Except StoreError Store) {good : Unit → World → Prop} :
    Ends (written (world.write result).1) (world.write result).2 good bad ↔
      match result with
      | .ok store => good () { world with store }
      | .error error => bad (.store error) world := by
  cases result
  · rfl
  · rfl

/-- The rule of a write of the status whose failure is overlooked. -/
@[simp] theorem ends_tryPutStatus (id : RecordId) (status : Status)
    {good : Except StoreError Unit → World → Prop} :
    Ends (α := Except StoreError Unit) (ask (.putStatus id status)) world good bad ↔
      match world.store.get? id with
      | some record => good (.ok ()) { world with store := world.store.put { record with status } }
      | none => good (.error (.recordNotFound id.text)) world := by
  rw [ends_ask, World.answer, Store.putStatus, Store.modify]
  cases world.store.get? id
  · rfl
  · rfl

/-- A status is written to the record that is stored; without one the write fails. -/
@[simp] theorem ends_putStatus (id : RecordId) (status : Status) {good : Unit → World → Prop} :
    Ends (putStatus id status) world good bad ↔
      match world.store.get? id with
      | some record => good () { world with store := world.store.put { record with status } }
      | none => bad (.store (.recordNotFound id.text)) world := by
  rw [putStatus, ends_bind, ends_tryPutStatus]
  cases world.store.get? id
  · rfl
  · rfl

/-- Metadata are written to the record that is stored; without one the write fails. -/
@[simp] theorem ends_putMetadata (id : RecordId) (metadata : Metadata)
    {good : Unit → World → Prop} :
    Ends (putMetadata id metadata) world good bad ↔
      match world.store.get? id with
      | some record => good () { world with store := world.store.put { record with metadata } }
      | none => bad (.store (.recordNotFound id.text)) world := by
  rw [putMetadata, ends_bind, ends_ask, World.answer, ends_written, Store.putMetadata, Store.modify]
  cases world.store.get? id
  · rfl
  · rfl

/-- Details are handed over for a record that is stored; without one this fails. -/
@[simp] theorem ends_publish (id : RecordId) (details : Details) {good : Unit → World → Prop} :
    Ends (publish id details) world good bad ↔
      match world.store.get? id with
      | some _ => good () { world with store := world.store.handOver id details }
      | none => bad (.store (.recordNotFound id.text)) world := by
  rw [publish, ends_bind, ends_ask, World.answer, ends_written, Store.publish]
  cases world.store.get? id
  · rfl
  · rfl

/-- A record that is stored is erased and its deletion announced; without one this fails. -/
@[simp] theorem ends_erase (id : RecordId) {good : Unit → World → Prop} :
    Ends (erase id) world good bad ↔
      match world.store.get? id with
      | some record =>
          good () { world with store := (world.store.without id).announce ⟨.deleted, record⟩ }
      | none => bad (.store (.recordNotFound id.text)) world := by
  rw [erase, ends_bind, ends_ask, World.answer, ends_written, Store.erase]
  cases world.store.get? id
  · rfl
  · rfl

/-- A call is answered by the remote side, a refusal included. -/
theorem ends_call (remote : RemoteCall)
    {good : Except RemoteError remote.Result → World → Prop} :
    Ends (α := no_index _) (call remote) world good bad ↔
      good (world.plane.perform remote).1
        { world with plane := (world.plane.perform remote).2 } :=
  Iff.rfl

/-- A call that is refused fails the pass with the name of the operation and the resource. -/
theorem ends_perform (operation resource : String) (remote : RemoteCall)
    {good : remote.Result → World → Prop} :
    Ends (α := no_index _) (perform operation resource remote) world good bad ↔
      match (world.plane.perform remote).1 with
      | .ok result => good result { world with plane := (world.plane.perform remote).2 }
      | .error error =>
          bad (.ofRemote operation resource error)
            { world with plane := (world.plane.perform remote).2 } := by
  rw [perform, ends_bind, ends_call]
  cases (world.plane.perform remote).1
  · rfl
  · rfl

end Requests

end Steward.Pass
