/-
This file says what the reports of a pass write: the status of the record, and nothing else.
-/

import Steward.Engine.Reconcile
import Steward.Proofs.Execution

namespace Steward

theorem Condition.sameState_iff {first second : Condition} :
    first.sameState second = true ↔ first.aspect = second.aspect ∧ first.status = second.status ∧
      first.reason = second.reason ∧ first.message = second.message := by
  simp [sameState, and_assoc]

namespace Status

variable {status : Status} {condition current : Condition}

/-- A condition that is as it was is not written again. -/
theorem setIn_of_sameState {conditions : List Condition}
    (found : conditions.find? (fun other => other.aspect = condition.aspect) = some current)
    (same : current.sameState condition = true) : condition.setIn conditions = conditions := by
  induction conditions with
  | nil => cases found
  | cons first rest inductionHypothesis =>
      unfold Condition.setIn
      by_cases aspect : first.aspect = condition.aspect
      · simp only [List.find?_cons, aspect, decide_true, Option.some.injEq] at found
        rw [if_pos aspect, found, if_pos same]
      · simp only [List.find?_cons, aspect, decide_false] at found
        rw [if_neg aspect, inductionHypothesis found]

/-- A condition is found as it was set, unless one was there in its state already. -/
theorem find?_setIn_of_apart {conditions : List Condition}
    (apart : ∀ current, conditions.find? (fun other => other.aspect = condition.aspect) =
      some current → ¬ current.sameState condition = true) :
    (condition.setIn conditions).find? (fun other => other.aspect = condition.aspect) =
      some condition := by
  induction conditions with
  | nil => simp [Condition.setIn]
  | cons first rest inductionHypothesis =>
      unfold Condition.setIn
      by_cases same : first.aspect = condition.aspect
      · have differs := apart first (by simp [same])
        simp [same, differs]
      · have later := inductionHypothesis fun current found => apart current (by simpa [same])
        simpa [same] using later

/-- After a condition has been set, it is found in its state. -/
theorem find?_setIn_self (condition : Condition) (conditions : List Condition) :
    ∃ current, (condition.setIn conditions).find? (fun other => other.aspect = condition.aspect) =
      some current ∧ current.sameState condition = true := by
  by_cases settled : ∃ current, conditions.find? (fun other => other.aspect = condition.aspect) =
      some current ∧ current.sameState condition = true
  · obtain ⟨current, found, same⟩ := settled
    exact ⟨current, by rw [setIn_of_sameState found same, found], same⟩
  · refine ⟨condition, find?_setIn_of_apart fun current found same => ?_, ?_⟩
    · exact settled ⟨current, found, same⟩
    · simp [Condition.sameState]

/-- To set a condition leaves those about other aspects. -/
theorem find?_setIn_other {aspect : Aspect} (apart : aspect ≠ condition.aspect)
    (conditions : List Condition) :
    (condition.setIn conditions).find? (fun other => other.aspect = aspect) =
      conditions.find? fun other => other.aspect = aspect := by
  induction conditions with
  | nil => simp [Condition.setIn, Ne.symm apart]
  | cons first rest inductionHypothesis =>
      unfold Condition.setIn
      by_cases same : first.aspect = condition.aspect
      · rw [if_pos same]
        split
        · rfl
        · simp [same, Ne.symm apart]
      · rw [if_neg same]
        simp only [List.find?_cons, inductionHypothesis]

/-- A condition that has been set is found in its state. -/
theorem condition?_setCondition (status : Status) (condition : Condition) :
    ∃ current, (status.setCondition condition).condition? condition.aspect = some current ∧
      current.sameState condition = true :=
  find?_setIn_self condition status.conditions

/-- To set a condition leaves those of other aspects as they are. -/
theorem condition?_setCondition_other {aspect : Aspect} (apart : aspect ≠ condition.aspect) :
    (status.setCondition condition).condition? aspect = status.condition? aspect :=
  find?_setIn_other apart status.conditions

/-- To set a condition that is in its state already changes nothing. -/
theorem setCondition_of_sameState (found : status.condition? condition.aspect = some current)
    (same : current.sameState condition = true) : status.setCondition condition = status := by
  rw [setCondition, setIn_of_sameState found same]

/-- A resource that is told unavailable is not ready. -/
theorem isReady_unavailable (status : Status) (message : String) (now : Timestamp) :
    (status.setCondition (.unavailable message now)).isReady = false := by
  obtain ⟨current, found, same⟩ := status.condition?_setCondition (.unavailable message now)
  have failing : current.status = false := (Condition.sameState_iff.1 same).2.1
  change (status.setCondition (.unavailable message now)).condition? .ready = some current at found
  rw [isReady, found, Option.any_some, failing]

end Status

namespace Store

/-- One record has been written, and no other. -/
def Writes (before : Store) (record : Record) (after : Store) : Prop :=
  after.records = before.records.insert record.id record

variable {before middle after : Store} {first record : Record}

theorem writes_put (before : Store) (record : Record) : before.Writes record (before.put record) :=
  rfl

/-- A record that is stored can be seen as written. -/
theorem writes_of_get? (stored : before.get? record.id = some record) :
    before.Writes record before :=
  (Table.insert_of_get? stored).symm

/-- Of two writes of one record the later counts. -/
theorem Writes.trans (early : before.Writes first middle) (late : middle.Writes record after)
    (same : first.id = record.id) : before.Writes record after := by
  unfold Writes at early late ⊢
  rw [late, early, same, Table.insert_insert]

theorem Writes.get? (wrote : before.Writes record after) (id : RecordId) :
    after.get? id = if id = record.id then some record else before.get? id := by
  unfold Store.get?
  rw [wrote, Table.get?_insert]

theorem Writes.get?_self (wrote : before.Writes record after) :
    after.get? record.id = some record := by
  rw [wrote.get?, if_pos rfl]

end Store

/-- The status of a record after a success, with the times at which the conditions are set. -/
def Record.succeeded (record : Record) (observed : Option Observed)
    (ready synced last : Timestamp) : Status :=
  let seen := match observed with
    | some observed =>
        ({ record.status with observed } : Status).setCondition (.available ready)
    | none => record.status.setCondition (.creating ready)
  { seen.setCondition (.reconcileSuccess synced) with
    observedGeneration := record.generation
    lastReconciled := some last }

namespace Record

variable (record : Record) (observed : Observed) (ready synced last : Timestamp)

/-- After a success the resource is available, if it has been seen. -/
theorem condition?_ready_succeeded :
    ∃ current, (record.succeeded (some observed) ready synced last).condition? .ready =
      some current ∧ current.sameState (.available ready) = true := by
  obtain ⟨current, found, same⟩ :=
    ({ record.status with observed } : Status).condition?_setCondition (.available ready)
  refine ⟨current, ?_, same⟩
  rw [← found]
  exact Status.condition?_setCondition_other nofun

theorem condition?_synced_succeeded (seen : Option Observed) :
    ∃ current, (record.succeeded seen ready synced last).condition? .synced =
      some current ∧ current.sameState (.reconcileSuccess synced) = true :=
  Status.condition?_setCondition _ (.reconcileSuccess synced)

/-- After a success the record is ready, if its resource has been seen. -/
theorem isReady_succeeded :
    (record.succeeded (some observed) ready synced last).isReady = true := by
  obtain ⟨current, found, same⟩ := record.condition?_ready_succeeded observed ready synced last
  rw [Status.isReady, found]
  exact (Condition.sameState_iff.1 same).2.1

/-- After a success the record counts as in step. -/
theorem isSynced_succeeded (seen : Option Observed) :
    (record.succeeded seen ready synced last).isSynced = true := by
  obtain ⟨current, found, same⟩ := record.condition?_synced_succeeded ready synced last seen
  rw [Status.isSynced, found]
  exact (Condition.sameState_iff.1 same).2.1

/-- The record with the status of a success. -/
def reported (record : Record) (observed : Option Observed) (ready synced last : Timestamp) :
    Record :=
  { record with status := record.succeeded observed ready synced last }

/-- A success that is seen again changes the time of the last pass only. -/
theorem succeeded_again (again both late : Timestamp) :
    (record.reported (some observed) ready synced last).succeeded (some observed) again both
        late =
      { record.succeeded (some observed) ready synced last with
        lastReconciled := some late } := by
  obtain ⟨available, readyFound, readySame⟩ :=
    record.condition?_ready_succeeded observed ready synced last
  obtain ⟨success, syncedFound, syncedSame⟩ :=
    record.condition?_synced_succeeded ready synced last (some observed)
  have first : (record.succeeded (some observed) ready synced last).setCondition
      (.available again) = record.succeeded (some observed) ready synced last :=
    Status.setCondition_of_sameState readyFound readySame
  have second : (record.succeeded (some observed) ready synced last).setCondition
      (.reconcileSuccess both) = record.succeeded (some observed) ready synced last :=
    Status.setCondition_of_sameState syncedFound syncedSame
  have seen : ({ record.succeeded (some observed) ready synced last with observed } : Status) =
      record.succeeded (some observed) ready synced last := rfl
  change { ({ record.succeeded (some observed) ready synced last with observed }
      : Status).setCondition (.available again) |>.setCondition (.reconcileSuccess both) with
    observedGeneration := record.generation, lastReconciled := some late } = _
  rw [seen, first, second]
  rfl

/-- The status of a record after a failure that is told, with the times at which the conditions
are set. -/
def failed (record : Record) (error : PassError) (synced ready last : Timestamp) : Status :=
  let failing := record.status.setCondition (.reconcileError error.message synced)
  let told := match error with
    | .nameCollision _ _ => failing.setCondition (.unavailable error.message ready)
    | _ => failing
  { told with lastReconciled := some last }

/-- After a failure the record is out of step, with the message of the failure. -/
theorem condition?_synced_failed (error : PassError) :
    ∃ current, (record.failed error synced ready last).condition? .synced = some current ∧
      current.sameState (.reconcileError error.message synced) = true := by
  obtain ⟨current, found, same⟩ :=
    record.status.condition?_setCondition (.reconcileError error.message synced)
  refine ⟨current, ?_, same⟩
  rw [← found]
  unfold failed
  cases error with
  | nameCollision kind resource => exact Status.condition?_setCondition_other nofun
  | _ => rfl

/-- A resource that belongs to somebody else is told unavailable. -/
theorem condition?_ready_failed (kind : Kind) (resource : String) :
    ∃ current, (record.failed (.nameCollision kind resource) synced ready last).condition? .ready =
      some current ∧
      current.sameState
        (.unavailable (PassError.nameCollision kind resource).message ready) = true :=
  Status.condition?_setCondition _ (.unavailable _ ready)

end Record

namespace Engine

open Pass

variable {world : World} {record current : Record} {good : Unit → World → Prop}
  {bad : PassError → World → Prop}

/-- A success is written into the status of the stored record. -/
theorem ends_reportSuccess {observed : Option Observed}
    (stored : world.store.get? record.id = some current)
    (written : ∀ ready synced last clock, good () { world with
      store := world.store.put
        { current with status := record.succeeded observed ready synced last }
      clock }) :
    Ends (reportSuccess record observed) world good bad := by
  cases observed with
  | some observed =>
      simp only [reportSuccess, ends_bind, ends_now, ends_pure, ends_putStatus, stored]
      exact written _ _ _ _
  | none =>
      simp only [reportSuccess, ends_bind, ends_now, ends_pure, ends_putStatus, stored]
      exact written _ _ _ _

/-- A failure is written into the status of the stored record, if there is one and the failure
is told there; to write it never fails. -/
theorem ends_reportError {error : PassError}
    (written : ∀ current status clock, world.store.get? record.id = some current →
      good () { world with store := world.store.put { current with status }, clock })
    (left : ∀ clock, good () { world with clock }) :
    Ends (reportError record error) world good bad := by
  have wrote : ∀ status clock,
      Ends (do let _ ← ask (.putStatus record.id status)) { world with clock } good bad := by
    intro status clock
    simp only [ends_bind, ends_tryPutStatus]
    cases stored : world.store.get? record.id with
    | none => exact left clock
    | some current => exact written current status clock stored
  unfold reportError
  by_cases reported : isReported error
  · simp only [reported, not_true_eq_false, if_false, ends_bind, ends_now]
    cases error
    all_goals exact wrote _ _
  · rw [if_pos reported]
    exact left world.clock

/-- A failure that is told is written into the status of the stored record. -/
theorem ends_reportError_of_isReported {error : PassError} (told : isReported error = true)
    (stored : world.store.get? record.id = some current)
    (written : ∀ synced ready last clock, good () { world with
      store := world.store.put { current with status := record.failed error synced ready last }
      clock }) :
    Ends (reportError record error) world good bad := by
  unfold reportError
  simp only [told, not_true_eq_false, if_false, ends_bind, ends_now]
  cases error with
  | nameCollision kind resource =>
      simp only [ends_bind, ends_now, ends_pure, ends_tryPutStatus, stored]
      exact written _ _ _ _
  | _ =>
      simp only [ends_bind, ends_now, ends_pure, ends_tryPutStatus, stored]
      exact written _ world.clock.draw.1 _ _

/-- A pass over a stored record ends as its work does, after a failure has been reported. -/
theorem ends_pass {engine : Engine} (stored : world.store.get? record.id = some record)
    {good : Outcome → World → Prop} :
    Ends (engine.pass record.id) world good bad ↔
      Ends (engine.advance record) world good fun error after =>
        Ends (reportError record error) after (fun _ reported => bad error reported) bad := by
  simp only [pass, ends_bind, ends_readRecord, stored, ends_attempt, ends_pure, ends_throw]

/-- What is so whenever the work on a record ends well is so whenever a pass over it does. -/
theorem ends_pass_of_advance {engine : Engine} (stored : world.store.get? record.id = some record)
    {good : Outcome → World → Prop}
    (advances : Ends (engine.advance record) world good fun _ _ => True) :
    Ends (engine.pass record.id) world good fun _ _ => True := by
  rw [ends_pass stored]
  apply advances.mono (fun _ _ fine => fine)
  intro error later _
  exact (ends_answer _ _).mono (fun _ _ _ => trivial) fun _ _ _ => trivial

end Engine

end Steward
