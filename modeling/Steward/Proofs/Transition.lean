/-
This file shows what conditions remember of all that has been set.
A condition that is set again and again keeps the time at which its present state began; one that
turns to another state and back gets a new time.
-/

import Mathlib.Data.List.Induction
import Steward.Proofs.Report

namespace Steward

namespace Condition

/-- Two conditions tell the same of their aspect; their times may differ. -/
def Agrees (first second : Condition) : Prop :=
  first.status = second.status ∧ first.reason = second.reason ∧ first.message = second.message

/-- The conditions that speak about an aspect. -/
def about (aspect : Aspect) (conditions : List Condition) : List Condition :=
  conditions.filter (·.aspect = aspect)

/-- The longest run of conditions at the end of a history that all tell the same begins with this
one. -/
def BeginsLastRun (start : Condition) (history : List Condition) : Prop :=
  ∃ before run, history = before ++ start :: run ∧ (∀ later ∈ run, later.Agrees start) ∧
    ∀ last ∈ before.getLast?, ¬ last.Agrees start

variable {condition start later : Condition} {history : List Condition} {aspect : Aspect}

theorem Agrees.symm {first second : Condition} (agrees : first.Agrees second) :
    second.Agrees first :=
  ⟨agrees.1.symm, agrees.2.1.symm, agrees.2.2.symm⟩

theorem Agrees.trans {first second third : Condition} (early : first.Agrees second)
    (late : second.Agrees third) : first.Agrees third :=
  ⟨early.1.trans late.1, early.2.1.trans late.2.1, early.2.2.trans late.2.2⟩

theorem sameState_iff_agrees {first second : Condition} (same : first.aspect = second.aspect) :
    first.sameState second = true ↔ first.Agrees second := by
  simp only [sameState_iff, same, true_and, Agrees]

theorem about_concat_self : about condition.aspect (history ++ [condition]) =
    about condition.aspect history ++ [condition] := by
  simp [about]

theorem about_concat_other (apart : aspect ≠ condition.aspect) :
    about aspect (history ++ [condition]) = about aspect history := by
  simp [about, Ne.symm apart]

/-- Of an aspect that stands once at most there is the one condition that is found. -/
theorem about_eq_toList_find? {conditions : List Condition}
    (single : (conditions.map (·.aspect)).Nodup) (aspect : Aspect) :
    about aspect conditions = (conditions.find? fun other => other.aspect = aspect).toList := by
  induction conditions with
  | nil => rfl
  | cons first rest inductionHypothesis =>
      obtain ⟨fresh, single⟩ := List.nodup_cons.1 single
      by_cases same : first.aspect = aspect
      · have none : about aspect rest = [] := by
          refine List.filter_eq_nil_iff.2 fun other inside alike => fresh ?_
          exact List.mem_map.2 ⟨other, inside, (of_decide_eq_true alike).trans same.symm⟩
        simp only [about] at none
        simp [about, same, none]
      · simp only [about] at inductionHypothesis
        simp [about, same, inductionHypothesis single]

theorem beginsLastRun_singleton (start : Condition) : start.BeginsLastRun [start] :=
  ⟨[], [], rfl, nofun, nofun⟩

/-- The last run begins with a condition that tells what the end of the history tells. -/
theorem BeginsLastRun.agrees_getLast (begins : start.BeginsLastRun history) {last : Condition}
    (ends : history.getLast? = some last) : start.Agrees last := by
  obtain ⟨before, run, rfl, same, -⟩ := begins
  rw [List.getLast?_append, List.getLast?_cons, Option.some_or, ← List.getLast?_cons] at ends
  rcases List.mem_cons.1 (List.mem_of_getLast? ends) with rfl | later
  · exact ⟨rfl, rfl, rfl⟩
  · exact (same last later).symm

/-- A run goes on with a condition that tells the same. -/
theorem BeginsLastRun.concat_of_agrees (begins : start.BeginsLastRun history)
    (same : start.Agrees later) : start.BeginsLastRun (history ++ [later]) := by
  obtain ⟨before, run, rfl, agree, ends⟩ := begins
  refine ⟨before, run ++ [later], by simp, fun other inside => ?_, ends⟩
  rcases List.mem_append.1 inside with early | last
  · exact agree other early
  · rw [List.mem_singleton.1 last]
    exact same.symm

/-- A condition that tells anything else begins a run of its own. -/
theorem BeginsLastRun.concat_of_differs (begins : start.BeginsLastRun history)
    (differs : ¬ start.Agrees later) : later.BeginsLastRun (history ++ [later]) := by
  refine ⟨history, [], rfl, nofun, fun last ends agrees => ?_⟩
  exact differs ((begins.agrees_getLast ends).trans agrees)

end Condition

namespace Status

open Condition

variable {status : Status} {condition current : Condition} {aspect : Aspect}

/-- To set a condition keeps the order of the aspects, and puts a new one at the end. -/
theorem map_aspect_setIn (condition : Condition) (conditions : List Condition) :
    (condition.setIn conditions).map (·.aspect) =
      if condition.aspect ∈ conditions.map (·.aspect) then conditions.map (·.aspect)
      else conditions.map (·.aspect) ++ [condition.aspect] := by
  induction conditions with
  | nil => simp [setIn]
  | cons first rest inductionHypothesis =>
      by_cases same : first.aspect = condition.aspect
      · by_cases settled : first.sameState condition = true
        · simp [setIn, same, settled]
        · simp [setIn, same, settled]
      · simp only [setIn, same, if_false, List.map_cons, inductionHypothesis, List.mem_cons,
          Ne.symm same, false_or]
        split
        · rfl
        · rfl

/-- To set a condition leaves one condition for each aspect. -/
theorem nodup_map_aspect_setIn {conditions : List Condition} (condition : Condition)
    (single : (conditions.map (·.aspect)).Nodup) :
    ((condition.setIn conditions).map (·.aspect)).Nodup := by
  rw [map_aspect_setIn]
  split
  · exact single
  · rename_i absent
    refine List.nodup_append.2 ⟨single, List.nodup_cons.2 ⟨nofun, List.nodup_nil⟩, ?_⟩
    intro earlier inside last same equal
    exact absent (List.mem_singleton.1 same ▸ equal ▸ inside)

/-- Without repetitions, an item at the end counts if it is new. -/
theorem eraseDups_concat (aspects : List Aspect) (last : Aspect) :
    (aspects ++ [last]).eraseDups =
      if last ∈ aspects.eraseDups then aspects.eraseDups else aspects.eraseDups ++ [last] := by
  simp only [List.eraseDups_append, List.mem_eraseDups]
  by_cases seen : last ∈ aspects
  · simp [List.removeAll, seen]
  · simp [List.removeAll, seen, List.eraseDups_cons]

/-- Where nothing stands twice, nothing is dropped. -/
theorem eraseDups_of_nodup {aspects : List Aspect} (single : aspects.Nodup) :
    aspects.eraseDups = aspects := by
  induction aspects using List.reverseRecOn with
  | nil => rfl
  | append_singleton aspects last inductionHypothesis =>
      obtain ⟨early, -, apart⟩ := List.nodup_append.1 single
      have fresh : last ∉ aspects := fun inside => apart last inside last (by simp) rfl
      rw [eraseDups_concat, inductionHypothesis early, if_neg fresh]

/-- What the conditions of a status are after others have been set in it. -/
structure Remembers (initial : Status) (steps : List Condition) (after : Status) : Prop where
  single : (after.conditions.map (·.aspect)).Nodup
  order : after.conditions.map (·.aspect) =
    ((initial.conditions ++ steps).map (·.aspect)).eraseDups
  /-- Each condition that is held has begun the last run of its aspect. -/
  begins : ∀ aspect, match after.condition? aspect with
    | some current => current.BeginsLastRun (about aspect (initial.conditions ++ steps))
    | none => about aspect (initial.conditions ++ steps) = []

/-- A status in which an aspect stands once at most is remembered as it is. -/
theorem remembers_self (single : (status.conditions.map (·.aspect)).Nodup) :
    status.Remembers [] status where
  single := single
  order := by rw [List.append_nil, eraseDups_of_nodup single]
  begins := by
    intro aspect
    have all : about aspect status.conditions = (status.condition? aspect).toList :=
      about_eq_toList_find? single aspect
    rw [List.append_nil, all]
    cases status.condition? aspect with
    | none => rfl
    | some current => exact beginsLastRun_singleton current

variable {initial : Status} {steps : List Condition}

/-- One more condition is remembered like those before it. -/
theorem Remembers.setCondition (remembers : initial.Remembers steps status)
    (condition : Condition) :
    initial.Remembers (steps ++ [condition]) (status.setCondition condition) where
  single := nodup_map_aspect_setIn condition remembers.single
  order := by
    have longer : (initial.conditions ++ (steps ++ [condition])).map (·.aspect) =
        (initial.conditions ++ steps).map (·.aspect) ++ [condition.aspect] := by
      rw [← List.append_assoc, List.map_append, List.map_singleton]
    change (condition.setIn status.conditions).map (·.aspect) = _
    rw [map_aspect_setIn, remembers.order, longer, eraseDups_concat]
  begins := by
    intro aspect
    rw [← List.append_assoc]
    by_cases same : aspect = condition.aspect
    · subst same
      have held := remembers.begins condition.aspect
      rw [about_concat_self]
      cases found : status.condition? condition.aspect with
      | none =>
          rw [found] at held
          have now : (status.setCondition condition).condition? condition.aspect = some condition :=
            find?_setIn_of_apart fun current there => by cases found.symm.trans there
          rw [now, held]
          exact beginsLastRun_singleton condition
      | some current =>
          rw [found] at held
          have alike : current.aspect = condition.aspect := by
            simpa using List.find?_some found
          by_cases settled : current.sameState condition = true
          · rw [setCondition_of_sameState found settled, found]
            exact held.concat_of_agrees ((sameState_iff_agrees alike).1 settled)
          · have now : (status.setCondition condition).condition? condition.aspect =
                some condition := find?_setIn_of_apart fun other there same => by
              cases found.symm.trans there
              exact settled same
            rw [now]
            exact held.concat_of_differs fun agrees =>
              settled ((sameState_iff_agrees alike).2 agrees)
    · rw [about_concat_other same, condition?_setCondition_other same]
      exact remembers.begins aspect

/-- A status remembers every condition that was set, one after the other. -/
theorem remembers_foldl (single : (initial.conditions.map (·.aspect)).Nodup)
    (steps : List Condition) :
    initial.Remembers steps (steps.foldl Status.setCondition initial) := by
  induction steps using List.reverseRecOn with
  | nil => exact remembers_self single
  | append_singleton steps condition inductionHypothesis =>
      rw [List.foldl_append]
      exact inductionHypothesis.setCondition condition

/-- A condition that was not set is as it was at first. -/
theorem condition?_foldl_of_unset (unset : about aspect steps = []) :
    (steps.foldl Status.setCondition status).condition? aspect = status.condition? aspect := by
  induction steps generalizing status with
  | nil => rfl
  | cons condition steps inductionHypothesis =>
      have apart : aspect ≠ condition.aspect := by
        rintro rfl
        simp [about] at unset
      have rest : about aspect steps = [] := by simpa [about, Ne.symm apart] using unset
      rw [List.foldl_cons, inductionHypothesis rest, condition?_setCondition_other apart]

/-- After any row of conditions has been set, each aspect stands once, in the order in which the
aspects first appeared. An aspect that was set tells what its last condition told, by the condition
that began the last run of such conditions, and so with its time; all others are as they were. -/
theorem conditions_keep_their_start (status : Status) (steps : List Condition)
    (single : (status.conditions.map (·.aspect)).Nodup) :
    let after := steps.foldl Status.setCondition status
    (after.conditions.map (·.aspect)).Nodup ∧
      after.conditions.map (·.aspect) =
        ((status.conditions ++ steps).map (·.aspect)).eraseDups ∧
      (∀ aspect last, (about aspect steps).getLast? = some last →
        ∃ current, after.condition? aspect = some current ∧ current.status = last.status ∧
          current.reason = last.reason ∧ current.message = last.message ∧
          current.BeginsLastRun (about aspect (status.conditions ++ steps))) ∧
      ∀ aspect, about aspect steps = [] → after.condition? aspect = status.condition? aspect := by
  intro after
  have remembers : status.Remembers steps after := remembers_foldl single steps
  refine ⟨remembers.single, remembers.order, fun aspect last ends => ?_,
    fun aspect => condition?_foldl_of_unset⟩
  have all : (about aspect (status.conditions ++ steps)).getLast? = some last := by
    unfold about at ends ⊢
    rw [List.filter_append, List.getLast?_append, ends, Option.some_or]
  have begins := remembers.begins aspect
  cases found : after.condition? aspect with
  | none =>
      rw [found] at begins
      rw [begins] at all
      cases all
  | some current =>
      rw [found] at begins
      obtain ⟨status, reason, message⟩ := begins.agrees_getLast all
      exact ⟨current, rfl, status, reason, message, begins⟩

end Status

namespace Sample

/-- Midnight, some days into a year. -/
def midnight (day : Nat) : Timestamp :=
  ⟨2024, 1, day, 0, 0, 0, 0⟩

/-- A resource becomes available, is lost and comes back, and is seen again after that, while
passes go on to succeed. -/
def wavering : List Condition :=
  [.reconcileSuccess (midnight 2), .available (midnight 3), .creating (midnight 4),
    .reconcileSuccess (midnight 5), .available (midnight 6), .available (midnight 7)]

end Sample

/-- A state that is left and comes back has a new time, one that goes on keeps its own. -/
theorem Status.conditions_keep_their_start_of_wavering :
    let status : Status := { conditions := [.available (Sample.midnight 1)] }
    let after := Sample.wavering.foldl Status.setCondition status
    (status.conditions.map (·.aspect)).Nodup ∧
      after.conditions.map (·.aspect) = [.ready, .synced] ∧
      ∃ current, after.condition? .ready = some current ∧
        current.lastTransition = Sample.midnight 6 ∧
        current.BeginsLastRun (Condition.about .ready (status.conditions ++ Sample.wavering)) := by
  intro status after
  have single : (status.conditions.map (·.aspect)).Nodup := by decide
  obtain ⟨-, order, set, -⟩ := Status.conditions_keep_their_start status Sample.wavering single
  obtain ⟨current, found, -, -, -, begins⟩ :=
    set .ready (.available (Sample.midnight 7)) (by decide)
  have now : after.condition? .ready = some (.available (Sample.midnight 6)) := by decide
  refine ⟨single, order, current, found, ?_, begins⟩
  cases found.symm.trans now
  rfl

end Steward
