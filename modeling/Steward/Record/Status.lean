/-
This file holds what the last pass over a record saw and how it ended.
A condition keeps the time at which its present state began.
-/

import Steward.Timestamp

namespace Steward

/-- What was seen on the remote side. -/
structure Observed where
  bucketName : Option String := none
  userName : Option String := none
  policyName : Option String := none
  accessKey : Option String := none
  parentUser : Option String := none
  description : Option String := none
  expiry : Option Timestamp := none
  policy : Option String := none
  policies : List String := []
  accountStatus : Option String := none
  deriving DecidableEq, Repr, Inhabited

/-- What a condition speaks about: whether the resource can be used, or whether the last pass
succeeded. -/
inductive Aspect where
  | ready
  | synced
  deriving DecidableEq, Repr, Inhabited

inductive Reason where
  | available
  | creating
  | deleting
  | unavailable
  | reconcileSuccess
  | reconcileError
  deriving DecidableEq, Repr, Inhabited

structure Condition where
  aspect : Aspect
  status : Bool
  reason : Reason
  message : Option String
  lastTransition : Timestamp
  deriving DecidableEq, Repr, Inhabited

namespace Condition

def available (now : Timestamp) : Condition :=
  ⟨.ready, true, .available, none, now⟩

def creating (now : Timestamp) : Condition :=
  ⟨.ready, false, .creating, none, now⟩

def deleting (now : Timestamp) : Condition :=
  ⟨.ready, false, .deleting, none, now⟩

def unavailable (message : String) (now : Timestamp) : Condition :=
  ⟨.ready, false, .unavailable, some message, now⟩

def reconcileSuccess (now : Timestamp) : Condition :=
  ⟨.synced, true, .reconcileSuccess, none, now⟩

def reconcileError (message : String) (now : Timestamp) : Condition :=
  ⟨.synced, false, .reconcileError, some message, now⟩

/-- Two conditions are in the same state when they differ in their times at most. -/
def sameState (first second : Condition) : Bool :=
  first.aspect = second.aspect && first.status = second.status &&
    first.reason = second.reason && first.message = second.message

/-- Puts a condition among others, in place of the first one of its aspect; one already in the
same state stays as it is. -/
def setIn (condition : Condition) : List Condition → List Condition
  | [] => [condition]
  | first :: rest =>
      if first.aspect = condition.aspect then
        if first.sameState condition then first :: rest else condition :: rest
      else first :: setIn condition rest

end Condition

/-- The observed side of a record. -/
structure Status where
  observed : Observed := {}
  conditions : List Condition := []
  lastReconciled : Option Timestamp := none
  observedGeneration : Nat := 0
  deriving DecidableEq, Repr, Inhabited

namespace Status

def setCondition (status : Status) (condition : Condition) : Status :=
  { status with conditions := condition.setIn status.conditions }

def condition? (status : Status) (aspect : Aspect) : Option Condition :=
  status.conditions.find? fun condition => condition.aspect = aspect

def isReady (status : Status) : Bool :=
  (status.condition? .ready).any (·.status)

def isSynced (status : Status) : Bool :=
  (status.condition? .synced).any (·.status)

/-- The message of a failing synced condition. -/
def syncError (status : Status) : Option String :=
  match status.condition? .synced with
  | some condition => if condition.status then none else condition.message
  | none => none

end Status

end Steward
