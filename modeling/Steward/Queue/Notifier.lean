/-
This file wakes callers that wait.
A wake-up for one caller goes to the one that has waited longest, or is kept as a permit for
the next one. A caller that was woken alone and leaves without noticing passes it on.
-/

namespace Steward

structure Notifier where
  permit : Bool := false
  /-- The callers that wait, the longest waiting one first. -/
  waiting : List Nat := []
  /-- The callers that have been woken alone and have not noticed yet. -/
  wokenAlone : List Nat := []
  deriving DecidableEq, Repr, Inhabited

namespace Notifier

/-- A caller takes the permit, or starts to wait. -/
def enter (notifier : Notifier) (caller : Nat) : Notifier :=
  if notifier.permit then { notifier with permit := false }
  else { notifier with waiting := notifier.waiting ++ [caller] }

def notifyOne (notifier : Notifier) : Notifier :=
  match notifier.waiting with
  | [] => { notifier with permit := true }
  | caller :: rest =>
      { notifier with waiting := rest, wokenAlone := notifier.wokenAlone ++ [caller] }

def notifyAll (notifier : Notifier) : Notifier :=
  { notifier with waiting := [] }

/-- Whether a caller that entered still has to wait. -/
def isWaiting (notifier : Notifier) (caller : Nat) : Bool :=
  caller ∈ notifier.waiting

/-- A caller notices that it has been woken. -/
def notice (notifier : Notifier) (caller : Nat) : Notifier :=
  { notifier with wokenAlone := notifier.wokenAlone.erase caller }

/-- A caller leaves, and passes on a wake-up that it has not noticed. -/
def leave (notifier : Notifier) (caller : Nat) : Notifier :=
  if caller ∈ notifier.wokenAlone then (notifier.notice caller).notifyOne
  else { notifier with waiting := notifier.waiting.erase caller }

end Notifier

end Steward
