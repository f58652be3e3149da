/-
This file keeps the markers of a record, and with them its claim on a remote resource.
The lock is written after a create has succeeded and shows that the record owns the resource.
The pending marker is written before a create is tried, so that one cut short is told from a
resource that belongs to somebody else.
-/

import Steward.Table

namespace Steward

/-- Markers by name. -/
abbrev Metadata := Table String String

namespace Metadata

def lockKey : String := "silo.io/lock"

def lockValue : String := "claimed"

def createPendingKey : String := "silo.io/create-pending"

def externalNameKey : String := "silo.io/external-name"

/-- Takes ownership; a create is then no longer pending. -/
def claim (metadata : Metadata) : Metadata :=
  Table.erase (Table.insert metadata lockKey lockValue) createPendingKey

def isClaimed (metadata : Metadata) : Bool :=
  Table.contains metadata lockKey

def markCreatePending (metadata : Metadata) : Metadata :=
  Table.insert metadata createPendingKey "true"

def isCreatePending (metadata : Metadata) : Bool :=
  Table.contains metadata createPendingKey

def clearCreatePending (metadata : Metadata) : Metadata :=
  Table.erase metadata createPendingKey

/-- The name that the remote side gave; an empty one does not count. -/
def externalName (metadata : Metadata) : Option String :=
  (Table.get? metadata externalNameKey).filter fun name => name ≠ ""

def setExternalName (metadata : Metadata) (name : String) : Metadata :=
  Table.insert metadata externalNameKey name

theorem isClaimed_claim (metadata : Metadata) : (claim metadata).isClaimed = true := by
  simp [claim, isClaimed, Table.contains, lockKey, createPendingKey]

theorem isCreatePending_claim (metadata : Metadata) :
    (claim metadata).isCreatePending = false := by
  simp [claim, isCreatePending, Table.contains]

theorem isClaimed_markCreatePending (metadata : Metadata) :
    (markCreatePending metadata).isClaimed = metadata.isClaimed := by
  simp [markCreatePending, isClaimed, Table.contains, lockKey, createPendingKey]

theorem isCreatePending_markCreatePending (metadata : Metadata) :
    (markCreatePending metadata).isCreatePending = true := by
  simp [markCreatePending, isCreatePending, Table.contains]

theorem isClaimed_clearCreatePending (metadata : Metadata) :
    (clearCreatePending metadata).isClaimed = metadata.isClaimed := by
  simp [clearCreatePending, isClaimed, Table.contains, lockKey, createPendingKey]

theorem externalName_claim (metadata : Metadata) :
    (claim metadata).externalName = metadata.externalName := by
  simp [claim, externalName, lockKey, createPendingKey, externalNameKey]

theorem externalName_setExternalName (metadata : Metadata) {name : String} (given : name ≠ "") :
    (setExternalName metadata name).externalName = some name := by
  simp [setExternalName, externalName, given, Option.filter]

theorem externalName_markCreatePending (metadata : Metadata) :
    (markCreatePending metadata).externalName = metadata.externalName := by
  simp [markCreatePending, externalName, createPendingKey, externalNameKey]

/-- A claim takes a pending marker away. -/
theorem claim_markCreatePending (metadata : Metadata) :
    (markCreatePending metadata).claim = metadata.claim := by
  refine Table.ext_get? fun name => ?_
  by_cases pending : name = createPendingKey
  · simp [claim, markCreatePending, pending]
  · simp [claim, markCreatePending, pending]

/-- The marker of a create and the external name are set in either order. -/
theorem setExternalName_markCreatePending (metadata : Metadata) (name : String) :
    setExternalName (markCreatePending metadata) name =
      markCreatePending (setExternalName metadata name) := by
  refine Table.ext_get? fun other => ?_
  by_cases pending : other = createPendingKey
  · simp [setExternalName, markCreatePending, pending, createPendingKey, externalNameKey]
  · simp [setExternalName, markCreatePending, pending]

/-- A marker that is set and cleared leaves no trace. -/
theorem clearCreatePending_markCreatePending (metadata : Metadata) :
    (markCreatePending metadata).clearCreatePending = metadata.clearCreatePending := by
  refine Table.ext_get? fun name => ?_
  by_cases pending : name = createPendingKey
  · simp [clearCreatePending, markCreatePending, pending]
  · simp [clearCreatePending, markCreatePending, pending]

end Metadata

end Steward
