/-
This file compares what is desired with what is seen, field by field.
Policy documents are compared as JSON values, policy names as sets, and single values as they
are; a value that is not desired is not compared.
-/

import Steward.Engine.Error

namespace Steward

open Text (quoted quotedOption)

/-- The fields in which a resource can differ from its record. -/
inductive Field where
  | policy
  | policies
  | parentUser
  | description
  | expiry
  deriving DecidableEq, Repr

namespace Field

def all : List Field :=
  [.policy, .policies, .parentUser, .description, .expiry]

def text : Field → String
  | .policy => "policy"
  | .policies => "policies"
  | .parentUser => "parentUser"
  | .description => "description"
  | .expiry => "expiry"

end Field

/-- One difference between desired and seen. -/
structure Drift where
  field : Field
  detail : String
  deriving DecidableEq, Repr

def Drift.text (drift : Drift) : String :=
  drift.field.text ++ ": " ++ drift.detail

namespace Drift

def readDocument (document side : String) : Except PassError Json.Value :=
  (Json.read document).mapError fun error =>
    .malformedPolicy (side ++ " document: " ++ error.message)

/-- Whether two JSON texts denote the same value; the desired one is judged first. -/
def sameObject (desired observed : String) : Except PassError Bool := do
  let left ← readDocument desired "desired"
  let right ← readDocument observed "observed"
  return left = right

def nonBlank (document : Option String) : Option String :=
  document.filter fun text => !Text.isBlank text

/-- The difference of two policy documents, of which a blank one counts as absent. -/
def ofPolicy (field : Field) (desired observed : Option String) :
    Except PassError (Option Drift) :=
  match nonBlank desired, nonBlank observed with
  | none, none => .ok none
  | some _, none => .ok (some ⟨field, "missing remotely"⟩)
  | none, some _ => .ok (some ⟨field, "set remotely but not desired"⟩)
  | some desired, some observed => do
      if ← sameObject desired observed then return none
      else return some ⟨field, "document differs"⟩

/-- The names of a list, each once and in ascending order. -/
def nameSet (names : List String) : List String :=
  (Table.ofList (names.map fun name => (name, ()))).keys

/-- The difference of two sets of names. -/
def ofSets (field : Field) (desired observed : List String) : Option Drift :=
  let wanted := nameSet desired
  let found := nameSet observed
  if wanted = found then none
  else
    let missing := String.intercalate "," (wanted.filter (· ∉ found))
    let extra := String.intercalate "," (found.filter (· ∉ wanted))
    some ⟨field, "missing [" ++ missing ++ "], extra [" ++ extra ++ "]"⟩

/-- The difference of two values. -/
def ofValue {α : Type} [DecidableEq α] (field : Field) (render : α → String)
    (desired observed : Option α) : Option Drift :=
  match desired with
  | some wanted =>
      if observed = some wanted then none
      else
        some ⟨field, "want " ++ render wanted ++ ", have " ++ quotedOption render observed⟩
  | none => none

end Drift

end Steward
