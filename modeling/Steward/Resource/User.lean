/-
This file keeps users with their secrets and policies.
A secret is a word of letters and digits, drawn from a row of numbers that looks random.
-/

import Steward.Resource.Client

namespace Steward

/-- How the policies of a user are set: all at once, or by attaching and detaching some. -/
inductive PolicyBinding where
  | replace
  | attach
  deriving DecidableEq, Repr, Inhabited

namespace PolicyBinding

def text : PolicyBinding → String
  | .replace => "replace"
  | .attach => "attach"

def choices : List (String × PolicyBinding) :=
  [replace, attach].map fun binding => (binding.text, binding)

end PolicyBinding

namespace Secret

/-- The characters of secrets. -/
def alphabet : List Char :=
  "ABCDEFGHIJKLMNOPQRSTUVWXYZabcdefghijklmnopqrstuvwxyz0123456789".toList

/-- The number of characters of a secret. -/
def size : Nat :=
  40

def draw : Nat → StdGen → List Char
  | 0, _ => []
  | count + 1, generator =>
      let (number, generator) := randNat generator 0 (alphabet.length - 1)
      alphabet.getD number 'A' :: draw count generator

theorem length_draw (count : Nat) (generator : StdGen) : (draw count generator).length = count := by
  induction count generalizing generator with
  | zero => rfl
  | succ count inductionHypothesis => simp [draw, inductionHypothesis]

/-- A secret for each number from the given one on. -/
def supply (seed : Nat) : Supply String :=
  ⟨fun index => String.ofList (draw size (mkStdGen (seed + index))), 0⟩

end Secret

namespace User

def specOf (record : Record) : Except PassError UserSpec :=
  match record.spec with
  | .user spec => .ok spec
  | _ => .error (wrongKind record .user)

/-- Fails when one of the policies does not exist. -/
def checkPoliciesExist (policies : List String) : Pass Unit := do
  if policies.isEmpty then return ()
  let known ← Pass.perform "list policies" "policies" .listCannedPolicies
  match policies.find? (· ∉ known) with
  | some missing => throw (.missingDependency .policy missing)
  | none => return ()

/-- The items of a list, each where it first stands. -/
def firstOccurrences {α : Type} [DecidableEq α] (items : List α) : List α :=
  items.foldl (fun kept item => if item ∈ kept then kept else kept ++ [item]) []

/-- Gives a user exactly the desired policies. -/
def applyPolicies (binding : PolicyBinding) (user : String) (desired : List String) :
    Pass Unit :=
  match binding with
  | .replace => Pass.perform "set user policies" user (.setUserPolicies user desired)
  | .attach => do
      let current := (← Pass.perform "get user" user (.userInfo user)).policies
      let attached := firstOccurrences (desired.filter (· ∉ current))
      let detached := current.filter (· ∉ desired)
      if attached ≠ [] then
        Pass.perform "attach user policies" user (.attachUserPolicies user attached)
      if detached ≠ [] then
        Pass.perform "detach user policies" user (.detachUserPolicies user detached)

/-- Puts a name before the first one that is not below it. -/
def insertAscending (name : String) : List String → List String
  | [] => [name]
  | first :: rest =>
      if first < name then first :: insertAscending name rest else name :: first :: rest

def ascending (names : List String) : List String :=
  names.foldr insertAscending []

def probe (record : Record) : Pass (Option Observed) := do
  let name := record.targetName
  let answer ← Pass.call (.userInfo name)
  let info ← Pass.found "get user" name answer
  return info.map fun info =>
    { userName := some name
      policies := ascending info.policies
      accountStatus := some info.status }

def diff (record : Record) (observed : Observed) : Except PassError (List Drift) := do
  let spec ← specOf record
  return (Drift.ofSets .policies spec.policies observed.policies).toList

/-- Sets a fresh secret and the desired policies. Adding a user who exists resets the secret,
so this serves a first create and one that was cut short. -/
def register (binding : PolicyBinding) (record : Record) : Pass Creation := do
  let spec ← specOf record
  let name := record.targetName
  checkPoliciesExist spec.policies
  let secret ← Pass.ask .secret
  Pass.perform "add user" name (.addUser name secret)
  if spec.policies ≠ [] then applyPolicies binding name spec.policies
  return { details := Table.ofList [("username", name), ("password", secret)] }

def update (binding : PolicyBinding) (record : Record) (drifts : List Drift) : Pass Unit := do
  let spec ← specOf record
  if Drift.flags drifts .policies then
    checkPoliciesExist spec.policies
    applyPolicies binding record.targetName spec.policies

def delete (record : Record) (_cancelled : Bool) : Pass Unit :=
  let name := record.targetName
  Pass.perform "remove user" name (.removeUser name)

def client (binding : PolicyBinding) : Client :=
  { probe, diff, create := register binding, resumeCreate := register binding,
    update := update binding, delete }

end User

end Steward
