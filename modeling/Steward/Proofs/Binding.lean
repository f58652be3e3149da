/-
This file shows that both ways to set the policies of a user come to the same.
One way overwrites the list of the policies, the other attaches those that are missing and detaches
those that are not desired. Both leave the desired policies as a set, and nothing that differs from
the record.
-/

import Steward.Proofs.Resource.User
import Steward.Proofs.Runs
import Steward.Proofs.Scope

namespace Steward

open Pass

/-- A user has just the desired policies, in some order, and nothing else has changed but the count
of calls. -/
structure World.Grants (before : World) (name : String) (user : User) (desired : List String)
    (after : World) : Prop where
  granted : ∃ policies, after.plane.users.get? name = some { user with policies } ∧
    ∀ policy, policy ∈ policies ↔ policy ∈ desired
  others : ∀ other, other ≠ name →
    after.plane.users.get? other = before.plane.users.get? other
  rest : after = { before with
    plane := { before.plane with
      users := after.plane.users
      mutations := after.plane.mutations } }

namespace World

variable {before after : World} {name : String} {user : User} {desired : List String}

/-- A user who is given a list with the desired members has just the desired policies. -/
theorem grants_withUser {policies : List String} (mutations : Nat)
    (same : ∀ policy, policy ∈ policies ↔ policy ∈ desired) :
    before.Grants name user desired { before with
      plane := before.plane.withUser name { user with policies } mutations } where
  granted := ⟨policies, Plane.get?_withUser, same⟩
  others := fun _ apart => Table.get?_insert_of_ne apart
  rest := rfl

theorem Grants.isCalm (grants : before.Grants name user desired after)
    (calm : before.plane.IsCalm) : after.plane.IsCalm := by
  rw [grants.rest]
  exact calm

/-- A user that has the policies of its record does not differ from it. -/
theorem Grants.diff_eq (grants : before.Grants name user desired after)
    (calm : before.plane.IsCalm) {record : Record} {spec : UserSpec}
    (asked : record.spec = .user spec) (wants : spec.policies = desired)
    (named : record.targetName = name) :
    ∃ observed, (User.probe record).answer after = .ok (some observed) ∧
      User.diff record observed = .ok [] := by
  obtain ⟨policies, present, same⟩ := grants.granted
  refine ⟨User.shown name { user with policies }, ?_, ?_⟩
  · rw [User.answer_probe (grants.isCalm calm), User.seenOf, named, present]
    rfl
  · have alike : ∀ policy, policy ∈ User.ascending policies ↔ policy ∈ spec.policies := by
      intro policy
      rw [User.mem_ascending, wants]
      exact same policy
    rw [User.diff_eq asked, User.shown, Drift.ofSets_of_same alike]
    rfl

end World

namespace User

/-- Without faults, a user who exists can be given any policies that exist, and gets the same set of
them whichever way they are set. Seen by either way, the user does not differ from a record that asks
for these policies. -/
theorem bindings_agree (world : World) (name : String) (user : User) (desired : List String)
    (calm : world.plane.IsCalm) (present : world.plane.users.get? name = some user)
    (known : Known world.plane desired) :
    let given := fun binding => (applyPolicies binding name desired).after world
    (∀ binding, (applyPolicies binding name desired).answer world = .ok () ∧
      world.Grants name user desired (given binding)) ∧
    (∃ attached replaced, (given .attach).plane.users.get? name = some attached ∧
      (given .replace).plane.users.get? name = some replaced ∧
      ∀ policy, policy ∈ attached.policies ↔ policy ∈ replaced.policies) ∧
    ∀ binding other record spec, record.spec = .user spec → spec.policies = desired →
      record.targetName = name →
      ∃ observed, ((client other).probe record).answer (given binding) = .ok (some observed) ∧
        (client other).diff record observed = .ok [] := by
  intro given
  have grants : ∀ binding, (applyPolicies binding name desired).answer world = .ok () ∧
      world.Grants name user desired (given binding) := by
    intro binding
    have ends : Ends (applyPolicies binding name desired) world
        (fun _ later => world.Grants name user desired later) fun _ _ => False :=
      applyPolicies_ends calm binding present known fun policies mutations same =>
        World.grants_withUser mutations same
    obtain ⟨_, answered, granted⟩ := ends.exists_ok
    exact ⟨answered, granted⟩
  refine ⟨grants, ?_, fun binding other record spec asked wants named => ?_⟩
  · obtain ⟨first, attached, same⟩ := (grants .attach).2.granted
    obtain ⟨second, replaced, alike⟩ := (grants .replace).2.granted
    exact ⟨_, _, attached, replaced, fun policy => (same policy).trans (alike policy).symm⟩
  · exact (grants binding).2.diff_eq calm asked wants named

end User

namespace Sample

/-- A user with policies of which one does not exist any more. -/
def patron : User where
  policies := ["old", "read", "read"]
  secret := "patron-secret"

/-- The sample world with this user and two policies. -/
def licensed : World :=
  { world with
    plane := {
      users := Table.ofList [("alice", patron), ("bob", {})]
      policies := Table.ofList [("read", "{}"), ("write", "{}")] } }

end Sample

namespace User

/-- A policy that is gone is taken away and a new one is given, though it is asked for twice. -/
theorem bindings_agree_of_patron :
    let desired := ["write", "read", "write"]
    let given := fun binding => (applyPolicies binding "alice" desired).after Sample.licensed
    Sample.licensed.plane.IsCalm ∧
      Sample.licensed.plane.users.get? "alice" = some Sample.patron ∧
      Known Sample.licensed.plane desired ∧
      Sample.licensed.Grants "alice" Sample.patron desired (given .attach) ∧
      Sample.licensed.Grants "alice" Sample.patron desired (given .replace) := by
  intro desired given
  have present : Sample.licensed.plane.users.get? "alice" = some Sample.patron := by
    decide +kernel
  have known : Known Sample.licensed.plane desired := by
    unfold Known
    decide +kernel
  have grants := (bindings_agree Sample.licensed "alice" Sample.patron desired rfl present known).1
  exact ⟨rfl, present, known, (grants .attach).2, (grants .replace).2⟩

end User

end Steward
