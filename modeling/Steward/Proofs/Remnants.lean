/-
This file shows what is left on the remote side when a record has been deleted.
A deletion takes away the resource that the record stands for as it is written then. A bucket, a
user or a policy goes by the name in the spec. A service account goes by its key, and the record
leads to every account that its passes have made, as long as the account is there.
-/

import Steward.Proofs.Removal
import Steward.Proofs.StoreWrite

namespace Steward

open Pass

section Accounts

variable {before after : Plane} {record : Record} {key : String}

end Accounts

namespace Engine

variable {engine : Engine} {world : World} {record : Record} {key : String}

end Engine

/-- A record that was stored when another was written has kept its markers, if the writing leaves
those of a record that exists. -/
theorem Store.Writes.markers {before after : Store} {written current : Record} {id : RecordId}
    (wrote : before.Writes written after)
    (kept : ∀ existing, before.get? written.id = some existing →
      written.metadata = existing.metadata)
    (held : before.holds id = true) (stored : after.get? id = some current) :
    ∃ earlier, before.get? id = some earlier ∧ current.metadata = earlier.metadata := by
  obtain ⟨earlier, present⟩ := Option.isSome_iff_exists.1 held
  rw [wrote.get?] at stored
  split at stored
  · rename_i same
    cases stored
    subst same
    exact ⟨earlier, present, kept earlier present⟩
  · exact ⟨current, stored, rfl⟩

namespace Engine

variable {engine : Engine} {world : World} {id : RecordId} {kind : Kind} {name key : String}

/-- A pass of a record brings a resource into existence. -/
def Makes (engine : Engine) (world : World) (id : RecordId) (kind : Kind) (name : String) : Prop :=
  ¬ world.plane.Has kind name ∧
    ((engine.reconcile id false).after world).plane.Has kind name

instance (engine : Engine) (world : World) (id : RecordId) (kind : Kind) (name : String) :
    Decidable (engine.Makes world id kind name) :=
  inferInstanceAs (Decidable (_ ∧ _))

/-- While a record is stored, users and passes do something, but no pass of another record brings
the resource into existence. -/
def Spares (engine : Engine) (id : RecordId) (kind : Kind) (name : String) (world : World)
    (move : Move) : Prop :=
  move.IsRegular world ∧ world.store.holds id = true ∧
    ∀ other, move = .reconcile other false → other ≠ id → ¬ engine.Makes world other kind name

end Engine

namespace Sample

end Sample

namespace Engine

variable {world : World} {record : Record}

end Engine

end Steward
