/-
This file describes calls to a remote side on which no fault is armed for a next call.
Such a call is answered as the remote side is, and one that changes nothing leaves no trace.
-/

import Steward.Proofs.Footprint
import Steward.Proofs.Response

namespace Steward

/-- No fault is armed for a next call; denied and redirected buckets, and objects that cannot
be listed or removed, are allowed. -/
def Plane.IsCalm (plane : Plane) : Prop :=
  plane.faults.next = ∅

instance (plane : Plane) : Decidable plane.IsCalm :=
  inferInstanceAs (Decidable (plane.faults.next = ∅))

namespace Plane

/-- Counts a call that may change something. -/
def counted (plane : Plane) (call : RemoteCall) : Plane :=
  { plane with mutations := plane.mutations + if call.isMutating then 1 else 0 }

variable {plane : Plane}

@[simp] theorem counted_buckets (call : RemoteCall) :
    (plane.counted call).buckets = plane.buckets :=
  rfl

@[simp] theorem counted_users (call : RemoteCall) :
    (plane.counted call).users = plane.users :=
  rfl

@[simp] theorem counted_policies (call : RemoteCall) :
    (plane.counted call).policies = plane.policies :=
  rfl

@[simp] theorem counted_accounts (call : RemoteCall) :
    (plane.counted call).accounts = plane.accounts :=
  rfl

@[simp] theorem counted_faults (call : RemoteCall) :
    (plane.counted call).faults = plane.faults :=
  rfl

@[simp] theorem counted_lastKey (call : RemoteCall) :
    (plane.counted call).lastKey = plane.lastKey :=
  rfl

@[simp] theorem counted_removalBatches (call : RemoteCall) :
    (plane.counted call).removalBatches = plane.removalBatches :=
  rfl

theorem counted_of_reading {call : RemoteCall} (reading : call.isMutating = false) :
    plane.counted call = plane := by
  rw [counted, reading]
  rfl

/-- Where no fault is armed, none can be used up. -/
theorem clear_of_no_faults (faults : Faults) (none : faults.next = ∅) (name : String) :
    { faults with next := faults.next.erase name } = faults := by
  cases faults
  subst none
  rfl

/-- What counting a call and answering it both keep, the call keeps. -/
theorem perform_keeps {call : RemoteCall} {kept : Plane → Prop}
    (entered : kept (plane.enter call).2)
    (responds : ∀ later, kept later → kept (later.respond call).2) :
    kept (plane.perform call).2 := by
  unfold perform
  rcases entering : plane.enter call with ⟨fault, later⟩
  rw [entering] at entered
  cases fault with
  | some error => exact entered
  | none => exact responds later entered

/-- Without armed faults, a call is answered by the remote side itself. -/
theorem IsCalm.perform (calm : plane.IsCalm) (call : RemoteCall) :
    plane.perform call = (plane.counted call).respond call := by
  have entered : plane.enter call = (none, plane.counted call) := by
    unfold enter counted
    rw [clear_of_no_faults plane.faults calm, calm]
    split
    · rfl
    · rfl
  rw [Plane.perform, entered]

theorem IsCalm.of_faults {later : Plane} (calm : plane.IsCalm)
    (same : later.faults = plane.faults) : later.IsCalm := by
  rw [IsCalm, same]
  exact calm

@[simp] theorem accessError?_counted (plane : Plane) (call : RemoteCall) (bucket : String) :
    (plane.counted call).accessError? bucket = plane.accessError? bucket := by
  rw [accessError?, accessError?, counted_faults]

namespace IsCalm

variable {world : World} {bad : PassError → World → Prop}

/-- In a calm world a call is counted and answered. -/
theorem ends_call (calm : world.plane.IsCalm) (remote : RemoteCall)
    {good : Except RemoteError remote.Result → World → Prop} :
    Pass.Ends (α := no_index _) (Pass.call remote) world good bad ↔
      good ((world.plane.counted remote).respond remote).1
        { world with plane := ((world.plane.counted remote).respond remote).2 } := by
  rw [Pass.ends_call, calm.perform]

/-- In a calm world an operation is counted and answered, and fails if it is refused. -/
theorem ends_perform (calm : world.plane.IsCalm) (operation resource : String)
    (remote : RemoteCall) {good : remote.Result → World → Prop} :
    Pass.Ends (α := no_index _) (Pass.perform operation resource remote) world good bad ↔
      match ((world.plane.counted remote).respond remote).1 with
      | .ok result =>
          good result { world with plane := ((world.plane.counted remote).respond remote).2 }
      | .error error =>
          bad (.ofRemote operation resource error)
            { world with plane := ((world.plane.counted remote).respond remote).2 } := by
  cases answered : ((world.plane.counted remote).respond remote).1 with
  | ok result => rw [Pass.ends_perform, calm.perform, answered]
  | error error => rw [Pass.ends_perform, calm.perform, answered]

/-- A call that changes nothing leaves no trace in a calm world. -/
theorem ends_look (calm : world.plane.IsCalm) {remote : RemoteCall}
    (reading : remote.isMutating = false)
    {good : Except RemoteError remote.Result → World → Prop} :
    Pass.Ends (α := no_index _) (Pass.call remote) world good bad ↔
      good (world.plane.respond remote).1 world := by
  rw [calm.ends_call, counted_of_reading reading, respond_of_reading reading]

/-- An operation that only looks leaves no trace in a calm world. -/
theorem ends_inspect (calm : world.plane.IsCalm) (operation resource : String)
    {remote : RemoteCall} (reading : remote.isMutating = false)
    {good : remote.Result → World → Prop} :
    Pass.Ends (α := no_index _) (Pass.perform operation resource remote) world good bad ↔
      match (world.plane.respond remote).1 with
      | .ok result => good result world
      | .error error => bad (.ofRemote operation resource error) world := by
  rw [calm.ends_perform, counted_of_reading reading, respond_of_reading reading]

end IsCalm

/-- The remote side with another bucket in it. -/
def withBucket (plane : Plane) (name : String) (bucket : Bucket) (mutations : Nat) : Plane :=
  { plane with buckets := plane.buckets.insert name bucket, mutations }

theorem get?_withBucket {name : String} {bucket : Bucket} {mutations : Nat} {plane : Plane} :
    (plane.withBucket name bucket mutations).buckets.get? name = some bucket :=
  (Table.get?_insert _ _ _ _).trans (if_pos rfl)

/-- The remote side with another user in it. -/
def withUser (plane : Plane) (name : String) (user : User) (mutations : Nat) : Plane :=
  { plane with users := plane.users.insert name user, mutations }

theorem get?_withUser {name : String} {user : User} {mutations : Nat} {plane : Plane} :
    (plane.withUser name user mutations).users.get? name = some user :=
  (Table.get?_insert _ _ _ _).trans (if_pos rfl)

/-- Of two users who are put under one name, the later stays. -/
theorem withUser_withUser {name : String} {first second : User} {mutations count : Nat}
    {plane : Plane} :
    (plane.withUser name first mutations).withUser name second count =
      plane.withUser name second count := by
  simp only [withUser, Table.insert_insert]

/-- The remote side with another access policy in it. -/
def withPolicy (plane : Plane) (name document : String) (mutations : Nat) : Plane :=
  { plane with policies := plane.policies.insert name document, mutations }

theorem get?_withPolicy {name document : String} {mutations : Nat} {plane : Plane} :
    (plane.withPolicy name document mutations).policies.get? name = some document :=
  (Table.get?_insert _ _ _ _).trans (if_pos rfl)

/-- The remote side with another service account in it, and the number of the last one. -/
def withAccount (plane : Plane) (accessKey : String) (account : ServiceAccount)
    (lastKey mutations : Nat) : Plane :=
  { plane with accounts := plane.accounts.insert accessKey account, lastKey, mutations }

theorem get?_withAccount {accessKey : String} {account : ServiceAccount}
    {lastKey mutations : Nat} {plane : Plane} :
    (plane.withAccount accessKey account lastKey mutations).accounts.get? accessKey =
      some account :=
  (Table.get?_insert _ _ _ _).trans (if_pos rfl)

end Plane

/-- A request that only looks at the records or at the remote side. -/
def Request.Reads : Request → Prop
  | .readRecord _ | .listRecords => True
  | .remote call => call.isMutating = false
  | .putStatus _ _ | .putMetadata _ _ | .publish _ _ | .erase _ | .now | .secret => False

theorem Request.reads_of_reading {call : RemoteCall} (reading : call.isMutating = false) :
    Request.Reads (.remote call) :=
  reading

/-- In a calm world a request that only reads changes nothing. -/
theorem World.answer_of_reads {world : World} (calm : world.plane.IsCalm) {request : Request}
    (reads : request.Reads) : (world.answer request).2 = world := by
  cases request with
  | readRecord id => rfl
  | listRecords => rfl
  | remote call =>
      change { world with plane := (world.plane.perform call).2 } = world
      rw [calm.perform, Plane.counted_of_reading reads, Plane.respond_of_reading reads]
  | _ => cases reads

/-- A pass that only looks leaves a calm world as it is. -/
theorem Pass.Only.after_of_reads {α : Type} {pass : Pass α} (reads : Pass.Only Request.Reads pass)
    {world : World} (calm : world.plane.IsCalm) : pass.after world = world := by
  have keeps : ∀ request later, request.Reads → later = world →
      (World.answer later request).2 = world := by
    rintro request later fine rfl
    exact World.answer_of_reads calm fine
  exact reads.after_keeps keeps rfl

/-- In a calm world a pass that only reads ends where it began. -/
theorem Pass.Only.ends_of_reads {α : Type} {pass : Pass α}
    (reads : Pass.Only Request.Reads pass) {world : World} (calm : world.plane.IsCalm)
    {good : α → World → Prop} {bad : PassError → World → Prop} :
    Pass.Ends pass world good bad ↔
      match pass.answer world with
      | .ok value => good value world
      | .error error => bad error world := by
  have same := reads.after_of_reads calm
  cases answered : pass.answer world with
  | ok value => rw [Pass.ends_iff_of_ok answered, same]
  | error error => rw [Pass.ends_iff_of_error answered, same]

/-- In a calm world, looking first leaves the rest of a pass with the world as it was. -/
theorem Pass.Only.ends_bind_of_reads {α β : Type} {pass : Pass α} {next : α → Pass β}
    (reads : Pass.Only Request.Reads pass) {world : World} (calm : world.plane.IsCalm)
    {good : β → World → Prop} {bad : PassError → World → Prop} :
    Pass.Ends (pass >>= next) world good bad ↔
      match pass.answer world with
      | .ok value => Pass.Ends (next value) world good bad
      | .error error => bad error world := by
  rw [Pass.ends_bind, reads.ends_of_reads calm]

end Steward
