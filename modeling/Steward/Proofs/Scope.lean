/-
This file says which resource a request works on.
A call changes no more than the resource that it names. The one exception is a service account
that is made: its name is not known before.
-/

import Steward.Proofs.Calm
import Steward.Proofs.Resource.ServiceAccount

namespace Steward

open Pass

namespace RemoteCall

/-- The resource that a call may change. A service account that is made has no name before. -/
def resource? : RemoteCall → Option (Kind × String)
  | .makeBucket bucket _ | .removeBucket bucket | .setBucketPolicy bucket _
  | .removeObjects bucket _ _ => some (.bucket, bucket)
  | .addUser user _ | .removeUser user | .setUserPolicies user _ | .attachUserPolicies user _
  | .detachUserPolicies user _ => some (.user, user)
  | .addCannedPolicy name _ | .removeCannedPolicy name => some (.policy, name)
  | .updateServiceAccount accessKey _ | .deleteServiceAccount accessKey =>
      some (.serviceAccount, accessKey)
  | .bucketExists _ | .bucketPolicy _ | .objectLockEnabled _ | .listObjects _ | .userInfo _
  | .cannedPolicy _ | .listCannedPolicies | .serviceAccountInfo _ | .addServiceAccount _ => none

/-- Whether a call may take a resource away, or a part of one. -/
def isRemoval : RemoteCall → Bool
  | .removeBucket _ | .removeObjects _ _ _ | .removeUser _ | .removeCannedPolicy _
  | .deleteServiceAccount _ => true
  | _ => false

/-- A call that removes nothing takes nothing away. -/
theorem taken?_of_not_removal {call : RemoteCall} (keeps : call.isRemoval = false) :
    call.taken? = none := by
  cases call with
  | removeBucket _ | removeUser _ | removeCannedPolicy _ | deleteServiceAccount _ => cases keeps
  | _ => rfl

/-- A call that takes a resource away is a removal. -/
theorem isRemoval_of_taken? {call : RemoteCall} {target : Kind × String}
    (takes : call.taken? = some target) : call.isRemoval = true := by
  cases removal : call.isRemoval with
  | true => rfl
  | false => cases takes.symm.trans (taken?_of_not_removal removal)

end RemoteCall

/-- The resource that a record stands for. A service account goes by the name that the remote
side gave it. -/
def Record.resource? (record : Record) : Option (Kind × String) :=
  match record.kind with
  | .serviceAccount => record.metadata.externalName.map fun accessKey => (.serviceAccount, accessKey)
  | kind => some (kind, record.targetName)

namespace Plane

/-- Two remote sides hold the same under a kind and a name. -/
def SameAt (before after : Plane) : Kind → String → Prop
  | .bucket, name => after.buckets.get? name = before.buckets.get? name
  | .user, name => after.users.get? name = before.users.get? name
  | .policy, name => after.policies.get? name = before.policies.get? name
  | .serviceAccount, accessKey => after.accounts.get? accessKey = before.accounts.get? accessKey

variable {plane before middle after : Plane} {kind : Kind} {name : String}

theorem SameAt.refl (plane : Plane) (kind : Kind) (name : String) : plane.SameAt plane kind name := by
  cases kind
  all_goals rfl

theorem SameAt.trans (first : before.SameAt middle kind name)
    (second : middle.SameAt after kind name) : before.SameAt after kind name := by
  cases kind
  all_goals exact Eq.trans second first

/-- What two remote sides hold is the same when their tables are. -/
theorem sameAt_of_tables (buckets : after.buckets = before.buckets)
    (users : after.users = before.users) (policies : after.policies = before.policies)
    (accounts : after.accounts = before.accounts) : before.SameAt after kind name := by
  cases kind with
  | bucket => exact congrArg (·.get? name) buckets
  | user => exact congrArg (·.get? name) users
  | policy => exact congrArg (·.get? name) policies
  | serviceAccount => exact congrArg (·.get? name) accounts

/-- What is the same on two remote sides is there on both or on neither. -/
theorem SameAt.has_iff (same : before.SameAt after kind name) :
    after.Has kind name ↔ before.Has kind name := by
  cases kind with
  | bucket => exact iff_of_eq (congrArg (fun found => Option.isSome found = true) same)
  | user => exact iff_of_eq (congrArg (fun found => Option.isSome found = true) same)
  | policy => exact iff_of_eq (congrArg (fun found => Option.isSome found = true) same)
  | serviceAccount => exact iff_of_eq (congrArg (fun found => Option.isSome found = true) same)

/-- To enter a call in the books changes nothing at any place. -/
theorem sameAt_enter (plane : Plane) (call : RemoteCall) :
    plane.SameAt (plane.enter call).2 kind name := by
  unfold enter
  cases call.isMutating
  all_goals exact sameAt_of_tables rfl rfl rfl rfl

/-- The resource that a call may change, with the key that a new service account is given. -/
def resourceOf (plane : Plane) : RemoteCall → Option (Kind × String)
  | .addServiceAccount _ =>
      some (.serviceAccount, (ServiceAccount.nextCredentials plane).accessKey)
  | call => call.resource?

/-- A call changes nothing but the resource that it names. -/
theorem Responds.sameAt {call : RemoteCall} {answer : Except RemoteError call.Result}
    (responds : before.Responds call answer after)
    (apart : before.resourceOf call ≠ some (kind, name)) : before.SameAt after kind name := by
  cases kind with
  | bucket =>
      cases responds with
      | makesBucket _ _ | setsBucketPolicy _ _ | removesObjects _ _ =>
          exact Table.get?_insert_of_ne fun same => apart (same ▸ rfl)
      | removesBucket _ _ _ => exact Table.get?_erase_of_ne fun same => apart (same ▸ rfl)
      | _ => rfl
  | user =>
      cases responds with
      | addsUser | setsUserPolicies _ _ | attachesUserPolicies _ _ | detachesUserPolicies _ =>
          exact Table.get?_insert_of_ne fun same => apart (same ▸ rfl)
      | removesUser _ => exact Table.get?_erase_of_ne fun same => apart (same ▸ rfl)
      | _ => rfl
  | policy =>
      cases responds with
      | addsCannedPolicy _ => exact Table.get?_insert_of_ne fun same => apart (same ▸ rfl)
      | removesCannedPolicy _ => exact Table.get?_erase_of_ne fun same => apart (same ▸ rfl)
      | _ => rfl
  | serviceAccount =>
      cases responds with
      | addsServiceAccount _ | updatesServiceAccount _ =>
          exact Table.get?_insert_of_ne fun same => apart (same ▸ rfl)
      | deletesServiceAccount _ => exact Table.get?_erase_of_ne fun same => apart (same ▸ rfl)
      | _ => rfl

/-- To enter a call in the books hands out no keys. -/
theorem lastKey_enter (plane : Plane) (call : RemoteCall) :
    (plane.enter call).2.lastKey = plane.lastKey := by
  unfold enter
  cases call.isMutating
  all_goals rfl

/-- Only to make a service account takes a number. -/
theorem Responds.lastKey {call : RemoteCall} {answer : Except RemoteError call.Result}
    (responds : before.Responds call answer after)
    (other : ∀ account, call ≠ .addServiceAccount account) : after.lastKey = before.lastKey := by
  cases responds with
  | addsServiceAccount _ => exact absurd rfl (other _)
  | _ => rfl

/-- No call hands out keys but one that adds an account. -/
theorem lastKey_perform {call : RemoteCall} (other : ∀ account, call ≠ .addServiceAccount account) :
    (plane.perform call).2.lastKey = plane.lastKey := by
  apply @perform_keeps plane call fun later => later.lastKey = plane.lastKey
  · exact plane.lastKey_enter call
  · intro later entered
    exact ((later.responds call).lastKey other).trans entered

/-- With or without a fault, a call changes nothing but the resource that it names. -/
theorem sameAt_perform (call : RemoteCall) (apart : plane.resourceOf call ≠ some (kind, name)) :
    plane.SameAt (plane.perform call).2 kind name := by
  have first : plane.SameAt (plane.enter call).2 kind name := plane.sameAt_enter call
  have numbered := plane.lastKey_enter call
  unfold perform
  rcases entering : plane.enter call with ⟨fault, entered⟩
  rw [entering] at first numbered
  cases fault with
  | some error => exact first
  | none =>
      have still : entered.resourceOf call = plane.resourceOf call := by
        cases call with
        | addServiceAccount account =>
            dsimp only at numbered
            simp only [resourceOf, ServiceAccount.nextCredentials, ServiceAccount.nextNumber,
              numbered]
        | _ => rfl
      exact first.trans ((entered.responds call).sameAt (still ▸ apart))

end Plane

/-- A call only looks, or it works on the resource of a record. -/
def RemoteCall.Concerns (call : RemoteCall) (record : Record) : Prop :=
  call.isMutating = false ∨
    ∃ resource, call.resource? = some resource ∧ record.resource? = some resource

namespace Request

/-- A request that only looks, or works on a record or its resource. -/
def Concerns (record : Record) : Request → Prop
  | .readRecord _ | .listRecords | .now | .secret => True
  | .putStatus id _ | .putMetadata id _ | .publish id _ | .erase id => id = record.id
  | .remote call => call.Concerns record

/-- Whether a request may take a record away, or a resource or a part of one. -/
def isRemoval : Request → Bool
  | .erase _ => true
  | .remote call => call.isRemoval
  | _ => false

/-- A request that only looks, or works on a record or its resource and takes neither away. -/
def Tends (record : Record) (request : Request) : Prop :=
  request.Concerns record ∧ request.isRemoval = false

/-- A request that leaves the record store alone, and the time. -/
def IsRemote : Request → Prop
  | .remote _ | .secret => True
  | _ => False

/-- A request to the remote side that only looks, or works on the resource of a record. -/
def Handles (record : Record) (request : Request) : Prop :=
  request.IsRemote ∧ request.Concerns record

/-- A request to the remote side that only looks, or works on the resource of a record and takes
nothing of it away. -/
def Works (record : Record) (request : Request) : Prop :=
  request.IsRemote ∧ request.Tends record

variable {record : Record} {request : Request}

/-- To look leaves the record store as it is. -/
theorem Reads.store_answer {world : World} (reads : request.Reads) :
    (world.answer request).2.store = world.store := by
  cases request with
  | readRecord _ | listRecords | remote _ => rfl
  | _ => cases reads

/-- A request that only looks tends every record. -/
theorem Reads.tends (reads : request.Reads) : request.Tends record := by
  cases request with
  | readRecord _ | listRecords => exact ⟨trivial, rfl⟩
  | remote call =>
      refine ⟨.inl reads, ?_⟩
      cases call with
      | bucketExists _ | bucketPolicy _ | objectLockEnabled _ | listObjects _ | userInfo _
      | cannedPolicy _ | listCannedPolicies | serviceAccountInfo _ => rfl
      | _ => cases reads
  | _ => cases reads

end Request

namespace Record

variable {record : Record} {kind : Kind}

/-- The resource of a bucket, a user or a policy is known by its target name. -/
theorem resource?_of_kind (same : record.kind = kind) (named : kind ≠ .serviceAccount) :
    record.resource? = some (kind, record.targetName) := by
  unfold resource?
  rw [same]
  cases kind with
  | serviceAccount => exact absurd rfl named
  | _ => rfl

/-- The resource of a service account is known by its access key. -/
theorem resource?_of_account (account : record.kind = .serviceAccount) {accessKey : String}
    (given : record.metadata.externalName = some accessKey) :
    record.resource? = some (.serviceAccount, accessKey) := by
  rw [resource?, account, given]
  rfl

end Record

end Steward
