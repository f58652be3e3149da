/-
This file says what each call to the remote side answers and what it changes.
A call is one step: nothing else happens between its start and its answer.
-/

import Steward.Record.Spec
import Steward.Remote.Basic
import Steward.Text.Digits

namespace Steward

/-- The calls of the remote interface. -/
inductive RemoteCall where
  | bucketExists (bucket : String)
  | makeBucket (bucket region : String)
  | removeBucket (bucket : String)
  | bucketPolicy (bucket : String)
  | setBucketPolicy (bucket policy : String)
  | objectLockEnabled (bucket : String)
  | listObjects (bucket : String)
  | removeObjects (bucket : String) (keys : List String) (governanceBypass : Bool)
  | userInfo (user : String)
  | addUser (user secret : String)
  | removeUser (user : String)
  | setUserPolicies (user : String) (policies : List String)
  | attachUserPolicies (user : String) (policies : List String)
  | detachUserPolicies (user : String) (policies : List String)
  | cannedPolicy (name : String)
  | addCannedPolicy (name document : String)
  | removeCannedPolicy (name : String)
  | listCannedPolicies
  | serviceAccountInfo (accessKey : String)
  | addServiceAccount (account : ServiceAccount)
  | updateServiceAccount (accessKey : String) (update : ServiceAccountUpdate)
  | deleteServiceAccount (accessKey : String)

namespace RemoteCall

/-- What a call answers when it does not fail. A listing fails entry by entry. -/
@[reducible] def Result : RemoteCall → Type
  | .bucketExists _ | .objectLockEnabled _ => Bool
  | .bucketPolicy _ => Option String
  | .listObjects _ => List (Except RemoteError ObjectInfo)
  | .removeObjects _ _ _ => List RemovalFailure
  | .userInfo _ => UserInfo
  | .cannedPolicy _ => String
  | .listCannedPolicies => List String
  | .serviceAccountInfo _ => ServiceAccount
  | .addServiceAccount _ => Credentials
  | .makeBucket _ _ | .removeBucket _ | .setBucketPolicy _ _ | .addUser _ _ | .removeUser _
  | .setUserPolicies _ _ | .attachUserPolicies _ _ | .detachUserPolicies _ _
  | .addCannedPolicy _ _ | .removeCannedPolicy _ | .updateServiceAccount _ _
  | .deleteServiceAccount _ => Unit

/-- The name under which a fault is armed. -/
def name : RemoteCall → String
  | .bucketExists _ => "bucket_exists"
  | .makeBucket _ _ => "make_bucket"
  | .removeBucket _ => "remove_bucket"
  | .bucketPolicy _ => "bucket_policy"
  | .setBucketPolicy _ _ => "set_bucket_policy"
  | .objectLockEnabled _ => "object_lock_enabled"
  | .listObjects _ => "list_objects"
  | .removeObjects _ _ _ => "remove_objects"
  | .userInfo _ => "user_info"
  | .addUser _ _ => "add_user"
  | .removeUser _ => "remove_user"
  | .setUserPolicies _ _ => "set_user_policies"
  | .attachUserPolicies _ _ => "attach_user_policies"
  | .detachUserPolicies _ _ => "detach_user_policies"
  | .cannedPolicy _ => "canned_policy"
  | .addCannedPolicy _ _ => "add_canned_policy"
  | .removeCannedPolicy _ => "remove_canned_policy"
  | .listCannedPolicies => "list_canned_policies"
  | .serviceAccountInfo _ => "service_account_info"
  | .addServiceAccount _ => "add_service_account"
  | .updateServiceAccount _ _ => "update_service_account"
  | .deleteServiceAccount _ => "delete_service_account"

/-- Whether a call may change the remote side. -/
def isMutating : RemoteCall → Bool
  | .bucketExists _ | .bucketPolicy _ | .objectLockEnabled _ | .listObjects _ | .userInfo _
  | .cannedPolicy _ | .listCannedPolicies | .serviceAccountInfo _ => false
  | .makeBucket _ _ | .removeBucket _ | .setBucketPolicy _ _ | .removeObjects _ _ _
  | .addUser _ _ | .removeUser _ | .setUserPolicies _ _ | .attachUserPolicies _ _
  | .detachUserPolicies _ _ | .addCannedPolicy _ _ | .removeCannedPolicy _
  | .addServiceAccount _ | .updateServiceAccount _ _ | .deleteServiceAccount _ => true

end RemoteCall

namespace Plane

def noBucket (bucket : String) : RemoteError :=
  .notFound ("bucket '" ++ bucket ++ "'")

def noUser (user : String) : RemoteError :=
  .notFound ("user '" ++ user ++ "'")

def noPolicy (name : String) : RemoteError :=
  .notFound ("policy '" ++ name ++ "'")

def noAccount (accessKey : String) : RemoteError :=
  .notFound ("service account '" ++ accessKey ++ "'")

/-- The error of a bucket that is denied or lives elsewhere. -/
def accessError? (plane : Plane) (bucket : String) : Option RemoteError :=
  if plane.faults.denied.contains bucket then
    some (.forbidden ("access to bucket '" ++ bucket ++ "' denied"))
  else (plane.faults.redirects.get? bucket).map .wrongRegion

/-- The first of the given policies that does not exist, as an error. -/
def missingPolicy? (plane : Plane) (policies : List String) : Option RemoteError :=
  (policies.find? fun policy => !plane.policies.contains policy).map fun policy =>
    .rejected ("policy '" ++ policy ++ "' does not exist")

/-- Counts a call that may change something, and uses up the fault that is armed for it. -/
def enter (plane : Plane) (call : RemoteCall) : Option RemoteError × Plane :=
  let counted := if call.isMutating then { plane with mutations := plane.mutations + 1 } else plane
  (plane.faults.next.get? call.name,
    { counted with faults := { plane.faults with next := plane.faults.next.erase call.name } })

def putBucket (plane : Plane) (name : String) (bucket : Bucket) : Plane :=
  { plane with buckets := plane.buckets.insert name bucket }

def putUser (plane : Plane) (name : String) (user : User) : Plane :=
  { plane with users := plane.users.insert name user }

def makeBucket (plane : Plane) (bucket region : String) : Except RemoteError Unit × Plane :=
  match plane.accessError? bucket with
  | some error => (.error error, plane)
  | none =>
      if plane.buckets.contains bucket then
        (.error (.alreadyExists ("bucket '" ++ bucket ++ "'")), plane)
      else (.ok (), plane.putBucket bucket { region })

def removeBucket (plane : Plane) (bucket : String) : Except RemoteError Unit × Plane :=
  match plane.accessError? bucket with
  | some error => (.error error, plane)
  | none =>
      match plane.buckets.get? bucket with
      | none => (.error (noBucket bucket), plane)
      | some found =>
          if found.objects.isEmpty then
            (.ok (), { plane with buckets := plane.buckets.erase bucket })
          else (.error (.rejected ("bucket '" ++ bucket ++ "' is not empty")), plane)

def bucketPolicy (plane : Plane) (bucket : String) : Except RemoteError (Option String) :=
  match plane.accessError? bucket with
  | some error => .error error
  | none =>
      match plane.buckets.get? bucket with
      | none => .error (noBucket bucket)
      | some found => .ok found.policy

/-- Sets the policy of a bucket; an empty one takes it away. -/
def setBucketPolicy (plane : Plane) (bucket policy : String) :
    Except RemoteError Unit × Plane :=
  match plane.accessError? bucket with
  | some error => (.error error, plane)
  | none =>
      match plane.buckets.get? bucket with
      | none => (.error (noBucket bucket), plane)
      | some found =>
          (.ok (), plane.putBucket bucket { found with
            policy := if policy = "" then none else some policy })

def objectLockEnabled (plane : Plane) (bucket : String) : Except RemoteError Bool :=
  match plane.faults.lockQuery with
  | some error => .error error
  | none =>
      match plane.buckets.get? bucket with
      | none => .error (noBucket bucket)
      | some found => .ok found.objectLock

/-- The objects of a bucket in the order of their keys, each shown or failing on its own. -/
def listObjects (plane : Plane) (bucket : String) : List (Except RemoteError ObjectInfo) :=
  match plane.buckets.get? bucket with
  | none => [.error (noBucket bucket)]
  | some found =>
      found.objects.entries.map fun (key, size) =>
        if plane.faults.listing.contains key then
          .error (.rejected ("cannot list '" ++ key ++ "'"))
        else .ok ⟨key, size⟩

/-- Removes one object from those of a bucket, or says why it stays. -/
def removeObject (removal : Table String RemoteError) (isProtected : Bool)
    (objects : Table String Nat) (key : String) :
    Option RemovalFailure × Table String Nat :=
  match removal.get? key with
  | some error => (some ⟨key, error⟩, objects)
  | none =>
      if isProtected then
        (some ⟨key, .rejected "object is protected by retention"⟩, objects)
      else (none, objects.erase key)

def removeObjectsFrom (removal : Table String RemoteError) (isProtected : Bool) :
    List String → Table String Nat → List RemovalFailure × Table String Nat
  | [], objects => ([], objects)
  | key :: keys, objects =>
      let (failure, remaining) := removeObject removal isProtected objects key
      let (failures, left) := removeObjectsFrom removal isProtected keys remaining
      (failure.toList ++ failures, left)

/-- Removes objects; those under retention need the bypass. -/
def removeObjects (plane : Plane) (bucket : String) (keys : List String) (bypass : Bool) :
    Except RemoteError (List RemovalFailure) × Plane :=
  let noted := { plane with removalBatches := plane.removalBatches ++ [keys.length] }
  match plane.buckets.get? bucket with
  | none => (.error (noBucket bucket), noted)
  | some found =>
      let (failures, objects) := removeObjectsFrom plane.faults.removal
        (found.objectLock && !bypass) keys found.objects
      (.ok failures, noted.putBucket bucket { found with objects })

def userInfo (plane : Plane) (user : String) : Except RemoteError UserInfo :=
  match plane.users.get? user with
  | none => .error (noUser user)
  | some found => .ok ⟨found.policies, found.status⟩

/-- Makes a user, or gives one that exists another secret. -/
def addUser (plane : Plane) (user secret : String) : Plane :=
  plane.putUser user { (plane.users.get? user).getD {} with secret }

def removeUser (plane : Plane) (user : String) : Except RemoteError Unit × Plane :=
  if plane.users.contains user then
    (.ok (), { plane with users := plane.users.erase user })
  else (.error (noUser user), plane)

def changeUserPolicies (plane : Plane) (user : String) (change : List String → List String) :
    Except RemoteError Unit × Plane :=
  match plane.users.get? user with
  | none => (.error (noUser user), plane)
  | some found => (.ok (), plane.putUser user { found with policies := change found.policies })

def setUserPolicies (plane : Plane) (user : String) (policies : List String) :
    Except RemoteError Unit × Plane :=
  match plane.missingPolicy? policies with
  | some error => (.error error, plane)
  | none => plane.changeUserPolicies user fun _ => policies

/-- Adds the names that a list does not hold yet, one after the other. -/
def attachTo (attached : List String) : List String → List String
  | [] => attached
  | policy :: policies =>
      attachTo (if policy ∈ attached then attached else attached ++ [policy]) policies

def attachUserPolicies (plane : Plane) (user : String) (policies : List String) :
    Except RemoteError Unit × Plane :=
  match plane.missingPolicy? policies with
  | some error => (.error error, plane)
  | none => plane.changeUserPolicies user fun attached => attachTo attached policies

def detachUserPolicies (plane : Plane) (user : String) (policies : List String) :
    Except RemoteError Unit × Plane :=
  plane.changeUserPolicies user fun attached => attached.filter (· ∉ policies)

def cannedPolicy (plane : Plane) (name : String) : Except RemoteError String :=
  match plane.policies.get? name with
  | none => .error (noPolicy name)
  | some document => .ok document

/-- Makes or overwrites an access policy. -/
def addCannedPolicy (plane : Plane) (name document : String) :
    Except RemoteError Unit × Plane :=
  match Json.read document with
  | .error _ => (.error (.rejected "policy document is not valid JSON"), plane)
  | .ok _ => (.ok (), { plane with policies := plane.policies.insert name document })

def removeCannedPolicy (plane : Plane) (name : String) : Except RemoteError Unit × Plane :=
  if plane.policies.contains name then
    (.ok (), { plane with policies := plane.policies.erase name })
  else (.error (noPolicy name), plane)

def serviceAccountInfo (plane : Plane) (accessKey : String) :
    Except RemoteError ServiceAccount :=
  match plane.accounts.get? accessKey with
  | none => .error (noAccount accessKey)
  | some account => .ok account

def accessKeyOf (number : Nat) : String :=
  "SVCACCT" ++ String.ofList (Text.padded 8 number)

def secretKeyOf (number : Nat) : String :=
  "secret-" ++ String.ofList (Text.padded 8 number)

/-- Makes a service account under the next key. -/
def addServiceAccount (plane : Plane) (account : ServiceAccount) :
    Except RemoteError Credentials × Plane :=
  if plane.users.contains account.parentUser then
    let number := min (plane.lastKey + 1) Word.max
    let accessKey := accessKeyOf number
    (.ok ⟨accessKey, secretKeyOf number⟩, { plane with
      accounts := plane.accounts.insert accessKey { account with status := "on" }
      lastKey := number })
  else (.error (noUser account.parentUser), plane)

/-- Overwrites what the update holds; an empty policy takes the policy away. -/
def updateServiceAccount (plane : Plane) (accessKey : String) (update : ServiceAccountUpdate) :
    Except RemoteError Unit × Plane :=
  match plane.accounts.get? accessKey with
  | none => (.error (noAccount accessKey), plane)
  | some account =>
      let updated := { account with
        description := update.description <|> account.description
        expiry := update.expiry <|> account.expiry
        policy := match update.policy with
          | none => account.policy
          | some policy => if policy = "" then none else some policy }
      (.ok (), { plane with accounts := plane.accounts.insert accessKey updated })

def deleteServiceAccount (plane : Plane) (accessKey : String) :
    Except RemoteError Unit × Plane :=
  if plane.accounts.contains accessKey then
    (.ok (), { plane with accounts := plane.accounts.erase accessKey })
  else (.error (noAccount accessKey), plane)

/-- What a call answers and leaves behind when no fault is armed for it. -/
def respond (plane : Plane) : (call : RemoteCall) → Except RemoteError call.Result × Plane
  | .bucketExists bucket =>
      match plane.accessError? bucket with
      | some error => (.error error, plane)
      | none => (.ok (plane.buckets.contains bucket), plane)
  | .makeBucket bucket region => plane.makeBucket bucket region
  | .removeBucket bucket => plane.removeBucket bucket
  | .bucketPolicy bucket => (plane.bucketPolicy bucket, plane)
  | .setBucketPolicy bucket policy => plane.setBucketPolicy bucket policy
  | .objectLockEnabled bucket => (plane.objectLockEnabled bucket, plane)
  | .listObjects bucket => (.ok (plane.listObjects bucket), plane)
  | .removeObjects bucket keys bypass => plane.removeObjects bucket keys bypass
  | .userInfo user => (plane.userInfo user, plane)
  | .addUser user secret => (.ok (), plane.addUser user secret)
  | .removeUser user => plane.removeUser user
  | .setUserPolicies user policies => plane.setUserPolicies user policies
  | .attachUserPolicies user policies => plane.attachUserPolicies user policies
  | .detachUserPolicies user policies => plane.detachUserPolicies user policies
  | .cannedPolicy name => (plane.cannedPolicy name, plane)
  | .addCannedPolicy name document => plane.addCannedPolicy name document
  | .removeCannedPolicy name => plane.removeCannedPolicy name
  | .listCannedPolicies => (.ok plane.policies.keys, plane)
  | .serviceAccountInfo accessKey => (plane.serviceAccountInfo accessKey, plane)
  | .addServiceAccount account => plane.addServiceAccount account
  | .updateServiceAccount accessKey update => plane.updateServiceAccount accessKey update
  | .deleteServiceAccount accessKey => plane.deleteServiceAccount accessKey

/-- How a call shows a fault: a listing as its only entry, any other call as its answer. -/
def faulted (error : RemoteError) : (call : RemoteCall) → Except RemoteError call.Result
  | .listObjects _ => .ok [.error error]
  | _ => .error error

/-- One call: a fault that is armed for it is its answer, and it then changes nothing. -/
def perform (plane : Plane) (call : RemoteCall) : Except RemoteError call.Result × Plane :=
  match plane.enter call with
  | (some error, entered) => (faulted error call, entered)
  | (none, entered) => entered.respond call

end Plane

end Steward
