/-
This file says what comes of a call to the remote side, by one rule for each way in which a call
ends. What a call can change, and why it is refused, is read off these rules.
-/

import Steward.Remote.Call

namespace Steward

namespace ServiceAccount

/-- The number of the next account; the last number is given again and again. -/
def nextNumber (plane : Plane) : Nat :=
  min (plane.lastKey + 1) Word.max

/-- The keys that the next account is given. -/
def nextCredentials (plane : Plane) : Credentials where
  accessKey := Plane.accessKeyOf (nextNumber plane)
  secretKey := Plane.secretKeyOf (nextNumber plane)

/-- An account after an update. -/
def updated (account : ServiceAccount) (update : ServiceAccountUpdate) : ServiceAccount :=
  { account with
    description := update.description <|> account.description
    expiry := update.expiry <|> account.expiry
    policy := match update.policy with
      | none => account.policy
      | some policy => if policy = "" then none else some policy }

end ServiceAccount

namespace RemoteCall

/-- The bucket to which a call needs access before it can change anything. -/
def bucket? : RemoteCall → Option String
  | .makeBucket bucket _ | .removeBucket bucket | .setBucketPolicy bucket _ => some bucket
  | _ => none

/-- The policies that a call is to give to a user. -/
def policies : RemoteCall → List String
  | .setUserPolicies _ policies | .attachUserPolicies _ policies => policies
  | _ => []

/-- The resource that has to be there for a call to be carried out. -/
def needed? : RemoteCall → Option (Kind × String)
  | .removeBucket bucket | .setBucketPolicy bucket _ => some (.bucket, bucket)
  | .removeUser user | .setUserPolicies user _ | .attachUserPolicies user _
  | .detachUserPolicies user _ => some (.user, user)
  | .addServiceAccount account => some (.user, account.parentUser)
  | .removeCannedPolicy name => some (.policy, name)
  | .updateServiceAccount accessKey _ | .deleteServiceAccount accessKey =>
      some (.serviceAccount, accessKey)
  | _ => none

/-- The resource that a call takes away. -/
def taken? : RemoteCall → Option (Kind × String)
  | .removeBucket bucket => some (.bucket, bucket)
  | .removeUser user => some (.user, user)
  | .removeCannedPolicy name => some (.policy, name)
  | .deleteServiceAccount accessKey => some (.serviceAccount, accessKey)
  | _ => none

/-- The resource that a call looks for by its name. -/
def sought? : RemoteCall → Option (Kind × String)
  | .userInfo user => some (.user, user)
  | .cannedPolicy name => some (.policy, name)
  | .serviceAccountInfo accessKey => some (.serviceAccount, accessKey)
  | _ => none

variable {call : RemoteCall} {target : Kind × String}

/-- What a call takes away has to be there. -/
theorem needed?_of_taken? (takes : call.taken? = some target) : call.needed? = some target := by
  cases call with
  | removeBucket _ | removeUser _ | removeCannedPolicy _ | deleteServiceAccount _ => exact takes
  | _ => cases takes

theorem isMutating_of_taken? (takes : call.taken? = some target) : call.isMutating = true := by
  cases call with
  | removeBucket _ | removeUser _ | removeCannedPolicy _ | deleteServiceAccount _ => rfl
  | _ => cases takes

end RemoteCall

namespace Plane

/-- A resource of this kind is there. A service account goes by its key. -/
def Has (plane : Plane) : Kind → String → Prop
  | .bucket, name => plane.buckets.contains name = true
  | .user, name => plane.users.contains name = true
  | .policy, name => plane.policies.contains name = true
  | .serviceAccount, accessKey => plane.accounts.contains accessKey = true

instance (plane : Plane) (kind : Kind) (name : String) : Decidable (plane.Has kind name) :=
  match kind with
  | .bucket => inferInstanceAs (Decidable (plane.buckets.contains name = true))
  | .user => inferInstanceAs (Decidable (plane.users.contains name = true))
  | .policy => inferInstanceAs (Decidable (plane.policies.contains name = true))
  | .serviceAccount => inferInstanceAs (Decidable (plane.accounts.contains name = true))

/-- The error of a call that needs a resource which is not there. -/
def absence : Kind → String → RemoteError
  | .bucket, name => noBucket name
  | .user, name => noUser name
  | .policy, name => noPolicy name
  | .serviceAccount, accessKey => noAccount accessKey

/-- The remote side with the size of a removal noted. -/
def noting (plane : Plane) (keys : List String) : Plane :=
  { plane with removalBatches := plane.removalBatches ++ [keys.length] }

/-- Neither access to its bucket nor an unknown policy stands against a call. -/
structure Admits (plane : Plane) (call : RemoteCall) : Prop where
  permitted : ∀ bucket, call.bucket? = some bucket → plane.accessError? bucket = none
  known : plane.missingPolicy? call.policies = none

/-- Why the remote side refuses a call that could change something, and with which error. -/
inductive Refuses (plane : Plane) : RemoteCall → RemoteError → Prop where
  /-- Access to the bucket is denied, or the bucket lives elsewhere. -/
  | barred {call : RemoteCall} {bucket : String} {error : RemoteError}
      (asks : call.bucket? = some bucket) (barred : plane.accessError? bucket = some error) :
      plane.Refuses call error
  /-- A policy for a user is unknown. -/
  | unknown {call : RemoteCall} {error : RemoteError}
      (unknown : plane.missingPolicy? call.policies = some error) : plane.Refuses call error
  | absent {call : RemoteCall} (kind : Kind) (name : String) (admitted : plane.Admits call)
      (needs : call.needed? = some (kind, name)) (absent : ¬ plane.Has kind name) :
      plane.Refuses call (absence kind name)
  /-- The bucket that is to be made is there. -/
  | taken {bucket region : String} (permitted : plane.accessError? bucket = none)
      (there : plane.buckets.contains bucket = true) :
      plane.Refuses (.makeBucket bucket region) (.alreadyExists ("bucket '" ++ bucket ++ "'"))
  /-- The bucket that is to be removed holds objects. -/
  | filled {bucket : String} {found : Bucket} (permitted : plane.accessError? bucket = none)
      (present : plane.buckets.get? bucket = some found)
      (filled : found.objects.isEmpty = false) :
      plane.Refuses (.removeBucket bucket)
        (.rejected ("bucket '" ++ bucket ++ "' is not empty"))
  | invalid {name document : String} {fault : Json.ReadError}
      (invalid : Json.read document = .error fault) :
      plane.Refuses (.addCannedPolicy name document)
        (.rejected "policy document is not valid JSON")

/-- What a call is answered, and what the remote side is after it. -/
inductive Responds (plane : Plane) :
    (call : RemoteCall) → Except RemoteError call.Result → Plane → Prop where
  | looks {call : RemoteCall} {answer : Except RemoteError call.Result}
      (reading : call.isMutating = false) (seen : (plane.respond call).1 = answer) :
      plane.Responds call answer plane
  | refuses {call : RemoteCall} {error : RemoteError} (why : plane.Refuses call error) :
      plane.Responds call (.error error) plane
  | makesBucket {bucket region : String} (permitted : plane.accessError? bucket = none)
      (free : plane.buckets.contains bucket = false) :
      plane.Responds (.makeBucket bucket region) (.ok ()) (plane.putBucket bucket { region })
  | removesBucket {bucket : String} {found : Bucket}
      (permitted : plane.accessError? bucket = none)
      (present : plane.buckets.get? bucket = some found)
      (emptied : found.objects.isEmpty = true) :
      plane.Responds (.removeBucket bucket) (.ok ())
        { plane with buckets := plane.buckets.erase bucket }
  | setsBucketPolicy {bucket policy : String} {found : Bucket}
      (permitted : plane.accessError? bucket = none)
      (present : plane.buckets.get? bucket = some found) :
      plane.Responds (.setBucketPolicy bucket policy) (.ok ())
        (plane.putBucket bucket { found with
          policy := if policy = "" then none else some policy })
  /-- A removal is noted even if there is no bucket. -/
  | missesBucket {bucket : String} {keys : List String} {bypass : Bool}
      (absent : plane.buckets.get? bucket = none) :
      plane.Responds (.removeObjects bucket keys bypass) (.error (noBucket bucket))
        (plane.noting keys)
  | removesObjects {bucket : String} {keys : List String} {bypass : Bool} {found : Bucket}
      {failures : List RemovalFailure} {objects : Table String Nat}
      (present : plane.buckets.get? bucket = some found)
      (removed : removeObjectsFrom plane.faults.removal (found.objectLock && !bypass) keys
        found.objects = (failures, objects)) :
      plane.Responds (.removeObjects bucket keys bypass) (.ok failures)
        ((plane.noting keys).putBucket bucket { found with objects })
  | addsUser {user secret : String} :
      plane.Responds (.addUser user secret) (.ok ()) (plane.addUser user secret)
  | removesUser {user : String} (there : plane.users.contains user = true) :
      plane.Responds (.removeUser user) (.ok ()) { plane with users := plane.users.erase user }
  | setsUserPolicies {user : String} {policies : List String} {found : User}
      (known : plane.missingPolicy? policies = none)
      (present : plane.users.get? user = some found) :
      plane.Responds (.setUserPolicies user policies) (.ok ())
        (plane.putUser user { found with policies })
  | attachesUserPolicies {user : String} {policies : List String} {found : User}
      (known : plane.missingPolicy? policies = none)
      (present : plane.users.get? user = some found) :
      plane.Responds (.attachUserPolicies user policies) (.ok ())
        (plane.putUser user { found with policies := attachTo found.policies policies })
  | detachesUserPolicies {user : String} {policies : List String} {found : User}
      (present : plane.users.get? user = some found) :
      plane.Responds (.detachUserPolicies user policies) (.ok ())
        (plane.putUser user { found with policies := found.policies.filter (· ∉ policies) })
  | addsCannedPolicy {name document : String} {value : Json.Value}
      (valid : Json.read document = .ok value) :
      plane.Responds (.addCannedPolicy name document) (.ok ())
        { plane with policies := plane.policies.insert name document }
  | removesCannedPolicy {name : String} (there : plane.policies.contains name = true) :
      plane.Responds (.removeCannedPolicy name) (.ok ())
        { plane with policies := plane.policies.erase name }
  | addsServiceAccount {account : ServiceAccount}
      (there : plane.users.contains account.parentUser = true) :
      plane.Responds (.addServiceAccount account) (.ok (ServiceAccount.nextCredentials plane))
        { plane with
          accounts := plane.accounts.insert (ServiceAccount.nextCredentials plane).accessKey
            { account with status := "on" }
          lastKey := ServiceAccount.nextNumber plane }
  | updatesServiceAccount {accessKey : String} {update : ServiceAccountUpdate}
      {account : ServiceAccount} (present : plane.accounts.get? accessKey = some account) :
      plane.Responds (.updateServiceAccount accessKey update) (.ok ())
        { plane with accounts := plane.accounts.insert accessKey (account.updated update) }
  | deletesServiceAccount {accessKey : String}
      (there : plane.accounts.contains accessKey = true) :
      plane.Responds (.deleteServiceAccount accessKey) (.ok ())
        { plane with accounts := plane.accounts.erase accessKey }

variable {plane after : Plane} {call : RemoteCall}

/-- A call on a bucket that names no policies is admitted where access to the bucket is. -/
theorem admits_of_access {bucket : String} (asks : call.bucket? = some bucket)
    (policies : call.policies = []) (permitted : plane.accessError? bucket = none) :
    plane.Admits call where
  permitted := by
    intro other same
    cases asks.symm.trans same
    exact permitted
  known := by
    rw [policies]
    rfl

/-- A call on no bucket is admitted where all of its policies are known. -/
theorem admits_of_policies (asks : call.bucket? = none)
    (known : plane.missingPolicy? call.policies = none) : plane.Admits call where
  permitted := by
    intro other same
    cases asks.symm.trans same
  known := known

/-- A call on no bucket that names no policies is refused when what it needs is absent. -/
theorem Refuses.of_absent (kind : Kind) (name : String) (asks : call.bucket? = none)
    (policies : call.policies = []) (needs : call.needed? = some (kind, name))
    (absent : ¬ plane.Has kind name) : plane.Refuses call (absence kind name) :=
  .absent kind name (admits_of_policies asks (by rw [policies]; rfl)) needs absent

/-- A bucket is made where access is granted and the name is free. -/
theorem responds_makeBucket (plane : Plane) (bucket region : String) :
    plane.Responds (.makeBucket bucket region) (plane.respond (.makeBucket bucket region)).1
      (plane.respond (.makeBucket bucket region)).2 := by
  simp only [respond, makeBucket]
  cases access : plane.accessError? bucket with
  | some error => exact .refuses (.barred rfl access)
  | none =>
      cases there : plane.buckets.contains bucket with
      | true => exact .refuses (.taken access there)
      | false => exact .makesBucket access there

/-- A bucket is removed where access is granted and it is empty. -/
theorem responds_removeBucket (plane : Plane) (bucket : String) :
    plane.Responds (.removeBucket bucket) (plane.respond (.removeBucket bucket)).1
      (plane.respond (.removeBucket bucket)).2 := by
  simp only [respond, removeBucket]
  cases access : plane.accessError? bucket with
  | some error => exact .refuses (.barred rfl access)
  | none =>
      cases present : plane.buckets.get? bucket with
      | none =>
          exact .refuses (.absent .bucket bucket (admits_of_access rfl rfl access) rfl
            (Table.not_contains_of_get? present))
      | some found =>
          dsimp only
          cases emptied : found.objects.isEmpty with
          | true => exact .removesBucket access present emptied
          | false => exact .refuses (.filled access present emptied)

/-- The policy of a bucket is set where access is granted and the bucket is there. -/
theorem responds_setBucketPolicy (plane : Plane) (bucket policy : String) :
    plane.Responds (.setBucketPolicy bucket policy)
      (plane.respond (.setBucketPolicy bucket policy)).1
      (plane.respond (.setBucketPolicy bucket policy)).2 := by
  simp only [respond, setBucketPolicy]
  cases access : plane.accessError? bucket with
  | some error => exact .refuses (.barred rfl access)
  | none =>
      cases present : plane.buckets.get? bucket with
      | none =>
          exact .refuses (.absent .bucket bucket (admits_of_access rfl rfl access) rfl
            (Table.not_contains_of_get? present))
      | some found => exact .setsBucketPolicy access present

/-- A user is given policies that are all known, or none of them. -/
theorem responds_setUserPolicies (plane : Plane) (user : String) (policies : List String) :
    plane.Responds (.setUserPolicies user policies)
      (plane.respond (.setUserPolicies user policies)).1
      (plane.respond (.setUserPolicies user policies)).2 := by
  simp only [respond, setUserPolicies, changeUserPolicies]
  cases known : plane.missingPolicy? policies with
  | some error => exact .refuses (.unknown known)
  | none =>
      cases present : plane.users.get? user with
      | none =>
          exact .refuses (.absent .user user (admits_of_policies rfl known) rfl
            (Table.not_contains_of_get? present))
      | some found => exact .setsUserPolicies known present

/-- Policies that are all known are attached to a user, or none of them. -/
theorem responds_attachUserPolicies (plane : Plane) (user : String) (policies : List String) :
    plane.Responds (.attachUserPolicies user policies)
      (plane.respond (.attachUserPolicies user policies)).1
      (plane.respond (.attachUserPolicies user policies)).2 := by
  simp only [respond, attachUserPolicies, changeUserPolicies]
  cases known : plane.missingPolicy? policies with
  | some error => exact .refuses (.unknown known)
  | none =>
      cases present : plane.users.get? user with
      | none =>
          exact .refuses (.absent .user user (admits_of_policies rfl known) rfl
            (Table.not_contains_of_get? present))
      | some found => exact .attachesUserPolicies known present

/-- Every call ends in one of these ways. -/
theorem responds (plane : Plane) (call : RemoteCall) :
    plane.Responds call (plane.respond call).1 (plane.respond call).2 := by
  cases call with
  | bucketPolicy _ | objectLockEnabled _ | listObjects _ | userInfo _ | cannedPolicy _
  | listCannedPolicies | serviceAccountInfo _ => exact .looks rfl rfl
  | bucketExists bucket =>
      have still : (plane.respond (.bucketExists bucket)).2 = plane := by
        simp only [respond]
        split
        · rfl
        · rfl
      rw [still]
      exact .looks rfl rfl
  | makeBucket bucket region => exact plane.responds_makeBucket bucket region
  | removeBucket bucket => exact plane.responds_removeBucket bucket
  | setBucketPolicy bucket policy => exact plane.responds_setBucketPolicy bucket policy
  | removeObjects bucket keys bypass =>
      simp only [respond, removeObjects]
      cases present : plane.buckets.get? bucket with
      | none => exact .missesBucket present
      | some found => exact .removesObjects present rfl
  | addUser user secret => exact .addsUser
  | removeUser user =>
      simp only [respond, removeUser]
      cases there : plane.users.contains user with
      | true => exact .removesUser there
      | false =>
          exact .refuses (.of_absent .user user rfl rfl rfl (ne_true_of_eq_false there))
  | setUserPolicies user policies => exact plane.responds_setUserPolicies user policies
  | attachUserPolicies user policies => exact plane.responds_attachUserPolicies user policies
  | detachUserPolicies user policies =>
      simp only [respond, detachUserPolicies, changeUserPolicies]
      cases present : plane.users.get? user with
      | none =>
          exact .refuses (.of_absent .user user rfl rfl rfl (Table.not_contains_of_get? present))
      | some found => exact .detachesUserPolicies present
  | addCannedPolicy name document =>
      simp only [respond, addCannedPolicy]
      cases read : Json.read document with
      | error fault => exact .refuses (.invalid read)
      | ok value => exact .addsCannedPolicy read
  | removeCannedPolicy name =>
      simp only [respond, removeCannedPolicy]
      cases there : plane.policies.contains name with
      | true => exact .removesCannedPolicy there
      | false =>
          exact .refuses (.of_absent .policy name rfl rfl rfl (ne_true_of_eq_false there))
  | addServiceAccount account =>
      simp only [respond, addServiceAccount]
      cases there : plane.users.contains account.parentUser with
      | true => exact .addsServiceAccount there
      | false =>
          exact .refuses
            (.of_absent .user account.parentUser rfl rfl rfl (ne_true_of_eq_false there))
  | updateServiceAccount accessKey update =>
      simp only [respond, updateServiceAccount]
      cases present : plane.accounts.get? accessKey with
      | none =>
          exact .refuses (.of_absent .serviceAccount accessKey rfl rfl rfl
            (Table.not_contains_of_get? present))
      | some account => exact .updatesServiceAccount present
  | deleteServiceAccount accessKey =>
      simp only [respond, deleteServiceAccount]
      cases there : plane.accounts.contains accessKey with
      | true => exact .deletesServiceAccount there
      | false =>
          exact .refuses
            (.of_absent .serviceAccount accessKey rfl rfl rfl (ne_true_of_eq_false there))

/-- The rules leave a call no other way than the one in which the remote side answers it. -/
theorem Refuses.respond {error : RemoteError} (refuses : plane.Refuses call error) :
    plane.respond call = (.error error, plane) := by
  cases refuses with
  | barred asks barred =>
      cases call with
      | makeBucket _ _ | removeBucket _ | setBucketPolicy _ _ =>
          cases asks
          simp only [Plane.respond, makeBucket, removeBucket, setBucketPolicy, barred]
      | _ => cases asks
  | unknown unknown =>
      cases call with
      | setUserPolicies _ policies | attachUserPolicies _ policies =>
          change plane.missingPolicy? policies = _ at unknown
          simp only [Plane.respond, setUserPolicies, attachUserPolicies, unknown]
      | _ => cases unknown
  | absent kind name admitted needs absent =>
      obtain ⟨permitted, known⟩ := admitted
      cases call with
      | removeBucket _ | setBucketPolicy _ _ =>
          cases needs
          have access := permitted _ rfl
          have missing := Table.get?_of_not_contains absent
          simp only [Plane.respond, removeBucket, setBucketPolicy, access, missing, absence]
      | setUserPolicies _ policies | attachUserPolicies _ policies =>
          cases needs
          change plane.missingPolicy? policies = none at known
          have missing := Table.get?_of_not_contains absent
          simp only [Plane.respond, setUserPolicies, attachUserPolicies, changeUserPolicies, known,
            missing, absence]
      | detachUserPolicies _ _ | updateServiceAccount _ _ =>
          cases needs
          have missing := Table.get?_of_not_contains absent
          simp only [Plane.respond, detachUserPolicies, changeUserPolicies, updateServiceAccount,
            missing, absence]
      | removeUser _ | removeCannedPolicy _ | addServiceAccount _ | deleteServiceAccount _ =>
          cases needs
          exact if_neg absent
      | _ => cases needs
  | taken permitted there => simp only [Plane.respond, makeBucket, permitted, there, if_true]
  | filled permitted present filled =>
      simp [Plane.respond, removeBucket, permitted, present, filled]
  | invalid invalid => simp only [Plane.respond, addCannedPolicy, invalid]

section Rules

variable {answer : Except RemoteError call.Result}

/-- A call that only looks leaves the remote side as it is. -/
theorem Responds.of_reading (responds : plane.Responds call answer after)
    (reading : call.isMutating = false) : after = plane := by
  cases responds with
  | looks _ _ | refuses _ => rfl
  | _ => cases reading

/-- A call that fails leaves every resource as it is; that it was made may be noted. -/
theorem Responds.of_error {error : RemoteError}
    (responds : plane.Responds call (.error error) after) :
    after = plane ∨ ∃ keys, after = plane.noting keys := by
  cases responds with
  | looks _ _ | refuses _ => exact .inl rfl
  | missesBucket _ => exact .inr ⟨_, rfl⟩

/-- No call arms or clears a fault by what it does. -/
theorem Responds.faults (responds : plane.Responds call answer after) :
    after.faults = plane.faults := by
  cases responds
  all_goals rfl

/-- The rules are those of the remote side. -/
theorem Responds.respond (responds : plane.Responds call answer after) :
    plane.respond call = (answer, after) := by
  cases responds with
  | looks reading seen => exact Prod.ext seen ((plane.responds call).of_reading reading)
  | refuses why => exact why.respond
  | makesBucket permitted free => simp [Plane.respond, makeBucket, permitted, free]
  | removesBucket permitted present emptied =>
      simp [Plane.respond, removeBucket, permitted, present, emptied]
  | setsBucketPolicy permitted present =>
      simp only [Plane.respond, setBucketPolicy, permitted, present]
  | missesBucket absent =>
      simp only [Plane.respond, removeObjects, absent]
      rfl
  | removesObjects present removed =>
      simp only [Plane.respond, removeObjects, present, removed]
      rfl
  | addsUser => rfl
  | removesUser there | removesCannedPolicy there | deletesServiceAccount there
  | addsServiceAccount there => exact if_pos there
  | setsUserPolicies known present | attachesUserPolicies known present =>
      simp only [Plane.respond, setUserPolicies, attachUserPolicies, changeUserPolicies, known,
        present]
  | detachesUserPolicies present =>
      simp only [Plane.respond, detachUserPolicies, changeUserPolicies, present]
  | addsCannedPolicy valid => simp only [Plane.respond, addCannedPolicy, valid]
  | updatesServiceAccount present =>
      simp only [Plane.respond, updateServiceAccount, present]
      rfl

/-- A call ends as the remote side answers it, and in no other way. -/
theorem responds_iff : plane.Responds call answer after ↔ plane.respond call = (answer, after) := by
  constructor
  · exact Responds.respond
  · intro same
    have responds := plane.responds call
    rw [same] at responds
    exact responds

end Rules

/-- A call that only reads leaves the remote side as it is. -/
theorem respond_of_reading (reading : call.isMutating = false) : (plane.respond call).2 = plane :=
  (plane.responds call).of_reading reading

/-- No answer takes away a fault that waits, or adds one. -/
theorem respond_faults (call : RemoteCall) : (plane.respond call).2.faults = plane.faults :=
  (plane.responds call).faults

section Refusals

variable {error : RemoteError} {resource : String}

/-- Access is refused as forbidden or as asked for in the wrong region. -/
theorem accessError?_cases {bucket : String} (barred : plane.accessError? bucket = some error) :
    (∃ reason, error = .forbidden reason) ∨ ∃ region, error = .wrongRegion region := by
  unfold accessError? at barred
  split at barred
  · cases barred
    exact .inl ⟨_, rfl⟩
  · obtain ⟨region, -, rfl⟩ := Option.map_eq_some_iff.1 barred
    exact .inr ⟨region, rfl⟩

theorem missingPolicy?_cases {policies : List String}
    (unknown : plane.missingPolicy? policies = some error) :
    ∃ reason, error = .rejected reason := by
  obtain ⟨policy, -, rfl⟩ := Option.map_eq_some_iff.1 unknown
  exact ⟨_, rfl⟩

/-- Only a bucket that is to be made can be there already, and a call that does not find what it
needs is right: it is not there. -/
theorem Refuses.reason (refuses : plane.Refuses call error) :
    match error with
    | .alreadyExists _ => ∃ bucket region, call = .makeBucket bucket region
    | .notFound _ => ∃ kind name, call.needed? = some (kind, name) ∧ ¬ plane.Has kind name
    | _ => True := by
  cases refuses with
  | barred asks barred =>
      obtain ⟨_, rfl⟩ | ⟨_, rfl⟩ := accessError?_cases barred
      · trivial
      · trivial
  | unknown unknown =>
      obtain ⟨_, rfl⟩ := missingPolicy?_cases unknown
      trivial
  | absent kind name admitted needs absent =>
      cases kind
      all_goals exact ⟨_, _, needs, absent⟩
  | taken permitted there => exact ⟨_, _, rfl⟩
  | filled permitted present filled => trivial
  | invalid invalid => trivial

/-- A call that could change something says of a bucket alone that it is there already. -/
theorem Responds.ne_alreadyExists {answer : Except RemoteError call.Result}
    (responds : plane.Responds call answer after) (changes : call.isMutating = true)
    (other : ∀ bucket region, call ≠ .makeBucket bucket region) :
    answer ≠ .error (.alreadyExists resource) := by
  rintro rfl
  cases responds with
  | looks reading _ => cases reading.symm.trans changes
  | refuses why =>
      obtain ⟨bucket, region, rfl⟩ := why.reason
      exact other bucket region rfl

end Refusals

section Presence

variable {answer : Except RemoteError call.Result} {kind : Kind} {name : String}

/-- Every resource stays but the one that a call takes away. -/
theorem Responds.has (responds : plane.Responds call answer after) (held : plane.Has kind name)
    (left : call.taken? ≠ some (kind, name)) : after.Has kind name := by
  cases kind with
  | bucket =>
      cases responds with
      | makesBucket _ _ | setsBucketPolicy _ _ | removesObjects _ _ =>
          exact Table.contains_insert held
      | removesBucket _ _ _ => exact Table.contains_erase held fun same => left (same ▸ rfl)
      | _ => exact held
  | user =>
      cases responds with
      | addsUser | setsUserPolicies _ _ | attachesUserPolicies _ _ | detachesUserPolicies _ =>
          exact Table.contains_insert held
      | removesUser _ => exact Table.contains_erase held fun same => left (same ▸ rfl)
      | _ => exact held
  | policy =>
      cases responds with
      | addsCannedPolicy _ => exact Table.contains_insert held
      | removesCannedPolicy _ => exact Table.contains_erase held fun same => left (same ▸ rfl)
      | _ => exact held
  | serviceAccount =>
      cases responds with
      | addsServiceAccount _ | updatesServiceAccount _ => exact Table.contains_insert held
      | deletesServiceAccount _ => exact Table.contains_erase held fun same => left (same ▸ rfl)
      | _ => exact held

/-- Who looks for a resource is shown it, or told that it is not there. -/
theorem respond_of_sought? (seeks : call.sought? = some (kind, name)) :
    (plane.Has kind name ∧ ∃ result, (plane.respond call).1 = .ok result) ∨
      (¬ plane.Has kind name ∧ (plane.respond call).1 = .error (absence kind name)) := by
  cases call with
  | userInfo _ =>
      cases seeks
      simp only [respond, userInfo]
      cases present : plane.users.get? name with
      | some found => exact .inl ⟨Option.isSome_of_eq_some present, _, rfl⟩
      | none => exact .inr ⟨Table.not_contains_of_get? present, rfl⟩
  | cannedPolicy _ =>
      cases seeks
      simp only [respond, cannedPolicy]
      cases present : plane.policies.get? name with
      | some found => exact .inl ⟨Option.isSome_of_eq_some present, _, rfl⟩
      | none => exact .inr ⟨Table.not_contains_of_get? present, rfl⟩
  | serviceAccountInfo _ =>
      cases seeks
      simp only [respond, serviceAccountInfo]
      cases present : plane.accounts.get? name with
      | some found => exact .inl ⟨Option.isSome_of_eq_some present, _, rfl⟩
      | none => exact .inr ⟨Table.not_contains_of_get? present, rfl⟩
  | _ => cases seeks

/-- What a look-up shows is there. -/
theorem has_of_sought? (seeks : call.sought? = some (kind, name)) {result : call.Result}
    (shown : (plane.respond call).1 = .ok result) : plane.Has kind name := by
  obtain ⟨there, -⟩ | ⟨-, missed⟩ := plane.respond_of_sought? seeks
  · exact there
  · cases shown.symm.trans missed

/-- A look-up that fails does so because what it looks for is absent, and says this. -/
theorem not_has_of_sought? (seeks : call.sought? = some (kind, name)) {error : RemoteError}
    (missed : (plane.respond call).1 = .error error) :
    ¬ plane.Has kind name ∧ error = absence kind name := by
  obtain ⟨-, result, shown⟩ | ⟨absent, told⟩ := plane.respond_of_sought? seeks
  · cases missed.symm.trans shown
  · exact ⟨absent, Except.error.inj (missed.symm.trans told)⟩

/-- A bucket that has been made was not there before, and holds nothing. -/
theorem Responds.of_makeBucket {bucket region : String}
    (responds : plane.Responds (.makeBucket bucket region) (.ok ()) after) :
    plane.buckets.contains bucket = false ∧ after = plane.putBucket bucket { region } := by
  cases responds with
  | looks reading _ => cases reading
  | makesBucket _ free => exact ⟨free, rfl⟩

/-- To remove objects leaves every resource, and the bucket itself, where it is. -/
theorem Responds.has_iff_of_removeObjects {bucket : String} {keys : List String} {bypass : Bool}
    {answer : Except RemoteError (List RemovalFailure)}
    (responds : plane.Responds (.removeObjects bucket keys bypass) answer after) :
    after.Has kind name ↔ plane.Has kind name := by
  cases responds with
  | looks _ _ | refuses _ => exact Iff.rfl
  | missesBucket _ =>
      cases kind
      all_goals exact Iff.rfl
  | removesObjects present _ =>
      cases kind with
      | bucket => exact iff_of_eq (congrArg (· = true) (Table.contains_insert_of_get? present))
      | _ => exact Iff.rfl

/-- Removing objects, a call says of nothing but the bucket that it is not there. -/
theorem Responds.not_has_of_removeObjects {bucket what : String} {keys : List String}
    {bypass : Bool}
    (responds : plane.Responds (.removeObjects bucket keys bypass) (.error (.notFound what)) after) :
    ¬ plane.Has .bucket bucket := by
  cases responds with
  | looks reading _ => cases reading
  | refuses why =>
      obtain ⟨_, _, needs, -⟩ := why.reason
      cases needs
  | missesBucket absent => exact Table.not_contains_of_get? absent

/-- What a call has taken away is gone. -/
theorem Responds.not_has {result : call.Result} (responds : plane.Responds call (.ok result) after)
    (takes : call.taken? = some (kind, name)) : ¬ after.Has kind name := by
  cases responds with
  | looks reading _ => cases reading.symm.trans (RemoteCall.isMutating_of_taken? takes)
  | removesBucket _ _ _ | removesUser _ | removesCannedPolicy _ | deletesServiceAccount _ =>
      cases takes
      exact Table.not_contains_erase _ _
  | _ => cases takes

/-- A call that does not find what it is to take away is right: it is not there. -/
theorem Responds.not_has_of_notFound {what : String}
    (responds : plane.Responds call (.error (.notFound what)) after)
    (takes : call.taken? = some (kind, name)) : ¬ after.Has kind name := by
  cases responds with
  | looks reading _ => cases reading.symm.trans (RemoteCall.isMutating_of_taken? takes)
  | refuses why =>
      obtain ⟨_, _, needs, absent⟩ := why.reason
      cases (RemoteCall.needed?_of_taken? takes).symm.trans needs
      exact absent
  | missesBucket _ => cases takes

end Presence

end Plane

end Steward
