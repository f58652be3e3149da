/-
This file hides the secrets of users from what can be seen of a world.
With the secrets hidden, a request is answered as with them, and what it leaves behind looks the
same once the secrets are hidden there too.
-/

import Steward.Proofs.Response
import Steward.Proofs.Runs

namespace Steward

namespace Table

variable {κ α β : Type} [Ord κ]

/-- The table with every value changed. -/
def mapValues (change : α → β) (table : Table κ α) : Table κ β where
  entries := table.entries.map fun entry => (entry.1, change entry.2)
  sorted := List.pairwise_map.2 table.sorted

/-- To change every value and then look one up is to look it up and change it. -/
theorem lookupEntries_map (change : α → β) (key : κ) (entries : List (κ × α)) :
    lookupEntries key (entries.map fun entry => (entry.1, change entry.2)) =
      (lookupEntries key entries).map change := by
  induction entries with
  | nil => rfl
  | cons entry rest inductionHypothesis =>
      rw [List.map_cons, lookupEntries, lookupEntries]
      cases compare key entry.1 with
      | eq => rfl
      | lt => exact inductionHypothesis
      | gt => exact inductionHypothesis

theorem get?_mapValues (change : α → β) (table : Table κ α) (key : κ) :
    (table.mapValues change).get? key = (table.get? key).map change :=
  lookupEntries_map change key table.entries

theorem contains_mapValues (change : α → β) (table : Table κ α) (key : κ) :
    (table.mapValues change).contains key = table.contains key := by
  rw [contains, get?_mapValues, Option.isSome_map, contains]

/-- Two changes, one after the other, are one. -/
theorem mapValues_mapValues {γ : Type} (first : α → β) (second : β → γ) (table : Table κ α) :
    (table.mapValues first).mapValues second =
      table.mapValues fun value => second (first value) := by
  apply ext_entries
  simp [mapValues]

variable [Std.TransOrd κ] [Std.LawfulEqOrd κ] [DecidableEq κ]

/-- A value that is put into a table is changed with the others. -/
theorem mapValues_insert (change : α → β) (table : Table κ α) (key : κ) (value : α) :
    (table.insert key value).mapValues change =
      (table.mapValues change).insert key (change value) := by
  refine ext_get? fun other => ?_
  rw [get?_mapValues, get?_insert, get?_insert, get?_mapValues]
  split
  · rfl
  · rfl

/-- A value that is dropped need not be changed before. -/
theorem mapValues_erase (change : α → β) (table : Table κ α) (key : κ) :
    (table.erase key).mapValues change = (table.mapValues change).erase key := by
  refine ext_get? fun other => ?_
  rw [get?_mapValues, get?_erase, get?_erase, get?_mapValues]
  split
  · rfl
  · rfl

end Table

/-- A user without the secret. -/
def User.veiled (user : User) : User :=
  { user with secret := "" }

/-- The details of a user without the password; those of other resources as they are. -/
def Details.veiled (details : Details) : Details :=
  if Table.contains details "username" then Table.modify details "password" fun _ => ""
  else details

/-- The remote side without the secrets of its users. -/
def Plane.veiled (plane : Plane) : Plane :=
  { plane with users := plane.users.mapValues User.veiled }

/-- The records with their changes and details, but without the passwords of users. -/
def Store.veiled (store : Store) : Store :=
  { store with details := store.details.mapValues Details.veiled }

/-- What can be seen of a world without the secrets of users, those to come included. -/
def World.veiled (world : World) : World :=
  { world with
    store := world.store.veiled
    plane := world.plane.veiled
    secrets := .constant "" }

namespace Plane

variable {plane : Plane}

theorem veiled_veiled (plane : Plane) : plane.veiled.veiled = plane.veiled := by
  simp only [veiled, Table.mapValues_mapValues]
  rfl

variable {after : Plane} {call : RemoteCall}

theorem get?_veiled (user : String) :
    plane.veiled.users.get? user = (plane.users.get? user).map User.veiled :=
  Table.get?_mapValues _ _ _

theorem contains_veiled (user : String) :
    plane.veiled.users.contains user = plane.users.contains user :=
  Table.contains_mapValues _ _ _

/-- To hide the secrets hides no resource. -/
theorem has_veiled_iff {kind : Kind} {name : String} :
    plane.veiled.Has kind name ↔ plane.Has kind name := by
  cases kind with
  | user => exact iff_of_eq (congrArg (· = true) (contains_veiled name))
  | _ => exact Iff.rfl

theorem putUser_veiled (name : String) (user : User) :
    (plane.putUser name user).veiled = plane.veiled.putUser name user.veiled := by
  simp only [putUser, veiled, Table.mapValues_insert]

/-- Why a call is refused has nothing to do with secrets. -/
theorem Refuses.veiled {error : RemoteError} (refuses : plane.Refuses call error) :
    plane.veiled.Refuses call error := by
  cases refuses with
  | barred asks barred => exact .barred asks barred
  | unknown unknown => exact .unknown unknown
  | absent kind name admitted needs absent =>
      have admits : plane.veiled.Admits call := ⟨admitted.permitted, admitted.known⟩
      exact .absent kind name admits needs fun there => absent (has_veiled_iff.1 there)
  | taken permitted there => exact .taken permitted there
  | filled permitted present filled => exact .filled permitted present filled
  | invalid invalid => exact .invalid invalid

/-- No secret is shown to who looks. -/
theorem look_veiled (reading : call.isMutating = false) :
    (plane.veiled.respond call).1 = (plane.respond call).1 := by
  cases call with
  | userInfo user =>
      simp only [respond, userInfo, get?_veiled]
      cases plane.users.get? user
      · rfl
      · rfl
  | bucketExists bucket =>
      have same : plane.veiled.accessError? bucket = plane.accessError? bucket := rfl
      simp only [respond, same]
      cases plane.accessError? bucket
      · rfl
      · rfl
  | bucketPolicy _ | objectLockEnabled _ | listObjects _ | cannedPolicy _ | listCannedPolicies
  | serviceAccountInfo _ => rfl
  | _ => cases reading

/-- Without the secrets a call ends as with them, and leaves the same without them. -/
theorem Responds.veiled {answer : Except RemoteError call.Result}
    (responds : plane.Responds call answer after)
    (adds : ∀ user secret, call ≠ .addUser user secret) :
    plane.veiled.Responds call answer after.veiled := by
  have shown : ∀ {user found}, plane.users.get? user = some found →
      plane.veiled.users.get? user = some found.veiled := by
    intro user found present
    rw [get?_veiled, present, Option.map_some]
  have listed : ∀ {policies}, plane.missingPolicy? policies = none →
      plane.veiled.missingPolicy? policies = none := fun known => known
  cases responds with
  | looks reading seen => exact .looks reading ((look_veiled reading).trans seen)
  | refuses why => exact .refuses why.veiled
  | makesBucket permitted free => exact .makesBucket permitted free
  | removesBucket permitted present emptied => exact .removesBucket permitted present emptied
  | setsBucketPolicy permitted present => exact .setsBucketPolicy permitted present
  | missesBucket absent => exact .missesBucket absent
  | removesObjects present removed => exact .removesObjects present removed
  | addsUser => exact absurd rfl (adds _ _)
  | removesUser there =>
      have left : ∀ user, { plane with users := plane.users.erase user }.veiled =
          { plane.veiled with users := plane.veiled.users.erase user } := by
        intro user
        simp only [Plane.veiled, Table.mapValues_erase]
      rw [left]
      exact .removesUser ((contains_veiled _).trans there)
  | setsUserPolicies known present =>
      rw [putUser_veiled]
      exact .setsUserPolicies (listed known) (shown present)
  | attachesUserPolicies known present =>
      rw [putUser_veiled]
      exact .attachesUserPolicies (listed known) (shown present)
  | detachesUserPolicies present =>
      rw [putUser_veiled]
      exact .detachesUserPolicies (shown present)
  | addsCannedPolicy valid => exact .addsCannedPolicy valid
  | removesCannedPolicy there => exact .removesCannedPolicy there
  | addsServiceAccount there => exact .addsServiceAccount ((contains_veiled _).trans there)
  | updatesServiceAccount present => exact .updatesServiceAccount present
  | deletesServiceAccount there => exact .deletesServiceAccount there

/-- Which secret a user is given makes no difference without the secrets. -/
theorem addUser_veiled (user secret other : String) :
    (plane.veiled.addUser user secret).veiled = (plane.addUser user other).veiled := by
  have held : plane.veiled.users.get? user = (plane.users.get? user).map User.veiled :=
    Table.get?_mapValues _ _ _
  unfold addUser putUser
  rw [held]
  simp only [veiled, Table.mapValues_insert, Table.mapValues_mapValues]
  cases plane.users.get? user
  · rfl
  · rfl

/-- Which fault a call meets does not depend on secrets. -/
theorem enter_veiled (call : RemoteCall) :
    plane.veiled.enter call = ((plane.enter call).1, (plane.enter call).2.veiled) := by
  unfold enter
  split
  · rfl
  · rfl

/-- With or without a fault, a call is answered without the secrets as with them. -/
theorem perform_veiled {call : RemoteCall} (adds : ∀ user secret, call ≠ .addUser user secret) :
    plane.veiled.perform call = ((plane.perform call).1, (plane.perform call).2.veiled) := by
  unfold perform
  rw [enter_veiled]
  rcases plane.enter call with ⟨fault, entered⟩
  cases fault with
  | some error => rfl
  | none => exact ((entered.responds call).veiled adds).respond

/-- To add a user is answered the same for every secret, and leaves the same without the secrets. -/
theorem perform_addUser_veiled (user secret other : String) :
    (plane.veiled.perform (.addUser user secret)).1 = (plane.perform (.addUser user other)).1 ∧
      (plane.veiled.perform (.addUser user secret)).2.veiled =
        (plane.perform (.addUser user other)).2.veiled := by
  have entering : plane.veiled.enter (.addUser user secret) =
      ((plane.enter (.addUser user other)).1, (plane.enter (.addUser user other)).2.veiled) :=
    enter_veiled _
  unfold perform
  rw [entering]
  rcases plane.enter (.addUser user other) with ⟨fault, entered⟩
  cases fault with
  | some error => exact ⟨rfl, entered.veiled_veiled⟩
  | none => exact ⟨rfl, addUser_veiled user secret other⟩

section Alike

variable {one other : Plane} (alike : one.veiled = other.veiled)

include alike

/-- A user may be given different secrets. -/
theorem addUser_alike (user first second : String) :
    (one.perform (.addUser user first)).1 = (other.perform (.addUser user second)).1 ∧
      (one.perform (.addUser user first)).2.veiled =
        (other.perform (.addUser user second)).2.veiled := by
  have before := one.perform_addUser_veiled user first first
  have after := other.perform_addUser_veiled user first second
  rw [alike] at before
  exact ⟨before.1.symm.trans after.1, before.2.symm.trans after.2⟩

/-- A call is answered alike, whichever secrets the users have. -/
theorem perform_alike (call : RemoteCall) :
    (one.perform call).1 = (other.perform call).1 ∧
      (one.perform call).2.veiled = (other.perform call).2.veiled := by
  by_cases adds : ∃ user secret, call = .addUser user secret
  · obtain ⟨user, secret, rfl⟩ := adds
    exact addUser_alike alike user secret secret
  · have spared : ∀ user secret, call ≠ .addUser user secret := fun user secret same =>
      adds ⟨user, secret, same⟩
    have first := one.perform_veiled spared
    have second := other.perform_veiled spared
    rw [alike] at first
    exact Prod.mk.inj (first.symm.trans second)

end Alike

section Seeding

variable (plane : Plane)

theorem seedBucket_veiled (bucket : String) :
    plane.veiled.seedBucket bucket = (plane.seedBucket bucket).veiled := by
  have known : plane.veiled.buckets.contains bucket = plane.buckets.contains bucket := rfl
  simp only [seedBucket, known]
  split
  · rfl
  · rfl

theorem changeBucket_veiled (bucket : String) (change : Bucket → Bucket) :
    plane.veiled.changeBucket bucket change = (plane.changeBucket bucket change).veiled := by
  rw [changeBucket, seedBucket_veiled]
  rfl

theorem insertUser_veiled (user : String) (policies : List String) :
    plane.veiled.insertUser user policies = (plane.insertUser user policies).veiled := by
  simp only [insertUser, putUser, veiled, Table.mapValues_insert]
  rfl

theorem insertPolicy_veiled (name document : String) :
    plane.veiled.insertPolicy name document = (plane.insertPolicy name document).veiled :=
  rfl

theorem changeFaults_veiled (change : Faults → Faults) :
    plane.veiled.changeFaults change = (plane.changeFaults change).veiled :=
  rfl

end Seeding

/-- A change from outside leaves planes alike that were alike before. -/
theorem disturbance_alike {one other : Plane} (alike : one.veiled = other.veiled)
    (disturbance : Disturbance) :
    (disturbance.apply one).veiled = (disturbance.apply other).veiled := by
  cases disturbance with
  | seedBucket bucket => simp only [Disturbance.apply, ← seedBucket_veiled, alike]
  | putObject bucket key => simp only [Disturbance.apply, putObject, ← changeBucket_veiled, alike]
  | enableObjectLock bucket =>
      simp only [Disturbance.apply, enableObjectLock, ← changeBucket_veiled, alike]
  | insertUser user policies => simp only [Disturbance.apply, ← insertUser_veiled, alike]
  | insertPolicy name document => simp only [Disturbance.apply, ← insertPolicy_veiled, alike]
  | changeFaults change => simp only [Disturbance.apply, ← changeFaults_veiled, alike]
  | call made => exact (perform_alike alike made).2

end Plane

namespace Store

variable (store : Store)

theorem modify_veiled (id : RecordId) (change : Record → Record) :
    store.veiled.modify id change = (store.modify id change).map veiled := by
  have known : store.veiled.get? id = store.get? id := rfl
  unfold modify
  rw [known]
  cases store.get? id
  · rfl
  · rfl

/-- Details without the password are handed over as they are with it. -/
theorem publish_veiled (id : RecordId) (details : Details) :
    store.veiled.publish id details.veiled = (store.publish id details).map veiled := by
  have known : store.veiled.get? id = store.get? id := rfl
  have handed : (store.handOver id details).veiled = store.veiled.handOver id details.veiled := by
    simp only [veiled, handOver, Table.mapValues_insert]
  unfold publish
  rw [known]
  cases store.get? id with
  | none => rfl
  | some record => exact congrArg Except.ok handed.symm

/-- To erase a record needs no secret. -/
theorem erase_veiled (id : RecordId) : store.veiled.erase id = (store.erase id).map veiled := by
  have known : store.veiled.get? id = store.get? id := rfl
  have taken : (store.without id).veiled = store.veiled.without id := by
    simp only [veiled, without, Table.mapValues_erase]
  unfold erase
  rw [known]
  cases store.get? id with
  | none => rfl
  | some record =>
      have told := congrArg (fun kept : Store => kept.announce ⟨.deleted, record⟩) taken.symm
      exact congrArg Except.ok told

/-- What is applied, and whether it is new, has nothing to do with passwords. -/
theorem apply_veiled (record : Record) :
    store.veiled.apply record = ((store.apply record).1, (store.apply record).2.veiled) := by
  have known : store.veiled.get? record.id = store.get? record.id := rfl
  unfold apply
  rw [known]
  cases store.get? record.id with
  | none => rfl
  | some existing =>
      dsimp only
      split
      · rfl
      · rfl

/-- To ask for a deletion needs no password. -/
theorem requestDeletion_veiled (id : RecordId) (now : Timestamp) :
    store.veiled.requestDeletion id now = (store.requestDeletion id now).map veiled := by
  have known : store.veiled.get? id = store.get? id := rfl
  unfold requestDeletion
  rw [known]
  cases store.get? id with
  | none => rfl
  | some record =>
      dsimp only
      split
      · rfl
      · rfl

end Store

/-- A request other than that for a secret. -/
def Request.IsBlind : Request → Prop
  | .secret => False
  | _ => True

namespace World

/-- Two worlds look the same without the secrets. -/
def Alike (one other : World) : Prop :=
  one.veiled = other.veiled

variable {one other : World}

theorem Alike.store (alike : one.Alike other) : one.store.veiled = other.store.veiled :=
  congrArg World.store alike

theorem Alike.plane (alike : one.Alike other) : one.plane.veiled = other.plane.veiled :=
  congrArg World.plane alike

theorem Alike.clock (alike : one.Alike other) : one.clock = other.clock := by
  have clocks := congrArg World.clock alike
  exact clocks

/-- Worlds are alike whose stores and planes are alike without the secrets, at one time. -/
theorem alike_of (store : one.store.veiled = other.store.veiled)
    (plane : one.plane.veiled = other.plane.veiled) (clock : one.clock = other.clock) :
    one.Alike other := by
  unfold Alike veiled
  rw [store, plane, clock]

/-- Writes that leave alike stores, or fail alike, are answered alike and leave alike worlds. -/
theorem Alike.write (alike : one.Alike other) {first second : Except StoreError Store}
    (written : first.map Store.veiled = second.map Store.veiled) :
    (one.write first).1 = (other.write second).1 ∧
      (one.write first).2.Alike (other.write second).2 := by
  cases first with
  | error error =>
      cases second with
      | error later =>
          cases written
          exact ⟨rfl, alike⟩
      | ok after => cases written
  | ok before =>
      cases second with
      | error later => cases written
      | ok after => exact ⟨rfl, alike_of (Except.ok.inj written) alike.plane alike.clock⟩

/-- Details that differ in a password only are handed over alike. -/
theorem Alike.answer_publish (alike : one.Alike other) (id : RecordId) {first second : Details}
    (details : first.veiled = second.veiled) :
    (one.answer (.publish id first)).1 = (other.answer (.publish id second)).1 ∧
      (one.answer (.publish id first)).2.Alike (other.answer (.publish id second)).2 := by
  apply alike.write
  rw [← Store.publish_veiled, ← Store.publish_veiled, details, alike.store]

/-- A call that leaves planes alike leaves worlds alike. -/
theorem Alike.with_plane (alike : one.Alike other) {first second : Plane}
    (planes : first.veiled = second.veiled) :
    World.Alike { one with plane := first } { other with plane := second } :=
  alike_of alike.store planes alike.clock

/-- Every request but that for a secret is answered alike. -/
theorem Alike.answer (alike : one.Alike other) {request : Request} (blind : request.IsBlind) :
    (one.answer request).1 = (other.answer request).1 ∧
      (one.answer request).2.Alike (other.answer request).2 := by
  have stores := alike.store
  cases request with
  | readRecord id =>
      have records := congrArg (fun store : Store => store.get? id) stores
      exact ⟨records, alike⟩
  | listRecords =>
      have records := congrArg Store.list stores
      exact ⟨records, alike⟩
  | putStatus id status =>
      apply alike.write
      unfold Store.putStatus
      rw [← Store.modify_veiled, ← Store.modify_veiled, stores]
  | putMetadata id metadata =>
      apply alike.write
      unfold Store.putMetadata
      rw [← Store.modify_veiled, ← Store.modify_veiled, stores]
  | publish id details => exact alike.answer_publish id rfl
  | erase id =>
      apply alike.write
      rw [← Store.erase_veiled, ← Store.erase_veiled, stores]
  | remote call =>
      obtain ⟨answers, planes⟩ := Plane.perform_alike alike.plane call
      exact ⟨answers, alike.with_plane planes⟩
  | now =>
      obtain ⟨times, clocks⟩ := Prod.mk.inj (congrArg Supply.draw alike.clock)
      exact ⟨times, alike_of stores alike.plane clocks⟩
  | secret => exact blind.elim

/-- Worlds remain alike when a secret is drawn in each. -/
theorem Alike.answer_secret (alike : one.Alike other) :
    (one.answer .secret).2.Alike (other.answer .secret).2 :=
  alike_of alike.store alike.plane alike.clock

end World

end Steward
