/-
This file shows that a record is read back from its text.
Each part of a record is read back from what is written for it, and so are those that are put
together of such parts. A setting that is left out is read as one that was left open.
-/

import Steward.Proofs.Document
import Steward.Record.Codec

namespace Steward

open Document (ofJson)
open Json (Value)

/-- The time is read back from its text. -/
def Timestamp.IsReadable (time : Timestamp) : Prop :=
  read? time.render = some time

theorem Timestamp.IsReadable.ofDocument? {time : Timestamp} (readable : time.IsReadable) :
    ofDocument? (ofJson time.toJson) = some time := by
  simp only [Timestamp.ofDocument?, toJson, ofJson, Document.string?, Option.bind_some]
  exact readable

open Document.Fields

/-- A field that may hold a time is read back, whether it does or not. -/
theorem optional_time {fields : Document.Fields} {name : String} {setting : Option Timestamp}
    (found : fields.find? name = (setting.map Timestamp.toJson).map ofJson)
    (readable : ∀ time ∈ setting, time.IsReadable) :
    fields.optional name Timestamp.ofDocument? = some setting :=
  optional_of_find found (fun time given => (readable time given).ofDocument?) nofun

theorem DeletionPolicy.choice?_text (policy : DeletionPolicy) :
    Document.choice? choices (ofJson (.string policy.text)) = some policy := by
  cases policy
  all_goals decide +kernel

/-- The spec of a bucket is read back from its document. -/
theorem BucketSpec.ofDocument?_toJson (spec : BucketSpec) :
    ofDocument? (ofJson spec.toJson) = some spec := by
  have written : spec.toJson = .ofPresent _ := rfl
  obtain ⟨fields, known, bucketName, region, deletionPolicy, policy, -⟩ :=
    Document.fields?_ofPresent written ["bucketName", "region", "deletionPolicy", "policy"]
      rfl (by decide)
  simp [ofDocument?, known, optional_string bucketName, optional_string region,
    withDefault_of_find deletionPolicy spec.deletionPolicy.choice?_text, optional_string policy]

/-- The spec of a user is read back from its document. -/
theorem UserSpec.ofDocument?_toJson (spec : UserSpec) :
    ofDocument? (ofJson spec.toJson) = some spec := by
  have written : spec.toJson = .ofPresent _ := rfl
  obtain ⟨fields, known, userName, policies, -⟩ :=
    Document.fields?_ofPresent written ["userName", "policies"] rfl (by decide)
  have listed : Document.list? Document.string? (ofJson (.ofStrings spec.policies)) =
      some spec.policies := Document.list?_ofJson fun _ _ => rfl
  simp [ofDocument?, known, optional_string userName, withDefault_of_find policies listed]

/-- The spec of an access policy is read back from its document. -/
theorem PolicySpec.ofDocument?_toJson (spec : PolicySpec) :
    ofDocument? (ofJson spec.toJson) = some spec := by
  have written : spec.toJson = .ofPresent _ := rfl
  obtain ⟨fields, known, policyName, allowBucket, rawPolicy, -⟩ :=
    Document.fields?_ofPresent written ["policyName", "allowBucket", "rawPolicy"] rfl (by decide)
  simp [ofDocument?, known, optional_string policyName, optional_string allowBucket,
    optional_string rawPolicy]

/-- The spec of a service account is read back from its document. -/
theorem ServiceAccountSpec.ofDocument?_toJson (spec : ServiceAccountSpec)
    (readable : ∀ time ∈ spec.expiry, time.IsReadable) :
    ofDocument? (ofJson spec.toJson) = some spec := by
  have written : spec.toJson = .ofPresent _ := rfl
  obtain ⟨fields, known, parentUser, name, description, expiry, policy, -⟩ :=
    Document.fields?_ofPresent written
      ["parentUser", "name", "description", "expiry", "policy"] rfl (by decide)
  have given : fields.required "parentUser" Document.string? = some spec.parentUser :=
    required_of_find parentUser rfl
  simp [ofDocument?, known, given, optional_string name, optional_string description,
    optional_time expiry readable, optional_string policy]

namespace Spec

/-- The times that a spec tells of are read back from their texts. -/
def IsReadable : Spec → Prop
  | .serviceAccount spec => ∀ time ∈ spec.expiry, time.IsReadable
  | _ => True

/-- A spec is read back from its document, whatever its kind. -/
theorem ofDocument?_toJson (spec : Spec) (readable : spec.IsReadable) :
    ofDocument? (ofJson spec.toJson) = some spec := by
  cases spec with
  | bucket spec =>
      have back := spec.ofDocument?_toJson
      simp [toJson, ofDocument?, Document.variant?_ofMembers, back]
  | user spec =>
      have back := spec.ofDocument?_toJson
      simp [toJson, ofDocument?, Document.variant?_ofMembers, back]
  | policy spec =>
      have back := spec.ofDocument?_toJson
      simp [toJson, ofDocument?, Document.variant?_ofMembers, back]
  | serviceAccount spec =>
      have back := spec.ofDocument?_toJson readable
      simp [toJson, ofDocument?, Document.variant?_ofMembers, back]

end Spec

/-- What was seen of a resource is read back from its document. -/
theorem Observed.ofDocument?_toJson (observed : Observed)
    (readable : ∀ time ∈ observed.expiry, time.IsReadable) :
    ofDocument? (ofJson observed.toJson) = some observed := by
  have written : observed.toJson = .ofPresent _ := rfl
  obtain ⟨fields, known, bucketName, userName, policyName, accessKey, parentUser, description,
    expiry, policy, policies, accountStatus, -⟩ :=
    Document.fields?_ofPresent written
      ["bucketName", "userName", "policyName", "accessKey", "parentUser", "description", "expiry",
        "policy", "policies", "accountStatus"] rfl (by decide)
  have listed : Document.list? Document.string? (ofJson (.ofStrings observed.policies)) =
      some observed.policies := Document.list?_ofJson fun _ _ => rfl
  simp [ofDocument?, known, optional_string bucketName, optional_string userName,
    optional_string policyName, optional_string accessKey, optional_string parentUser,
    optional_string description, optional_time expiry readable, optional_string policy,
    withDefault_of_ite policies listed id, optional_string accountStatus]

theorem Aspect.choice?_text (aspect : Aspect) :
    Document.choice? choices (ofJson (.string aspect.text)) = some aspect := by
  cases aspect
  all_goals decide +kernel

theorem Reason.choice?_text (reason : Reason) :
    Document.choice? choices (ofJson (.string reason.text)) = some reason := by
  cases reason
  all_goals decide +kernel

/-- A condition is read back from its document. -/
theorem Condition.ofDocument?_toJson (condition : Condition)
    (readable : condition.lastTransition.IsReadable) :
    ofDocument? (ofJson condition.toJson) = some condition := by
  have written : condition.toJson = .ofPresent _ := rfl
  obtain ⟨fields, known, kind, status, reason, message, lastTransition, -⟩ :=
    Document.fields?_ofPresent written
      ["kind", "status", "reason", "message", "lastTransition"] rfl (by decide)
  have told : fields.required "status" Document.bool? = some condition.status :=
    required_of_find status rfl
  simp [ofDocument?, known, required_of_find kind condition.aspect.choice?_text, told,
    required_of_find reason condition.reason.choice?_text, optional_string message,
    required_of_find lastTransition readable.ofDocument?]

/-- The times that a status tells of are read back from their texts, and its count has 64 bits. -/
structure Status.IsReadable (status : Status) : Prop where
  expiry : ∀ time ∈ status.observed.expiry, time.IsReadable
  conditions : ∀ condition ∈ status.conditions, condition.lastTransition.IsReadable
  lastReconciled : ∀ time ∈ status.lastReconciled, time.IsReadable
  observedGeneration : status.observedGeneration ≤ Word.max

/-- A status is read back from its document, with its conditions in their order. -/
theorem Status.ofDocument?_toJson (status : Status) (readable : status.IsReadable) :
    ofDocument? (ofJson status.toJson) = some status := by
  have written : status.toJson = .ofPresent _ := rfl
  obtain ⟨fields, known, observed, conditions, lastReconciled, observedGeneration, -⟩ :=
    Document.fields?_ofPresent written
      ["atProvider", "conditions", "lastReconciled", "observedGeneration"] rfl (by decide)
  have seen := status.observed.ofDocument?_toJson readable.expiry
  have listed : Document.list? Condition.ofDocument?
      (ofJson (.array (status.conditions.map Condition.toJson))) = some status.conditions :=
    Document.list?_ofJson fun condition member =>
      condition.ofDocument?_toJson (readable.conditions condition member)
  have count := Document.unsigned?_ofNat readable.observedGeneration
  simp [ofDocument?, known, withDefault_of_find observed seen,
    withDefault_of_ite conditions listed id, optional_time lastReconciled readable.lastReconciled,
    withDefault_of_find observedGeneration count]

theorem Metadata.ofDocument?_toJson (metadata : Metadata) :
    ofDocument? (ofJson metadata.toJson) = some metadata :=
  Document.tableOf?_ofJson (fun _ => rfl) metadata

section Depth

variable {depth : Nat}

theorem fits_ofNat {number : Nat} (small : number ≤ Word.max) :
    Json.Fits depth (.ofNat number) := by
  have bound : (number : Int) ≤ Word.max := by exact_mod_cast small
  exact ⟨by omega, bound⟩

theorem BucketSpec.fits_toJson (spec : BucketSpec) (nested : 1 < depth) :
    Json.Fits depth spec.toJson := by
  apply Value.fits_ofPresent nested
  simp [Json.Fits]

theorem UserSpec.fits_toJson (spec : UserSpec) (nested : 2 < depth) :
    Json.Fits depth spec.toJson := by
  have policies : Json.Fits (depth - 1) (.ofStrings spec.policies) := Json.fits_ofStrings (by omega)
  apply Value.fits_ofPresent (by omega)
  simp [Json.Fits, policies]

theorem PolicySpec.fits_toJson (spec : PolicySpec) (nested : 1 < depth) :
    Json.Fits depth spec.toJson := by
  apply Value.fits_ofPresent nested
  simp [Json.Fits]

theorem ServiceAccountSpec.fits_toJson (spec : ServiceAccountSpec) (nested : 1 < depth) :
    Json.Fits depth spec.toJson := by
  apply Value.fits_ofPresent nested
  simp [Json.Fits, Timestamp.toJson]

/-- No spec is nested too deep to be read. -/
theorem Spec.fits_toJson (spec : Spec) (nested : 3 < depth) : Json.Fits depth spec.toJson := by
  have wraps : ∀ {name : String} {content : Value}, Json.Fits (depth - 1) content →
      Json.Fits depth (.ofMembers [(name, content)]) := by
    intro name content fits
    apply Json.fits_ofMembers (by omega)
    simpa using fits
  cases spec with
  | bucket spec => exact wraps (spec.fits_toJson (by omega))
  | user spec => exact wraps (spec.fits_toJson (by omega))
  | policy spec => exact wraps (spec.fits_toJson (by omega))
  | serviceAccount spec => exact wraps (spec.fits_toJson (by omega))

theorem Observed.fits_toJson (observed : Observed) (nested : 2 < depth) :
    Json.Fits depth observed.toJson := by
  have policies : Json.Fits (depth - 1) (.ofStrings observed.policies) :=
    Json.fits_ofStrings (by omega)
  apply Value.fits_ofPresent (by omega)
  simp [Json.Fits, Timestamp.toJson, policies]

theorem Condition.fits_toJson (condition : Condition) (nested : 1 < depth) :
    Json.Fits depth condition.toJson := by
  apply Value.fits_ofPresent nested
  simp [Json.Fits, Timestamp.toJson]

/-- No status is nested too deep to be read. -/
theorem Status.fits_toJson (status : Status) (nested : 3 < depth)
    (small : status.observedGeneration ≤ Word.max) : Json.Fits depth status.toJson := by
  have observed : Json.Fits (depth - 1) status.observed.toJson :=
    status.observed.fits_toJson (by omega)
  have conditions : Json.Fits (depth - 1) (.array (status.conditions.map Condition.toJson)) := by
    apply Json.fits_array (by omega)
    intro item inside
    obtain ⟨condition, -, rfl⟩ := List.mem_map.1 inside
    exact condition.fits_toJson (by omega)
  have count : Json.Fits (depth - 1) (.ofNat status.observedGeneration) := fits_ofNat small
  simp only [Json.Fits] at conditions
  apply Value.fits_ofPresent (by omega)
  simp [Json.Fits, Timestamp.toJson, observed, conditions, count]

/-- No metadata are nested too deep to be read. -/
theorem Metadata.fits_toJson (metadata : Metadata) (nested : 1 < depth) :
    Json.Fits depth metadata.toJson := by
  have ascending : Json.Ascending
      (metadata.entries.map fun entry => (entry.1, Value.string entry.2)) :=
    List.pairwise_map.2 metadata.sorted
  refine ⟨nested, ?_, Json.fitMembers_iff.2 ?_⟩
  · exact congrArg Value.object (Json.foldl_insertEntries_of_ascending ascending)
  · intro member inside
    obtain ⟨entry, -, rfl⟩ := List.mem_map.1 inside
    trivial

end Depth

namespace Record

/-- The times that a record tells of are read back from their texts, and its counts have 64 bits. -/
structure IsReadable (record : Record) : Prop where
  spec : record.spec.IsReadable
  status : record.status.IsReadable
  deletionRequested : ∀ time ∈ record.deletionRequested, time.IsReadable
  generation : record.generation ≤ Word.max

/-- The members of a record that are not those of its identity. -/
def ownMembers (record : Record) : List (String × Option Value) :=
  [("credentialsRef", record.credentialsRef.map .string), ("spec", some record.spec.toJson),
    ("metadata", if record.metadata.isEmpty then none else some record.metadata.toJson),
    ("status", some record.status.toJson),
    ("deletionRequested", record.deletionRequested.map Timestamp.toJson),
    ("generation", some (.ofNat record.generation))]

theorem toJson_eq (record : Record) :
    record.toJson = .ofPresent (record.id.members ++ record.ownMembers) :=
  rfl

theorem nodup_members (record : Record) :
    ((record.id.members ++ record.ownMembers).map Prod.fst).Nodup := by
  simp [RecordId.members, ownMembers]

theorem mem_ownFields (record : Record) :
    ∀ member ∈ record.ownMembers, member.1 ∈ ownFields := by
  simp [ownMembers, ownFields]

/-- The identity is told by the fields that stand beside those of the record, and these stand for
values. -/
theorem looseFields?_toJson (record : Record) :
    ∃ loose : Document.Fields, (ofJson record.toJson).looseFields? ownFields = some loose ∧
      (loose.map Prod.fst).Nodup ∧ loose.Show record.id.members := by
  apply Document.looseFields?_ofPresent record.nodup_members
    (List.subset_append_left record.id.members record.ownMembers)
  · simp [RecordId.members, ownFields]
  · intro member inside apart value given
    obtain identity | own := List.mem_append.1 inside
    · simp only [RecordId.members, List.mem_cons, List.not_mem_nil, or_false] at identity
      obtain rfl | rfl := identity
      · obtain ⟨space, -, rfl⟩ := Option.map_eq_some_iff.1 given
        rfl
      · cases given
        rfl
    · exact absurd (record.mem_ownFields member own) apart

/-- A record is read back from its document. -/
theorem ofDocument?_toJson (record : Record) (readable : record.IsReadable) :
    ofDocument? (ofJson record.toJson) = some record := by
  obtain ⟨fields, known, credentialsRef, spec, metadata, status, deletionRequested, generation,
    -⟩ := Document.namedFields?_ofPresent record.nodup_members
      (List.subset_append_right record.id.members record.ownMembers) record.mem_ownFields
  obtain ⟨loose, others, unique, shows⟩ := record.looseFields?_toJson
  obtain ⟨identity, chosen⟩ : ∃ identity : Document.Fields,
    loose.filter (fun field => decide (field.1 ∈ ["namespace", "name"])) = identity := ⟨_, rfl⟩
  have single : (identity.map Prod.fst).Nodup := by
    rw [← chosen]
    exact (List.filter_sublist.map Prod.fst).nodup unique
  obtain ⟨space, name, -⟩ : identity.Show record.id.members := by
    rw [← chosen]
    exact shows.filter (List.Subset.refl _) (fun name => decide (name ∈ ["namespace", "name"]))
      (by simp [RecordId.members])
  have called : identity.required "name" Document.string? = some record.id.name :=
    required_of_find name rfl
  have declared : fields.required "spec" Spec.ofDocument? = some record.spec :=
    required_of_find spec (record.spec.ofDocument?_toJson readable.spec)
  have cleared : record.metadata.isEmpty = true → record.metadata = ∅ := fun empty =>
    Table.ext_get? (Table.isEmpty_iff.1 empty)
  have marked : fields.withDefault "metadata" ∅ Metadata.ofDocument? = some record.metadata :=
    withDefault_of_ite metadata record.metadata.ofDocument?_toJson cleared
  have observed : fields.withDefault "status" {} Status.ofDocument? = some record.status :=
    withDefault_of_find status (record.status.ofDocument?_toJson readable.status)
  have counted : fields.withDefault "generation" 0 Document.unsigned? = some record.generation :=
    withDefault_of_find generation (Document.unsigned?_ofNat readable.generation)
  rw [← toJson_eq] at known
  rw [ofDocument?, known, others]
  simp only [Option.bind_eq_bind, Option.bind_some]
  rw [chosen, if_neg (not_not_intro single)]
  simp [optional_string space, called, optional_string credentialsRef, declared, marked, observed,
    optional_time deletionRequested readable.deletionRequested, counted]

/-- The document of a record can be read: it is not nested too deep, and its numbers fit. -/
theorem fits_toJson (record : Record) (readable : record.IsReadable) :
    Json.Fits Json.nestingLimit record.toJson := by
  have spec : Json.Fits 127 record.spec.toJson := record.spec.fits_toJson (by omega)
  have metadata : Json.Fits 127 record.metadata.toJson := record.metadata.fits_toJson (by omega)
  have status : Json.Fits 127 record.status.toJson :=
    record.status.fits_toJson (by omega) readable.status.observedGeneration
  have generation : Json.Fits 127 (.ofNat record.generation) := fits_ofNat readable.generation
  rw [toJson_eq]
  apply Value.fits_ofPresent (by decide)
  simp [RecordId.members, ownMembers, Json.nestingLimit, Json.Fits, Timestamp.toJson, spec,
    metadata, status, generation]

/-- The text of a record. -/
def text (record : Record) : String :=
  record.toJson.render

/-- The record that a text tells of. -/
def ofText? (text : String) : Option Record := do
  let value ← (Json.read text).toOption
  ofDocument? (ofJson value)

theorem read_text (record : Record) (readable : record.IsReadable) :
    Json.read record.text = .ok record.toJson :=
  Json.read_render (record.fits_toJson readable)

/-- A record is read back from its text, and from every other text of the same JSON value, in
whatever order that names the members and however it is spaced. -/
theorem record_is_read_back (record : Record) (readable : record.IsReadable) :
    ofText? record.text = some record ∧
      ∀ text, Json.read text = .ok record.toJson → ofText? text = some record := by
  have others : ∀ text, Json.read text = .ok record.toJson → ofText? text = some record := by
    intro text denotes
    rw [ofText?, denotes]
    exact record.ofDocument?_toJson readable
  exact ⟨others record.text (record.read_text readable), others⟩

end Record

namespace Sample

def moment : Timestamp :=
  ⟨2024, 2, 29, 12, 30, 5, 120000000⟩

/-- A record in which hardly anything is left open. -/
def archived : Record where
  id := ⟨some "team", "robot"⟩
  credentialsRef := some "main"
  spec := .serviceAccount
    { parentUser := "alice"
      name := none
      description := some "a \"robot\"\n"
      expiry := some moment
      policy := none }
  metadata := Metadata.setExternalName (Metadata.claim ∅) "SVCACCT00000001"
  status :=
    { observed := { accessKey := some "SVCACCT00000001", policies := ["reading", "writing"] }
      conditions := [.available moment, .reconcileError "down" moment]
      lastReconciled := some moment
      observedGeneration := Word.max }
  deletionRequested := some moment
  generation := Word.max

end Sample

namespace Record

/-- A record with every field filled in is among those that are read back. -/
theorem record_is_read_back_of_archived :
    Sample.archived.IsReadable ∧ ofText? Sample.archived.text = some Sample.archived := by
  have moment : Sample.moment.IsReadable := by
    unfold Timestamp.IsReadable
    decide +kernel
  have readable : Sample.archived.IsReadable := by
    refine ⟨?_, ⟨?_, ?_, ?_, ?_⟩, ?_, ?_⟩
    all_goals simp [Sample.archived, Spec.IsReadable, moment, Condition.available,
      Condition.reconcileError]
  exact ⟨readable, (record_is_read_back Sample.archived readable).1⟩

end Record

end Steward
