/-
This file shows which manifests are accepted, and what becomes of their declarations.
A manifest fails by its first declaration that repeats an identity or breaks the rules of its kind.
The records of one that is accepted are stored as they are, since none stands in the place of
another.
-/

import Mathlib.Data.List.Nodup
import Mathlib.Data.List.Perm.Basic
import Steward.CommandLine.Execute

namespace Steward

namespace Manifest

variable {earlier : List RecordId} {record : Record} {records : List Record}

/-- Declarations that can follow those seen before: no identity comes twice, and each of them keeps
the rules of its kind. -/
structure AreSound (earlier : List RecordId) (records : List Record) : Prop where
  distinct : (records.map (·.id)).Nodup
  fresh : ∀ record ∈ records, record.id ∉ earlier
  valid : ∀ record ∈ records, record.validate = .ok ()

/-- What is wrong with a declaration that cannot follow those seen before; that it repeats one of
them is said first. -/
inductive IsFault (earlier : List RecordId) (record : Record) : ManifestError → Prop
  | repeated (seen : record.id ∈ earlier) : IsFault earlier record (.duplicate record.id)
  | broken (fresh : record.id ∉ earlier) {cause : RecordError}
      (invalid : record.validate = .error cause) :
      IsFault earlier record (.invalid record.id cause)

theorem areSound_nil (earlier : List RecordId) : AreSound earlier [] where
  distinct := List.nodup_nil
  fresh := by simp
  valid := by simp

/-- Declarations can follow if the first can, and the others can follow it too. -/
theorem areSound_cons : AreSound earlier (record :: records) ↔
    (record.id ∉ earlier ∧ record.validate = .ok ()) ∧ AreSound (record.id :: earlier) records := by
  constructor
  · rintro ⟨distinct, fresh, valid⟩
    obtain ⟨first, rest⟩ := List.nodup_cons.1 distinct
    refine ⟨⟨fresh record (by simp), valid record (by simp)⟩, rest, fun other inside seen => ?_,
      fun other inside => valid other (by simp [inside])⟩
    rcases List.mem_cons.1 seen with same | early
    · exact first (List.mem_map.2 ⟨other, inside, same⟩)
    · exact fresh other (by simp [inside]) early
  · rintro ⟨⟨new, kept⟩, distinct, fresh, valid⟩
    refine ⟨List.nodup_cons.2 ⟨fun inside => ?_, distinct⟩, fun other inside seen => ?_,
      fun other inside => ?_⟩
    · obtain ⟨other, member, same⟩ := List.mem_map.1 inside
      exact fresh other member (by simp [same])
    · rcases List.mem_cons.1 inside with rfl | later
      · exact new seen
      · exact fresh other later (by simp [seen])
    · rcases List.mem_cons.1 inside with rfl | later
      · exact kept
      · exact valid other later

/-- What is wrong depends only on which identities were seen before. -/
theorem IsFault.congr {others : List RecordId} {error : ManifestError}
    (fault : IsFault earlier record error) (same : ∀ id, id ∈ others ↔ id ∈ earlier) :
    IsFault others record error := by
  rcases fault with seen | ⟨fresh, invalid⟩
  · exact .repeated ((same record.id).2 seen)
  · exact .broken (fun seen => fresh ((same record.id).1 seen)) invalid

/-- Declarations with a fault among them are not sound. -/
theorem IsFault.not_areSound {before after : List Record} {error : ManifestError}
    (fault : IsFault (before.map (·.id) ++ earlier) record error) :
    ¬ AreSound earlier (before ++ record :: after) := by
  rintro ⟨distinct, fresh, valid⟩
  rcases fault with seen | ⟨-, invalid⟩
  · rcases List.mem_append.1 seen with repeated | early
    · rw [List.map_append] at distinct
      exact (List.nodup_append.1 distinct).2.2 _ repeated record.id (by simp) rfl
    · exact fresh record (by simp) early
  · cases (valid record (by simp)).symm.trans invalid

/-- The check passes a new declaration that keeps the rules of its kind, and no other. -/
theorem check_eq_ok_iff :
    check earlier record = .ok () ↔ record.id ∉ earlier ∧ record.validate = .ok () := by
  unfold check
  split
  · rename_i seen
    simp [seen]
  · rename_i fresh
    cases record.validate with
    | ok _ => simp [fresh, Except.mapError]
    | error cause => simp [Except.mapError]

/-- An error of the check tells what is wrong. -/
theorem isFault_of_check {error : ManifestError} (failed : check earlier record = .error error) :
    IsFault earlier record error := by
  unfold check at failed
  split at failed
  · rename_i seen
    cases failed
    exact .repeated seen
  · rename_i fresh
    cases invalid : record.validate with
    | ok _ =>
        rw [invalid] at failed
        cases failed
    | error cause =>
        rw [invalid] at failed
        cases failed
        exact .broken fresh invalid

/-- The first declaration that does not pass decides the answer. -/
theorem acceptAfter_cons_of_error {error : ManifestError}
    (failed : check earlier record = .error error) :
    acceptAfter earlier (record :: records) = .error error := by
  rw [acceptAfter, failed]
  rfl

/-- A declaration that passes is taken, and the others follow it. -/
theorem acceptAfter_cons_of_ok (passed : check earlier record = .ok ()) :
    acceptAfter earlier (record :: records) =
      (acceptAfter (record.id :: earlier) records).map (record.declared :: ·) := by
  rw [acceptAfter, passed]
  cases acceptAfter (record.id :: earlier) records
  · rfl
  · rfl

/-- Sound declarations are accepted, all of them and in their order; any others fail by the first
fault among them. -/
theorem acceptAfter_ends (earlier : List RecordId) (records : List Record) :
    (AreSound earlier records ∧
      acceptAfter earlier records = .ok (records.map Record.declared)) ∨
    ∃ before record after error, records = before ++ record :: after ∧ AreSound earlier before ∧
      IsFault (before.map (·.id) ++ earlier) record error ∧
      acceptAfter earlier records = .error error := by
  induction records generalizing earlier with
  | nil => exact .inl ⟨areSound_nil earlier, rfl⟩
  | cons first rest inductionHypothesis =>
      cases checked : check earlier first with
      | error error =>
          exact .inr ⟨[], first, rest, error, rfl, areSound_nil earlier, isFault_of_check checked,
            acceptAfter_cons_of_error checked⟩
      | ok _ =>
          have kept := check_eq_ok_iff.1 checked
          have accepted : acceptAfter earlier (first :: rest) =
              (acceptAfter (first.id :: earlier) rest).map (first.declared :: ·) :=
            acceptAfter_cons_of_ok checked
          rcases inductionHypothesis (first.id :: earlier) with
            ⟨sound, later⟩ | ⟨before, record, after, error, rfl, sound, fault, later⟩
          · refine .inl ⟨areSound_cons.2 ⟨kept, sound⟩, ?_⟩
            rw [accepted, later]
            rfl
          · refine .inr ⟨first :: before, record, after, error, rfl,
              areSound_cons.2 ⟨kept, sound⟩, fault.congr fun id => ?_, ?_⟩
            · simp [or_left_comm]
            · rw [accepted, later]
              rfl

end Manifest

namespace Store

variable {store : Store} {record : Record} {records : List Record}

/-- To declare a new record stores it as it is, and leaves every other. -/
theorem get?_apply_of_new (new : store.get? record.id = none) (counted : 1 ≤ record.generation)
    (id : RecordId) :
    (store.apply record).2.get? id = if id = record.id then some record else store.get? id := by
  have same : { record with generation := max record.generation 1 } = record := by
    rw [Nat.max_eq_left counted]
  simp only [apply, new, same, get?_announce, get?_put]

/-- The records of a store are stored once each. -/
theorem nodup_list (store : Store) : store.list.Nodup := by
  refine List.Nodup.of_map (·.id) ?_
  have keys : store.list.map (·.id) = store.records.keys := by
    rw [list, Table.values, Table.keys, List.map_map]
    refine List.map_congr_left fun entry inside => ?_
    exact store.keyed (Table.get?_eq_some_iff.2 inside)
  rw [keys]
  exact store.records.nodup_keys

/-- Records that are new to a store come to it as they are. -/
theorem get?_foldl_apply (distinct : (records.map (·.id)).Nodup)
    (new : ∀ record ∈ records, store.get? record.id = none)
    (counted : ∀ record ∈ records, 1 ≤ record.generation) (id : RecordId) :
    (records.foldl (fun store record => (store.apply record).2) store).get? id =
      (records.find? (·.id = id)).or (store.get? id) := by
  induction records generalizing store with
  | nil => rfl
  | cons first rest inductionHypothesis =>
      obtain ⟨once, distinct⟩ := List.nodup_cons.1 distinct
      have stored := get?_apply_of_new (new first (by simp)) (counted first (by simp))
      have later : ∀ record ∈ rest, (store.apply first).2.get? record.id = none := by
        intro record inside
        have apart : record.id ≠ first.id := fun same =>
          once (List.mem_map.2 ⟨record, inside, same⟩)
        rw [stored, if_neg apart]
        exact new record (by simp [inside])
      rw [List.foldl_cons,
        inductionHypothesis distinct later fun record inside => counted record (by simp [inside])]
      by_cases same : first.id = id
      · have none : rest.find? (·.id = id) = none := by
          refine List.find?_eq_none.2 fun record inside named => once ?_
          exact List.mem_map.2 ⟨record, inside, (of_decide_eq_true named).trans same.symm⟩
        simp [stored, same, none]
      · simp [stored, same, Ne.symm same]

/-- A store that begins with records of their own identities holds these records and no others. -/
theorem list_foldl_apply_perm (capacity : Nat) (distinct : (records.map (·.id)).Nodup)
    (counted : ∀ record ∈ records, 1 ≤ record.generation) :
    (records.foldl (fun store record => (store.apply record).2)
      (ofCapacity capacity)).list.Perm records := by
  have once : records.Nodup := List.Nodup.of_map _ distinct
  refine (List.perm_ext_iff_of_nodup (nodup_list _) once).2 fun record => ?_
  rw [mem_list_iff, get?_foldl_apply distinct (fun _ _ => rfl) counted]
  change (records.find? (·.id = record.id)).or none = some record ↔ record ∈ records
  rw [Option.or_none]
  constructor
  · exact List.mem_of_find?_eq_some
  · intro inside
    cases found : records.find? (·.id = record.id) with
    | none =>
        have missing := List.find?_eq_none.1 found record inside
        simp at missing
    | some other =>
        have named : other.id = record.id := by simpa using List.find?_some found
        have member : other ∈ records := List.mem_of_find?_eq_some found
        exact congrArg some (List.inj_on_of_nodup_map distinct member inside named)

end Store

namespace Manifest

/-- A manifest is accepted just when no two of its declarations have one identity and all are valid.
Its records are the declarations in their order, each with what it declares and nothing else, and
they are what a new store holds that they are loaded into. Otherwise the manifest fails by the first
declaration that repeats an earlier one or is invalid, and by the repetition if it does both. -/
theorem read_accepts_exactly (text : String) (records : List Record)
    (declared : declarations? text = some records) :
    ((∃ accepted, read text = .ok accepted) ↔
      (records.map (·.id)).Nodup ∧ ∀ record ∈ records, record.validate = .ok ()) ∧
    (∀ accepted, read text = .ok accepted →
      accepted = records.map (fun record =>
        { id := record.id, credentialsRef := record.credentialsRef, spec := record.spec,
          metadata := ∅, status := {}, deletionRequested := none, generation := 1 }) ∧
      (∀ capacity, (accepted.foldl (fun store record => (store.apply record).2)
        (Store.ofCapacity capacity)).list.Perm accepted) ∧
      ∀ clock secrets, (Command.worldOf accepted clock secrets).store.list.Perm accepted) ∧
    ∀ error, read text = .error error →
      ∃ before record after, records = before ++ record :: after ∧
        (before.map (·.id)).Nodup ∧ (∀ earlier ∈ before, earlier.validate = .ok ()) ∧
        (record.id ∈ before.map (·.id) ∧ error = .duplicate record.id ∨
          record.id ∉ before.map (·.id) ∧ ∃ cause, record.validate = .error cause ∧
            error = .invalid record.id cause) := by
  have whole : read text = acceptAfter [] records := by
    rw [read, declared]
    rfl
  rw [whole]
  rcases acceptAfter_ends [] records with
    ⟨sound, accepted⟩ | ⟨before, record, after, error, split, sound, fault, failed⟩
  · have ids : (records.map Record.declared).map (·.id) = records.map (·.id) := by
      rw [List.map_map]
      rfl
    have counted : ∀ record ∈ records.map Record.declared, 1 ≤ record.generation := by
      intro record inside
      obtain ⟨_, -, rfl⟩ := List.mem_map.1 inside
      exact Nat.le_refl 1
    rw [accepted]
    refine ⟨⟨fun _ => ⟨sound.distinct, sound.valid⟩, fun _ => ⟨_, rfl⟩⟩, ?_, nofun⟩
    rintro _ ⟨⟩
    have loads (capacity : Nat) :=
      Store.list_foldl_apply_perm capacity (ids ▸ sound.distinct) counted
    exact ⟨rfl, loads, fun clock secrets => loads Store.defaultCapacity⟩
  · rw [List.append_nil] at fault
    rw [failed]
    refine ⟨⟨nofun, ?_⟩, nofun, ?_⟩
    · rintro ⟨distinct, valid⟩
      subst split
      rw [← List.append_nil (before.map _)] at fault
      exact absurd ⟨distinct, by simp, valid⟩ fault.not_areSound
    · rintro _ ⟨⟩
      refine ⟨before, record, after, split, sound.distinct, sound.valid, ?_⟩
      rcases fault with seen | ⟨fresh, invalid⟩
      · exact .inl ⟨seen, rfl⟩
      · exact .inr ⟨fresh, _, invalid, rfl⟩

end Manifest

namespace Sample

/-- Two declarations of one name, of which the first is in a namespace and claims to be older. -/
def neighbours : String :=
  "- {name: logs, namespace: team, generation: 7, spec: {bucket: {}}}\n" ++
    "- {name: logs, spec: {user: {policies: [read]}}}\n"

def neighbourly : List Record :=
  [{ id := ⟨some "team", "logs"⟩, spec := .bucket ⟨none, none, .deleteIfEmpty, none⟩,
      generation := 7 },
    { id := .plain "logs", spec := .user ⟨none, ["read"]⟩, generation := 0 }]

/-- A declaration that comes twice and is not valid the second time. -/
def repetition : String :=
  "- {name: logs, spec: {bucket: {}}}\n- {name: logs, spec: {policy: {}}}\n"

def repetitious : List Record :=
  [{ id := .plain "logs", spec := .bucket ⟨none, none, .deleteIfEmpty, none⟩, generation := 0 },
    { id := .plain "logs", spec := .policy ⟨none, none, none⟩, generation := 0 }]

end Sample

/-- Names count together with their namespaces, and a repetition is told before a broken rule. -/
theorem Manifest.read_accepts_exactly_of_neighbours :
    (declarations? Sample.neighbours = some Sample.neighbourly ∧
      (∃ accepted, read Sample.neighbours = .ok accepted) ∧
      ∀ accepted, read Sample.neighbours = .ok accepted →
        accepted = Sample.neighbourly.map Record.declared) ∧
    declarations? Sample.repetition = some Sample.repetitious ∧
      read Sample.repetition = .error (.duplicate (.plain "logs")) ∧
      ¬ ∃ accepted, read Sample.repetition = .ok accepted := by
  have neighbours : declarations? Sample.neighbours = some Sample.neighbourly := by decide +kernel
  have repetition : declarations? Sample.repetition = some Sample.repetitious := by decide +kernel
  obtain ⟨accepts, loads, -⟩ := read_accepts_exactly _ _ neighbours
  obtain ⟨refuses, -, -⟩ := read_accepts_exactly _ _ repetition
  refine ⟨⟨neighbours, accepts.2 ⟨by decide +kernel, by decide +kernel⟩,
    fun accepted read => (loads accepted read).1⟩, repetition, by decide +kernel, fun read => ?_⟩
  have distinct : ¬ (Sample.repetitious.map (·.id)).Nodup := by decide +kernel
  exact distinct (refuses.1 read).1

end Steward
