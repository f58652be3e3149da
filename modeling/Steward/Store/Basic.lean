/-
This file keeps the records with their connection details and tells of their changes.
A user applies records and asks for deletion; a pass writes status, markers and details, and
erases the record in the end. Neither writes what belongs to the other.
-/

import Steward.Store.Change
import Steward.Text.Digits

namespace Steward

/-- What a create has produced for the owner of a record, by name. -/
abbrev Details := Table String String

structure Store where
  records : Table RecordId Record := ∅
  details : Table RecordId Details := ∅
  log : ChangeLog
  /-- Every record is kept under its own identity. -/
  keyed : ∀ {id : RecordId} {record : Record}, records.get? id = some record → record.id = id

namespace Store

def defaultCapacity : Nat := 1024

def ofCapacity (capacity : Nat) : Store :=
  { log := .ofCapacity capacity, keyed := by simp }

instance : Inhabited Store :=
  ⟨ofCapacity defaultCapacity⟩

def get? (store : Store) (id : RecordId) : Option Record :=
  store.records.get? id

/-- All records, in the order of their identities. -/
def list (store : Store) : List Record :=
  store.records.values

/-- Puts a record in the place of the one with its identity. -/
def put (store : Store) (record : Record) : Store :=
  { store with
    records := store.records.insert record.id record
    keyed := by
      intro id other found
      rw [Table.get?_insert] at found
      split at found
      · rename_i same
        cases found
        exact same.symm
      · exact store.keyed found }

/-- Tells watchers of a change. -/
def announce (store : Store) (change : Change) : Store :=
  { store with log := store.log.add change }

/-- Declares a record. A new one is stored as given; of one that exists the spec and the
profile are taken over, and its generation grows if either differs. -/
def apply (store : Store) (record : Record) : Record × Store :=
  match store.get? record.id with
  | some existing =>
      if existing.spec = record.spec ∧ existing.credentialsRef = record.credentialsRef then
        (existing, store)
      else
        let changed := { existing with
          spec := record.spec
          credentialsRef := record.credentialsRef
          generation := min (existing.generation + 1) Word.max }
        (changed, (store.put changed).announce ⟨.updated, changed⟩)
  | none =>
      let fresh := { record with generation := max record.generation 1 }
      (fresh, (store.put fresh).announce ⟨.created, fresh⟩)

/-- Changes a stored record in place, by a change that leaves the identity as it is. -/
def modify (store : Store) (id : RecordId) (change : Record → Record) :
    Except StoreError Store :=
  match store.get? id with
  | some record => .ok (store.put (change record))
  | none => .error (.recordNotFound id.text)

/-- Marks a record for deletion; the first request counts. -/
def requestDeletion (store : Store) (id : RecordId) (now : Timestamp) :
    Except StoreError Store :=
  match store.get? id with
  | none => .error (.recordNotFound id.text)
  | some record =>
      if record.isDeleting then .ok store
      else
        let marked := { record with deletionRequested := some now }
        .ok ((store.put marked).announce ⟨.updated, marked⟩)

def putStatus (store : Store) (id : RecordId) (status : Status) : Except StoreError Store :=
  store.modify id fun record => { record with status }

def putMetadata (store : Store) (id : RecordId) (metadata : Metadata) :
    Except StoreError Store :=
  store.modify id fun record => { record with metadata }

/-- Keeps connection details for a record. -/
def handOver (store : Store) (id : RecordId) (details : Details) : Store :=
  { store with details := store.details.insert id details }

/-- Hands connection details over to the owner of a record. -/
def publish (store : Store) (id : RecordId) (details : Details) : Except StoreError Store :=
  match store.get? id with
  | some _ => .ok (store.handOver id details)
  | none => .error (.recordNotFound id.text)

/-- Takes a record out, with its details. -/
def without (store : Store) (id : RecordId) : Store :=
  { store with
    records := store.records.erase id
    details := store.details.erase id
    keyed := by
      intro other record found
      rw [Table.get?_erase] at found
      split at found
      · cases found
      · exact store.keyed found }

/-- Erases a record with its details. -/
def erase (store : Store) (id : RecordId) : Except StoreError Store :=
  match store.get? id with
  | some record => .ok ((store.without id).announce ⟨.deleted, record⟩)
  | none => .error (.recordNotFound id.text)

section Laws

variable (store : Store)

theorem id_of_get? {id : RecordId} {record : Record} (stored : store.get? id = some record) :
    record.id = id :=
  store.keyed stored

/-- The records of a store are those that are found under their identities. -/
theorem mem_list_iff {record : Record} :
    record ∈ store.list ↔ store.get? record.id = some record := by
  rw [get?, Table.get?_eq_some_iff, list, Table.values, List.mem_map]
  constructor
  · rintro ⟨⟨id, other⟩, member, rfl⟩
    have same := store.keyed (Table.get?_eq_some_iff.2 member)
    rwa [← same] at member
  · intro member
    exact ⟨_, member, rfl⟩

@[simp] theorem get?_put (record : Record) (id : RecordId) :
    (store.put record).get? id = if id = record.id then some record else store.get? id :=
  Table.get?_insert store.records record.id id record

@[simp] theorem details_put (record : Record) : (store.put record).details = store.details :=
  rfl

@[simp] theorem get?_handOver (id : RecordId) (details : Details) (other : RecordId) :
    (store.handOver id details).get? other = store.get? other :=
  rfl

@[simp] theorem details_handOver (id : RecordId) (details : Details) :
    (store.handOver id details).details = store.details.insert id details :=
  rfl

@[simp] theorem get?_announce (change : Change) (id : RecordId) :
    (store.announce change).get? id = store.get? id :=
  rfl

@[simp] theorem details_announce (change : Change) :
    (store.announce change).details = store.details :=
  rfl

@[simp] theorem get?_without (id other : RecordId) :
    (store.without id).get? other = if other = id then none else store.get? other :=
  Table.get?_erase store.records id other

@[simp] theorem details_without (id : RecordId) :
    (store.without id).details = store.details.erase id :=
  rfl

variable {store} {record : Record}

theorem putStatus_of_get? (stored : store.get? record.id = some record) (status : Status) :
    store.putStatus record.id status = .ok (store.put { record with status }) := by
  simp only [putStatus, modify, stored]

theorem putMetadata_of_get? (stored : store.get? record.id = some record)
    (metadata : Metadata) :
    store.putMetadata record.id metadata = .ok (store.put { record with metadata }) := by
  simp only [putMetadata, modify, stored]

end Laws

end Store

end Steward
