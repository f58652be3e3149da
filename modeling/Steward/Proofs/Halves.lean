/-
This file tells the two halves of a record apart.
What a user declares is written by users only, and status, metadata and details are written by
passes only. A write to one half does the same whatever the other half is, so the writes to both can
be told apart again, however they were mixed.
-/

import Steward.Proofs.StoreWrite

namespace Steward

/-- What one record declares, with the status and the metadata of another one. -/
def Record.under (declared kept : Record) : Record :=
  { declared with status := kept.status, metadata := kept.metadata }

namespace StoreWrite

/-- The identity that a write is about. -/
def target : StoreWrite → RecordId
  | .apply record => record.id
  | .requestDeletion id _ | .putStatus id _ | .putMetadata id _ | .publish id _ | .erase id => id

/-- Whether a write is one that a user makes. -/
def isDeclaring : StoreWrite → Bool
  | .apply _ | .requestDeletion _ _ => true
  | .putStatus _ _ | .putMetadata _ _ | .publish _ _ | .erase _ => false

/-- What a write makes of the stored record that it is about. -/
def revise (record : Record) : StoreWrite → Record
  | .apply wanted =>
      if record.spec = wanted.spec ∧ record.credentialsRef = wanted.credentialsRef then record
      else
        { record with
          spec := wanted.spec
          credentialsRef := wanted.credentialsRef
          generation := min (record.generation + 1) Word.max }
  | .requestDeletion _ now =>
      if record.isDeleting then record else { record with deletionRequested := some now }
  | .putStatus _ status => { record with status }
  | .putMetadata _ metadata => { record with metadata }
  | .publish _ _ | .erase _ => record

/-- What a write makes of a stored record. -/
def reviseAt (id : RecordId) (write : StoreWrite) (record : Record) : Record :=
  if write.target = id then write.revise record else record

/-- What a write makes of the details that are kept for a record. -/
def detailsAt (id : RecordId) (given : Option Details) : StoreWrite → Option Details
  | .publish target details => if target = id then some details else given
  | _ => given

variable {store : Store} {id : RecordId} {record declared kept : Record} {write : StoreWrite}

/-- What is put in the place of a stored record is what is found there. -/
theorem get?_put_revised (stored : store.get? id = some record) {revised : Record}
    (same : revised.id = record.id) (other : RecordId) :
    (store.put revised).get? other = if other = id then some revised else store.get? other := by
  rw [Store.get?_put, same, store.id_of_get? stored]

theorem get?_put_revised_of_ne {target : RecordId} (stored : store.get? target = some record)
    {revised : Record} (same : revised.id = record.id) (apart : id ≠ target) :
    (store.put revised).get? id = store.get? id := by
  rw [get?_put_revised stored same, if_neg apart]

/-- A write to one record leaves the others as they are. -/
theorem get?_carryOut_of_ne (apart : id ≠ write.target) :
    (write.carryOut store).get? id = store.get? id := by
  have modified : ∀ {target : RecordId} {change : Record → Record}, id ≠ target →
      (∀ record, (change record).id = record.id) →
      ((store.modify target change).toOption.getD store).get? id = store.get? id := by
    intro target change apart same
    unfold Store.modify
    cases stored : store.get? target with
    | none => rfl
    | some record => exact get?_put_revised_of_ne stored (same record) apart
  cases write with
  | apply wanted =>
      show (store.apply wanted).2.get? id = store.get? id
      unfold Store.apply
      cases stored : store.get? wanted.id with
      | none =>
          rw [Store.get?_announce, Store.get?_put]
          exact if_neg apart
      | some record =>
          dsimp only
          split
          · rfl
          · rw [Store.get?_announce]
            exact get?_put_revised_of_ne stored rfl apart
  | requestDeletion target now =>
      show ((store.requestDeletion target now).toOption.getD store).get? id = store.get? id
      unfold Store.requestDeletion
      cases stored : store.get? target with
      | none => rfl
      | some record =>
          dsimp only
          split
          · rfl
          · exact get?_put_revised_of_ne stored rfl apart
  | putStatus target status => exact modified apart fun _ => rfl
  | putMetadata target metadata => exact modified apart fun _ => rfl
  | publish target details =>
      show ((store.publish target details).toOption.getD store).get? id = store.get? id
      unfold Store.publish
      cases store.get? target with
      | none => rfl
      | some record => rfl
  | erase target =>
      show ((store.erase target).toOption.getD store).get? id = store.get? id
      unfold Store.erase
      cases store.get? target with
      | none => rfl
      | some record =>
          show ((store.without target).announce _).get? id = store.get? id
          rw [Store.get?_announce, Store.get?_without]
          exact if_neg apart

/-- A write to a stored record that does not erase it puts what it makes of it in its place. -/
theorem get?_carryOut_self (stored : store.get? write.target = some record)
    (spares : write ≠ .erase write.target) :
    (write.carryOut store).get? write.target = some (write.revise record) := by
  have own : record.id = write.target := store.id_of_get? stored
  have put : ∀ revised : Record, revised.id = record.id →
      (store.put revised).get? write.target = some revised := by
    intro revised same
    rw [get?_put_revised stored same, if_pos rfl]
  cases write with
  | apply wanted =>
      show (store.apply wanted).2.get? wanted.id = some (revise record (.apply wanted))
      have present : store.get? wanted.id = some record := stored
      simp only [Store.apply, present, revise]
      split
      · exact stored
      · exact put _ rfl
  | requestDeletion target now =>
      show ((store.requestDeletion target now).toOption.getD store).get? target =
        some (revise record (.requestDeletion target now))
      have present : store.get? target = some record := stored
      simp only [Store.requestDeletion, present, revise]
      split
      · exact stored
      · exact put _ rfl
  | putStatus target status =>
      obtain rfl : record.id = target := own
      show ((store.putStatus record.id status).toOption.getD store).get? record.id = _
      rw [Store.putStatus_of_get? stored]
      exact put _ rfl
  | putMetadata target metadata =>
      obtain rfl : record.id = target := own
      show ((store.putMetadata record.id metadata).toOption.getD store).get? record.id = _
      rw [Store.putMetadata_of_get? stored]
      exact put _ rfl
  | publish target details =>
      show ((store.publish target details).toOption.getD store).get? target = some record
      have present : store.get? target = some record := stored
      simp only [Store.publish, present]
      exact stored
  | erase target => exact absurd rfl spares

/-- A write that does not erase a record leaves it as the write revises it. -/
theorem get?_carryOut (stored : store.get? id = some record) (spares : write ≠ .erase id) :
    (write.carryOut store).get? id = some (write.reviseAt id record) := by
  unfold reviseAt
  split
  · rename_i same
    subst same
    exact get?_carryOut_self stored spares
  · rename_i apart
    rw [get?_carryOut_of_ne (Ne.symm apart)]
    exact stored

/-- A record that is erased is not stored any more. -/
theorem get?_carryOut_erase (store : Store) (id : RecordId) :
    (carryOut store (.erase id)).get? id = none := by
  show ((store.erase id).toOption.getD store).get? id = none
  unfold Store.erase
  cases stored : store.get? id with
  | none => exact stored
  | some record =>
      show ((store.without id).announce _).get? id = none
      rw [Store.get?_announce, Store.get?_without]
      exact if_pos rfl

/-- Details of a stored record come of handing them over only. -/
theorem details_carryOut (stored : store.get? id = some record) (spares : write ≠ .erase id) :
    (write.carryOut store).details.get? id = write.detailsAt id (store.details.get? id) := by
  have modified : ∀ (target : RecordId) (change : Record → Record),
      ((store.modify target change).toOption.getD store).details = store.details := by
    intro target change
    unfold Store.modify
    cases store.get? target with
    | none => rfl
    | some record => rfl
  cases write with
  | apply wanted =>
      show (store.apply wanted).2.details.get? id = store.details.get? id
      unfold Store.apply
      cases store.get? wanted.id with
      | none => rfl
      | some existing =>
          dsimp only
          split
          · rfl
          · rfl
  | requestDeletion target now =>
      show ((store.requestDeletion target now).toOption.getD store).details.get? id = _
      unfold Store.requestDeletion
      cases store.get? target with
      | none => rfl
      | some existing =>
          dsimp only
          split
          · rfl
          · rfl
  | putStatus target status => exact congrArg (·.get? id) (modified target _)
  | putMetadata target metadata => exact congrArg (·.get? id) (modified target _)
  | publish target details =>
      show ((store.publish target details).toOption.getD store).details.get? id = _
      unfold Store.publish
      cases found : store.get? target with
      | none =>
          have apart : target ≠ id := by
            rintro rfl
            cases stored.symm.trans found
          exact (if_neg apart).symm
      | some existing =>
          show (store.details.insert target details).get? id =
            if target = id then some details else store.details.get? id
          rw [Table.get?_insert]
          simp only [eq_comm]
  | erase target =>
      have apart : id ≠ target := fun same => spares (same ▸ rfl)
      show ((store.erase target).toOption.getD store).details.get? id = store.details.get? id
      unfold Store.erase
      cases store.get? target with
      | none => rfl
      | some existing =>
          show (store.details.erase target).get? id = store.details.get? id
          rw [Table.get?_erase, if_neg apart]

section Halves

/-- A user's write does to a record what it does to the half that is declared. -/
theorem reviseAt_under_of_declaring (declaring : write.isDeclaring = true) (id : RecordId)
    (declared kept : Record) :
    write.reviseAt id (declared.under kept) = (write.reviseAt id declared).under kept := by
  unfold reviseAt
  split
  · cases write with
    | apply wanted =>
        by_cases same : declared.spec = wanted.spec ∧ declared.credentialsRef = wanted.credentialsRef
        · have alike : (declared.under kept).spec = wanted.spec ∧
              (declared.under kept).credentialsRef = wanted.credentialsRef := same
          rw [revise, revise, if_pos alike, if_pos same]
        · have differs : ¬ ((declared.under kept).spec = wanted.spec ∧
              (declared.under kept).credentialsRef = wanted.credentialsRef) := same
          rw [revise, revise, if_neg differs, if_neg same]
          rfl
    | requestDeletion target now =>
        by_cases marked : declared.isDeleting = true
        · have still : (declared.under kept).isDeleting = true := marked
          rw [revise, revise, if_pos still, if_pos marked]
        · have still : ¬ (declared.under kept).isDeleting = true := marked
          rw [revise, revise, if_neg still, if_neg marked]
          rfl
    | putStatus _ _ | putMetadata _ _ | publish _ _ | erase _ => cases declaring
  · rfl

/-- What a pass writes does to a record what it does to the other half. -/
theorem reviseAt_under_of_not_declaring (keeping : write.isDeclaring = false) (id : RecordId)
    (declared kept : Record) :
    write.reviseAt id (declared.under kept) = declared.under (write.reviseAt id kept) := by
  unfold reviseAt
  split
  · cases write with
    | apply _ | requestDeletion _ _ => cases keeping
    | putStatus _ _ | putMetadata _ _ | publish _ _ | erase _ => rfl
  · rfl

/-- A user hands no details over. -/
theorem detailsAt_of_declaring (declaring : write.isDeclaring = true) (id : RecordId)
    (given : Option Details) : write.detailsAt id given = given := by
  cases write with
  | apply _ | requestDeletion _ _ => rfl
  | putStatus _ _ | putMetadata _ _ | publish _ _ | erase _ => cases declaring

end Halves

/-- Writes of users and of passes, whatever their order, come to what either come to alone: the one
half of a stored record is as the users have left it, the other one as the passes have. -/
theorem get?_foldl (writes : List StoreWrite) (spares : ∀ write ∈ writes, write ≠ .erase id)
    {whole users passes : Store} (declaredBy : users.get? id = some declared)
    (keptBy : passes.get? id = some kept) (stored : whole.get? id = some (declared.under kept))
    (details : whole.details.get? id = passes.details.get? id) :
    ∃ declared kept,
      ((writes.filter (·.isDeclaring)).foldl carryOut users).get? id = some declared ∧
      ((writes.filter (!·.isDeclaring)).foldl carryOut passes).get? id = some kept ∧
      (writes.foldl carryOut whole).get? id = some (declared.under kept) ∧
      (writes.foldl carryOut whole).details.get? id =
        ((writes.filter (!·.isDeclaring)).foldl carryOut passes).details.get? id := by
  induction writes generalizing whole users passes declared kept with
  | nil => exact ⟨declared, kept, declaredBy, keptBy, stored, details⟩
  | cons write rest inductionHypothesis =>
      have spared : write ≠ .erase id := spares write List.mem_cons_self
      have later : ∀ write ∈ rest, write ≠ .erase id :=
        fun write member => spares write (List.mem_cons_of_mem _ member)
      have revised := get?_carryOut stored spared
      have given := details_carryOut stored spared
      cases owner : write.isDeclaring with
      | true =>
          rw [reviseAt_under_of_declaring owner] at revised
          rw [detailsAt_of_declaring owner, details] at given
          simp only [List.filter_cons, owner, Bool.not_true, if_true, Bool.false_eq_true, if_false]
          exact inductionHypothesis later (get?_carryOut declaredBy spared) keptBy revised given
      | false =>
          rw [reviseAt_under_of_not_declaring owner] at revised
          rw [details, ← details_carryOut keptBy spared] at given
          simp only [List.filter_cons, owner, Bool.not_false, if_true, Bool.false_eq_true, if_false]
          exact inductionHypothesis later declaredBy (get?_carryOut keptBy spared) revised given

end StoreWrite

/-- What a stored record asks for. -/
def Store.wish? (store : Store) (id : RecordId) : Option (Spec × Option String) :=
  (store.get? id).map fun record => (record.spec, record.credentialsRef)

namespace StoreWrite

/-- One if a write is an apply that changes what a stored record asks for. -/
def revision (id : RecordId) (store : Store) : StoreWrite → Nat
  | .apply record =>
      if (carryOut store (.apply record)).wish? id = store.wish? id then 0 else 1
  | _ => 0

/-- How many of the writes are applies that change what a stored record asks for. -/
def revisions (id : RecordId) : Store → List StoreWrite → Nat
  | _, [] => 0
  | store, write :: rest => write.revision id store + revisions id (write.carryOut store) rest

end StoreWrite

namespace Record

/-- The later form of a record: its generation has not gone down, and a time of deletion that it had
is still there. -/
structure Outgrows (later earlier : Record) : Prop where
  generation : earlier.generation ≤ later.generation
  deletion : ∀ time, earlier.deletionRequested = some time → later.deletionRequested = some time

theorem Outgrows.refl (record : Record) : record.Outgrows record :=
  ⟨Nat.le_refl _, fun _ marked => marked⟩

theorem Outgrows.trans {first second third : Record} (late : third.Outgrows second)
    (early : second.Outgrows first) : third.Outgrows first :=
  ⟨Nat.le_trans early.generation late.generation,
    fun time marked => late.deletion time (early.deletion time marked)⟩

end Record

namespace StoreWrite

variable {store : Store} {id : RecordId} {record : Record} {write : StoreWrite}

/-- A generation grows by one with each apply that changes what the record asks for, up to a bound. -/
theorem generation_reviseAt (fits : record.generation ≤ Word.max)
    (stored : store.get? id = some record) (spares : write ≠ .erase id) :
    (write.reviseAt id record).generation =
      min (record.generation + write.revision id store) Word.max := by
  have same : record.generation = min (record.generation + 0) Word.max := by omega
  cases write with
  | apply wanted =>
      have after : (carryOut store (.apply wanted)).wish? id = _ :=
        congrArg (Option.map _) (get?_carryOut stored spares)
      have before : store.wish? id = _ := congrArg (Option.map _) stored
      rw [revision, after, before]
      unfold reviseAt
      split
      · rw [revise]
        split
        · rw [if_pos rfl]
          exact same
        · rename_i differs
          rw [if_neg]
          intro alike
          obtain ⟨spec, credentialsRef⟩ := Prod.mk.inj (Option.some.inj alike)
          exact differs ⟨spec.symm, credentialsRef.symm⟩
      · rw [if_pos rfl]
        exact same
  | requestDeletion target now =>
      unfold reviseAt revise
      split
      · dsimp only
        split
        · exact same
        · exact same
      · exact same
  | putStatus _ _ | putMetadata _ _ | publish _ _ | erase _ =>
      unfold reviseAt revise
      split
      · exact same
      · exact same

/-- No write takes a time of deletion back. -/
theorem deletionRequested_reviseAt (write : StoreWrite) (id : RecordId) {time : Timestamp}
    (marked : record.deletionRequested = some time) :
    (write.reviseAt id record).deletionRequested = some time := by
  unfold reviseAt
  split
  · cases write with
    | apply wanted =>
        rw [revise]
        split
        · exact marked
        · exact marked
    | requestDeletion target now =>
        rw [revise, Record.isDeleting, marked]
        exact marked
    | putStatus _ _ | putMetadata _ _ | publish _ _ | erase _ => exact marked
  · exact marked

/-- Every write that does not erase a record lets it grow. -/
theorem reviseAt_outgrows (fits : record.generation ≤ Word.max)
    (stored : store.get? id = some record) (spares : write ≠ .erase id) :
    (write.reviseAt id record).Outgrows record := by
  refine ⟨?_, fun time => deletionRequested_reviseAt write id⟩
  rw [generation_reviseAt fits stored spares]
  omega

/-- What a row of writes makes of a stored record: the generation counts the applies that have changed
what it asks for, up to a bound. -/
theorem foldl_outgrows (writes : List StoreWrite) (spares : ∀ write ∈ writes, write ≠ .erase id)
    (fits : record.generation ≤ Word.max) (stored : store.get? id = some record) :
    ∃ later, (writes.foldl carryOut store).get? id = some later ∧ later.Outgrows record ∧
      later.generation = min (record.generation + revisions id store writes) Word.max := by
  induction writes generalizing store record with
  | nil => exact ⟨record, stored, .refl record, by rw [revisions]; omega⟩
  | cons write rest inductionHypothesis =>
      have spared : write ≠ .erase id := spares write List.mem_cons_self
      have revised := generation_reviseAt fits stored spared
      obtain ⟨later, left, grown, generation⟩ := inductionHypothesis
        (fun write member => spares write (List.mem_cons_of_mem _ member))
        (by omega) (get?_carryOut stored spared)
      refine ⟨later, left, grown.trans (reviseAt_outgrows fits stored spared), ?_⟩
      rw [generation, revised, revisions]
      omega

end StoreWrite

end Steward
