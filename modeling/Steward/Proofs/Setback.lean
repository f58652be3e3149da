/-
This file says what a pass that fails leaves of its record.
No pass fails once it has claimed a resource or overwritten one, so that of the record no more than
the marker of a pending create has changed. The failure is told in the status, which keeps what it
said before of everything else.
-/

import Steward.Proofs.Causes
import Steward.Proofs.Conduct
import Steward.Proofs.Rounds

namespace Steward

open Pass

/-- Of a record no more has changed than the status and the marker of a pending create. -/
structure Record.Abides (before after : Record) : Prop where
  same : after = { before with metadata := after.metadata, status := after.status }
  markers : ∀ name, name ≠ Metadata.createPendingKey →
    Table.get? after.metadata name = Table.get? before.metadata name

/-- Of a store no more has changed than the status of one record and the marker of its pending
create. -/
structure Store.Abides (before : Store) (record : Record) (after : Store) : Prop where
  written : ∃ left, record.Abides left ∧ before.Writes left after
  details : after.details = before.details

namespace Record

variable {record left : Record}

theorem Abides.refl (record : Record) : record.Abides record :=
  ⟨rfl, fun _ _ => rfl⟩

theorem Abides.id (abides : record.Abides left) : left.id = record.id := by
  rw [abides.same]

theorem Abides.withStatus (abides : record.Abides left) (status : Status) :
    record.Abides { left with status } := by
  refine ⟨?_, abides.markers⟩
  rw [abides.same]

/-- A record may be given other metadata, if only the pending marker differs. -/
theorem Abides.withMetadata (abides : record.Abides left) {metadata : Metadata}
    (markers : ∀ name, name ≠ Metadata.createPendingKey →
      Table.get? metadata name = Table.get? record.metadata name) :
    record.Abides { left with metadata } := by
  refine ⟨?_, markers⟩
  rw [abides.same]

theorem Abides.isClaimed (abides : record.Abides left) : left.isClaimed = record.isClaimed := by
  have apart : Metadata.lockKey ≠ Metadata.createPendingKey := by decide
  exact congrArg Option.isSome (abides.markers _ apart)

theorem Abides.externalName (abides : record.Abides left) :
    left.metadata.externalName = record.metadata.externalName := by
  have apart : Metadata.externalNameKey ≠ Metadata.createPendingKey := by decide
  rw [Metadata.externalName, Metadata.externalName, abides.markers _ apart]

/-- To mark a record as pending leaves everything else of it. -/
theorem abides_pending (record : Record) : record.Abides record.pending := by
  rcases record.pending_eq with same | marked
  · rw [same]
    exact .refl record
  · rw [marked]
    exact (Abides.refl record).withMetadata fun name apart => Table.get?_insert_of_ne apart

end Record

namespace Store

variable {before store : Store} {record : Record}

theorem Abides.refl (stored : before.get? record.id = some record) : before.Abides record before :=
  ⟨⟨record, .refl record, writes_of_get? stored⟩, rfl⟩

theorem Abides.get? (abides : before.Abides record store) :
    ∃ left, record.Abides left ∧ store.get? record.id = some left := by
  obtain ⟨left, kept, wrote⟩ := abides.written
  exact ⟨left, kept, kept.id ▸ wrote.get?_self⟩

/-- To write what abides by the record leaves a store that does. -/
theorem Abides.put (abides : before.Abides record store) {left : Record}
    (kept : record.Abides left) : before.Abides record (store.put left) := by
  obtain ⟨earlier, same, wrote⟩ := abides.written
  refine ⟨⟨left, kept, ?_⟩, abides.details⟩
  exact wrote.trans (writes_put _ _) (same.id.trans kept.id.symm)

end Store

/-- A request that writes no more to the store than the status of a record and the marker of its
pending create. -/
def Request.Abides (record : Record) : Request → Prop
  | .readRecord _ | .listRecords | .remote _ | .now | .secret => True
  | .putStatus id _ => id = record.id
  | .putMetadata id metadata => id = record.id ∧ ∀ name, name ≠ Metadata.createPendingKey →
      Table.get? metadata name = Table.get? record.metadata name
  | .publish _ _ | .erase _ => False

namespace Request

variable {record : Record} {request : Request}

theorem IsRemote.abides (remote : request.IsRemote) : request.Abides record := by
  cases request with
  | remote _ | secret => trivial
  | _ => exact remote.elim

theorem Reads.abides (reads : request.Reads) : request.Abides record := by
  cases request with
  | readRecord _ | listRecords | remote _ => trivial
  | _ => exact reads.elim

/-- To take the pending marker back, or to set it, is to write no more. -/
theorem abides_released {left : Record} (kept : record.Abides left) :
    Request.Abides record (.putMetadata left.id left.metadata.clearCreatePending) :=
  ⟨kept.id, fun name apart => (Table.get?_erase_of_ne apart).trans (kept.markers name apart)⟩

theorem abides_marked :
    Request.Abides record (.putMetadata record.id record.metadata.markCreatePending) :=
  ⟨rfl, fun _ apart => Table.get?_insert_of_ne apart⟩

/-- A request that keeps to what may be written leaves a store that abides by the record. -/
theorem Abides.answer {before : Store} {world : World} (writes : request.Abides record)
    (abides : before.Abides record world.store) :
    before.Abides record (world.answer request).2.store := by
  obtain ⟨left, kept, stored⟩ := abides.get?
  cases request with
  | readRecord _ | listRecords | remote _ | now | secret => exact abides
  | putStatus id status =>
      cases writes
      simp only [World.answer, Store.putStatus, Store.modify, stored]
      exact abides.put (kept.withStatus status)
  | putMetadata id metadata =>
      obtain ⟨rfl, markers⟩ := writes
      simp only [World.answer, Store.putMetadata, Store.modify, stored]
      exact abides.put (kept.withMetadata markers)
  | publish _ _ | erase _ => exact writes.elim

end Request

namespace Engine

variable {engine : Engine} {before : Store} {world : World} {record : Record}

section Parts

variable {α : Type} {pass : Pass α}

/-- What makes no request that could write more leaves no more changed. -/
theorem ends_abiding (only : Only (Request.Abides record) pass)
    (abides : before.Abides record world.store) :
    Ends pass world (fun _ later => before.Abides record later.store)
      fun _ later => before.Abides record later.store := by
  have keeps : ∀ (request : Request) (world : World), request.Abides record →
      before.Abides record world.store → before.Abides record (world.answer request).2.store :=
    fun _ _ writes abides => writes.answer abides
  exact only.ends keeps abides

/-- What fails as work does and makes no request that could write more. -/
theorem ends_at_work (fails : FailsAtWork pass) (only : Only (Request.Abides record) pass)
    (abides : before.Abides record world.store) :
    Ends pass world (fun _ later => before.Abides record later.store)
      fun error later => error.isOfWork = true ∧ before.Abides record later.store :=
  ((fails world).and (ends_abiding only abides)).mono (fun _ _ ended => ended.2)
    fun _ _ ended => ended

end Parts

/-- A glance does not fail, and changes no record. -/
theorem glance_succeeds (kind : Kind) (record : Record) (world : World) :
    Ends (glance (engine.clientOf kind) record) world
      (fun _ later => later.store = world.store) fun _ _ => False := by
  have keeps : ∀ (request : Request) (later : World), request.Reads →
      later.store = world.store → (later.answer request).2.store = world.store :=
    fun _ _ reads same => reads.store_answer.trans same
  have looks := (engine.only_probe kind record).ends keeps rfl
  rw [glance, ends_bind, ends_attempt]
  exact looks.mono (fun _ _ same => same) fun _ _ same => same

section Successes

variable {current : Record} (stored : world.store.get? record.id = some current)

include stored

/-- The status is written, for the record is there. -/
theorem reportSuccess_succeeds (observed : Option Observed) :
    Ends (reportSuccess record observed) world
      (fun _ later => ∃ status, later.store.get? record.id = some { current with status })
      fun _ _ => False := by
  apply ends_reportSuccess stored
  intro ready synced last clock
  refine ⟨_, (Store.get?_put _ _ _).trans (if_pos ?_)⟩
  exact (world.store.id_of_get? stored).symm

/-- To look once more and report a success does not fail. -/
theorem tell_succeeds (kind : Kind) (outcome : Outcome)
    (tells : Option Observed → Option Observed) :
    Ends (do
        let seen ← glance (engine.clientOf kind) record
        reportSuccess record (tells seen)
        return outcome) world
      (fun _ later => ∃ status, later.store.get? record.id = some { current with status })
      fun _ _ => False := by
  rw [ends_bind]
  apply (glance_succeeds kind record world).of_succeeds
  intro seen later same
  rw [ends_bind]
  rw [← same] at stored
  exact reportSuccess_succeeds stored _

/-- A resource that has been created is claimed for sure. -/
theorem commit_succeeds (kind : Kind) (creation : Creation) :
    Ends (commit (engine.clientOf kind) record creation) world
      (fun _ later => ∃ status, later.store.get? record.id =
        some { current with metadata := claimedMetadata record creation, status })
      fun _ _ => False := by
  let claimed : Record := { current with metadata := claimedMetadata record creation }
  have own : record.id = claimed.id := (world.store.id_of_get? stored).symm
  have marked : (world.store.put claimed).get? record.id = some claimed :=
    (Store.get?_put _ _ _).trans (if_pos own)
  let owner : Record := { record with metadata := claimedMetadata record creation }
  have tells : ∀ later : World, later.store.get? owner.id = some claimed →
      Ends (do
          let seen ← glance (engine.clientOf kind) owner
          reportSuccess owner seen
          return Outcome.created) later
        (fun _ last => ∃ status, last.store.get? owner.id = some { claimed with status })
        fun _ _ => False :=
    fun later there => tell_succeeds there kind .created id
  rw [commit_eq, ends_bind, ends_putMetadata, stored]
  dsimp only
  unfold announce
  split
  · rw [ends_bind, ends_publish, marked]
    exact tells _ marked
  · exact tells _ marked

end Successes

/-- A failure of work is written into the status. -/
theorem isReported_of_isOfWork {error : PassError} (fine : error.isOfWork = true) :
    isReported error = true := by
  cases error with
  | connect _ | store _ | cancelled => cases fine
  | _ => rfl

/-- The failure is told in the status, and no more has changed than the status and the marker of
a pending create. -/
def SetsBack (before : Store) (record : Record) (error : PassError) (later : World) : Prop :=
  isReported error = true ∧ before.Abides record later.store

/-- A failure of work sets the record back, whatever was written before it. -/
theorem setsBack_of_isOfWork {error : PassError}
    (ended : error.isOfWork = true ∧ before.Abides record world.store) :
    SetsBack before record error world :=
  ⟨isReported_of_isOfWork ended.1, ended.2⟩

section Phases

variable {left : Record} (kept : record.Abides left) (abides : before.Abides record world.store)

include kept abides

theorem stored_of_abides : ∃ current, world.store.get? left.id = some current := by
  obtain ⟨current, -, stored⟩ := abides.get?
  exact ⟨current, kept.id ▸ stored⟩

/-- To take the pending marker off does not fail. -/
theorem releasePending_succeeds :
    Ends (releasePending left) world (fun _ later => before.Abides record later.store)
      fun _ _ => False := by
  obtain ⟨current, same, stored⟩ := abides.get?
  rw [releasePending, ends_putMetadata, kept.id, stored]
  exact abides.put (same.withMetadata (Request.abides_released kept).2)

/-- A create that is given up without a cause of its own is given up for sure. -/
theorem abandonCreate_succeeds (kind : Kind) :
    Ends (abandonCreate (engine.clientOf kind) left) world
      (fun _ later => before.Abides record later.store) fun _ _ => False := by
  have looks : Only (Request.Abides record) ((engine.clientOf kind).probe left) :=
    only_look (fun _ => Request.Reads.abides) engine kind left
  rw [abandonCreate, ends_bind, ends_attempt]
  apply (ends_abiding looks abides).mono
  · intro seen later abides
    cases seen with
    | some observed => exact abides
    | none =>
        rw [ends_bind, ends_attempt]
        exact (releasePending_succeeds kept abides).of_succeeds fun _ _ kept => kept
  · exact fun _ _ abides => abides

/-- A collision releases the record and sets it back. -/
theorem collide_sets_back :
    Ends (do releasePending left; throw left.collision : Pass Outcome) world (fun _ _ => True)
      (SetsBack before record) := by
  rw [ends_bind]
  exact (releasePending_succeeds kept abides).of_succeeds fun _ _ abides => ⟨rfl, abides⟩

/-- A create that is resumed and fails sets the record back. -/
theorem resume_sets_back :
    Ends (resume (engine.clientOf left.kind) left) world (fun _ _ => True)
      (SetsBack before record) := by
  have works : Only (Request.Abides record) ((engine.clientOf left.kind).resumeCreate left) :=
    (engine.only_resumeCreate left).mono fun _ works => works.1.abides
  simp only [resume, hasRival, ends_bind, ends_listRecords, ends_pure]
  split
  · exact collide_sets_back kept abides
  · rw [ends_bind]
    apply (ends_at_work (engine.failsAtWork_resumeCreate left.kind left) works abides).mono
    · intro creation later abides
      obtain ⟨current, stored⟩ := stored_of_abides kept abides
      exact (commit_succeeds stored _ creation).of_succeeds fun _ _ _ => trivial
    · exact fun error later ended => setsBack_of_isOfWork ended

/-- Once the resource has been created nothing fails, and before that the record is as it was. -/
theorem concludeCreate_sets_back (wasPending : Bool) {answer : Except PassError Creation}
    (refuses : RefusesAtWork answer) :
    Ends (concludeCreate (engine.clientOf left.kind) left wasPending answer) world
      (fun _ _ => True) (SetsBack before record) := by
  have looks : Only (Request.Abides record) ((engine.clientOf left.kind).probe left) :=
    only_look (fun _ => Request.Reads.abides) engine _ left
  cases answer with
  | ok creation =>
      -- The claim comes after the last call that can fail.
      obtain ⟨current, stored⟩ := stored_of_abides kept abides
      exact (commit_succeeds stored _ creation).of_succeeds fun _ _ _ => trivial
  | error error =>
      have told : isReported error = true := isReported_of_isOfWork (refuses error rfl)
      rw [concludeCreate]
      split
      · rw [ends_bind]
        apply (abandonCreate_succeeds kept abides left.kind).of_succeeds
        exact fun _ _ abides => ⟨told, abides⟩
      · split
        · rw [ends_bind]
          apply (ends_at_work (engine.failsAtWork_probe left.kind left) looks abides).mono
          · intro seen later abides
            split
            · exact ⟨told, abides⟩
            · exact resume_sets_back kept abides
          · exact fun error later ended => setsBack_of_isOfWork ended
        · exact collide_sets_back kept abides

end Phases

/-- To mark a record as pending does not fail. -/
theorem markPending_succeeds (abides : before.Abides record world.store) :
    Ends (markPending record) world
      (fun marked later => marked = record.pending ∧ before.Abides record later.store)
      fun _ _ => False := by
  obtain ⟨current, kept, stored⟩ := abides.get?
  unfold markPending Record.pending
  split
  · exact ⟨rfl, abides⟩
  · simp only [ends_bind, ends_putMetadata, stored]
    exact ⟨rfl, abides.put (kept.withMetadata Request.abides_marked.2)⟩

/-- A create that fails sets the record back. -/
theorem create_sets_back (abides : before.Abides record world.store) :
    Ends (create (engine.clientOf record.kind) record) world (fun _ _ => True)
      (SetsBack before record) := by
  have works : Only (Request.Abides record)
      ((engine.clientOf record.kind).create record.pending) := by
    have only := engine.only_clientCreate_isRemote record.pending
    rw [record.kind_pending] at only
    exact only.mono fun _ remote => remote.abides
  have concludes : ∀ (later : World) (answer : Except PassError Creation),
      before.Abides record later.store → RefusesAtWork answer →
      Ends (concludeCreate (engine.clientOf record.kind) record.pending
        record.metadata.isCreatePending answer) later (fun _ _ => True)
        (SetsBack before record) := by
    intro later answer abides refuses
    have concluded := @concludeCreate_sets_back engine before later record _ record.abides_pending
      abides record.metadata.isCreatePending answer refuses
    rwa [record.kind_pending] at concluded
  rw [create_eq, ends_bind]
  apply (markPending_succeeds abides).of_succeeds
  rintro _ later ⟨rfl, abides⟩
  rw [ends_bind, ends_attempt]
  apply (ends_at_work (engine.failsAtWork_clientCreate _ _) works abides).mono
  · intro creation last abides
    exact concludes last (.ok creation) abides (refusesAtWork_ok creation)
  · rintro error last ⟨fine, abides⟩
    exact concludes last (.error error) abides (refusesAtWork_error fine)

/-- An update that fails sets the record back. -/
theorem update_sets_back (abides : before.Abides record world.store) (observed : Observed)
    (drifts : List Drift) :
    Ends (update (engine.clientOf record.kind) record observed drifts) world (fun _ _ => True)
      (SetsBack before record) := by
  have works : Only (Request.Abides record)
      ((engine.clientOf record.kind).update record drifts) :=
    (engine.only_clientUpdate record drifts).mono fun _ works => works.2.1.abides
  rw [update, ends_bind]
  apply (ends_at_work (engine.failsAtWork_clientUpdate _ record drifts) works abides).mono
  · intro _ later abides
    obtain ⟨current, stored⟩ := stored_of_abides (.refl record) abides
    have tells := @tell_succeeds engine later record current stored record.kind
      (.updated (driftedFields drifts)) fun seen => some (seen.getD observed)
    exact tells.of_succeeds fun _ _ _ => trivial
  · exact fun error later ended => setsBack_of_isOfWork ended

/-- A delete fails before the record is erased, as work on its resource does. -/
theorem delete_sets_back (stored : before.get? record.id = some record)
    (same : world.store = before) :
    Ends (delete (engine.clientOf record.kind) record) world (fun _ _ => True)
      fun error later => error.isOfWork = true ∧ before.Abides record later.store := by
  have works : Only (Request.Abides record)
      ((engine.clientOf record.kind).delete record false) :=
    (engine.only_clientDelete record false).mono fun _ handles => handles.2.1.abides
  have erases : ∀ later : World, before.Abides record later.store →
      Ends (do Pass.erase record.id; return Outcome.deleted) later (fun _ _ => True)
        fun error last => error.isOfWork = true ∧ before.Abides record last.store := by
    intro later abides
    obtain ⟨current, -, present⟩ := abides.get?
    rw [ends_bind, ends_erase, present]
    trivial
  subst same
  apply delete_ends stored
  intro status clock
  have told : world.store.Abides record (world.store.put { record with status }) :=
    (Store.Abides.refl stored).put ((Record.Abides.refl record).withStatus status)
  apply (ends_at_work (engine.failsAtWork_clientDelete _ record) works told).mono
  · exact fun _ later abides => erases later abides
  · rintro error later ⟨fine, abides⟩
    split
    · exact erases later abides
    · exact ⟨fine, abides⟩

/-- An observation that fails sets the record back, and one that succeeds has written nothing. -/
theorem ends_observe_setback (abides : before.Abides record world.store) :
    Ends ((engine.clientOf record.kind).observe record) world
      (fun _ later => before.Abides record later.store) (SetsBack before record) := by
  have looks : Only (Request.Abides record) ((engine.clientOf record.kind).probe record) :=
    only_look (fun _ => Request.Reads.abides) engine _ record
  rw [Client.observe, ends_bind]
  apply (ends_at_work (engine.failsAtWork_probe _ record) looks abides).mono
  · intro seen later abides
    cases seen with
    | none => exact abides
    | some observed =>
        dsimp only
        split
        · rw [ends_bind, ends_lift]
          have refuses := engine.refusesAtWork_diff record.kind record observed
          split
          · exact abides
          · rename_i error differs
            exact setsBack_of_isOfWork ⟨refuses error differs, abides⟩
        · split
          · exact abides
          · exact ⟨rfl, abides⟩
  · exact fun error later ended => setsBack_of_isOfWork ended

/-- Whatever a connected record needs, a failure sets it back. -/
theorem drive_sets_back (stored : world.store.get? record.id = some record) :
    Ends (drive (engine.clientOf record.kind) record) world (fun _ _ => True)
      (SetsBack world.store record) := by
  rw [drive, ends_ite]
  split
  · exact (delete_sets_back stored rfl).mono (fun _ _ _ => trivial)
      fun error later ended => setsBack_of_isOfWork ended
  · rw [ends_bind]
    apply (ends_observe_setback (.refl stored)).mono
    · intro seen later abides
      cases seen with
      | absent => exact create_sets_back abides
      | unclaimed observed => exact resume_sets_back (.refl record) abides
      | owned observed drifts =>
          cases drifts with
          | nil =>
              obtain ⟨current, stored⟩ := stored_of_abides (.refl record) abides
              apply (ends_bind _ _).2
              exact (reportSuccess_succeeds stored _).of_succeeds fun _ _ _ => trivial
          | cons drift drifts => exact update_sets_back abides observed _
    · exact fun error later ended => ended

/-- A connection fails for a reason of its own, or because nobody handles the kind. -/
theorem connect_cases {kind : Kind} {error : PassError}
    (unconnected : engine.connect kind record = .error error) :
    (∃ reason, error = .connect reason) ∨ error = .unsupportedKind kind := by
  unfold connect checkKind at unconnected
  split at unconnected
  · cases reached : engine.resolver.connect engine.environment record with
    | error reason =>
        simp only [reached, bind, Except.bind, mapError_error] at unconnected
        cases unconnected
        exact .inl ⟨reason, rfl⟩
    | ok connection =>
        simp only [reached, bind, Except.bind, mapError_ok] at unconnected
        cases unconnected
  · simp only [bind, Except.bind] at unconnected
    cases unconnected
    exact .inr rfl

/-- A pass over a stored record changes nothing if it does not connect; any other failure sets the
record back. -/
theorem advance_sets_back (stored : world.store.get? record.id = some record) :
    Ends (engine.advance record) world (fun _ _ => True) fun error later =>
      (∃ reason, error = .connect reason) ∧ later = world ∨
        SetsBack world.store record error later := by
  apply ends_advance_of_causes
  · exact fun error _ => .inr ⟨rfl, .refl stored⟩
  · intro error unconnected
    obtain broken | rfl := connect_cases unconnected
    · exact .inl ⟨broken, rfl⟩
    · exact .inr ⟨rfl, .refl stored⟩
  · intro _ _
    rw [ends_bind, ends_erase, stored]
    trivial
  · intro _ _ _
    exact (drive_sets_back stored).mono (fun _ _ _ => trivial) fun _ _ ended => .inr ended

end Engine

namespace Condition

/-- To put a condition among others leaves each of them in its place, or replaces one of its own
aspect that is in another state. -/
theorem get?_setIn {condition earlier : Condition} {conditions : List Condition} {index : Nat}
    (there : conditions[index]? = some earlier) :
    (condition.setIn conditions)[index]? = some earlier ∨
      (condition.setIn conditions)[index]? = some condition ∧
        earlier.aspect = condition.aspect ∧ earlier.sameState condition = false := by
  -- The search for the own aspect passes over other conditions, and these stay where they are.
  induction conditions generalizing index with
  | nil => cases there
  | cons first rest inductionHypothesis =>
      unfold setIn
      cases index with
      | zero =>
          cases there
          split
          · rename_i alike
            split
            · exact .inl rfl
            · rename_i other
              exact .inr ⟨rfl, alike, Bool.eq_false_iff.2 other⟩
          · exact .inl rfl
      | succ index =>
          rw [List.getElem?_cons_succ] at there
          split
          · split
            · exact .inl there
            · exact .inl there
          · exact inductionHypothesis there

end Condition

namespace Record

variable {record : Record} {error : PassError} {synced ready last : Timestamp}

/-- A failure leaves each condition in its place; one whose state does not change keeps its time. -/
theorem get?_failed {index : Nat} {earlier : Condition}
    (there : record.status.conditions[index]? = some earlier) :
    ∃ later, (record.failed error synced ready last).conditions[index]? = some later ∧
      later.aspect = earlier.aspect ∧
      (earlier.sameState later = true → later.lastTransition = earlier.lastTransition) := by
  have failing := @Condition.get?_setIn (.reconcileError error.message synced) _ _ _ there
  cases error with
  | nameCollision kind resource =>
      let message := (PassError.nameCollision kind resource).message
      obtain kept | ⟨set, aspect, apart⟩ := failing
      · obtain kept | ⟨set, aspect, apart⟩ :=
          @Condition.get?_setIn (.unavailable message ready) _ _ _ kept
        · exact ⟨earlier, kept, rfl, fun _ => rfl⟩
        · exact ⟨_, set, aspect.symm, fun same => absurd (same.symm.trans apart) nofun⟩
      · obtain kept | ⟨-, other, -⟩ :=
          @Condition.get?_setIn (.unavailable message ready) _ _ _ set
        · exact ⟨_, kept, aspect.symm, fun same => absurd (same.symm.trans apart) nofun⟩
        · cases other
  | _ =>
      obtain kept | ⟨set, aspect, apart⟩ := failing
      · exact ⟨earlier, kept, rfl, fun _ => rfl⟩
      · exact ⟨_, set, aspect.symm, fun same => absurd (same.symm.trans apart) nofun⟩

/-- A failure that is no collision leaves it open whether the resource can be used. -/
theorem condition?_ready_failed_of_other
    (other : ∀ kind resource, error ≠ .nameCollision kind resource) :
    (record.failed error synced ready last).condition? .ready =
      record.status.condition? .ready := by
  have kept :
      (record.status.setCondition (.reconcileError error.message synced)).condition? .ready =
        record.status.condition? .ready := Status.condition?_setCondition_other nofun
  rw [← kept]
  cases error with
  | nameCollision kind resource => exact absurd rfl (other kind resource)
  | _ => rfl

/-- A failure leaves what was seen of the resource, and of which generation, as it was. -/
theorem observed_failed :
    (record.failed error synced ready last).observed = record.status.observed ∧
      (record.failed error synced ready last).observedGeneration =
        record.status.observedGeneration := by
  cases error
  all_goals exact ⟨rfl, rfl⟩

end Record

/-- What a pass that fails leaves of its record. -/
structure Setback (before : World) (record : Record) (error : PassError) (after : World)
    (left : Record) : Prop where
  stored : after.store.get? record.id = some left
  /-- The spec, the profile, the generation and the mark of deletion are as they were. -/
  same : left = { record with metadata := left.metadata, status := left.status }
  markers : ∀ name, name ≠ Metadata.createPendingKey →
    Table.get? left.metadata name = Table.get? record.metadata name
  claimed : left.isClaimed = record.isClaimed
  externalName : left.metadata.externalName = record.metadata.externalName
  details : after.store.details = before.store.details
  observed : left.status.observed = record.status.observed
  generation : left.status.observedGeneration = record.status.observedGeneration
  /-- Without a connection nothing changes at all. -/
  unconnected : ∀ reason, error = .connect reason →
    after.store = before.store ∧ after.plane = before.plane
  synced : (∀ reason, error ≠ .connect reason) →
    ∃ condition, left.status.condition? .synced = some condition ∧ condition.status = false ∧
      condition.reason = .reconcileError ∧ condition.message = some error.message
  collided : ∀ kind resource, error = .nameCollision kind resource →
    ∃ condition, left.status.condition? .ready = some condition ∧ condition.status = false ∧
      condition.reason = .unavailable ∧ condition.message = some error.message
  ready : record.isDeleting = false → (∀ kind resource, error ≠ .nameCollision kind resource) →
    left.status.condition? .ready = record.status.condition? .ready
  /-- Each condition stays in its place, and keeps its time unless its state changes. -/
  times : ∀ (index : Nat) (earlier : Condition),
    record.status.conditions[index]? = some earlier →
    ∃ later : Condition, left.status.conditions[index]? = some later ∧
      later.aspect = earlier.aspect ∧
      (earlier.sameState later = true → later.lastTransition = earlier.lastTransition)

namespace Engine

variable {engine : Engine} {world : World} {record : Record}

/-- A pass that does not connect sets nothing back. -/
theorem setback_of_connect (stored : world.store.get? record.id = some record)
    (reason : ConnectError) : Setback world record (.connect reason) world record where
  stored := stored
  same := rfl
  markers := fun _ _ => rfl
  claimed := rfl
  externalName := rfl
  details := rfl
  observed := rfl
  generation := rfl
  unconnected := fun _ _ => ⟨rfl, rfl⟩
  synced := fun other => absurd rfl (other reason)
  collided := fun _ _ => nofun
  ready := fun _ _ => rfl
  times := fun _ earlier there => ⟨earlier, there, rfl, fun _ => rfl⟩

/-- A failure that is told sets the record back. -/
theorem setback_of_told {error : PassError} {after : World} {left : Record}
    (synced ready last : Timestamp) (told : isReported error = true)
    (kept : record.Abides left) (details : after.store.details = world.store.details)
    (stored : after.store.get? record.id =
      some { left with status := record.failed error synced ready last }) :
    Setback world record error after
      { left with status := record.failed error synced ready last } where
  stored := stored
  same := (kept.withStatus _).same
  markers := kept.markers
  claimed := kept.isClaimed
  externalName := kept.externalName
  details := details
  observed := Record.observed_failed.1
  generation := Record.observed_failed.2
  unconnected := by
    rintro reason rfl
    cases told
  synced := by
    intro _
    obtain ⟨current, found, same⟩ := record.condition?_synced_failed ready synced last error
    obtain ⟨-, status, cause, message⟩ := Condition.sameState_iff.1 same
    exact ⟨current, found, status, cause, message⟩
  collided := by
    rintro kind resource rfl
    obtain ⟨current, found, same⟩ := record.condition?_ready_failed ready synced last kind resource
    obtain ⟨-, status, cause, message⟩ := Condition.sameState_iff.1 same
    exact ⟨current, found, status, cause, message⟩
  ready := fun _ other => Record.condition?_ready_failed_of_other other
  times := fun _ _ there => Record.get?_failed there

/-- A pass that fails sets its record back. -/
theorem pass_sets_back (stored : world.store.get? record.id = some record) :
    Ends (engine.pass record.id) world (fun _ _ => True) fun error later =>
      ∃ left, Setback world record error later left := by
  rw [ends_pass stored]
  apply (advance_sets_back stored).mono (fun _ _ _ => trivial)
  rintro error later (⟨⟨reason, rfl⟩, rfl⟩ | ⟨told, abides⟩)
  · exact ⟨record, setback_of_connect stored reason⟩
  · obtain ⟨left, kept, present⟩ := abides.get?
    apply ends_reportError_of_isReported told present
    intro synced ready last clock
    refine ⟨_, setback_of_told synced ready last told kept abides.details ?_⟩
    rw [Store.get?_put, if_pos kept.id.symm]

/-- Whatever happens on the remote side, a pass that fails leaves its record stored, with nothing
changed but its status and the marker of a pending create. Without a connection not even these have
changed. Any other failure is told in the status with its own words, and nothing else is told but
that a name belongs to somebody else. -/
theorem failed_pass_sets_back (engine : Engine) (world : World) (id : RecordId) (record : Record)
    (error : PassError) (stored : world.store.get? id = some record)
    (failed : (engine.reconcile id false).answer world = .error error) :
    ∃ left, Setback world record error ((engine.reconcile id false).after world) left := by
  cases world.store.id_of_get? stored
  exact (pass_sets_back stored).of_error failed

/-- A record that wants the name of the first bucket fails for it, and carries no marker. -/
theorem failed_pass_sets_back_of_latecomer :
    let latecomer := Sample.bucket "second" (some "first")
    let world := Sample.engine.carryOut Sample.settled (.apply latecomer)
    let pass := Sample.engine.reconcile (.plain "second") false
    world.store.get? (.plain "second") = some latecomer ∧
      pass.answer world = .error (.nameCollision .bucket "first") ∧
      ∃ left, Setback world latecomer (.nameCollision .bucket "first") (pass.after world) left := by
  intro latecomer world pass
  have stored : world.store.get? (.plain "second") = some latecomer := by decide +kernel
  have failed : pass.answer world = .error (.nameCollision .bucket "first") := by decide +kernel
  exact ⟨stored, failed, failed_pass_sets_back Sample.engine world _ latecomer _ stored failed⟩

end Engine

end Steward
