/-
This file shows that users and passes do not overwrite each other.
Users declare records while any number of passes are under way, which make one request at a time and
may be stopped. Each half of a record comes out as if its writers had been alone, and a pass that has
read an older copy of the record never reports on a generation that the record has not reached.
-/

import Steward.Proofs.Halves
import Steward.Proofs.Reports
import Steward.Proofs.Runs

namespace Steward

/-- The write that a request of a pass is, if it is one. -/
def Request.write? : Request → Option StoreWrite
  | .putStatus id status => some (.putStatus id status)
  | .putMetadata id metadata => some (.putMetadata id metadata)
  | .publish id details => some (.publish id details)
  | .erase id => some (.erase id)
  | .readRecord _ | .listRecords | .remote _ | .now | .secret => none

namespace World

/-- A request changes the store as the write that it is. -/
theorem store_answer (world : World) (request : Request) :
    (world.answer request).2.store =
      request.write?.elim world.store (StoreWrite.carryOut world.store) := by
  have written : ∀ result : Except StoreError Store,
      (world.write result).2.store = result.toOption.getD world.store := by
    intro result
    cases result
    · rfl
    · rfl
  cases request with
  | putStatus _ _ | putMetadata _ _ | publish _ _ | erase _ => exact written _
  | readRecord _ | listRecords | remote _ | now | secret => rfl

end World

/-- A world in which users declare records while passes are under way. -/
structure Desk where
  world : World
  passes : List (Program (Except PassError Outcome)) := []
  /-- The writes that have been made, by users and by passes. -/
  history : List StoreWrite := []

/-- What can happen at a desk. -/
inductive DeskMove where
  | apply (record : Record)
  | requestDeletion (id : RecordId) (now : Timestamp)
  /-- A pass begins. -/
  | begin (id : RecordId)
  /-- One of the passes makes its next request. -/
  | step (index : Nat)
  /-- One of the passes is given up. -/
  | stop (index : Nat)
  /-- The remote side changes. -/
  | disturb (change : Plane → Plane)

namespace Desk

/-- The desk after a write of a user. -/
def declare (desk : Desk) (write : StoreWrite) : Desk :=
  { desk with
    world := { desk.world with store := write.carryOut desk.world.store }
    history := desk.history ++ [write] }

/-- The desk after a move. -/
def carryOut (engine : Engine) (desk : Desk) : DeskMove → Desk
  | .apply record => desk.declare (.apply record)
  | .requestDeletion id now => desk.declare (.requestDeletion id now)
  | .begin id => { desk with passes := desk.passes ++ [(engine.reconcile id false).run] }
  | .step index =>
      match desk.passes[index]? with
      | some (.ask request next) =>
          { world := (desk.world.answer request).2
            passes := desk.passes.set index (next (desk.world.answer request).1)
            history := desk.history ++ request.write?.toList }
      | _ => desk
  | .stop index => { desk with passes := desk.passes.eraseIdx index }
  | .disturb change => { desk with world := { desk.world with plane := change desk.world.plane } }

/-- The desk after a row of moves. -/
def play (engine : Engine) (desk : Desk) (moves : List DeskMove) : Desk :=
  moves.foldl (carryOut engine) desk

def get? (desk : Desk) (id : RecordId) : Option Record :=
  desk.world.store.get? id

variable {engine : Engine} {desk : Desk} {id : RecordId} {record : Record}

theorem play_append (engine : Engine) (desk : Desk) (early late : List DeskMove) :
    desk.play engine (early ++ late) = (desk.play engine early).play engine late :=
  List.foldl_append

/-- The writes that a move makes. -/
def writes (desk : Desk) : DeskMove → List StoreWrite
  | .apply record => [.apply record]
  | .requestDeletion id now => [.requestDeletion id now]
  | .step index =>
      match desk.passes[index]? with
      | some (.ask request _) => request.write?.toList
      | _ => []
  | .begin _ | .stop _ | .disturb _ => []

/-- A move changes the store by the writes that it makes, and these are remembered. -/
theorem carryOut_writes (engine : Engine) (desk : Desk) (move : DeskMove) :
    (desk.carryOut engine move).history = desk.history ++ desk.writes move ∧
      (desk.carryOut engine move).world.store =
        (desk.writes move).foldl StoreWrite.carryOut desk.world.store := by
  cases move with
  | apply _ | requestDeletion _ _ => exact ⟨rfl, rfl⟩
  | begin _ | stop _ | disturb _ => exact ⟨(List.append_nil _).symm, rfl⟩
  | step index =>
      unfold carryOut writes
      dsimp only
      split
      · rename_i request next found
        refine ⟨rfl, ?_⟩
        rw [World.store_answer]
        cases request.write? with
        | none => rfl
        | some write => rfl
      · exact ⟨(List.append_nil _).symm, rfl⟩

/-- What has become of the store is what the remembered writes make of it. -/
theorem play_writes (engine : Engine) (desk : Desk) (moves : List DeskMove) :
    ∃ writes, (desk.play engine moves).history = desk.history ++ writes ∧
      (desk.play engine moves).world.store =
        writes.foldl StoreWrite.carryOut desk.world.store := by
  induction moves generalizing desk with
  | nil => exact ⟨[], (List.append_nil _).symm, rfl⟩
  | cons move rest inductionHypothesis =>
      obtain ⟨history, store⟩ := carryOut_writes engine desk move
      obtain ⟨writes, later, left⟩ := inductionHypothesis (desk.carryOut engine move)
      refine ⟨desk.writes move ++ writes, ?_, ?_⟩
      · rw [← List.append_assoc, ← history]
        exact later
      · rw [List.foldl_append, ← store]
        exact left

/-- A move makes one write at most, so a record that is stored after the move has not been erased by
it. -/
theorem spares_of_stored {move : DeskMove}
    (stored : (desk.carryOut engine move).get? id = some record) :
    ∀ write ∈ desk.writes move, write ≠ .erase id := by
  rintro write member rfl
  have single : ∀ request : Request, StoreWrite.erase id ∈ request.write?.toList →
      request.write?.toList = [.erase id] := by
    intro request erases
    cases writes : request.write? with
    | none =>
        rw [writes] at erases
        cases erases
    | some write =>
        rw [writes] at erases
        rw [List.mem_singleton.1 erases]
        rfl
  have alone : desk.writes move = [.erase id] := by
    unfold writes at member ⊢
    split at member
    · cases List.mem_singleton.1 member
    · cases List.mem_singleton.1 member
    · split at member
      · exact single _ member
      · cases member
    all_goals cases member
  have gone := (carryOut_writes engine desk move).2
  rw [alone] at gone
  rw [get?, gone] at stored
  cases (StoreWrite.get?_carryOut_erase desk.world.store id).symm.trans stored

/-- The record stays stored while the moves are made. -/
def Keeps (engine : Engine) (desk : Desk) (id : RecordId) (moves : List DeskMove) : Prop :=
  ∀ early, early <+: moves → ∃ record, (desk.play engine early).get? id = some record

/-- A record that stays stored does so after the first move. -/
theorem Keeps.of_cons {move : DeskMove} {rest : List DeskMove}
    (keeps : desk.Keeps engine id (move :: rest)) :
    (desk.carryOut engine move).Keeps engine id rest := by
  intro early before
  exact keeps (move :: early) (List.cons_prefix_cons.2 ⟨rfl, before⟩)

theorem Keeps.exists_next {move : DeskMove} {rest : List DeskMove}
    (keeps : desk.Keeps engine id (move :: rest)) :
    ∃ record, (desk.carryOut engine move).get? id = some record :=
  keeps [move] (List.cons_prefix_cons.2 ⟨rfl, List.nil_prefix⟩)

/-- A record that stays stored does so from any point on. -/
theorem Keeps.of_append {early late : List DeskMove}
    (keeps : desk.Keeps engine id (early ++ late)) :
    (desk.play engine early).Keeps engine id late := by
  intro before begins
  rw [← play_append]
  exact keeps (early ++ before) ((List.prefix_append_right_inj early).2 begins)

theorem Keeps.of_prefix {early late : List DeskMove}
    (keeps : desk.Keeps engine id (early ++ late)) : desk.Keeps engine id early :=
  fun before begins => keeps before (begins.trans (List.prefix_append early late))

/-- A record that stays stored keeps its time of deletion. -/
theorem Keeps.outgrows {moves : List DeskMove} (keeps : desk.Keeps engine id moves)
    (fits : record.generation ≤ Word.max) (stored : desk.get? id = some record) :
    ∃ later, (desk.play engine moves).get? id = some later ∧ later.Outgrows record ∧
      later.generation ≤ Word.max := by
  induction moves generalizing desk record with
  | nil => exact ⟨record, stored, .refl record, fits⟩
  | cons move rest inductionHypothesis =>
      obtain ⟨left, found⟩ := keeps.exists_next
      obtain ⟨next, held, grown, generation⟩ :=
        StoreWrite.foldl_outgrows (desk.writes move) (spares_of_stored found) fits stored
      rw [← (carryOut_writes engine desk move).2] at held
      obtain ⟨later, last, outgrows, bounded⟩ :=
        inductionHypothesis keeps.of_cons (by omega) held
      exact ⟨later, last, outgrows.trans grown, bounded⟩

/-- A record that stays stored has not been erased. -/
theorem Keeps.spares {moves : List DeskMove} (keeps : desk.Keeps engine id moves)
    (before : ∀ write ∈ desk.history, write ≠ .erase id) :
    ∀ write ∈ (desk.play engine moves).history, write ≠ .erase id := by
  induction moves generalizing desk with
  | nil => exact before
  | cons move rest inductionHypothesis =>
      obtain ⟨record, stored⟩ := keeps.exists_next
      apply inductionHypothesis keeps.of_cons
      rw [(carryOut_writes engine desk move).1]
      intro write member
      rcases List.mem_append.1 member with early | fresh
      · exact before write early
      · exact spares_of_stored stored write fresh

end Desk

/-- A status that is written for a record speaks of no generation beyond a given one. -/
def StoreWrite.IsTimely (id : RecordId) (generation : Nat) (write : StoreWrite) : Prop :=
  ∀ status, write = .putStatus id status → status.observedGeneration ≤ generation

def Request.IsTimely (id : RecordId) (generation : Nat) (request : Request) : Prop :=
  ∀ write ∈ request.write?.toList, write.IsTimely id generation

theorem Request.IsTimely.mono {id : RecordId} {generation later : Nat} {request : Request}
    (timely : request.IsTimely id generation) (grown : generation ≤ later) :
    request.IsTimely id later :=
  fun write member status same => Nat.le_trans (timely write member status same) grown

/-- What a pass reports on a record that it has read is no later than the record. -/
theorem Request.Reports.isTimely {record : Record} {id : RecordId} {generation : Nat}
    {request : Request} (reports : request.Reports record)
    (reached : record.id = id → record.generation ≤ generation ∧
      record.status.observedGeneration ≤ generation) :
    request.IsTimely id generation := by
  rintro write member status rfl
  cases request with
  | putStatus target written =>
      cases List.mem_singleton.1 member
      obtain ⟨own, generation | status⟩ := reports
      · exact generation ▸ (reached own.symm).1
      · exact status ▸ (reached own.symm).2
  | putMetadata _ _ | publish _ _ | erase _ => cases List.mem_singleton.1 member
  | readRecord _ | listRecords | remote _ | now | secret => cases member

/-- Timely writes leave a record with a status that is not ahead of its generation. -/
theorem StoreWrite.foldl_timely {id : RecordId} {generation : Nat} {store : Store} {record : Record}
    (writes : List StoreWrite) (spares : ∀ write ∈ writes, write ≠ .erase id)
    (timely : ∀ write ∈ writes, write.IsTimely id generation)
    (fits : record.generation ≤ Word.max) (stored : store.get? id = some record)
    (reached : generation ≤ record.generation)
    (behind : record.status.observedGeneration ≤ record.generation) :
    ∃ later, (writes.foldl carryOut store).get? id = some later ∧
      later.status.observedGeneration ≤ later.generation := by
  induction writes generalizing store record with
  | nil => exact ⟨record, stored, behind⟩
  | cons write rest inductionHypothesis =>
      have spared : write ≠ .erase id := spares write List.mem_cons_self
      have grown := (reviseAt_outgrows fits stored spared).generation
      have bounded := generation_reviseAt fits stored spared
      have behindStill : (write.reviseAt id record).status.observedGeneration ≤
          (write.reviseAt id record).generation := by
        refine Nat.le_trans ?_ grown
        have fresh := timely write List.mem_cons_self
        unfold reviseAt
        split
        · rename_i own
          cases write with
          | putStatus target status =>
              obtain rfl : target = id := own
              exact Nat.le_trans (fresh status rfl) reached
          | apply wanted =>
              rw [revise]
              split
              · exact behind
              · exact behind
          | requestDeletion target now =>
              rw [revise]
              split
              · exact behind
              · exact behind
          | putMetadata _ _ | publish _ _ | erase _ => exact behind
        · exact behind
      apply inductionHypothesis
        (fun write member => spares write (List.mem_cons_of_mem _ member))
        (fun write member => timely write (List.mem_cons_of_mem _ member))
        (by omega) (get?_carryOut stored spared) (Nat.le_trans reached grown) behindStill

namespace Desk

variable {engine : Engine} {desk : Desk} {id : RecordId} {record : Record}

/-- The status of a record is not ahead of it, and no pass is going to put one that is: it has not
read the record, or all that it can come to write is no later than the record. -/
structure IsTimely (engine : Engine) (desk : Desk) (id : RecordId) (record : Record) : Prop where
  stored : desk.get? id = some record
  fits : record.generation ≤ Word.max
  behind : record.status.observedGeneration ≤ record.generation
  passes : ∀ pass ∈ desk.passes, (∃ other, pass = (engine.reconcile other false).run) ∨
    pass.Only (Request.IsTimely id record.generation)

/-- A pass begins with reading its record. -/
theorem run_reconcile (engine : Engine) (id : RecordId) :
    (engine.reconcile id false).run = .ask (.readRecord id) fun read => ExceptT.run (match read with
      | none => return .gone
      | some record => engine.work record) :=
  rfl

/-- What a pass can come to write after it has been answered is no later than the record. -/
theorem IsTimely.answered (timely : desk.IsTimely engine id record) {request : Request}
    {next : request.Answer → Program (Except PassError Outcome)}
    (underway : .ask request next ∈ desk.passes) :
    request.IsTimely id record.generation ∧
      (next (desk.world.answer request).1).Only (Request.IsTimely id record.generation) := by
  rcases timely.passes _ underway with ⟨other, fresh⟩ | only
  · rw [run_reconcile] at fresh
    cases fresh
    refine ⟨fun write member => absurd member List.not_mem_nil, ?_⟩
    have answered : (desk.world.answer (.readRecord other)).1 = desk.get? other := rfl
    rw [answered]
    cases read : desk.get? other with
    | none => trivial
    | some found =>
        have own : found.id = other := desk.world.store.id_of_get? read
        apply (Engine.reports_work engine found).mono
        intro request reports
        apply reports.isTimely
        rintro rfl
        obtain rfl : found = record := by
          rw [← own] at read
          exact Option.some.inj (read.symm.trans timely.stored)
        exact ⟨Nat.le_refl _, timely.behind⟩
  · exact ⟨only.1, only.2 _⟩

/-- No write of a move speaks of a generation beyond that of the record. -/
theorem IsTimely.writes (timely : desk.IsTimely engine id record) (move : DeskMove) :
    ∀ write ∈ desk.writes move, write.IsTimely id record.generation := by
  intro write member
  unfold Desk.writes at member
  split at member
  · rintro status rfl
    cases List.mem_singleton.1 member
  · rintro status rfl
    cases List.mem_singleton.1 member
  · split at member
    · rename_i request next found
      exact (timely.answered (List.mem_of_getElem? found)).1 write member
    · cases member
  all_goals cases member

/-- A move leaves a record timely that is still stored. -/
theorem IsTimely.carryOut (timely : desk.IsTimely engine id record) {move : DeskMove}
    {later : Record} (stored : (desk.carryOut engine move).get? id = some later) :
    (desk.carryOut engine move).IsTimely engine id later := by
  have spares := spares_of_stored stored
  have left := stored
  rw [get?, (carryOut_writes engine desk move).2] at left
  obtain ⟨grown, found, outgrows, generation⟩ :=
    StoreWrite.foldl_outgrows (desk.writes move) spares timely.fits timely.stored
  cases left.symm.trans found
  obtain ⟨same, found, behind⟩ := StoreWrite.foldl_timely (desk.writes move) spares
    (timely.writes move) timely.fits timely.stored (Nat.le_refl _) timely.behind
  cases left.symm.trans found
  have others : ∀ pass ∈ desk.passes, (∃ other, pass = (engine.reconcile other false).run) ∨
      pass.Only (Request.IsTimely id later.generation) := by
    intro pass underway
    refine (timely.passes pass underway).imp_right fun only => ?_
    exact only.mono fun _ timely => timely.mono outgrows.generation
  refine ⟨stored, by omega, behind, ?_⟩
  cases move with
  | apply _ | requestDeletion _ _ | disturb _ => exact others
  | begin other =>
      intro pass underway
      rcases List.mem_append.1 underway with before | fresh
      · exact others pass before
      · exact .inl ⟨other, List.mem_singleton.1 fresh⟩
  | stop index =>
      intro pass underway
      exact others pass (List.mem_of_mem_eraseIdx underway)
  | step index =>
      unfold Desk.carryOut
      dsimp only
      split
      · rename_i request next found
        intro pass underway
        rcases List.mem_or_eq_of_mem_set underway with before | rfl
        · exact others pass before
        · have rest := (timely.answered (List.mem_of_getElem? found)).2
          exact .inr (rest.mono fun _ timely => timely.mono outgrows.generation)
      · exact others

/-- A record that stays stored stays timely, whatever moves are made. -/
theorem IsTimely.play (timely : desk.IsTimely engine id record) {moves : List DeskMove}
    (keeps : desk.Keeps engine id moves) :
    ∃ later, (desk.play engine moves).IsTimely engine id later := by
  induction moves generalizing desk record with
  | nil => exact ⟨record, timely⟩
  | cons move rest inductionHypothesis =>
      obtain ⟨next, stored⟩ := keeps.exists_next
      exact inductionHypothesis (timely.carryOut stored) keeps.of_cons

end Desk

/-- The write that a move of a user is. -/
def DeskMove.write? : DeskMove → Option StoreWrite
  | .apply record => some (.apply record)
  | .requestDeletion id now => some (.requestDeletion id now)
  | .begin _ | .step _ | .stop _ | .disturb _ => none

namespace Desk

/-- Passes make none of the writes that users make. -/
theorem filter_writes (desk : Desk) (move : DeskMove) :
    (desk.writes move).filter (·.isDeclaring) = move.write?.toList := by
  cases move with
  | apply _ | requestDeletion _ _ | begin _ | stop _ | disturb _ => rfl
  | step index =>
      unfold writes
      dsimp only
      split
      · rename_i request next found
        cases request with
        | putStatus _ _ | putMetadata _ _ | publish _ _ | erase _ => rfl
        | readRecord _ | listRecords | remote _ | now | secret => rfl
      · rfl

/-- The writes that declare records are those of the users, in the order in which they were made. -/
theorem filter_history (engine : Engine) (desk : Desk) (moves : List DeskMove) :
    (desk.play engine moves).history.filter (·.isDeclaring) =
      desk.history.filter (·.isDeclaring) ++ moves.filterMap DeskMove.write? := by
  induction moves generalizing desk with
  | nil => exact (List.append_nil _).symm
  | cons move rest inductionHypothesis =>
      have later := inductionHypothesis (desk.carryOut engine move)
      rw [(carryOut_writes engine desk move).1, List.filter_append, filter_writes,
        List.append_assoc] at later
      refine later.trans (congrArg _ ?_)
      cases written : move.write? with
      | none => rw [List.filterMap_cons_none written, Option.toList_none, List.nil_append]
      | some write => rw [List.filterMap_cons_some written, Option.toList_some, List.singleton_append]

/-- While a record stays stored, users and passes may write it in any order. What it declares comes
out as the users alone have left it, its status, metadata and details as the passes alone have. Its
generation counts the applies that have changed what it asks for, up to a bound, and starts with one
at least. A time of deletion stays. If its status was not ahead of it at first it never is, however
old the copy is that a pass has read. -/
theorem writers_keep_to_their_halves (engine : Engine) (world : World) (id : RecordId)
    (first : Record) (moves : List DeskMove) (stored : world.store.get? id = some first)
    (fits : first.generation ≤ Word.max) (keeps : Keeps engine { world } id moves) :
    let desk := play engine { world } moves
    let users := (moves.filterMap DeskMove.write?).foldl StoreWrite.carryOut world.store
    let passes := (desk.history.filter (!·.isDeclaring)).foldl StoreWrite.carryOut world.store
    (∃ record declared kept, desk.get? id = some record ∧
      users.get? id = some declared ∧ passes.get? id = some kept ∧
      record = declared.under kept ∧
      desk.world.store.details.get? id = passes.details.get? id ∧
      record.generation =
        min (first.generation + StoreWrite.revisions id world.store desk.history) Word.max ∧
      (∀ early before time, early <+: moves → (play engine { world } early).get? id = some before →
        before.deletionRequested = some time → record.deletionRequested = some time) ∧
      (first.status.observedGeneration ≤ first.generation →
        record.status.observedGeneration ≤ record.generation)) ∧
    ∀ (store : Store) (new : Record), store.get? new.id = none →
      ∃ applied, (store.apply new).2.get? new.id = some applied ∧ 1 ≤ applied.generation := by
  intro desk users passes
  refine ⟨?_, fun store new absent => ?_⟩
  · have start : ∀ write ∈ ({ world } : Desk).history, write ≠ StoreWrite.erase id :=
      fun write member => absurd member List.not_mem_nil
    have spares : ∀ write ∈ desk.history, write ≠ .erase id := keeps.spares start
    obtain ⟨writes, history, store⟩ := play_writes engine { world } moves
    obtain rfl : desk.history = writes := history
    have declaring : desk.history.filter (·.isDeclaring) = moves.filterMap DeskMove.write? :=
      filter_history engine { world } moves
    obtain ⟨declared, kept, declaredBy, keptBy, left, details⟩ :=
      StoreWrite.get?_foldl desk.history spares stored stored stored rfl
    obtain ⟨record, found, -, generation⟩ :=
      StoreWrite.foldl_outgrows desk.history spares fits stored
    obtain rfl : record = declared.under kept := Option.some.inj (found.symm.trans left)
    rw [declaring] at declaredBy
    rw [← store] at found details
    refine ⟨_, declared, kept, found, declaredBy, keptBy, rfl, details, generation, ?_, ?_⟩
    · rintro early before time ⟨late, rfl⟩ held marked
      obtain ⟨same, there, -, bounded⟩ := keeps.of_prefix.outgrows fits stored
      cases held.symm.trans there
      obtain ⟨same, last, grown, -⟩ := keeps.of_append.outgrows bounded held
      rw [← play_append] at last
      cases found.symm.trans last
      exact grown.deletion time marked
    · intro behind
      have timely : IsTimely engine { world } id first :=
        ⟨stored, fits, behind, fun pass underway => absurd underway List.not_mem_nil⟩
      obtain ⟨later, last⟩ := timely.play keeps
      cases found.symm.trans last.stored
      exact last.behind
  · have applied : (store.apply new).2.get? new.id =
        some { new with generation := max new.generation 1 } := by
      simp only [Store.apply, absent, Store.get?_announce, Store.get?_put, if_true]
    exact ⟨_, applied, Nat.le_max_right _ _⟩

end Desk

namespace Sample

/-- A pass for a bucket is overtaken by two changes of its record and a request for deletion, and
another one that has begun late is given up; a last apply changes nothing. -/
def overtaken : List DeskMove :=
  [.begin (.plain "first"), .step 0, .step 0, .apply (bucket "first" (some "renamed")),
    .begin (.plain "first"), .step 1, .step 0, .step 0, .requestDeletion (.plain "first") default,
    .step 1, .step 0, .stop 1, .apply { bucket "first" none with credentialsRef := some "else" }] ++
    List.replicate 12 (.step 0) ++
    [.apply { bucket "first" none with credentialsRef := some "else" }]

end Sample

namespace Desk

/-- A record stays stored if it is there after each of the moves. -/
theorem keeps_of_take {engine : Engine} {desk : Desk} {id : RecordId} {moves : List DeskMove}
    (there : ∀ count < moves.length + 1,
      ((desk.play engine (moves.take count)).get? id).isSome = true) :
    desk.Keeps engine id moves := by
  intro early before
  rw [List.prefix_iff_eq_take.1 before]
  exact Option.isSome_iff_exists.1 (there _ (Nat.lt_succ_of_le before.length_le))

/-- The first pass ends with the lock and a report on the generation that it has read, of which two
more have been made since. -/
theorem writers_keep_to_their_halves_of_overtaken :
    ((play Sample.engine { world := Sample.declared } Sample.overtaken).get?
        (.plain "first")).map (fun record =>
      (record.generation, record.status.observedGeneration, record.isClaimed,
        record.isDeleting)) = some (3, 1, true, true) ∧
      ∃ record, (play Sample.engine { world := Sample.declared } Sample.overtaken).get?
          (.plain "first") = some record ∧
        record.status.observedGeneration ≤ record.generation := by
  have keeps : Keeps Sample.engine { world := Sample.declared } (.plain "first")
      Sample.overtaken := keeps_of_take (by decide +kernel)
  have stored : Sample.declared.store.get? (.plain "first") = some (Sample.bucket "first" none) := by
    decide +kernel
  obtain ⟨⟨record, declared, kept, found, -, -, -, -, -, -, behind⟩, -⟩ :=
    writers_keep_to_their_halves Sample.engine Sample.declared (.plain "first")
      (Sample.bucket "first" none) Sample.overtaken stored (by decide) keeps
  exact ⟨by decide +kernel, record, found, behind (by decide)⟩

end Desk

end Steward
