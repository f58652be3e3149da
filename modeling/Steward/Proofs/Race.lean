/-
This file shows who can win when two passes work on one name at a time.
The two passes make their calls in turn, one call in a turn and in any order. Only one of them can
make a bucket. A user or a policy is written over by whoever comes later, so both can win if both
have looked while it was not there.
-/

import Mathlib.Data.List.Induction
import Steward.Proofs.Gate
import Steward.Proofs.Runs

namespace Steward

open Pass

/-- Two passes that run side by side, by their sides, and the world between their calls. -/
structure Race where
  programs : Bool → Program (Except PassError Outcome)
  world : World

namespace Race

/-- One side makes its next call, unless it has ended. -/
def turn (race : Race) (side : Bool) : Race :=
  match (race.programs side).step race.world with
  | some (next, world) => { programs := Function.update race.programs side next, world }
  | none => race

/-- The sides take their turns, one after the other. -/
def play (race : Race) (turns : List Bool) : Race :=
  turns.foldl turn race

theorem play_append (race : Race) (turns : List Bool) (side : Bool) :
    race.play (turns ++ [side]) = (race.play turns).turn side := by
  rw [play, List.foldl_append]
  rfl

end Race

/-- A pass for each of two records, before the first call. -/
def Engine.race (engine : Engine) (world : World) (entrants : Bool → Record) : Race where
  programs := fun side => (engine.reconcile (entrants side).id false).run
  world := world

/-- A stored record carries the lock. -/
def World.claims (world : World) (record : Record) : Bool :=
  (world.store.get? record.id).any (·.isClaimed)

/-- Whether a program has made its last call. -/
def Program.isDone {α : Type} : Program α → Bool
  | .done _ => true
  | .ask _ _ => false

/-- Two records without markers, one for each side, ask for one name that nobody has. -/
structure World.IsContested (world : World) (entrants : Bool → Record) (kind : Kind)
    (name : String) : Prop where
  faultless : world.plane.faults = {}
  apart : (entrants false).id ≠ (entrants true).id
  named : kind ≠ .serviceAccount
  ofKind : ∀ side, (entrants side).kind = kind
  ofName : ∀ side, (entrants side).targetName = name
  stored : ∀ side, world.store.get? (entrants side).id = some (entrants side)
  valid : ∀ side, (entrants side).validate = .ok ()
  bare : ∀ side, (entrants side).IsBare
  absent : ¬ world.plane.Holds kind name
  free : ∀ other, world.store.get? other.id = some other → other.kind = kind →
    other.targetName = name → other.isClaimed = false

namespace Plane

variable {plane : Plane}

/-- In calm weather, a call that removes nothing keeps all that is there. -/
theorem IsCalm.keeps_perform (calm : plane.IsCalm) {call : RemoteCall}
    (keeps : call.isRemoval = false) :
    (plane.perform call).2.IsCalm ∧ plane.Keeps (plane.perform call).2 := by
  rw [calm.perform]
  have responds := (plane.counted call).responds call
  exact ⟨calm.of_faults responds.faults, responds.keeps (RemoteCall.taken?_of_not_removal keeps)⟩

end Plane

namespace Request

variable {world : World} {record : Record} {request : Request}

/-- A request that concerns a record leaves the others as they are. -/
theorem Concerns.get?_of_ne (concerns : request.Concerns record) {id : RecordId}
    (apart : id ≠ record.id) : (world.answer request).2.store.get? id = world.store.get? id := by
  have modified : ∀ change : Record → Record,
      (∀ current, (change current).id = current.id) →
      (world.write (world.store.modify record.id change)).2.store.get? id = world.store.get? id := by
    intro change same
    unfold Store.modify
    cases stored : world.store.get? record.id with
    | none => rfl
    | some current =>
        have own : (change current).id = record.id :=
          (same current).trans (world.store.id_of_get? stored)
        exact (world.store.get?_put _ id).trans (if_neg (own ▸ apart))
  cases request with
  | readRecord _ | listRecords | now | secret | remote _ => rfl
  | putStatus other status =>
      cases concerns
      exact modified _ fun _ => rfl
  | putMetadata other metadata =>
      cases concerns
      exact modified _ fun _ => rfl
  | publish other details =>
      simp only [World.answer, Store.publish]
      cases world.store.get? other with
      | none => rfl
      | some current => rfl
  | erase other =>
      cases concerns
      simp only [World.answer, Store.erase]
      cases world.store.get? record.id with
      | none => rfl
      | some current => exact (world.store.get?_without record.id id).trans (if_neg apart)

/-- A request that tends a record leaves every resource there. -/
theorem Tends.keeps (tends : request.Tends record) (calm : world.plane.IsCalm) :
    (world.answer request).2.plane.IsCalm ∧ world.plane.Keeps (world.answer request).2.plane := by
  have written : ∀ result, (world.write result).2.plane = world.plane := by
    intro result
    cases result
    · rfl
    · rfl
  cases request with
  | remote call => exact calm.keeps_perform tends.2
  | readRecord _ | listRecords | now | secret => exact ⟨calm, .refl _⟩
  | putStatus _ _ | putMetadata _ _ | publish _ _ | erase _ =>
      rw [World.answer, written]
      exact ⟨calm, .refl _⟩

/-- A record without the lock stays so under requests that do not write it. -/
theorem Abstains.unclaimed (abstains : request.Abstains record)
    (unclaimed : ∀ current, world.store.get? record.id = some current → current.isClaimed = false) :
    ∀ current, (world.answer request).2.store.get? record.id = some current →
      current.isClaimed = false := by
  obtain ⟨⟨concerns, keeps⟩, bare⟩ := abstains
  have modified : ∀ change : Record → Record,
      (∀ current, (change current).id = current.id) →
      (∀ current, current.isClaimed = false → (change current).isClaimed = false) →
      ∀ current, (world.write (world.store.modify record.id change)).2.store.get? record.id =
        some current → current.isClaimed = false := by
    intro change same still later left
    unfold Store.modify at left
    cases stored : world.store.get? record.id with
    | none =>
        rw [stored] at left
        exact unclaimed later left
    | some current =>
        have own : record.id = (change current).id :=
          (world.store.id_of_get? stored).symm.trans (same current).symm
        rw [stored] at left
        cases ((world.store.get?_put _ record.id).trans (if_pos own)).symm.trans left
        exact still current (unclaimed current stored)
  cases request with
  | readRecord _ | listRecords | now | secret | remote _ => exact unclaimed
  | putStatus other status =>
      cases concerns
      exact modified _ (fun _ => rfl) fun _ free => free
  | putMetadata other metadata =>
      cases concerns
      exact modified _ (fun _ => rfl) fun _ _ => bare _ _ rfl
  | publish other details =>
      simp only [World.answer, Store.publish]
      cases world.store.get? other with
      | none => exact unclaimed
      | some current => exact unclaimed
  | erase other => cases keeps

/-- A gate opens only while the resource is not there. -/
theorem Opens.absent {kind : Kind} {name : String} (calm : world.plane.IsCalm)
    (opens : Request.Opens kind name request (world.answer request).1) :
    ¬ world.plane.Holds kind name := by
  intro held
  unfold Request.Opens at opens
  split at opens
  · rename_i bucket region
    obtain ⟨rfl, rfl, made⟩ := opens
    change (world.plane.perform (.makeBucket bucket region)).1 = .ok () at made
    have responds := (world.plane.counted (.makeBucket bucket region)).responds
      (.makeBucket bucket region)
    rw [calm.perform] at made
    rw [made] at responds
    exact Bool.eq_false_iff.1 responds.of_makeBucket.1 held
  · rename_i user
    obtain ⟨rfl, rfl, resource, missed⟩ := opens
    change (world.plane.perform (.userInfo user)).1 = .error (.notFound resource) at missed
    rw [calm.perform] at missed
    have absent := (Plane.not_has_of_sought? rfl missed).1
    exact absent held
  · rename_i policy
    obtain ⟨rfl, rfl, resource, missed⟩ := opens
    change (world.plane.perform (.cannedPolicy policy)).1 = .error (.notFound resource) at missed
    rw [calm.perform] at missed
    have absent := (Plane.not_has_of_sought? rfl missed).1
    exact absent held
  · exact opens

/-- Who has made a bucket has it there. -/
theorem Opens.holds {name : String} (calm : world.plane.IsCalm)
    (opens : Request.Opens .bucket name request (world.answer request).1) :
    (world.answer request).2.plane.Holds .bucket name := by
  unfold Request.Opens at opens
  split at opens
  · rename_i bucket region
    obtain ⟨-, rfl, made⟩ := opens
    change (world.plane.perform (.makeBucket bucket region)).1 = .ok () at made
    change (world.plane.perform (.makeBucket bucket region)).2.buckets.contains bucket = true
    have responds := (world.plane.counted (.makeBucket bucket region)).responds
      (.makeBucket bucket region)
    rw [calm.perform] at made ⊢
    rw [made] at responds
    rw [responds.of_makeBucket.2]
    exact Table.contains_insert_self
  · cases opens.1
  · cases opens.1
  · exact opens.elim

/-- Only a look opens the gate for a user or a policy. -/
theorem Opens.still {kind : Kind} {name : String} (calm : world.plane.IsCalm)
    (other : kind ≠ .bucket) (opens : Request.Opens kind name request (world.answer request).1) :
    (world.answer request).2 = world := by
  apply World.answer_of_reads calm
  unfold Request.Opens at opens
  split at opens
  · exact absurd opens.1 other
  · rfl
  · rfl
  · exact opens.elim

end Request

/-- How far the pass for a bare record has come: it has not begun, or its gate is shut and the
record does not carry the lock, or it has made two calls at least and its gate is open. -/
inductive Engine.Stands (engine : Engine) (record : Record) (store : Store) :
    Nat → Bool → Program (Except PassError Outcome) → Prop
  | fresh {calls : Nat} (stored : store.get? record.id = some record) :
      engine.Stands record store calls false (engine.reconcile record.id false).run
  | shut {calls : Nat} {program : Program (Except PassError Outcome)} (begun : 1 ≤ calls)
      (gated : program.Gated (Request.Opens record.kind record.targetName)
        (Request.Abstains record) (Request.Tends record) fun _ => True)
      (unclaimed : ∀ current, store.get? record.id = some current → current.isClaimed = false) :
      engine.Stands record store calls false program
  | opened {calls : Nat} {program : Program (Except PassError Outcome)} (begun : 2 ≤ calls)
      (only : program.Only (Request.Tends record)) : engine.Stands record store calls true program

namespace Engine.Stands

variable {engine : Engine} {record other : Record} {world later : World} {calls : Nat}
  {isOpen : Bool} {program next : Program (Except PassError Outcome)}

/-- A turn in which nothing is left to do counts as well. -/
theorem succ {store : Store} (stands : engine.Stands record store calls isOpen program) :
    engine.Stands record store (calls + 1) isOpen program := by
  cases stands with
  | fresh stored => exact .fresh stored
  | shut begun gated unclaimed => exact .shut (by omega) gated unclaimed
  | opened begun only => exact .opened (by omega) only

theorem begun {store : Store} (stands : engine.Stands record store calls true program) :
    2 ≤ calls := by
  cases stands with
  | opened begun only => exact begun

/-- Who carries the lock has found the gate open. -/
theorem open_of_claims (stands : engine.Stands record world.store calls isOpen program)
    (bare : record.IsBare) (claims : world.claims record = true) : isOpen = true := by
  unfold World.claims at claims
  cases stands with
  | fresh stored =>
      rw [stored, Option.any_some, bare.unclaimed] at claims
      cases claims
  | shut begun gated unclaimed =>
      cases stored : world.store.get? record.id with
      | none =>
          rw [stored] at claims
          cases claims
      | some current =>
          rw [stored, Option.any_some, unclaimed current stored] at claims
          cases claims
  | opened begun only => rfl

/-- The calls of a pass for another record make no difference. -/
theorem aside {request : Request} (stands : engine.Stands record world.store calls isOpen program)
    (tends : request.Tends other) (apart : record.id ≠ other.id) :
    engine.Stands record (world.answer request).2.store calls isOpen program := by
  have same : (world.answer request).2.store.get? record.id = world.store.get? record.id :=
    tends.1.get?_of_ne apart
  cases stands with
  | fresh stored => exact .fresh (same.trans stored)
  | shut begun gated unclaimed =>
      refine .shut begun gated fun current left => ?_
      exact unclaimed current (same.symm.trans left)
  | opened begun only => exact .opened begun only

theorem step_ask_bind {α : Type} (request : Request) (next : request.Answer → Pass α) :
    (ask request >>= next).run.step world =
      some ((next (world.answer request).1).run, (world.answer request).2) :=
  rfl

/-- The first call of a pass reads its record. -/
theorem step_reconcile (stored : world.store.get? record.id = some record) :
    (engine.reconcile record.id false).run.step world =
      some ((engine.work record).run, world) := by
  have read : (world.answer (.readRecord record.id)).1 = some record := stored
  rw [reconcile_eq, step_ask_bind, read]
  rfl

/-- A step of a pass tends its record, and leaves the gate as it is or opens it. -/
theorem step (stands : engine.Stands record world.store calls isOpen program)
    (bare : record.IsBare) (named : record.kind ≠ .serviceAccount)
    (stepped : program.step world = some (next, later)) :
    ∃ request : Request, request.Tends record ∧ later = (world.answer request).2 ∧
      (engine.Stands record later.store (calls + 1) isOpen next ∨
        (isOpen = false ∧ engine.Stands record later.store (calls + 1) true next ∧
          Request.Opens record.kind record.targetName request (world.answer request).1)) := by
  cases stands with
  | fresh stored =>
      cases (step_reconcile stored).symm.trans stepped
      have gated := Program.Gated.mono (gated_work bare named engine) fun _ _ => trivial
      have unclaimed : ∀ current, world.store.get? record.id = some current →
          current.isClaimed = false := by
        intro current present
        cases stored.symm.trans present
        exact bare.unclaimed
      exact ⟨.readRecord record.id, ⟨trivial, rfl⟩, rfl, .inl (.shut (by omega) gated unclaimed)⟩
  | shut begun gated unclaimed =>
      cases program with
      | done value => cases stepped
      | ask request rest =>
          cases stepped
          have remains := gated.1.unclaimed unclaimed
          refine ⟨request, gated.1.1, rfl, ?_⟩
          rcases gated.2 (world.answer request).1 with closed | ⟨opens, only⟩
          · exact .inl (.shut (by omega) closed remains)
          · exact .inr ⟨rfl, .opened (by omega) only, opens⟩
  | opened begun only =>
      cases program with
      | done value => cases stepped
      | ask request rest =>
          cases stepped
          exact ⟨request, only.1, rfl, .inl (.opened (by omega) (only.2 _))⟩

end Engine.Stands

namespace Race

variable {engine : Engine} {entrants : Bool → Record} {kind : Kind} {name : String}

/-- In some part of the turns both sides have had two or more, and the resource is still not
there. -/
def Overlaps (start : Race) (kind : Kind) (name : String) (turns : List Bool) : Prop :=
  ∃ early late, turns = early ++ late ∧ (∀ side, 2 ≤ early.count side) ∧
    ¬ (start.play early).world.plane.Holds kind name

/-- Two passes that overlap do so one turn later. -/
theorem Overlaps.append {start : Race} {turns : List Bool}
    (overlaps : start.Overlaps kind name turns) (side : Bool) :
    start.Overlaps kind name (turns ++ [side]) := by
  obtain ⟨early, late, rfl, begun, absent⟩ := overlaps
  exact ⟨early, late ++ [side], List.append_assoc _ _ _, begun, absent⟩

/-- How a race stands after some turns. An open gate for a bucket means that the bucket is there, so
no other gate for it can open; the gates for a user or a policy are both open only if the sides have
overlapped. -/
structure IsUnder (start : Race) (engine : Engine) (entrants : Bool → Record) (kind : Kind)
    (name : String) (turns : List Bool) (isOpen : Bool → Bool) : Prop where
  calm : (start.play turns).world.plane.IsCalm
  stands : ∀ side, engine.Stands (entrants side) (start.play turns).world.store
    (turns.count side) (isOpen side) ((start.play turns).programs side)
  held : kind = .bucket → ∀ side, isOpen side = true →
    (start.play turns).world.plane.Holds kind name
  overlaps : (∀ side, isOpen side = true) → kind ≠ .bucket ∧ start.Overlaps kind name turns

/-- A further turn counts for the side that takes it. -/
theorem count_append_turn (turns : List Bool) (side other : Bool) :
    (turns ++ [side]).count other = turns.count other + if other = side then 1 else 0 := by
  rw [List.count_append, List.count_singleton]
  cases side
  all_goals cases other
  all_goals rfl

namespace IsUnder

variable {start : Race} {turns : List Bool} {isOpen : Bool → Bool}

/-- A turn that opens no gate. -/
theorem goOn (under : start.IsUnder engine entrants kind name turns isOpen) {side : Bool}
    (calm : (start.play (turns ++ [side])).world.plane.IsCalm)
    (keeps : (start.play turns).world.plane.Keeps (start.play (turns ++ [side])).world.plane)
    (stands : ∀ other, engine.Stands (entrants other) (start.play (turns ++ [side])).world.store
      ((turns ++ [side]).count other) (isOpen other)
      ((start.play (turns ++ [side])).programs other)) :
    start.IsUnder engine entrants kind name (turns ++ [side]) isOpen where
  calm := calm
  stands := stands
  held := fun bucket other behind => keeps _ _ (under.held bucket other behind)
  overlaps := by
    intro both
    obtain ⟨upsert, overlaps⟩ := under.overlaps both
    exact ⟨upsert, overlaps.append side⟩

/-- A turn that opens the gate of its side, while the resource is not there. -/
theorem unlock (under : start.IsUnder engine entrants kind name turns isOpen) {side : Bool}
    (calm : (start.play (turns ++ [side])).world.plane.IsCalm)
    (keeps : (start.play turns).world.plane.Keeps (start.play (turns ++ [side])).world.plane)
    (stands : ∀ other, engine.Stands (entrants other) (start.play (turns ++ [side])).world.store
      ((turns ++ [side]).count other) (Function.update isOpen side true other)
      ((start.play (turns ++ [side])).programs other))
    (absent : ¬ (start.play turns).world.plane.Holds kind name)
    (made : kind = .bucket → (start.play (turns ++ [side])).world.plane.Holds kind name)
    (seen : kind ≠ .bucket → ¬ (start.play (turns ++ [side])).world.plane.Holds kind name) :
    start.IsUnder engine entrants kind name (turns ++ [side])
      (Function.update isOpen side true) where
  calm := calm
  stands := stands
  held := fun bucket _ _ => made bucket
  overlaps := by
    intro both
    have upsert : kind ≠ .bucket := by
      intro bucket
      have different : (!side) ≠ side := by
        cases side
        all_goals nofun
      have behind := both (!side)
      rw [Function.update_of_ne different] at behind
      exact absent (under.held bucket (!side) behind)
    refine ⟨upsert, turns ++ [side], [], (List.append_nil _).symm, fun other => ?_, seen upsert⟩
    have stood := stands other
    rw [both other] at stood
    exact stood.begun

/-- One more turn leaves a race as described, with one more gate open perhaps. -/
theorem turn (under : start.IsUnder engine entrants kind name turns isOpen)
    (bare : ∀ side, (entrants side).IsBare) (named : kind ≠ .serviceAccount)
    (ofKind : ∀ side, (entrants side).kind = kind)
    (ofName : ∀ side, (entrants side).targetName = name)
    (apart : ∀ side, (entrants side).id ≠ (entrants (!side)).id) (side : Bool) :
    ∃ isOpen, start.IsUnder engine entrants kind name (turns ++ [side]) isOpen := by
  have played := start.play_append turns side
  have counted := count_append_turn turns side
  cases stepped : ((start.play turns).programs side).step (start.play turns).world with
  | none =>
      have same : start.play (turns ++ [side]) = start.play turns := by
        rw [played, Race.turn, stepped]
      refine ⟨isOpen, under.goOn ?_ ?_ fun other => ?_⟩
      · rw [same]
        exact under.calm
      · rw [same]
        exact .refl _
      · rw [same, counted]
        split
        · exact (under.stands other).succ
        · exact under.stands other
  | some result =>
      obtain ⟨next, later⟩ := result
      have same : start.play (turns ++ [side]) =
          { programs := Function.update (start.play turns).programs side next, world := later } := by
        rw [played, Race.turn, stepped]
      have fine : (entrants side).kind ≠ .serviceAccount := by rwa [ofKind]
      obtain ⟨request, tends, rfl, outcome⟩ := (under.stands side).step (bare side) fine stepped
      obtain ⟨calm, keeps⟩ := tends.keeps under.calm
      have others : ∀ other, other ≠ side →
          engine.Stands (entrants other) ((start.play turns).world.answer request).2.store
            ((turns ++ [side]).count other) (isOpen other)
            (Function.update (start.play turns).programs side next other) := by
        intro other different
        have opposite : side = !other := by
          cases side
          all_goals cases other
          all_goals first | rfl | exact absurd rfl different
        rw [counted, if_neg different, Function.update_of_ne different]
        exact (under.stands other).aside tends (opposite ▸ apart other)
      rcases outcome with own | ⟨-, own, opens⟩
      · refine ⟨isOpen, under.goOn ?_ ?_ fun other => ?_⟩
        · rwa [same]
        · rwa [same]
        · rw [same]
          by_cases mine : other = side
          · rw [mine, counted, if_pos rfl]
            dsimp only
            rwa [Function.update_self]
          · exact others other mine
      · rw [ofKind, ofName] at opens
        refine ⟨Function.update isOpen side true,
          under.unlock ?_ ?_ (fun other => ?_) (opens.absent under.calm) ?_ ?_⟩
        · rwa [same]
        · rwa [same]
        · rw [same]
          by_cases mine : other = side
          · rw [mine, counted, if_pos rfl, Function.update_self]
            dsimp only
            rwa [Function.update_self]
          · rw [Function.update_of_ne mine]
            exact others other mine
        · rintro rfl
          rw [same]
          exact opens.holds under.calm
        · intro upsert
          rw [same, opens.still under.calm upsert]
          exact opens.absent under.calm

end IsUnder

end Race

namespace Engine

/-- At the start of a race all gates are shut, and after every turn it stands as described. -/
theorem race_isUnder (engine : Engine) {world : World} {entrants : Bool → Record} {kind : Kind}
    {name : String} (contested : world.IsContested entrants kind name) (turns : List Bool) :
    ∃ isOpen, (engine.race world entrants).IsUnder engine entrants kind name turns isOpen := by
  have apart : ∀ side, (entrants side).id ≠ (entrants (!side)).id := by
    intro side
    cases side with
    | false => exact contested.apart
    | true => exact contested.apart.symm
  induction turns using List.reverseRecOn with
  | nil =>
      have calm : world.plane.IsCalm := by
        rw [Plane.IsCalm, contested.faultless]
      refine ⟨fun _ => false, calm, fun side => .fresh (contested.stored side), ?_, ?_⟩
      · intro _ side behind
        cases behind
      · intro both
        cases both false
  | append_singleton turns side inductionHypothesis =>
      obtain ⟨isOpen, under⟩ := inductionHypothesis
      exact under.turn contested.bare contested.named contested.ofKind contested.ofName apart side

/-- Of two passes for one name, in whatever order they make their calls, both take the lock only if
the name is that of a user or a policy and both have looked for it before it was there. -/
theorem race_has_one_winner (engine : Engine) (world : World) (entrants : Bool → Record)
    (kind : Kind) (name : String) (contested : world.IsContested entrants kind name)
    (turns : List Bool)
    (both : ∀ side, ((engine.race world entrants).play turns).world.claims (entrants side) = true) :
    kind ≠ .bucket ∧ (engine.race world entrants).Overlaps kind name turns := by
  obtain ⟨isOpen, under⟩ := engine.race_isUnder contested turns
  apply under.overlaps
  intro side
  exact (under.stands side).open_of_claims (contested.bare side) (both side)

end Engine

namespace Sample

/-- Two records for the user "alice". -/
def suitors (side : Bool) : Record where
  id := .plain (if side then "second" else "first")
  spec := .user { userName := some "alice", policies := [] }

/-- The sample world after both have been declared. -/
def courted : World :=
  engine.carryOut (engine.carryOut world (.apply (suitors false))) (.apply (suitors true))

/-- Both sides look, and then each runs to its end. -/
def crossing : List Bool :=
  List.replicate 2 false ++ List.replicate 2 true ++ List.replicate 16 false ++
    List.replicate 16 true

/-- The two suitors ask for one user whom nobody has added. -/
theorem courted_contested : courted.IsContested suitors .user "alice" where
  faultless := rfl
  apart := by decide
  named := nofun
  ofKind := fun _ => rfl
  ofName := fun _ => rfl
  stored := by decide +kernel
  valid := by decide +kernel
  bare := by
    intro side
    exact ⟨rfl, rfl, rfl⟩
  absent := by
    intro held
    cases held
  free := by
    intro other stored _ _
    have none : ∀ record ∈ courted.store.list, record.isClaimed = false := by decide +kernel
    exact none other (courted.store.mem_list_iff.2 stored)

end Sample

/-- When both sides have looked before either has added the user, both add it and take the lock. -/
theorem Engine.race_can_have_two_winners :
    ¬ ∀ (engine : Engine) (world : World) (entrants : Bool → Record) (kind : Kind) (name : String),
      world.IsContested entrants kind name → ∀ turns,
      (∀ side, (((engine.race world entrants).play turns).programs side).isDone = true) →
      ¬ ∀ side, ((engine.race world entrants).play turns).world.claims (entrants side) = true := by
  intro always
  apply always Sample.engine Sample.courted Sample.suitors .user "alice" Sample.courted_contested
    Sample.crossing
  · decide +kernel
  · decide +kernel

/-- The sides that both win have overlapped. -/
theorem Engine.race_has_one_winner_of_crossing :
    Sample.courted.IsContested Sample.suitors .user "alice" ∧
      (∀ side, ((Sample.engine.race Sample.courted Sample.suitors).play Sample.crossing).world.claims
        (Sample.suitors side) = true) ∧
      Kind.user ≠ .bucket ∧
      (Sample.engine.race Sample.courted Sample.suitors).Overlaps .user "alice" Sample.crossing := by
  have both : ∀ side,
      ((Sample.engine.race Sample.courted Sample.suitors).play Sample.crossing).world.claims
        (Sample.suitors side) = true := by decide +kernel
  exact ⟨Sample.courted_contested, both,
    Sample.engine.race_has_one_winner _ _ _ _ Sample.courted_contested Sample.crossing both⟩

end Steward
