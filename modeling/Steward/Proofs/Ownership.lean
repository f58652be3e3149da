/-
This file shows that no resource is owned by two records.
A claim is made only on a resource that was not there or that nobody claims, and a claimed
resource stays there until its record is erased. Only a user can break this, by giving a record
that owns one resource the name of another.
-/

import Steward.Proofs.Advance
import Steward.Proofs.Presence
import Steward.Proofs.Runs

namespace Steward

open Pass

/-- No two records carry the lock for one bucket, user or policy. -/
def World.IsExclusive (world : World) : Prop :=
  ∀ first second, world.store.get? first.id = some first →
    world.store.get? second.id = some second →
    first.isClaimed = true → second.isClaimed = true → first.kind ≠ .serviceAccount →
    first.kind = second.kind → first.targetName = second.targetName → first = second

/-- A record owns its resource alone, and the resource is there. -/
def World.Sole (world : World) (record : Record) : Prop :=
  world.plane.Holds record.kind record.targetName ∧
    ∀ other, world.store.get? other.id = some other → other.isRivalOf record = false

/-- In a calm world, every record that carries the lock owns its resource alone. -/
structure World.IsGuarded (world : World) : Prop where
  calm : world.plane.IsCalm
  sole : ∀ record, world.store.get? record.id = some record → record.isClaimed = true →
    record.kind ≠ .serviceAccount → world.Sole record

theorem Record.isRivalOf_iff {other record : Record} :
    other.isRivalOf record = true ↔ other.id ≠ record.id ∧ other.kind = record.kind ∧
      other.targetName = record.targetName ∧ other.isClaimed = true := by
  simp only [isRivalOf, Bool.and_eq_true, decide_eq_true_eq, and_assoc]

namespace World

variable {world later : World} {record written : Record} {plane : Plane}

/-- To be a rival of a record that is claimed is mutual. -/
theorem not_isRivalOf {other : Record}
    (apart : record.isClaimed = true → other.isRivalOf record = false)
    (claimed : other.isClaimed = true) : record.isRivalOf other = false := by
  rw [Bool.eq_false_iff]
  intro rival
  obtain ⟨distinct, kind, name, locked⟩ := Record.isRivalOf_iff.1 rival
  have back : other.isRivalOf record = true :=
    Record.isRivalOf_iff.2 ⟨distinct.symm, kind.symm, name.symm, claimed⟩
  rw [apart locked] at back
  cases back

/-- Where each claim is the only one on a resource that is there, no two records claim the same. -/
theorem IsGuarded.isExclusive (guarded : world.IsGuarded) : world.IsExclusive := by
  intro first second firstStored secondStored firstClaimed secondClaimed named kind name
  obtain ⟨-, alone⟩ := guarded.sole first firstStored firstClaimed named
  by_cases same : second.id = first.id
  · rw [same] at secondStored
    exact Option.some.inj (firstStored.symm.trans secondStored)
  · have rival : second.isRivalOf first = true :=
      Record.isRivalOf_iff.2 ⟨same, kind.symm, name.symm, secondClaimed⟩
    rw [alone second secondStored] at rival
    cases rival

/-- A record may be written that, if it carries the lock, owns its resource alone. -/
theorem IsGuarded.of_writes (guarded : world.IsGuarded) (calm : later.plane.IsCalm)
    (keeps : world.plane.Keeps later.plane) (wrote : world.store.Writes record later.store)
    (owned : record.isClaimed = true → record.kind ≠ .serviceAccount →
      later.plane.Holds record.kind record.targetName ∧
        ∀ other, world.store.get? other.id = some other → other.isRivalOf record = false) :
    later.IsGuarded := by
  refine ⟨calm, fun current stored claimed named => ?_⟩
  rw [wrote.get?] at stored
  split at stored
  · cases stored
    obtain ⟨held, alone⟩ := owned claimed named
    refine ⟨held, fun other present => ?_⟩
    rw [wrote.get?] at present
    split at present
    · rename_i same
      simp [Record.isRivalOf, same]
    · exact alone other present
  · obtain ⟨held, alone⟩ := guarded.sole current stored claimed named
    refine ⟨keeps _ _ held, fun other present => ?_⟩
    rw [wrote.get?] at present
    split at present
    · cases present
      by_cases kind : record.kind = current.kind
      · refine not_isRivalOf (fun locked => ?_) claimed
        exact (owned locked (kind ▸ named)).2 current stored
      · simp [Record.isRivalOf, kind]
    · exact alone other present

/-- A stored record may be written again with its identity, its spec and its lock. -/
theorem IsGuarded.of_rewrites (guarded : world.IsGuarded)
    (stored : world.store.get? record.id = some record) (calm : later.plane.IsCalm)
    (keeps : world.plane.Keeps later.plane) (wrote : world.store.Writes written later.store)
    (same : written.id = record.id) (spec : written.spec = record.spec)
    (lock : written.isClaimed = record.isClaimed) : later.IsGuarded := by
  have kind : written.kind = record.kind := by
    rw [Record.kind, spec, Record.kind]
  have name : written.targetName = record.targetName := by
    rw [Record.targetName, spec, same, Record.targetName]
  apply guarded.of_writes calm keeps wrote
  intro claimed named
  rw [kind] at named
  rw [lock] at claimed
  obtain ⟨held, alone⟩ := guarded.sole record stored claimed named
  rw [kind, name]
  refine ⟨keeps _ _ held, fun other present => ?_⟩
  rw [Record.isRivalOf, same, kind, name]
  exact alone other present

/-- A record may be erased if no other record loses its resource. -/
theorem IsGuarded.of_erases (guarded : world.IsGuarded) (calm : later.plane.IsCalm)
    (erased : ∀ id, later.store.get? id = if id = record.id then none else world.store.get? id)
    (keeps : ∀ other, world.store.get? other.id = some other → other.id ≠ record.id →
      other.isClaimed = true → world.plane.Holds other.kind other.targetName →
      later.plane.Holds other.kind other.targetName) : later.IsGuarded := by
  refine ⟨calm, fun current stored claimed named => ?_⟩
  rw [erased] at stored
  split at stored
  · cases stored
  · rename_i apart
    obtain ⟨held, alone⟩ := guarded.sole current stored claimed named
    refine ⟨keeps current stored apart claimed held, fun other present => ?_⟩
    rw [erased] at present
    split at present
    · cases present
    · exact alone other present

/-- Nothing is claimed at the start. -/
theorem fresh_guarded (capacity : Nat) (clock : Supply Timestamp) (secrets : Supply String) :
    (fresh capacity clock secrets).IsGuarded := by
  refine ⟨rfl, fun record stored => ?_⟩
  have absent : (fresh capacity clock secrets).store.get? record.id = none :=
    Table.get?_empty record.id
  cases absent.symm.trans stored

/-- To take away the resource that a record owns leaves those of other claims there. -/
theorem IsGuarded.apart (guarded : world.IsGuarded)
    (stored : world.store.get? record.id = some record) (claimed : record.isClaimed = true)
    (keeps : world.plane.KeepsBut record plane) {other : Record}
    (present : world.store.get? other.id = some other) (distinct : other.id ≠ record.id)
    (locked : other.isClaimed = true) (held : world.plane.Holds other.kind other.targetName) :
    plane.Holds other.kind other.targetName := by
  apply keeps _ _ held
  intro kind name
  have named : other.kind ≠ .serviceAccount := by
    intro account
    rw [account] at held
    exact held
  obtain ⟨-, alone⟩ := guarded.sole record stored claimed (kind ▸ named)
  have rival : other.isRivalOf record = true :=
    Record.isRivalOf_iff.2 ⟨distinct, kind, name, locked⟩
  rw [alone other present] at rival
  cases rival

end World

namespace Engine

variable {engine : Engine} {world : World} {record : Record}

/-- A failure that is reported leaves every claim as it is. -/
theorem reportError_guards (guarded : world.IsGuarded) (error : PassError)
    {bad : PassError → World → Prop} :
    Ends (reportError record error) world (fun _ later => later.IsGuarded) bad := by
  apply ends_reportError
  · intro current status clock stored
    rw [← world.store.id_of_get? stored] at stored
    exact guarded.of_rewrites stored guarded.calm (Plane.Keeps.refl _) (Store.writes_put _ _)
      rfl rfl rfl
  · intro clock
    exact ⟨guarded.calm, guarded.sole⟩

/-- A claim of a resource that nobody claims breaks no other. -/
theorem claim_guards {later : World} {creation : Creation} {seen : Option Observed}
    {ready synced last : Timestamp} (guarded : world.IsGuarded)
    (free : record.kind ≠ .serviceAccount →
      ∀ other, world.store.get? other.id = some other → other.isRivalOf record = false)
    (provided : world.plane.Provides record creation later.plane)
    (wrote : world.store.Writes ((record.claimedBy creation).reported seen ready synced last)
      later.store) : later.IsGuarded := by
  apply guarded.of_writes (guarded.calm.of_faults provided.faults) provided.keeps wrote
  intro _ named
  exact ⟨provided.holds named, free named⟩

/-- An update leaves every claim exclusive. -/
theorem update_guards (guarded : world.IsGuarded)
    (stored : world.store.get? record.id = some record) {observed : Observed}
    {drifts : List Drift} (sight : world.plane.sight record = .ok (some observed))
    (differs : (engine.clientOf record.kind).diff record observed = .ok drifts)
    (drifted : drifts ≠ []) :
    Ends (update (engine.clientOf record.kind) record observed drifts) world
      (fun _ later => later.IsGuarded) fun _ later => later.IsGuarded := by
  have effect := update_pass_effect guarded.calm stored sight differs drifted
  apply effect.mono
  · intro outcome later ended
    obtain ⟨-, amended, seen, ready, synced, last, wrote⟩ := ended
    exact guarded.of_rewrites stored (guarded.calm.of_faults amended.faults) amended.keeps wrote
      rfl rfl rfl
  · intro error _ ended
    obtain ⟨⟨mutations, rfl⟩, -⟩ := ended
    exact ⟨guarded.calm, guarded.sole⟩

/-- A create of what was absent leaves every claim exclusive, however it ends. -/
theorem create_guards (guarded : world.IsGuarded)
    (stored : world.store.get? record.id = some record)
    (sight : world.plane.sight record = .ok none) :
    Ends (create (engine.clientOf record.kind) record) world
      (fun _ later => later.IsGuarded) fun _ later => later.IsGuarded := by
  apply (create_pass_effect guarded.calm stored sight).mono
  · intro outcome later ended
    obtain ⟨-, -, creation, ready, synced, last, provided, wrote⟩ := ended
    refine claim_guards guarded (fun named other present => ?_) provided wrote
    -- Whoever claimed the resource would have kept it there.
    rw [Bool.eq_false_iff]
    intro rival
    obtain ⟨-, kind, name, locked⟩ := Record.isRivalOf_iff.1 rival
    obtain ⟨held, -⟩ := guarded.sole other present locked (kind ▸ named)
    rw [kind, name] at held
    exact Plane.not_holds_of_sight sight held
  · intro error later ended
    obtain ⟨-, ⟨mutations, same⟩, wrote⟩ := ended
    have still : later.plane.IsCalm := by
      rw [same]
      exact guarded.calm
    have keeps : world.plane.Keeps later.plane := by
      rw [same]
      exact Plane.Keeps.refl world.plane
    exact guarded.of_rewrites stored still keeps wrote rfl rfl record.isClaimed_released

/-- A create that is gone on with leaves every claim exclusive, however it ends. -/
theorem resume_guards (guarded : world.IsGuarded)
    (stored : world.store.get? record.id = some record) {observed : Observed}
    (sight : world.plane.sight record = .ok (some observed)) :
    Ends (resume (engine.clientOf record.kind) record) world
      (fun _ later => later.IsGuarded) fun _ later => later.IsGuarded := by
  apply (resume_effect guarded.calm stored sight).mono
  · intro outcome later ended
    obtain ⟨-, alone, creation, ready, synced, last, provided, wrote⟩ := ended
    refine claim_guards guarded (fun _ other present => ?_) provided wrote
    have member := world.store.mem_list_iff.2 present
    exact Bool.eq_false_iff.2 (List.any_eq_false.1 alone other member)
  · intro error later ended
    obtain ⟨⟨mutations, same⟩, wrote⟩ := ended
    have still : later.plane.IsCalm := by
      rw [same]
      exact guarded.calm
    have keeps : world.plane.Keeps later.plane := by
      rw [same]
      exact Plane.Keeps.refl world.plane
    rcases wrote with wrote | wrote
    · exact guarded.of_rewrites stored still keeps wrote rfl rfl rfl
    · exact guarded.of_rewrites stored still keeps wrote rfl rfl record.isClaimed_released

/-- After the resource of a record is gone its record may be erased. -/
theorem erase_guards (guarded : world.IsGuarded)
    (stored : world.store.get? record.id = some record) (claimed : record.isClaimed = true)
    {later : World} (keeps : world.KeepsBut record later) :
    Ends (do Pass.erase record.id; return Outcome.deleted) later
      (fun _ last => last.IsGuarded) fun _ last => last.IsGuarded := by
  obtain ⟨plane, rfl, faults, but⟩ := keeps
  simp only [ends_bind, ends_erase, stored]
  refine guarded.of_erases (guarded.calm.of_faults faults) (world.store.get?_without record.id) ?_
  intro other present distinct locked held
  exact guarded.apart stored claimed but present distinct locked held

/-- A record that is to be deleted gives up its claim only when it is erased, and no other loses
its resource by that. -/
theorem delete_guards (guarded : world.IsGuarded)
    (stored : world.store.get? record.id = some record) (claimed : record.isClaimed = true) :
    Ends (delete (engine.clientOf record.kind) record) world
      (fun _ later => later.IsGuarded) fun _ later => later.IsGuarded := by
  refine delete_ends stored fun status clock => ?_
  let marked : Record := { record with status }
  let middle : World := { world with store := world.store.put marked, clock }
  have wrote : world.store.Writes marked middle.store := Store.writes_put _ _
  have present : middle.store.get? marked.id = some marked := wrote.get?_self
  have fine : middle.IsGuarded :=
    guarded.of_rewrites stored guarded.calm (Plane.Keeps.refl _) wrote rfl rfl rfl
  apply (engine.delete_effect fine.calm false).mono
  · intro _ later keeps
    exact erase_guards fine present claimed keeps
  · intro error later keeps
    split
    · exact erase_guards fine present claimed keeps.keepsBut
    · obtain ⟨plane, rfl, faults, kept⟩ := keeps
      refine fine.of_rewrites present (fine.calm.of_faults faults) kept ?_ rfl rfl rfl
      exact Store.writes_of_get? present

/-- Whatever step a pass takes with the record it has read, every claim stays exclusive. -/
theorem advance_guards (guarded : world.IsGuarded)
    (stored : world.store.get? record.id = some record) :
    Ends (engine.advance record) world
      (fun _ later => later.IsGuarded) fun _ later => later.IsGuarded := by
  cases deleting : record.isDeleting with
  | false =>
      refine advance_ends deleting (fun ready => ?_) fun _ => guarded
      refine drive_ends ready guarded.calm ?_ ?_ ?_ ?_ fun _ _ => guarded
      · intro absent
        exact create_guards guarded stored absent
      · intro observed sight _ _
        exact resume_guards guarded stored sight
      · intro observed _ _ _
        apply ends_reportSuccess stored
        intro ready synced last clock
        exact guarded.of_rewrites stored guarded.calm (Plane.Keeps.refl _) (Store.writes_put _ _)
          rfl rfl rfl
      · intro observed drifts sight _ differs drifted
        exact update_guards guarded stored sight differs drifted
  | true =>
      refine advance_ends_of_deleting deleting (fun _ => ?_) (fun claimed => ?_) fun _ => guarded
      · simp only [ends_bind, ends_erase, stored]
        exact guarded.of_erases guarded.calm (world.store.get?_without record.id)
          fun other _ _ _ held => held
      · exact delete_guards guarded stored claimed

/-- A pass keeps every claim exclusive, however it ends. -/
theorem pass_guards (engine : Engine) (guarded : world.IsGuarded) (id : RecordId) :
    ((engine.pass id).after world).IsGuarded := by
  apply Ends.after_of_both
  cases stored : world.store.get? id with
  | none =>
      rw [pass, ends_bind, ends_readRecord, stored]
      exact guarded
  | some record =>
      have named := world.store.id_of_get? stored
      subst named
      rw [ends_pass stored]
      apply (advance_guards guarded stored).mono (fun _ _ fine => fine)
      intro error later fine
      exact reportError_guards fine error

end Engine

/-- A record that carries the lock is not given a resource that it does not own: it keeps its kind
and its name, or it becomes a service account, or the resource it is given is there and nobody
else claims it. -/
def Move.KeepsClaims (world : World) : Move → Prop
  | .apply record => ∀ existing, world.store.get? record.id = some existing →
      existing.isClaimed = true → record.kind ≠ .serviceAccount →
      (record.kind = existing.kind ∧ record.targetName = existing.targetName) ∨ world.Sole record
  | _ => True

namespace Engine

variable {world : World} {record : Record}

/-- To declare a record keeps every claim exclusive, unless it moves a claim to a resource that
the record does not own. -/
theorem apply_guards (engine : Engine) (guarded : world.IsGuarded)
    (regular : (Move.apply record).IsRegular world)
    (keeps : (Move.apply record).KeepsClaims world) :
    (engine.carryOut world (.apply record)).IsGuarded := by
  have calm : (engine.carryOut world (.apply record)).plane.IsCalm := guarded.calm
  rcases world.store.apply_writes record with ⟨absent, wrote⟩ | ⟨existing, generation, stored, wrote⟩
  · apply guarded.of_writes calm (Plane.Keeps.refl _) wrote
    intro claimed
    change record.isClaimed = true at claimed
    rw [Record.isClaimed, (regular absent).1] at claimed
    cases claimed
  · apply guarded.of_writes calm (Plane.Keeps.refl _) wrote
    intro claimed named
    have same := world.store.id_of_get? stored
    have name : record.targetName =
        Record.targetName { existing with
          spec := record.spec, credentialsRef := record.credentialsRef, generation } := by
      rw [Record.targetName, Record.targetName, same]
    have sole : world.Sole record := by
      rcases keeps existing stored claimed named with ⟨kind, target⟩ | sole
      · rw [← same] at stored
        obtain ⟨held, alone⟩ := guarded.sole existing stored claimed (kind ▸ named)
        refine ⟨by rwa [kind, target], fun other present => ?_⟩
        rw [Record.isRivalOf, kind, target, ← same]
        exact alone other present
      · exact sole
    refine ⟨name ▸ sole.1, fun other present => ?_⟩
    have alone := sole.2 other present
    rw [Record.isRivalOf, name, ← same] at alone
    exact alone

/-- To ask for a deletion leaves every claim exclusive. -/
theorem requestDeletion_guards (engine : Engine) (guarded : world.IsGuarded) (id : RecordId)
    (now : Timestamp) : (engine.carryOut world (.requestDeletion id now)).IsGuarded := by
  have calm : (engine.carryOut world (.requestDeletion id now)).plane.IsCalm := guarded.calm
  rcases world.store.requestDeletion_writes id now with same | ⟨record, stored, wrote⟩
  · rw [carryOut, same]
    exact guarded
  · exact guarded.of_rewrites stored calm (Plane.Keeps.refl _) wrote rfl rfl rfl

/-- Each move leaves every claim exclusive, unless it moves a claim to a resource that the record
does not own. -/
theorem carryOut_guards (engine : Engine) (guarded : world.IsGuarded) (move : Move)
    (regular : move.IsRegular world) (keeps : move.KeepsClaims world) :
    (engine.carryOut world move).IsGuarded := by
  cases move with
  | apply record => exact engine.apply_guards guarded regular keeps
  | requestDeletion id now => exact engine.requestDeletion_guards guarded id now
  | reconcile id cancelled =>
      cases cancelled with
      | false => exact engine.pass_guards guarded id
      | true => exact guarded
  | disturb change => exact regular.elim

end Engine

namespace Sample

/-- The settled sample world after another bucket has been declared and created. -/
def doubled : World :=
  engine.carryOut (engine.carryOut settled (.apply (bucket "second" none)))
    (.reconcile (.plain "second") false)

/-- The second bucket has then been given the name of the first. -/
def contested : World :=
  engine.carryOut doubled (.apply (bucket "second" (some "first")))

/-- Another record has been declared for the first bucket, and its pass has found that taken. -/
def refused : World :=
  engine.carryOut (engine.carryOut settled (.apply (bucket "second" (some "first"))))
    (.reconcile (.plain "second") false)

end Sample

namespace Engine

/-- A user can move a claim onto a resource that another record claims. -/
theorem claims_can_collide :
    ¬ ∀ (engine : Engine) (capacity : Nat) (clock : Supply Timestamp) (secrets : Supply String)
      (world : World),
      engine.Reaches (fun world move => move.IsRegular world) (.fresh capacity clock secrets) world →
        world.IsExclusive := by
  intro always
  have settled : Sample.engine.Reaches (fun world move => move.IsRegular world) Sample.world
      Sample.settled :=
    .move (.reconcile _ _) (.move (.apply _) .first fun _ => ⟨rfl, rfl⟩) trivial
  have doubled : Sample.engine.Reaches (fun world move => move.IsRegular world) Sample.world
      Sample.doubled :=
    .move (.reconcile _ _) (.move (.apply _) settled fun _ => ⟨rfl, rfl⟩) trivial
  have contested : Sample.engine.Reaches (fun world move => move.IsRegular world) Sample.world
      Sample.contested :=
    .move (.apply _) doubled fun _ => ⟨rfl, rfl⟩
  let first := (Sample.contested.store.get? (.plain "first")).getD default
  let second := (Sample.contested.store.get? (.plain "second")).getD default
  have same : first = second :=
    always Sample.engine _ _ _ Sample.contested contested first second (by decide +kernel)
      (by decide +kernel) (by decide +kernel) (by decide +kernel) (by decide +kernel)
      (by decide +kernel) (by decide +kernel)
  have apart : first.id ≠ second.id := by decide +kernel
  exact apart (congrArg Record.id same)

/-- In whatever order users and passes act, no resource is claimed twice, as long as no record
that carries the lock is given a resource that it does not own. -/
theorem claims_are_exclusive (engine : Engine) (capacity : Nat) (clock : Supply Timestamp)
    (secrets : Supply String) (world : World)
    (reached : engine.Reaches (fun world move => move.IsRegular world ∧ move.KeepsClaims world)
      (.fresh capacity clock secrets) world) : world.IsExclusive := by
  have guarded : world.IsGuarded := by
    apply reached.keeps (World.fresh_guarded capacity clock secrets)
    rintro world move ⟨regular, keeps⟩ guarded
    exact engine.carryOut_guards guarded move regular keeps
  exact guarded.isExclusive

/-- A claim that was refused leaves the first one alone. -/
theorem claims_are_exclusive_of_refused :
    Sample.engine.Reaches (fun world move => move.IsRegular world ∧ move.KeepsClaims world)
        Sample.world Sample.refused ∧
      Sample.refused.store.list.map (·.isClaimed) = [true, false] ∧
      Sample.refused.store.list.map (·.targetName) = ["first", "first"] ∧
      Sample.refused.IsExclusive := by
  have absent : Sample.world.store.get? (.plain "first") = none := by decide +kernel
  have free : Sample.settled.store.get? (.plain "second") = none := by decide +kernel
  have settled : Sample.engine.Reaches
      (fun world move => move.IsRegular world ∧ move.KeepsClaims world) Sample.world
      Sample.settled := by
    refine .move (.reconcile _ _) (.move (.apply _) .first ⟨fun _ => ⟨rfl, rfl⟩, ?_⟩)
      ⟨trivial, trivial⟩
    intro existing stored
    cases absent.symm.trans stored
  have refused : Sample.engine.Reaches
      (fun world move => move.IsRegular world ∧ move.KeepsClaims world) Sample.world
      Sample.refused := by
    refine .move (.reconcile _ _) (.move (.apply _) settled ⟨fun _ => ⟨rfl, rfl⟩, ?_⟩)
      ⟨trivial, trivial⟩
    intro existing stored
    cases free.symm.trans stored
  exact ⟨refused, by decide +kernel, by decide +kernel,
    claims_are_exclusive Sample.engine _ _ _ Sample.refused refused⟩

end Engine

end Steward
