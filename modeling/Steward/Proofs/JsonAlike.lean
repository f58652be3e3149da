/-
This file says when two JSON values are the same but for the order of members, and shows that they
are read as one value just then.
-/

import Mathlib.Data.List.Perm.Basic
import Steward.Proofs.Json

namespace Steward.Json

mutual

/-- Two values are the same when the members of objects have no order, while the items of arrays
have one. -/
def Alike : Value → Value → Prop
  | .null, .null => True
  | .bool first, .bool second => first = second
  | .number first, .number second => first = second
  | .string first, .string second => first = second
  | .array items, .array others => AlikeItems items others
  | .object members, .object others => AlikeMembers members others
  | _, _ => False

def AlikeItems : List Value → List Value → Prop
  | [], [] => True
  | item :: items, other :: others => Alike item other ∧ AlikeItems items others
  | _, _ => False

/-- Each member has one of its name on the other side that is alike, and none is left over there. -/
def AlikeMembers : List (String × Value) → List (String × Value) → Prop
  | [], others => others = []
  | (name, value) :: members, others => ∃ before other after,
      others = before ++ (name, other) :: after ∧ Alike value other ∧
        AlikeMembers members (before ++ after)

end

/-- The texts of a value, with the members of its objects in any order. -/
def Renders (value : Value) (text : List Char) : Prop :=
  ∃ ordered, Alike value ordered ∧ Lays (tokens ordered) text

section Members

variable {name : String} {value : Value} {kept members others : List (String × Value)}

/-- A fresh name adds one entry, wherever its place is. -/
theorem insertEntries_perm (fresh : name ∉ kept.map Prod.fst) :
    (Table.insertEntries name value kept).Perm ((name, value) :: kept) := by
  induction kept with
  | nil => exact .refl _
  | cons first rest inductionHypothesis =>
      rw [List.map_cons, List.mem_cons, not_or] at fresh
      cases order : compare name first.1 with
      | lt => simp only [Table.insertEntries, order, List.Perm.refl]
      | eq => exact absurd (Std.LawfulEqOrd.eq_of_compare order) fresh.1
      | gt =>
          simp only [Table.insertEntries, order]
          exact ((inductionHypothesis fresh.2).cons first).trans (.swap _ _ _)

/-- Members with names of their own are put in one by one, and none gets lost. -/
theorem foldl_insertEntries_perm (distinct : ((kept ++ members).map Prod.fst).Nodup) :
    (members.foldl (fun kept member => Table.insertEntries member.1 member.2 kept) kept).Perm
      (kept ++ members) := by
  induction members generalizing kept with
  | nil => simp
  | cons member members inductionHypothesis =>
      have moved : (kept ++ member :: members).Perm (member :: kept ++ members) :=
        List.perm_middle
      have apart := (moved.map Prod.fst).nodup_iff.1 distinct
      rw [List.cons_append, List.map_cons, List.map_append] at apart
      have fresh : member.1 ∉ kept.map Prod.fst := fun inside =>
        (List.nodup_cons.1 apart).1 (List.mem_append_left _ inside)
      have inserted : (Table.insertEntries member.1 member.2 kept).Perm (member :: kept) :=
        insertEntries_perm fresh
      have whole := inserted.append_right members
      refine (inductionHypothesis ?_).trans (whole.trans moved.symm)
      exact (whole.map Prod.fst).nodup_iff.2 ((moved.map Prod.fst).nodup_iff.1 distinct)

/-- Objects whose members have names of their own are the same just when their members are. -/
theorem ofMembers_eq_iff (distinct : (members.map Prod.fst).Nodup)
    (apart : (others.map Prod.fst).Nodup) :
    Value.ofMembers members = .ofMembers others ↔ members.Perm others := by
  have first := foldl_insertEntries_perm (show (([] ++ members).map Prod.fst).Nodup from distinct)
  have second := foldl_insertEntries_perm (show (([] ++ others).map Prod.fst).Nodup from apart)
  constructor
  · intro same
    rw [Value.object.inj same] at first
    exact first.symm.trans second
  · intro moved
    refine congrArg Value.object (Table.entries_eq_of_same_members
      (ascending_foldl_insertEntries List.Pairwise.nil)
      (ascending_foldl_insertEntries List.Pairwise.nil) fun entry => ?_)
    exact (first.trans (moved.trans second.symm)).mem_iff

end Members

section Arranged

/-- Members are arranged each for itself. -/
theorem arrangedMembers_eq_map (members : List (String × Value)) :
    arrangedMembers members = members.map fun member => (member.1, arranged member.2) := by
  induction members with
  | nil => rfl
  | cons member members inductionHypothesis =>
      rw [arrangedMembers, inductionHypothesis, List.map_cons]

theorem names_arrangedMembers (members : List (String × Value)) :
    (arrangedMembers members).map Prod.fst = members.map Prod.fst := by
  rw [arrangedMembers_eq_map, List.map_map]
  rfl

/-- Members can be read when the value of each can. -/
theorem areLegibleMembers_iff {depth : Nat} {members : List (String × Value)} :
    AreLegibleMembers depth members ↔ ∀ member ∈ members, IsLegible depth member.2 := by
  induction members with
  | nil => simp [AreLegibleMembers]
  | cons member members inductionHypothesis => simp [AreLegibleMembers, inductionHypothesis]

/-- A member may be taken out of its place before the rest is arranged. -/
theorem arrangedMembers_perm_cons (before after : List (String × Value)) (name : String)
    (value : Value) : (arrangedMembers (before ++ (name, value) :: after)).Perm
      ((name, arranged value) :: arrangedMembers (before ++ after)) := by
  simp only [arrangedMembers_eq_map, List.map_append, List.map_cons]
  exact List.perm_middle

/-- An arranged member was a member before, in some place. -/
theorem exists_of_mem_arrangedMembers {name : String} {value : Value}
    {members : List (String × Value)} (inside : (name, value) ∈ arrangedMembers members) :
    ∃ before other after, members = before ++ (name, other) :: after ∧ arranged other = value := by
  rw [arrangedMembers_eq_map] at inside
  obtain ⟨⟨key, other⟩, member, same⟩ := List.mem_map.1 inside
  obtain ⟨rfl, rfl⟩ := Prod.mk.inj same
  obtain ⟨before, after, split⟩ := List.append_of_mem member
  exact ⟨before, other, after, split, rfl⟩

mutual

/-- Two values come to the same when they are arranged, just when they are alike. -/
theorem arranged_eq_iff (first second : Value) {depth limit : Nat}
    (legible : IsLegible depth first) (readable : IsLegible limit second) :
    arranged first = arranged second ↔ Alike first second := by
  match first with
  | .null | .bool _ | .number _ | .string _ =>
      cases second <;> simp [arranged, Alike, Value.ofMembers]
  | .array items =>
      cases second with
      | array others =>
          rw [arranged, arranged, Value.array.injEq, Alike]
          exact arrangedItems_eq_iff items others legible.2 readable.2
      | _ => simp [arranged, Alike, Value.ofMembers]
  | .object members =>
      cases second with
      | object others =>
          obtain ⟨-, distinct, inner⟩ := legible
          obtain ⟨-, apart, outer⟩ := readable
          rw [← names_arrangedMembers] at distinct apart
          rw [arranged, arranged, ofMembers_eq_iff distinct apart, Alike]
          exact arrangedMembers_perm_iff members others inner (areLegibleMembers_iff.1 outer)
      | _ => simp [arranged, Alike, Value.ofMembers]

/-- Items are the same once arranged if and only if they are alike one by one. -/
theorem arrangedItems_eq_iff (items others : List Value) {depth limit : Nat}
    (legible : AreLegible depth items) (readable : AreLegible limit others) :
    arrangedItems items = arrangedItems others ↔ AlikeItems items others := by
  match items, others with
  | [], [] => simp [arrangedItems, AlikeItems]
  | [], _ :: _ => simp [arrangedItems, AlikeItems]
  | _ :: _, [] => simp [arrangedItems, AlikeItems]
  | item :: items, other :: others =>
      rw [arrangedItems, arrangedItems, List.cons.injEq, AlikeItems,
        arranged_eq_iff item other legible.1 readable.1,
        arrangedItems_eq_iff items others legible.2 readable.2]

/-- Members are the same once arranged, in any order, if and only if they are alike. -/
theorem arrangedMembers_perm_iff (members others : List (String × Value)) {depth limit : Nat}
    (legible : AreLegibleMembers depth members)
    (readable : ∀ other ∈ others, IsLegible limit other.2) :
    (arrangedMembers members).Perm (arrangedMembers others) ↔ AlikeMembers members others := by
  match members with
  | [] =>
      rw [arrangedMembers, List.nil_perm, arrangedMembers_eq_map, List.map_eq_nil_iff,
        AlikeMembers]
  | (name, value) :: members =>
      have taken : ∀ {before other after}, others = before ++ (name, other) :: after →
          (arranged value = arranged other ↔ Alike value other) ∧
            ((arrangedMembers members).Perm (arrangedMembers (before ++ after)) ↔
              AlikeMembers members (before ++ after)) := by
        rintro before other after rfl
        have left : ∀ member ∈ before ++ after, IsLegible limit member.2 := by
          intro member inside
          rcases List.mem_append.1 inside with early | late
          · exact readable member (by simp [early])
          · exact readable member (by simp [late])
        exact ⟨arranged_eq_iff value other legible.1 (readable (name, other) (by simp)),
          arrangedMembers_perm_iff members (before ++ after) legible.2 left⟩
      rw [arrangedMembers, AlikeMembers]
      constructor
      · intro moved
        obtain ⟨before, other, after, split, same⟩ :=
          exists_of_mem_arrangedMembers (moved.mem_iff.1 List.mem_cons_self)
        have rest := moved.trans (split ▸ arrangedMembers_perm_cons before after name other)
        rw [same] at rest
        exact ⟨before, other, after, split, (taken split).1.1 same.symm,
          (taken split).2.1 rest.cons_inv⟩
      · rintro ⟨before, other, after, split, alike, rest⟩
        rw [(taken split).1.2 alike, split]
        exact (((taken split).2.2 rest).cons _).trans
          (arrangedMembers_perm_cons before after name other).symm

end

/-- Members that are alike have the same names. -/
theorem names_of_alikeMembers {members others : List (String × Value)}
    (alike : AlikeMembers members others) :
    (members.map Prod.fst).Perm (others.map Prod.fst) := by
  induction members generalizing others with
  | nil =>
      rw [AlikeMembers] at alike
      rw [alike]
  | cons member members inductionHypothesis =>
      rw [AlikeMembers] at alike
      obtain ⟨before, other, after, rfl, -, rest⟩ := alike
      have later := inductionHypothesis rest
      rw [List.map_append] at later ⊢
      exact (later.cons member.1).trans List.perm_middle.symm

mutual

/-- A value can be read if one that it is alike to can. -/
theorem Alike.isLegible (first second : Value) {depth : Nat} (alike : Alike first second)
    (legible : IsLegible depth first) : IsLegible depth second := by
  match first, second with
  | .null, .null | .bool _, .bool _ | .string _, .string _ => trivial
  | .number number, .number other =>
      obtain rfl : number = other := alike
      exact legible
  | .array items, .array others =>
      exact ⟨legible.1, AlikeItems.areLegible items others alike legible.2⟩
  | .object members, .object others =>
      refine ⟨legible.1, ?_, AlikeMembers.areLegible members others alike legible.2.2⟩
      exact (names_of_alikeMembers alike).nodup_iff.1 legible.2.1

/-- Items can be read if others can that are like them. -/
theorem AlikeItems.areLegible (items others : List Value) {depth : Nat}
    (alike : AlikeItems items others) (legible : AreLegible depth items) :
    AreLegible depth others := by
  match items, others with
  | [], [] => trivial
  | item :: items, other :: others =>
      exact ⟨Alike.isLegible item other alike.1 legible.1,
        AlikeItems.areLegible items others alike.2 legible.2⟩

/-- Members can be read if others can that are like them. -/
theorem AlikeMembers.areLegible (members others : List (String × Value)) {depth : Nat}
    (alike : AlikeMembers members others) (legible : AreLegibleMembers depth members) :
    AreLegibleMembers depth others := by
  match members with
  | [] =>
      rw [AlikeMembers] at alike
      rw [alike]
      trivial
  | (name, value) :: members =>
      rw [AlikeMembers] at alike
      obtain ⟨before, other, after, rfl, first, rest⟩ := alike
      have one := Alike.isLegible value other first legible.1
      have others := AlikeMembers.areLegible members (before ++ after) rest legible.2
      rw [areLegibleMembers_iff] at others ⊢
      intro member inside
      rcases List.mem_append.1 inside with early | late
      · exact others member (List.mem_append_left _ early)
      · rcases List.mem_cons.1 late with rfl | last
        · exact one
        · exact others member (List.mem_append_right _ last)

end

theorem renders_render {value : Value} {depth : Nat} (legible : IsLegible depth value) :
    Renders value value.render.toList :=
  ⟨value, (arranged_eq_iff value value legible legible).1 rfl, lays_render value⟩

/-- A value is read from each of its texts, with its members in order. -/
theorem read_of_renders {value : Value} {text : String} (legible : IsLegible nestingLimit value)
    (renders : Renders value text.toList) : read text = .ok (arranged value) := by
  obtain ⟨ordered, alike, lays⟩ := renders
  have readable := Alike.isLegible value ordered alike legible
  rw [(arranged_eq_iff value ordered legible readable).2 alike]
  exact read_of_lays readable lays

end Arranged

end Steward.Json
