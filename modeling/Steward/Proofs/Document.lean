/-
This file shows that what is written as JSON is read back from the document it makes.
The members of an object are found under their names, whatever order they stand in. A member that
was left out is read as the value for which it is left out.
-/

import Steward.Document
import Steward.Proofs.Json

namespace Steward

/-- A look-up among the entries of a table is one in a list of pairs. -/
theorem Table.lookupEntries_eq_lookup {α : Type} (name : String) (entries : List (String × α)) :
    lookupEntries name entries = entries.lookup name := by
  induction entries with
  | nil => rfl
  | cons entry rest inductionHypothesis =>
      obtain ⟨key, value⟩ := entry
      rw [lookupEntries, List.lookup_cons, inductionHypothesis]
      by_cases same : name = key
      · simp [same, Std.ReflCmp.compare_self]
      · have apart : compare name key ≠ .eq := fun equal =>
          same (Std.LawfulEqOrd.eq_of_compare equal)
        have unequal : (name == key) = false := by simpa using same
        simp [unequal]

/-- A table that is put together from its own entries is the same table. -/
theorem Table.ofList_entries {α : Type} (table : Table String α) :
    Table.ofList table.entries = table := by
  have collected : ∀ (entries : List (String × α)) (kept : Table String α),
      (entries.foldl (fun kept entry => kept.insert entry.1 entry.2) kept).entries =
        entries.foldl (fun kept entry => insertEntries entry.1 entry.2 kept) kept.entries := by
    intro entries
    induction entries with
    | nil => exact fun _ => rfl
    | cons entry entries inductionHypothesis => exact fun kept => inductionHypothesis _
  apply ext_entries
  rw [ofList, collected]
  exact Json.foldl_insertEntries_of_ascending table.sorted

namespace Json.Value

/-- The members of an object that are there. -/
def present (members : List (String × Option Value)) : List (String × Value) :=
  members.filterMap fun member => member.2.map fun value => (member.1, value)

variable {name : String} {value : Option Value} {members : List (String × Option Value)}

/-- What is no member is not found among those that are present. -/
theorem lookup_present_of_absent (absent : name ∉ members.map Prod.fst) :
    (present members).lookup name = none := by
  rw [List.lookup_eq_none_iff]
  intro member inside
  obtain ⟨given, listed, same⟩ := List.mem_filterMap.1 inside
  obtain ⟨value, -, rfl⟩ := Option.map_eq_some_iff.1 same
  simp only [bne_iff_ne]
  rintro rfl
  exact absent (List.mem_map_of_mem listed)

/-- Under the name of a member its value is found, if it has one. -/
theorem lookup_present (distinct : (members.map Prod.fst).Nodup)
    (given : (name, value) ∈ members) : (present members).lookup name = value := by
  induction members with
  | nil => cases given
  | cons member members inductionHypothesis =>
      obtain ⟨fresh, others⟩ := List.nodup_cons.1 distinct
      obtain rfl | later := List.mem_cons.1 given
      · cases value with
        | some value => simp [present]
        | none =>
            have absent : (present members).lookup name = none := lookup_present_of_absent fresh
            exact absent
      · obtain ⟨key, written⟩ := member
        have apart : name ≠ key := by
          rintro rfl
          exact fresh (List.mem_map.2 ⟨_, later, rfl⟩)
        have unequal : (name == key) = false := by simpa using apart
        rw [← inductionHypothesis others later]
        cases written with
        | none => rfl
        | some written => simp [present, List.lookup_cons, unequal]

/-- To leave out the members without a value makes no name stand twice. -/
theorem nodup_present (distinct : (members.map Prod.fst).Nodup) :
    ((present members).map Prod.fst).Nodup := by
  have sublist : ((present members).map Prod.fst).Sublist (members.map Prod.fst) := by
    induction members with
    | nil => simp [present]
    | cons member members inductionHypothesis =>
        have tail := inductionHypothesis (List.nodup_cons.1 distinct).2
        obtain ⟨key, written⟩ := member
        cases written with
        | none => exact tail.cons key
        | some written => exact tail.cons_cons key
  exact sublist.nodup distinct

/-- An object can be read if all its members can that are there. -/
theorem fits_ofPresent {depth : Nat} (nested : 1 < depth)
    (fits : ∀ member ∈ members, ∀ value ∈ member.2, Fits (depth - 1) value) :
    Fits depth (.ofPresent members) := by
  apply fits_ofMembers nested
  intro member inside
  obtain ⟨given, listed, same⟩ := List.mem_filterMap.1 inside
  obtain ⟨value, there, rfl⟩ := Option.map_eq_some_iff.1 same
  exact fits given listed value there

/-- Members with names of their own are each found after all have been put in. -/
theorem lookup_foldl_insertEntries {members kept : List (String × Value)}
    (distinct : (members.map Prod.fst).Nodup) :
    (members.foldl (fun kept member => Table.insertEntries member.1 member.2 kept) kept).lookup
      name = (members.lookup name).or (kept.lookup name) := by
  induction members generalizing kept with
  | nil => rfl
  | cons member members inductionHypothesis =>
      obtain ⟨key, value⟩ := member
      obtain ⟨fresh, others⟩ := List.nodup_cons.1 distinct
      rw [List.foldl_cons, inductionHypothesis others, ← Table.lookupEntries_eq_lookup name
        (Table.insertEntries _ _ _), Table.lookupEntries_insertEntries,
        Table.lookupEntries_eq_lookup, List.lookup_cons]
      by_cases same : name = key
      · have absent : members.lookup name = none := by
          rw [List.lookup_eq_none_iff]
          intro other inside
          simp only [bne_iff_ne]
          intro listed
          exact fresh (List.mem_map.2 ⟨other, inside, listed.symm.trans same⟩)
        rw [absent, if_pos same, same, beq_self_eq_true]
        rfl
      · have unequal : (name == key) = false := by simpa using same
        simp [same, unequal]

end Json.Value

namespace Document

open Json (Value)

variable {α : Type} {name : String} {members : List (String × Option Value)}

/-- Among the entries that are kept, an entry is found as before, if it is kept. -/
theorem lookup_filter (keep : String → Bool) (entries : List (String × α)) :
    (entries.filter fun entry => keep entry.1).lookup name =
      if keep name then entries.lookup name else none := by
  induction entries with
  | nil => simp
  | cons entry rest inductionHypothesis =>
      obtain ⟨key, value⟩ := entry
      by_cases same : name = key
      · subst same
        by_cases kept : keep name
        · simp [kept]
        · simp [kept, inductionHypothesis]
      · have unequal : (name == key) = false := by simpa using same
        by_cases kept : keep key
        · simp [kept, List.lookup_cons, unequal, inductionHypothesis]
        · simp [kept, List.lookup_cons, unequal, inductionHypothesis]

/-- The members of an object, as the entries of the table that it makes. -/
theorem entries?_ofJsonMembers (members : List (String × Value)) :
    (table (ofJsonMembers members)).entries? =
      some (members.map fun member => (member.1, ofJson member.2)) := by
  induction members with
  | nil => rfl
  | cons member members inductionHypothesis =>
      obtain ⟨name, value⟩ := member
      simp only [entries?] at inductionHypothesis ⊢
      simp only [ofJsonMembers, List.mapM_cons, inductionHypothesis]
      rfl

/-- A member that has become part of a document is found under its name. -/
theorem lookup_map_ofJson (members : List (String × Value)) :
    (members.map fun member => (member.1, ofJson member.2)).lookup name =
      (members.lookup name).map ofJson := by
  induction members with
  | nil => rfl
  | cons member members inductionHypothesis =>
      obtain ⟨key, value⟩ := member
      rw [List.map_cons, List.lookup_cons, List.lookup_cons, inductionHypothesis]
      by_cases same : name == key
      · simp [same]
      · simp [same]

/-- Each of some members is found among fields, if it is there, and is not if it is not. -/
def Fields.Show (fields : Fields) : List (String × Option Value) → Prop
  | [] => True
  | (name, value) :: rest => fields.find? name = value.map ofJson ∧ fields.Show rest

/-- Fields show the members when each value, or its absence, is found under its name. -/
theorem Fields.show_iff {fields : Fields} :
    fields.Show members ↔
      ∀ name value, (name, value) ∈ members → fields.find? name = value.map ofJson := by
  induction members with
  | nil => simp [Show]
  | cons member members inductionHypothesis =>
      obtain ⟨key, given⟩ := member
      rw [Show, inductionHypothesis]
      constructor
      · rintro ⟨first, others⟩ name value member
        obtain same | later := List.mem_cons.1 member
        · cases same
          exact first
        · exact others name value later
      · intro all
        exact ⟨all key given (by simp), fun name value later => all name value (by simp [later])⟩

/-- The fields that have one of some names show the members of those names. -/
theorem Fields.Show.filter {fields : Fields} {own : List (String × Option Value)}
    (shows : fields.Show members) (among : own ⊆ members) (keep : String → Bool)
    (kept : ∀ member ∈ own, keep member.1 = true) :
    Fields.Show (fields.filter fun field => keep field.1) own := by
  rw [show_iff] at shows ⊢
  intro name value member
  rw [Fields.find?, lookup_filter keep, if_pos (kept _ member)]
  exact shows name value (among member)

/-- The document of an object shows its members, if their names are distinct. -/
theorem entries?_ofPresent (distinct : (members.map Prod.fst).Nodup) :
    ∃ entries : Fields, (ofJson (.ofPresent members)).entries? = some entries ∧
      (entries.map Prod.fst).Nodup ∧ entries.Show members ∧
      ∀ entry ∈ entries, ∃ value, (entry.1, some value) ∈ members ∧ entry.2 = ofJson value := by
  let sorted := (Value.present members).foldl
    (fun kept member => Table.insertEntries member.1 member.2 kept) []
  let entries : Fields := sorted.map fun member => (member.1, ofJson member.2)
  refine ⟨entries, entries?_ofJsonMembers sorted, ?_, Fields.show_iff.2 ?_, ?_⟩
  · have ascending : Json.Ascending sorted := Json.ascending_foldl_insertEntries List.Pairwise.nil
    rw [List.map_map, List.nodup_iff_pairwise_ne, List.pairwise_map]
    apply ascending.imp
    intro earlier later below same
    have equal : earlier.1 = later.1 := same
    have level : compare later.1 later.1 = .eq := Std.ReflCmp.compare_self
    rw [equal, level] at below
    cases below
  · intro name value given
    rw [Fields.find?, lookup_map_ofJson,
      Value.lookup_foldl_insertEntries (Value.nodup_present distinct),
      Value.lookup_present distinct given]
    simp
  · intro entry inside
    obtain ⟨member, listed, rfl⟩ := List.mem_map.1 inside
    obtain early | given := Json.mem_foldl_insertEntries listed
    · cases early
    · obtain ⟨origin, there, same⟩ := List.mem_filterMap.1 given
      obtain ⟨value, present, rfl⟩ := Option.map_eq_some_iff.1 same
      refine ⟨value, ?_, rfl⟩
      rw [← present]
      exact there

/-- The fields of a table that have one of some names show the members of those names. -/
theorem namedFields?_ofPresent {names : List String} {own : List (String × Option Value)}
    (distinct : (members.map Prod.fst).Nodup) (among : own ⊆ members)
    (named : ∀ member ∈ own, member.1 ∈ names) :
    ∃ fields : Fields, (ofJson (.ofPresent members)).namedFields? names = some fields ∧
      fields.Show own := by
  obtain ⟨entries, listed, unique, shows, -⟩ := entries?_ofPresent distinct
  let own : Fields := entries.filter fun entry => decide (entry.1 ∈ names)
  have known : (own.map Prod.fst).Nodup := (List.filter_sublist.map Prod.fst).nodup unique
  refine ⟨own, ?_, shows.filter among (fun name => decide (name ∈ names)) (by simpa using named)⟩
  simp only [namedFields?, listed, Option.bind_eq_bind, Option.bind_some]
  exact if_pos known

/-- No scalar of a JSON value is left open. -/
theorem settled_ofJson (value : Value) : (ofJson value).settled = ofJson value := by
  cases value with
  | number number =>
      cases number
      · rfl
      · rfl
  | _ => rfl

/-- The fields of a table that have none of some names show the members of other names, if these
stand for values. -/
theorem looseFields?_ofPresent {names : List String} {loose : List (String × Option Value)}
    (distinct : (members.map Prod.fst).Nodup) (among : loose ⊆ members)
    (apart : ∀ member ∈ loose, member.1 ∉ names)
    (sound : ∀ member ∈ members, member.1 ∉ names →
      ∀ value ∈ member.2, (ofJson value).isSound = true) :
    ∃ fields : Fields, (ofJson (.ofPresent members)).looseFields? names = some fields ∧
      (fields.map Prod.fst).Nodup ∧ fields.Show loose := by
  obtain ⟨entries, listed, unique, shows, origin⟩ := entries?_ofPresent distinct
  let others : Fields := entries.filter fun entry => decide (entry.1 ∉ names)
  have values : (others.all fun entry => entry.2.isSound) = true := by
    rw [List.all_eq_true]
    intro entry inside
    obtain ⟨there, loose⟩ := List.mem_filter.1 inside
    obtain ⟨value, given, same⟩ := origin entry there
    rw [same]
    exact sound _ given (by simpa using loose) value rfl
  have settled : (others.map fun entry => (entry.1, entry.2.settled)) = others := by
    have same : others.map (fun entry => (entry.1, entry.2.settled)) = others.map id := by
      apply List.map_congr_left
      intro entry inside
      obtain ⟨value, -, written⟩ := origin entry (List.mem_filter.1 inside).1
      rw [written, settled_ofJson, ← written]
      rfl
    rw [same, List.map_id]
  refine ⟨others, ?_, (List.filter_sublist.map Prod.fst).nodup unique, ?_⟩
  · simp only [looseFields?, listed, Option.bind_eq_bind, Option.bind_some]
    exact (if_pos values).trans (congrArg some settled)
  · exact shows.filter among (fun name => decide (name ∉ names)) (by simpa using apart)

/-- The fields of a structure that is written as an object show its members. -/
theorem fields?_ofPresent {value : Value} (written : value = .ofPresent members)
    (names : List String) (named : members.map Prod.fst = names) (distinct : names.Nodup) :
    ∃ fields, (ofJson value).fields? names = some fields ∧ Fields.Show fields members := by
  subst written named
  apply namedFields?_ofPresent distinct (List.Subset.refl _)
  intro member inside
  exact List.mem_map.2 ⟨member, inside, rfl⟩

/-- What is left open is told from what is not. -/
theorem option?_ofJson {decode : Document → Option α} {value : Value} (given : value ≠ .null) :
    option? decode (ofJson value) = (decode (ofJson value)).map some := by
  cases value with
  | null => exact absurd rfl given
  | number number =>
      cases number
      · rfl
      · rfl
  | _ => rfl

namespace Fields

variable {fields : Fields} {decode : Document → Option α}

/-- A field that has to be there is read from what is found. -/
theorem required_of_find {value : Value} {result : α}
    (found : fields.find? name = some (ofJson value))
    (read : decode (ofJson value) = some result) : fields.required name decode = some result := by
  rw [required, found]
  exact read

/-- A field that may be missing is read as it was written, or as missing. -/
theorem optional_of_find {encode : α → Value} {setting : Option α}
    (found : fields.find? name = (setting.map encode).map ofJson)
    (read : ∀ given ∈ setting, decode (ofJson (encode given)) = some given)
    (visible : ∀ given, encode given ≠ .null) : fields.optional name decode = some setting := by
  rw [optional, withDefault, found]
  cases setting with
  | none => rfl
  | some given =>
      have back := read given rfl
      simp [option?_ofJson (visible given), back]

theorem optional_string {setting : Option String}
    (found : fields.find? name = (setting.map Value.string).map ofJson) :
    fields.optional name string? = some setting :=
  optional_of_find found (fun _ _ => rfl) nofun

/-- A field that is there is not replaced by its default. -/
theorem withDefault_of_find {fallback result : α} {value : Value}
    (found : fields.find? name = some (ofJson value))
    (read : decode (ofJson value) = some result) :
    fields.withDefault name fallback decode = some result := by
  rw [withDefault, found]
  exact read

/-- A value that is left out where it is the one to fall back on is read as that. -/
theorem withDefault_of_ite {fallback result : α} {leftOut : Prop} [Decidable leftOut]
    {value : Value} (found : fields.find? name = (if leftOut then none else some value).map ofJson)
    (read : decode (ofJson value) = some result) (same : leftOut → result = fallback) :
    fields.withDefault name fallback decode = some result := by
  rw [withDefault, found]
  by_cases left : leftOut
  · simp [left, same left]
  · simp [left, read]

end Fields

/-- A list is read back if all its items are. -/
theorem list?_ofJson {encode : α → Value} {decode : Document → Option α} {items : List α}
    (read : ∀ item ∈ items, decode (ofJson (encode item)) = some item) :
    list? decode (ofJson (.array (items.map encode))) = some items := by
  simp only [ofJson, list?]
  induction items with
  | nil => rfl
  | cons item items inductionHypothesis =>
      have first := read item (by simp)
      have rest := inductionHypothesis fun later member => read later (by simp [member])
      simp [ofJsonItems, first, rest]

/-- A table that is written as an object is read back if all its values are. -/
theorem tableOf?_ofJson {encode : α → Value} {decode : Document → Option α}
    (read : ∀ value, decode (ofJson (encode value)) = some value) (kept : Table String α) :
    tableOf? decode (ofJson (.object (kept.entries.map fun entry => (entry.1, encode entry.2)))) =
      some kept := by
  have listed := entries?_ofJsonMembers (kept.entries.map fun entry => (entry.1, encode entry.2))
  have decoded : ∀ entries : List (String × α),
      ((entries.map fun entry => (entry.1, encode entry.2)).map fun member =>
        (member.1, ofJson member.2)).mapM
          (fun entry => (decode entry.2).map fun value => (entry.1, value)) = some entries := by
    intro entries
    induction entries with
    | nil => rfl
    | cons entry entries inductionHypothesis =>
        rw [List.map_cons, List.map_cons, List.mapM_cons, inductionHypothesis]
        simp [read]
  simp only [tableOf?, ofJson, listed, Option.bind_eq_bind, Option.bind_some]
  rw [decoded kept.entries, Option.bind_some, Table.ofList_entries]
  rfl

theorem unsigned?_ofNat {number : Nat} (small : number ≤ Word.max) :
    unsigned? (ofJson (.ofNat number)) = some number := by
  have bound : (number : Int) ≤ Word.max := by exact_mod_cast small
  simp [Value.ofNat, ofJson, unsigned?, settled, bound]

theorem variant?_ofMembers (names : List String) (name : String) (content : Value) :
    variant? names (ofJson (.ofMembers [(name, content)])) = some (name, some (ofJson content)) :=
  rfl

end Document

end Steward
