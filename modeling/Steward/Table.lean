/-
This file keeps values under keys, in the order of the keys.
A table is read through `get?`, and each operation is described by what it does to that view;
two tables with the same view are equal.
-/

namespace Steward

/-- Values under distinct keys, listed in the order of the keys. -/
structure Table (κ : Type) (α : Type) [Ord κ] where
  entries : List (κ × α)
  sorted : entries.Pairwise fun earlier later => compare earlier.1 later.1 = .lt

namespace Table

variable {κ α : Type} [Ord κ]

def empty : Table κ α :=
  ⟨[], List.Pairwise.nil⟩

instance : EmptyCollection (Table κ α) :=
  ⟨empty⟩

instance : Inhabited (Table κ α) :=
  ⟨empty⟩

/-- A table is told by its entries. -/
@[ext] theorem ext_entries {first second : Table κ α} (same : first.entries = second.entries) :
    first = second := by
  cases first
  cases second
  cases same
  rfl

instance [DecidableEq κ] [DecidableEq α] : DecidableEq (Table κ α) := fun first second =>
  if same : first.entries = second.entries then
    .isTrue (ext_entries same)
  else
    .isFalse fun equal => same (congrArg entries equal)

instance [Repr κ] [Repr α] : Repr (Table κ α) :=
  ⟨fun table precedence => reprPrec table.entries precedence⟩

def lookupEntries (key : κ) : List (κ × α) → Option α
  | [] => none
  | entry :: rest =>
      match compare key entry.1 with
      | .eq => some entry.2
      | _ => lookupEntries key rest

/-- The value under a key. -/
def get? (table : Table κ α) (key : κ) : Option α :=
  lookupEntries key table.entries

def contains (table : Table κ α) (key : κ) : Bool :=
  (table.get? key).isSome

def keys (table : Table κ α) : List κ :=
  table.entries.map Prod.fst

def values (table : Table κ α) : List α :=
  table.entries.map Prod.snd

def size (table : Table κ α) : Nat :=
  table.entries.length

def isEmpty (table : Table κ α) : Bool :=
  table.entries.isEmpty

def insertEntries (key : κ) (value : α) : List (κ × α) → List (κ × α)
  | [] => [(key, value)]
  | entry :: rest =>
      match compare key entry.1 with
      | .lt => (key, value) :: entry :: rest
      | .eq => (key, value) :: rest
      | .gt => entry :: insertEntries key value rest

def eraseEntries (key : κ) : List (κ × α) → List (κ × α)
  | [] => []
  | entry :: rest =>
      match compare key entry.1 with
      | .eq => rest
      | _ => entry :: eraseEntries key rest

/-- An entry after an insertion is the new one or an old one. -/
theorem mem_insertEntries {key : κ} {value : α} {entries : List (κ × α)} {entry : κ × α}
    (member : entry ∈ insertEntries key value entries) :
    entry = (key, value) ∨ entry ∈ entries := by
  induction entries with
  | nil => simpa [insertEntries] using member
  | cons first rest inductionHypothesis =>
      simp only [insertEntries] at member
      split at member
      · simpa using member
      · rcases List.mem_cons.1 member with same | later
        · exact .inl same
        · exact .inr (List.mem_cons_of_mem _ later)
      · rcases List.mem_cons.1 member with same | later
        · exact .inr (by simp [same])
        · exact (inductionHypothesis later).imp id (List.mem_cons_of_mem _)

/-- An entry that is left after a removal was there before. -/
theorem mem_of_mem_eraseEntries {key : κ} {entries : List (κ × α)} {entry : κ × α}
    (member : entry ∈ eraseEntries key entries) : entry ∈ entries := by
  induction entries with
  | nil => simp [eraseEntries] at member
  | cons first rest inductionHypothesis =>
      simp only [eraseEntries] at member
      split at member
      · exact List.mem_cons_of_mem _ member
      · rcases List.mem_cons.1 member with same | later
        · simp [same]
        · exact List.mem_cons_of_mem _ (inductionHypothesis later)

/-- A removal keeps the keys in order. -/
theorem sorted_eraseEntries {key : κ} {entries : List (κ × α)}
    (sorted : entries.Pairwise fun earlier later => compare earlier.1 later.1 = .lt) :
    (eraseEntries key entries).Pairwise
      fun earlier later => compare earlier.1 later.1 = .lt := by
  induction entries with
  | nil => exact sorted
  | cons first rest inductionHypothesis =>
      have ⟨above, tail⟩ := List.pairwise_cons.1 sorted
      simp only [eraseEntries]
      split
      · exact tail
      · exact List.pairwise_cons.2
          ⟨fun entry member => above entry (mem_of_mem_eraseEntries member),
            inductionHypothesis tail⟩

variable [Std.TransOrd κ]

/-- An insertion keeps the keys in order. -/
theorem sorted_insertEntries {key : κ} {value : α} {entries : List (κ × α)}
    (sorted : entries.Pairwise fun earlier later => compare earlier.1 later.1 = .lt) :
    (insertEntries key value entries).Pairwise
      fun earlier later => compare earlier.1 later.1 = .lt := by
  induction entries with
  | nil => simp [insertEntries]
  | cons first rest inductionHypothesis =>
      have ⟨above, tail⟩ := List.pairwise_cons.1 sorted
      simp only [insertEntries]
      split
      · rename_i before
        refine List.pairwise_cons.2 ⟨fun entry member => ?_, sorted⟩
        rcases List.mem_cons.1 member with same | later
        · simpa [same] using before
        · exact Std.TransCmp.lt_trans before (above entry later)
      · rename_i same
        refine List.pairwise_cons.2 ⟨fun entry member => ?_, tail⟩
        exact Std.TransCmp.lt_of_eq_of_lt same (above entry member)
      · rename_i after
        refine List.pairwise_cons.2 ⟨fun entry member => ?_, inductionHypothesis tail⟩
        rcases mem_insertEntries member with same | later
        · simpa [same] using Std.OrientedCmp.lt_of_gt after
        · exact above entry later

/-- Puts a value under a key, in place of the value it had. -/
def insert (table : Table κ α) (key : κ) (value : α) : Table κ α :=
  ⟨insertEntries key value table.entries, sorted_insertEntries table.sorted⟩

omit [Std.TransOrd κ] in
/-- Drops a key with its value. -/
def erase (table : Table κ α) (key : κ) : Table κ α :=
  ⟨eraseEntries key table.entries, sorted_eraseEntries table.sorted⟩

/-- Collects the entries of a list; of two entries with one key the later counts. -/
def ofList (entries : List (κ × α)) : Table κ α :=
  entries.foldl (fun table entry => table.insert entry.1 entry.2) empty

/-- Changes the value under a key, if there is one. -/
def modify (table : Table κ α) (key : κ) (change : α → α) : Table κ α :=
  match table.get? key with
  | some value => table.insert key (change value)
  | none => table

section Laws

omit [Std.TransOrd κ] in
@[simp] theorem get?_empty (key : κ) : (∅ : Table κ α).get? key = none :=
  rfl

omit [Std.TransOrd κ] in
/-- An insertion is seen at its key and at no other. -/
theorem lookupEntries_insertEntries [DecidableEq κ] [Std.LawfulEqOrd κ] (key other : κ) (value : α)
    (entries : List (κ × α)) :
    lookupEntries other (insertEntries key value entries) =
      if other = key then some value else lookupEntries other entries := by
  have differs : ¬ other = key → compare other key ≠ .eq := fun apart equal =>
    apart (Std.LawfulEqOrd.eq_of_compare equal)
  induction entries with
  | nil =>
      by_cases same : other = key
      · simp [insertEntries, lookupEntries, same, Std.ReflCmp.compare_self]
      · have apart := differs same
        simp [insertEntries, lookupEntries, same]
  | cons entry rest inductionHypothesis =>
      cases order : compare key entry.1 with
      | lt =>
          by_cases same : other = key
          · simp [insertEntries, order, lookupEntries, same, Std.ReflCmp.compare_self]
          · have apart := differs same
            simp [insertEntries, order, lookupEntries, same]
      | eq =>
          have equal : key = entry.1 := Std.LawfulEqOrd.eq_of_compare order
          by_cases same : other = key
          · simp [insertEntries, order, lookupEntries, same, Std.ReflCmp.compare_self]
          · have apart := differs same
            simp [insertEntries, lookupEntries, same, ← equal]
      | gt =>
          by_cases same : other = key
          · subst same
            simp [insertEntries, order, lookupEntries, inductionHypothesis]
          · simp only [insertEntries, order, lookupEntries, inductionHypothesis, same, if_false]

@[simp] theorem get?_insert [DecidableEq κ] [Std.LawfulEqOrd κ] (table : Table κ α)
    (key other : κ) (value : α) :
    (table.insert key value).get? other = if other = key then some value else table.get? other :=
  lookupEntries_insertEntries key other value table.entries

omit [Std.TransOrd κ] in
/-- A key below all others is not found. -/
theorem lookupEntries_eq_none {key : κ} {entries : List (κ × α)}
    (above : ∀ entry ∈ entries, compare key entry.1 = .lt) :
    lookupEntries key entries = none := by
  induction entries with
  | nil => rfl
  | cons entry rest inductionHypothesis =>
      have first := above entry (by simp)
      simp only [lookupEntries, first]
      exact inductionHypothesis fun later member => above later (List.mem_cons_of_mem _ member)

omit [Std.TransOrd κ] in
/-- A removal is seen at its key and at no other. -/
theorem lookupEntries_eraseEntries [DecidableEq κ] [Std.LawfulEqOrd κ] (key other : κ)
    {entries : List (κ × α)}
    (sorted : entries.Pairwise fun earlier later => compare earlier.1 later.1 = .lt) :
    lookupEntries other (eraseEntries key entries) =
      if other = key then none else lookupEntries other entries := by
  induction entries with
  | nil => simp [eraseEntries, lookupEntries]
  | cons entry rest inductionHypothesis =>
      have ⟨above, tail⟩ := List.pairwise_cons.1 sorted
      cases order : compare key entry.1 with
      | eq =>
          have equal : key = entry.1 := Std.LawfulEqOrd.eq_of_compare order
          by_cases same : other = key
          · subst same
            simp only [eraseEntries, order, if_true]
            exact lookupEntries_eq_none fun later member => by
              rw [equal]
              exact above later member
          · have apart : compare other entry.1 ≠ .eq := fun identical =>
              same ((Std.LawfulEqOrd.eq_of_compare identical).trans equal.symm)
            simp [eraseEntries, order, lookupEntries, same]
      | lt =>
          by_cases same : other = key
          · subst same
            simp [eraseEntries, order, lookupEntries, inductionHypothesis tail]
          · simp only [eraseEntries, order, lookupEntries, inductionHypothesis tail, same, if_false]
      | gt =>
          by_cases same : other = key
          · subst same
            simp [eraseEntries, order, lookupEntries, inductionHypothesis tail]
          · simp only [eraseEntries, order, lookupEntries, inductionHypothesis tail, same, if_false]

omit [Std.TransOrd κ] in
@[simp] theorem get?_erase [DecidableEq κ] [Std.LawfulEqOrd κ] (table : Table κ α)
    (key other : κ) :
    (table.erase key).get? other = if other = key then none else table.get? other :=
  lookupEntries_eraseEntries key other table.sorted

section Views

variable [DecidableEq κ] [Std.LawfulEqOrd κ] {table : Table κ α} {key other : κ} {value : α}

theorem get?_insert_of_ne (apart : other ≠ key) :
    (table.insert key value).get? other = table.get? other :=
  (table.get?_insert key other value).trans (if_neg apart)

omit [Std.TransOrd κ] in
theorem get?_erase_of_ne (apart : other ≠ key) :
    (table.erase key).get? other = table.get? other :=
  (table.get?_erase key other).trans (if_neg apart)

/-- An insertion takes no key away. -/
theorem contains_insert (held : table.contains other = true) :
    (table.insert key value).contains other = true := by
  rw [contains, get?_insert]
  split
  · rfl
  · exact held

theorem contains_insert_self : (table.insert key value).contains key = true := by
  rw [contains, get?_insert, if_pos rfl]
  rfl

/-- To write over a value that is there makes no key and takes none away. -/
theorem contains_insert_of_get? {before : α} (present : table.get? key = some before) :
    (table.insert key value).contains other = table.contains other := by
  rw [contains, contains, get?_insert]
  split
  · rename_i same
    rw [same, present]
    rfl
  · rfl

omit [Std.TransOrd κ] in
theorem contains_erase (held : table.contains other = true) (apart : other ≠ key) :
    (table.erase key).contains other = true := by
  rw [contains, get?_erase_of_ne apart]
  exact held

omit [Std.TransOrd κ] [DecidableEq κ] [Std.LawfulEqOrd κ] in
theorem not_contains_of_get? (absent : table.get? key = none) :
    ¬ table.contains key = true := by
  rw [contains, absent]
  exact Bool.false_ne_true

omit [Std.TransOrd κ] [DecidableEq κ] [Std.LawfulEqOrd κ] in
theorem get?_of_not_contains (absent : ¬ table.contains key = true) : table.get? key = none :=
  Option.not_isSome_iff_eq_none.1 absent

omit [Std.TransOrd κ] in
theorem not_contains_erase (table : Table κ α) (key : κ) :
    ¬ (table.erase key).contains key = true :=
  not_contains_of_get? (by rw [get?_erase, if_pos rfl])

end Views

omit [Std.TransOrd κ] in
/-- In entries that are in order, a value is found under its key exactly if the two are an entry. -/
theorem lookupEntries_eq_some_iff [Std.LawfulEqOrd κ] {key : κ} {value : α}
    {entries : List (κ × α)}
    (sorted : entries.Pairwise fun earlier later => compare earlier.1 later.1 = .lt) :
    lookupEntries key entries = some value ↔ (key, value) ∈ entries := by
  induction entries with
  | nil => simp [lookupEntries]
  | cons entry rest inductionHypothesis =>
      have ⟨above, tail⟩ := List.pairwise_cons.1 sorted
      by_cases same : compare key entry.1 = .eq
      · have equal : key = entry.1 := Std.LawfulEqOrd.eq_of_compare same
        have missing : (key, value) ∉ rest := fun member => by
          have order := above (key, value) member
          rw [equal] at order
          simp [Std.ReflCmp.compare_self] at order
        simp only [lookupEntries, same, List.mem_cons, missing, or_false, Option.some.injEq]
        constructor
        · intro found
          exact Prod.ext equal found.symm
        · intro found
          rw [← found]
      · have apart : key ≠ entry.1 := fun equal => same (by
          rw [equal]
          exact Std.ReflCmp.compare_self)
        have skipped : lookupEntries key (entry :: rest) = lookupEntries key rest := by
          simp only [lookupEntries]
        rw [skipped, inductionHypothesis tail, List.mem_cons]
        constructor
        · exact .inr
        · intro member
          rcases member with equal | later
          · exact absurd (congrArg Prod.fst equal) apart
          · exact later

omit [Std.TransOrd κ] in
theorem get?_eq_some_iff [Std.LawfulEqOrd κ] {table : Table κ α} {key : κ} {value : α} :
    table.get? key = some value ↔ (key, value) ∈ table.entries :=
  lookupEntries_eq_some_iff table.sorted

/-- Entries in the order of their keys have keys of their own. -/
theorem nodup_of_sorted {entries : List (κ × α)}
    (sorted : entries.Pairwise fun earlier later => compare earlier.1 later.1 = .lt) :
    (entries.map Prod.fst).Nodup := by
  refine List.pairwise_map.2 (sorted.imp fun {earlier later} before same => ?_)
  have equal : compare earlier.1 later.1 = .eq := by
    rw [same]
    exact Std.ReflCmp.compare_self
  cases before.symm.trans equal

theorem nodup_keys (table : Table κ α) : table.keys.Nodup :=
  nodup_of_sorted table.sorted

omit [Std.TransOrd κ] in
/-- The keys of a table are those that it contains. -/
theorem mem_keys_iff [Std.LawfulEqOrd κ] {table : Table κ α} {key : κ} :
    key ∈ table.keys ↔ table.contains key = true := by
  rw [contains, Option.isSome_iff_exists, keys, List.mem_map]
  constructor
  · rintro ⟨entry, member, rfl⟩
    exact ⟨entry.2, get?_eq_some_iff.2 member⟩
  · rintro ⟨value, held⟩
    exact ⟨(key, value), get?_eq_some_iff.1 held, rfl⟩

/-- Entries in order are told by their members. -/
theorem entries_eq_of_same_members {first second : List (κ × α)} [Std.LawfulEqOrd κ]
    (firstSorted : first.Pairwise fun earlier later => compare earlier.1 later.1 = .lt)
    (secondSorted : second.Pairwise fun earlier later => compare earlier.1 later.1 = .lt)
    (same : ∀ entry, entry ∈ first ↔ entry ∈ second) : first = second := by
  induction first generalizing second with
  | nil =>
      cases second with
      | nil => rfl
      | cons entry rest => exact absurd ((same entry).2 (by simp)) (by simp)
  | cons entry rest inductionHypothesis =>
      cases second with
      | nil => exact absurd ((same entry).1 (by simp)) (by simp)
      | cons other others =>
          have ⟨above, tail⟩ := List.pairwise_cons.1 firstSorted
          have ⟨otherAbove, otherTail⟩ := List.pairwise_cons.1 secondSorted
          have head : entry = other := by
            rcases List.mem_cons.1 ((same entry).1 (by simp)) with equal | later
            · exact equal
            · rcases List.mem_cons.1 ((same other).2 (by simp)) with equal | earlier
              · exact equal.symm
              · have before := otherAbove entry later
                have after := above other earlier
                have cycle := Std.TransCmp.lt_trans before after
                simp [Std.ReflCmp.compare_self] at cycle
          subst head
          have fresh : ∀ {entries : List (κ × α)},
              (∀ later ∈ entries, compare entry.1 later.1 = .lt) → entry ∉ entries :=
            fun larger member => by
              have order := larger entry member
              simp [Std.ReflCmp.compare_self] at order
          refine congrArg (entry :: ·) (inductionHypothesis tail otherTail fun candidate => ?_)
          have whole := same candidate
          simp only [List.mem_cons] at whole
          constructor
          · intro member
            rcases whole.1 (.inr member) with equal | found
            · exact absurd (equal ▸ member) (fresh above)
            · exact found
          · intro member
            rcases whole.2 (.inr member) with equal | found
            · exact absurd (equal ▸ member) (fresh otherAbove)
            · exact found

/-- A table is determined by what it holds under each key. -/
theorem ext_get? [Std.LawfulEqOrd κ] {first second : Table κ α}
    (same : ∀ key, first.get? key = second.get? key) : first = second :=
  ext_entries <| entries_eq_of_same_members first.sorted second.sorted fun (key, value) => by
    rw [← get?_eq_some_iff, ← get?_eq_some_iff, same]

/-- The last insertion at a key counts. -/
theorem insert_insert [DecidableEq κ] [Std.LawfulEqOrd κ] (table : Table κ α) (key : κ)
    (first second : α) : (table.insert key first).insert key second = table.insert key second := by
  refine ext_get? fun other => ?_
  by_cases same : other = key
  · simp [same]
  · simp [same]

/-- To remove what has just been inserted is to remove what was there. -/
theorem erase_insert [DecidableEq κ] [Std.LawfulEqOrd κ] (table : Table κ α) (key : κ)
    (value : α) : (table.insert key value).erase key = table.erase key := by
  refine ext_get? fun other => ?_
  by_cases same : other = key
  · simp [same]
  · simp [same]

omit [Std.TransOrd κ] in
/-- A table is empty when it holds nothing under any key. -/
theorem isEmpty_iff [Std.LawfulEqOrd κ] {table : Table κ α} :
    table.isEmpty = true ↔ ∀ key, table.get? key = none := by
  rw [isEmpty, List.isEmpty_iff]
  constructor
  · intro empty key
    rw [get?, empty]
    rfl
  · intro missing
    cases entries : table.entries with
    | nil => rfl
    | cons entry rest =>
        have held : table.get? entry.1 = some entry.2 := get?_eq_some_iff.2 (by simp [entries])
        cases held.symm.trans (missing entry.1)

/-- Putting a value where it stands already changes nothing. -/
theorem insert_of_get? [DecidableEq κ] [Std.LawfulEqOrd κ] {table : Table κ α} {key : κ}
    {value : α} (held : table.get? key = some value) : table.insert key value = table := by
  refine ext_get? fun other => ?_
  by_cases same : other = key
  · simp [same, held]
  · simp [same]

/-- A change is seen at its key and at no other. -/
theorem get?_modify [DecidableEq κ] [Std.LawfulEqOrd κ] (table : Table κ α) (key other : κ)
    (change : α → α) :
    (table.modify key change).get? other =
      if other = key then (table.get? key).map change else table.get? other := by
  unfold modify
  cases found : table.get? key with
  | some value => simp
  | none =>
      by_cases same : other = key
      · simp [same, found]
      · simp [same]

end Laws

end Table

end Steward
