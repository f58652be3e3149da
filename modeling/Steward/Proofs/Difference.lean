/-
This file shows that two lists of names are compared as sets.
No difference is found between lists with the same members. A difference tells, on either side, the
names that are missing on the other one, each once and in ascending order.
-/

import Mathlib.Data.String.Basic
import Steward.Proofs.Resource.User

namespace Steward

namespace Drift

/-- The names of one list that are not in another one, each once and in ascending order. -/
structure IsDifference (wanted found names : List String) : Prop where
  ascending : names.Pairwise (· < ·)
  mem_iff : ∀ name, name ∈ names ↔ name ∈ wanted ∧ name ∉ found

/-- A list of names in ascending order is told by its members. -/
theorem IsDifference.unique {wanted found first second : List String}
    (one : IsDifference wanted found first) (other : IsDifference wanted found second) :
    first = second := by
  have nodup {names : List String} (ascending : names.Pairwise (· < ·)) : names.Nodup :=
    ascending.imp ne_of_lt
  apply List.Perm.eq_of_pairwise (fun _ _ _ _ before after => absurd after (lt_asymm before))
    one.ascending other.ascending
  rw [List.perm_ext_iff_of_nodup (nodup one.ascending) (nodup other.ascending)]
  intro name
  rw [one.mem_iff, other.mem_iff]

/-- The difference in a field that lacks some names and has others too many. -/
def telling (field : Field) (missing extra : List String) : Drift where
  field
  detail := "missing [" ++ String.intercalate "," missing ++ "], extra [" ++
    String.intercalate "," extra ++ "]"

/-- A set of names has the members of the list it was made of. -/
theorem mem_nameSet {names : List String} {name : String} : name ∈ nameSet names ↔ name ∈ names := by
  rw [nameSet, Table.mem_keys_iff, Table.contains, Table.ofList, get?_ofNames]
  by_cases member : name ∈ names
  · simp [member]
  · simp only [member, if_false, iff_false, Bool.not_eq_true]
    rfl

theorem ascending_nameSet (names : List String) : (nameSet names).Pairwise (· < ·) := by
  apply List.pairwise_map.2
  exact (Table.ofList _).sorted.imp compare_lt_iff_lt.1

/-- Two lists make one set exactly if they have the same members. -/
theorem nameSet_eq_iff {first second : List String} :
    nameSet first = nameSet second ↔ ∀ name, name ∈ first ↔ name ∈ second := by
  constructor
  · intro same name
    rw [← mem_nameSet, same, mem_nameSet]
  · exact nameSet_eq

/-- To filter a set by another one gives the names in which they differ. -/
theorem isDifference_filter (wanted found : List String) :
    IsDifference wanted found ((nameSet wanted).filter (· ∉ nameSet found)) where
  ascending := (ascending_nameSet wanted).filter _
  mem_iff := by
    intro name
    rw [List.mem_filter, decide_eq_true_iff, mem_nameSet, mem_nameSet]

/-- A comparison of two lists finds nothing exactly if they have the same members. -/
theorem ofSets_eq_none_iff {field : Field} {desired observed : List String} :
    ofSets field desired observed = none ↔ ∀ name, name ∈ desired ↔ name ∈ observed := by
  rw [← nameSet_eq_iff, ofSets]
  split
  · simp [*]
  · simp [*]

/-- Lists that differ do so by what each has and the other one has not. -/
theorem ofSets_of_differ {field : Field} {desired observed missing extra : List String}
    (differ : ¬ ∀ name, name ∈ desired ↔ name ∈ observed)
    (lacks : IsDifference desired observed missing) (exceeds : IsDifference observed desired extra) :
    ofSets field desired observed = some (telling field missing extra) := by
  rw [← nameSet_eq_iff] at differ
  rw [lacks.unique (isDifference_filter desired observed),
    exceeds.unique (isDifference_filter observed desired), ofSets]
  exact if_neg differ

/-- Two lists of names do not differ just when they have the same members. Otherwise the difference
tells the names that are missing and those that are too many, and seen from the other side it tells
them the other way round. It depends on the members only, not on their order or repetition. -/
theorem names_differ_as_sets (field : Field) (desired observed : List String) :
    (ofSets field desired observed = none ↔ ∀ name, name ∈ desired ↔ name ∈ observed) ∧
    ((¬ ∀ name, name ∈ desired ↔ name ∈ observed) → ∃ missing extra,
      IsDifference desired observed missing ∧ IsDifference observed desired extra ∧
      ofSets field desired observed = some (telling field missing extra) ∧
      ofSets field observed desired = some (telling field extra missing)) ∧
    ∀ wanted found, (∀ name, name ∈ wanted ↔ name ∈ desired) →
      (∀ name, name ∈ found ↔ name ∈ observed) →
      ofSets field wanted found = ofSets field desired observed := by
  refine ⟨ofSets_eq_none_iff, fun differ => ?_, fun wanted found alike same => ?_⟩
  · have lacks := isDifference_filter desired observed
    have exceeds := isDifference_filter observed desired
    have turned : ¬ ∀ name, name ∈ observed ↔ name ∈ desired :=
      fun same => differ fun name => (same name).symm
    exact ⟨_, _, lacks, exceeds, ofSets_of_differ differ lacks exceeds,
      ofSets_of_differ turned exceeds lacks⟩
  · rw [ofSets, ofSets, nameSet_eq alike, nameSet_eq same]

end Drift

/-- A user does not differ from a record just when its policies are those of the record. -/
theorem User.diff_eq_nil_iff {record : Record} {spec : UserSpec} (asked : record.spec = .user spec)
    {observed : Observed} :
    User.diff record observed = .ok [] ↔
      ∀ name, name ∈ spec.policies ↔ name ∈ observed.policies := by
  rw [User.diff_eq asked, Except.ok.injEq, Option.toList_eq_nil_iff, Drift.ofSets_eq_none_iff]

namespace Sample

/-- Names that are asked for, one of them twice. -/
def requested : List String :=
  ["write", "read", "write", "audit"]

/-- Names that are there, one of them twice. -/
def attached : List String :=
  ["read", "root", "admin", "root"]

end Sample

namespace Drift

/-- Two names are missing and two are too many, and in another order and without repetition they are
the same. -/
theorem names_differ_as_sets_of_requested :
    (¬ ∀ name, name ∈ Sample.requested ↔ name ∈ Sample.attached) ∧
      IsDifference Sample.requested Sample.attached ["audit", "write"] ∧
      IsDifference Sample.attached Sample.requested ["admin", "root"] ∧
      ofSets .policies Sample.requested Sample.attached =
        some ⟨.policies, "missing [audit,write], extra [admin,root]"⟩ ∧
      ofSets .policies Sample.attached Sample.requested =
        some ⟨.policies, "missing [admin,root], extra [audit,write]"⟩ ∧
      ofSets .policies ["audit", "read", "write"] ["root", "admin", "read"] =
        ofSets .policies Sample.requested Sample.attached := by
  obtain ⟨-, tells, depends⟩ := names_differ_as_sets .policies Sample.requested Sample.attached
  have differ : ¬ ∀ name, name ∈ Sample.requested ↔ name ∈ Sample.attached :=
    fun same => absurd ((same "audit").1 (by decide)) (by decide)
  obtain ⟨missing, extra, lacks, exceeds, told, turned⟩ := tells differ
  have audit : missing = ["audit", "write"] := by
    rw [lacks.unique (isDifference_filter _ _)]
    decide +kernel
  have admin : extra = ["admin", "root"] := by
    rw [exceeds.unique (isDifference_filter _ _)]
    decide +kernel
  subst audit admin
  refine ⟨differ, lacks, exceeds, told, turned, depends _ _ (fun name => ?_) (fun name => ?_)⟩
  · simp only [Sample.requested, List.mem_cons, List.not_mem_nil, or_false]
    grind
  · simp only [Sample.attached, List.mem_cons, List.not_mem_nil, or_false]
    grind

end Drift

end Steward
