/-
This file names records: a name, and a namespace if the name is not shared by all.
Identities are ordered by namespace first, those without one before all others.
-/

namespace Steward

/-- The identity of a record. -/
structure RecordId where
  space? : Option String
  name : String
  deriving DecidableEq, Repr, Inhabited

namespace RecordId

def plain (name : String) : RecordId :=
  ⟨none, name⟩

def text (id : RecordId) : String :=
  match id.space? with
  | some space => space ++ "/" ++ id.name
  | none => id.name

instance : Ord RecordId :=
  ⟨compareLex (compareOn space?) (compareOn name)⟩

instance : Std.TransOrd RecordId :=
  inferInstanceAs (Std.TransCmp (compareLex (compareOn space?) (compareOn name)))

instance : Std.LawfulEqOrd RecordId where
  compare_self {id} := by
    change (compareOn space? id id).then (compareOn name id id) = .eq
    simp [compareOn, Std.ReflCmp.compare_self]
  eq_of_compare {first second} same := by
    change (compareOn space? first second).then (compareOn name first second) = .eq at same
    rw [Ordering.then_eq_eq] at same
    cases first
    cases second
    have space := Std.LawfulEqOrd.eq_of_compare same.1
    have name := Std.LawfulEqOrd.eq_of_compare same.2
    simp only at space name
    rw [space, name]

end RecordId

end Steward
