/-
This file says when no difference is found.
A policy document that can be read does not differ from one that says the same, and of a
difference the field is known.
-/

import Steward.Resource.Client

namespace Steward.Drift

/-- A document is sound if it is absent, blank or JSON. -/
def IsSound (document : Option String) : Prop :=
  ∀ text, nonBlank document = some text → ∃ value, Json.read text = .ok value

theorem isSound_none : IsSound none :=
  nofun

/-- A text that is read as JSON is sound. -/
theorem isSound_of_read {text : String} {value : Json.Value} (read : Json.read text = .ok value) :
    IsSound (some text) := by
  intro other kept
  obtain ⟨same, -⟩ := Option.filter_eq_some_iff.1 kept
  cases same
  exact ⟨value, read⟩

theorem nonBlank_nonBlank (document : Option String) :
    nonBlank (nonBlank document) = nonBlank document := by
  simp [nonBlank, Option.filter_filter]

/-- A document that is not blank is not empty. -/
theorem ne_empty_of_nonBlank {document : Option String} {text : String}
    (kept : nonBlank document = some text) : text ≠ "" := by
  obtain ⟨-, visible⟩ := Option.filter_eq_some_iff.1 kept
  rintro rfl
  simp [Text.isBlank] at visible

/-- An empty document is blank. -/
theorem nonBlank_filter_nonempty (document : Option String) :
    nonBlank (document.filter (· ≠ "")) = nonBlank document := by
  rw [nonBlank, nonBlank, Option.filter_filter]
  refine congrArg (document.filter ·) (funext fun text => ?_)
  by_cases empty : text = ""
  · simp [empty, Text.isBlank]
  · simp [empty]

theorem readDocument_of_read {text : String} {value : Json.Value} (side : String)
    (read : Json.read text = .ok value) : readDocument text side = .ok value := by
  rw [readDocument, read]
  rfl

/-- A document that is no JSON is refused with the name of its side. -/
theorem readDocument_of_unread {text : String} {error : Json.ReadError} (side : String)
    (unread : Json.read text = .error error) :
    readDocument text side =
      .error (.malformedPolicy (side ++ " document: " ++ error.message)) := by
  rw [readDocument, unread]
  rfl

theorem sameObject_self {text : String} {value : Json.Value} (read : Json.read text = .ok value) :
    sameObject text text = .ok true := by
  simp [sameObject, readDocument_of_read _ read, bind, Except.bind, pure, Except.pure]

/-- If the desired document is no JSON, the other is not even looked at. -/
theorem sameObject_of_unread {desired observed : String} {error : Json.ReadError}
    (unread : Json.read desired = .error error) :
    sameObject desired observed =
      .error (.malformedPolicy ("desired" ++ " document: " ++ error.message)) := by
  simp only [sameObject, readDocument_of_unread _ unread, bind, Except.bind]

/-- A sound document does not differ from one that is the same but for blanks. -/
theorem ofPolicy_of_same {field : Field} {desired observed : Option String}
    (sound : IsSound desired) (same : nonBlank observed = nonBlank desired) :
    ofPolicy field desired observed = .ok none := by
  unfold ofPolicy
  rw [same]
  cases kept : nonBlank desired with
  | none => rfl
  | some text =>
      obtain ⟨value, read⟩ := sound text kept
      simp [sameObject_self read, bind, Except.bind, pure, Except.pure]

/-- A set that is put together name by name holds these names. -/
theorem get?_ofNames (names : List String) (table : Table String Unit) (name : String) :
    ((names.map fun name => (name, ())).foldl
      (fun table entry => table.insert entry.1 entry.2) table).get? name =
        if name ∈ names then some () else table.get? name := by
  induction names generalizing table with
  | nil => simp
  | cons first rest inductionHypothesis =>
      rw [List.map_cons, List.foldl_cons, inductionHypothesis, Table.get?_insert]
      by_cases later : name ∈ rest
      · simp [later]
      · simp [later]

/-- The set of the names of a list depends on its members only. -/
theorem nameSet_eq {first second : List String} (same : ∀ name, name ∈ first ↔ name ∈ second) :
    nameSet first = nameSet second := by
  refine congrArg Table.keys (Table.ext_get? fun name => ?_)
  rw [Table.ofList, Table.ofList, get?_ofNames, get?_ofNames]
  simp only [same]

theorem ofSets_of_same {field : Field} {desired observed : List String}
    (same : ∀ name, name ∈ observed ↔ name ∈ desired) : ofSets field desired observed = none := by
  simp only [ofSets, nameSet_eq same, if_true]

/-- Where no document is desired, none has to be read. -/
theorem ofPolicy_of_blank {field : Field} {desired observed : Option String}
    (blank : nonBlank desired = none) :
    ∃ difference, ofPolicy field desired observed = .ok difference := by
  unfold ofPolicy
  rw [blank]
  cases nonBlank observed with
  | none => exact ⟨none, rfl⟩
  | some text => exact ⟨_, rfl⟩

/-- A difference between policies is told of the field that was compared. -/
theorem field_of_ofPolicy {field : Field} {desired observed : Option String} {drift : Drift}
    (found : ofPolicy field desired observed = .ok (some drift)) : drift.field = field := by
  unfold ofPolicy at found
  split at found
  · cases found
  · cases found
    rfl
  · cases found
    rfl
  · rename_i wanted seen _ _
    cases compared : sameObject wanted seen with
    | error error => simp [compared, bind, Except.bind] at found
    | ok same =>
        cases same
        · simp only [compared, bind, Except.bind, Bool.false_eq_true, if_false, pure,
            Except.pure, Except.ok.injEq, Option.some.injEq] at found
          rw [← found]
        · simp [compared, bind, Except.bind, pure, Except.pure] at found

/-- A difference between values is told of the field that was compared. -/
theorem field_of_ofValue {α : Type} [DecidableEq α] {field : Field} {render : α → String}
    {desired observed : Option α} {drift : Drift}
    (found : ofValue field render desired observed = some drift) : drift.field = field := by
  unfold ofValue at found
  cases desired with
  | none => cases found
  | some wanted =>
      dsimp only at found
      split at found
      · cases found
      · cases found
        rfl

theorem ofValue_self {α : Type} [DecidableEq α] (field : Field) (render : α → String)
    (desired : Option α) : ofValue field render desired desired = none := by
  cases desired with
  | none => rfl
  | some wanted => simp [ofValue]

/-- A value that is overwritten where it differs does not differ any more. -/
theorem ofValue_overwritten {α : Type} [DecidableEq α] {field : Field} {render : α → String}
    (desired observed : Option α) :
    ofValue field render desired
      ((desired.filter fun _ => (ofValue field render desired observed).isSome) <|> observed) =
        none := by
  cases desired with
  | none => rfl
  | some wanted =>
      by_cases same : observed = some wanted
      · simp [ofValue, same, Option.filter]
      · simp [ofValue, same, Option.filter]

theorem flags_append (first second : List Drift) (field : Field) :
    flags (first ++ second) field = (flags first field || flags second field) :=
  List.any_append

/-- One difference is found in its own field. -/
theorem flags_toList {difference : Option Drift} {field : Field}
    (named : ∀ drift, difference = some drift → drift.field = field) (other : Field) :
    flags difference.toList other = (decide (field = other) && difference.isSome) := by
  cases difference with
  | none => simp [flags]
  | some drift => simp [flags, named drift rfl]

/-- If policies differ at all, their field is flagged. -/
theorem flags_of_ofPolicy {field : Field} {desired observed : Option String}
    {drifts : List Drift}
    (differs : (ofPolicy field desired observed).map Option.toList = .ok drifts)
    (drifted : drifts ≠ []) : flags drifts field = true := by
  cases found : ofPolicy field desired observed with
  | error error => simp [found, Except.map] at differs
  | ok difference =>
      cases difference with
      | none =>
          rw [found] at differs
          cases differs
          exact absurd rfl drifted
      | some drift =>
          rw [found] at differs
          cases differs
          simp [flags, field_of_ofPolicy found]

end Steward.Drift
