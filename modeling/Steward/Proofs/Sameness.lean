/-
This file shows that documents are compared by what they say, and not by how they are written.
A document that has been cut short is not compared at all.
-/

import Steward.Proofs.Drift
import Steward.Proofs.JsonAlike
import Steward.Proofs.JsonPrefix

namespace Steward

open Json (Value Alike IsLegible Renders nestingLimit arranged)

namespace Drift

/-- Two documents that can be read are compared by their values. -/
theorem sameObject_of_read {desired observed : String} {first second : Value}
    (left : Json.read desired = .ok first) (right : Json.read observed = .ok second) :
    sameObject desired observed = .ok (decide (first = second)) := by
  simp only [sameObject, readDocument_of_read _ left, readDocument_of_read _ right, bind,
    Except.bind]
  rfl

/-- A document that cannot be read is an error on either side, whatever the other one is. -/
theorem sameObject_malformed {text : String} {error : Json.ReadError}
    (unread : Json.read text = .error error) (other : String) :
    (∃ message, sameObject text other = .error (.malformedPolicy message)) ∧
      ∃ message, sameObject other text = .error (.malformedPolicy message) := by
  refine ⟨⟨_, sameObject_of_unread unread⟩, ?_⟩
  cases read : Json.read other with
  | error error => exact ⟨_, sameObject_of_unread read⟩
  | ok value =>
      refine ⟨"observed" ++ " document: " ++ error.message, ?_⟩
      simp only [sameObject, readDocument_of_read _ read, readDocument_of_unread _ unread, bind,
        Except.bind]

/-- A text of an array or an object that ends with the bracket that closes it. -/
def IsEnclosed (text : String) : Prop :=
  (∃ items, Json.read text = .ok (.array items) ∧ text.toList.getLast? = some ']') ∨
    ∃ members, Json.read text = .ok (.object members) ∧ text.toList.getLast? = some '\x7d'

/-- A document in brackets that is cut short cannot be read. -/
theorem IsEnclosed.read_of_proper_prefix {text part : String} (enclosed : IsEnclosed text)
    (starts : part.toList <+: text.toList) (proper : part ≠ text) :
    ∃ error, Json.read part = .error error := by
  rcases enclosed with ⟨items, read, closed⟩ | ⟨members, read, closed⟩
  all_goals
    refine Json.read_of_proper_prefix read nofun (fun last ends => ?_) starts proper
    rw [closed] at ends
    cases ends
    rfl

/-- Two texts are the same just when the values are that they were written for, whatever the blanks,
the forms of characters and the order of members are. A text that ends too early is an error on
either side. -/
theorem sameObject_compares_values :
    (∀ first second : Value, IsLegible nestingLimit first → IsLegible nestingLimit second →
      ∀ text other : String, Renders first text.toList → Renders second other.toList →
        (Alike first second →
          sameObject text other = .ok true ∧ sameObject other text = .ok true) ∧
        (¬ Alike first second →
          sameObject text other = .ok false ∧ sameObject other text = .ok false)) ∧
    ∀ text part other : String, IsEnclosed text → part.toList <+: text.toList → part ≠ text →
      (∃ message, sameObject part other = .error (.malformedPolicy message)) ∧
        ∃ message, sameObject other part = .error (.malformedPolicy message) := by
  constructor
  · intro first second legible readable text other renders displays
    have left := Json.read_of_renders legible renders
    have right := Json.read_of_renders readable displays
    have same : arranged first = arranged second ↔ Alike first second :=
      Json.arranged_eq_iff first second legible readable
    rw [sameObject_of_read left right, sameObject_of_read right left]
    constructor
    · intro alike
      simp [same.2 alike]
    · intro apart
      have differ : arranged first ≠ arranged second := mt same.1 apart
      simp [differ, differ.symm]
  · intro text part other enclosed starts proper
    obtain ⟨error, unread⟩ := enclosed.read_of_proper_prefix starts proper
    exact sameObject_malformed unread other

end Drift

namespace Sample

/-- An object with a slash in it. -/
def slashed : Value :=
  .object [("a", .string "/"), ("b", .array [.number (.integer 1), .null])]

/-- Its members in the other order, with blanks, a code for a letter and an escaped slash. -/
def slashedText : String :=
  "\x7b \"b\" : [1,\nnull], \"\\u0061\":\"\\/\" \x7d"

/-- The text cut short after its first member. -/
def slashedStart : String :=
  "\x7b \"b\" : [1,\nnull]"

/-- The items of its array in the other order. -/
def inverted : Value :=
  .object [("a", .string "/"), ("b", .array [.null, .number (.integer 1)])]

/-- The text with a slash that is escaped renders the value with the slash. -/
theorem renders_slashedText : Json.Renders slashed slashedText.toList := by
  refine ⟨.object [("b", .array [.number (.integer 1), .null]), ("a", .string "/")], ?_, ?_⟩
  · exact ⟨[_], .string "/", [], rfl, rfl, [], _, [], rfl, ⟨rfl, trivial, trivial⟩, rfl⟩
  · have spelled (text : String) := Json.spellsAll_escaped text.toList
    have digit {value : Nat} (small : value < 16) : Json.IsHexDigit value (Nat.digitChar value) :=
      ⟨small, .inl rfl⟩
    have code : Json.IsCode 'a'.toNat ['0', '0', '6', '1'] :=
      .digits (digit (show 0 < 16 by decide)) (digit (show 0 < 16 by decide))
        (digit (show 6 < 16 by decide)) (digit (show 1 < 16 by decide))
    have letter : Json.SpellsAll ['a'] (['\\', 'u', '0', '0', '6', '1'] ++ []) :=
      .cons (.code code) .nil
    have slash : Json.SpellsAll ['/'] (['\\', '/'] ++ []) := .cons (.letter (by decide)) .nil
    change Json.Lays _ ([] ++ (['\x7b'] ++ ([' '] ++ (['"', 'b', '"'] ++ ([' '] ++ ([':'] ++
      ([' '] ++ (['['] ++ ([] ++ (['1'] ++ ([] ++ ([','] ++ (['\n'] ++ (['n', 'u', 'l', 'l'] ++
      ([] ++ ([']'] ++ ([] ++ ([','] ++ ([' '] ++ (['"', '\\', 'u', '0', '0', '6', '1', '"'] ++
      ([] ++ ([':'] ++ ([] ++ (['"', '\\', '/', '"'] ++ ([' '] ++ (['\x7d'] ++
      []))))))))))))))))))))))))))
    refine .cons (by decide) rfl (.cons (by decide) ⟨_, spelled "b", rfl⟩ ?_)
    refine .cons (by decide) rfl (.cons (by decide) rfl (.cons (by decide) rfl ?_))
    refine .cons (by decide) rfl (.cons (by decide) rfl (.cons (by decide) rfl ?_))
    refine .cons (by decide) rfl (.cons (by decide) ⟨_, letter, rfl⟩ ?_)
    refine .cons (by decide) rfl (.cons (by decide) ⟨_, slash, rfl⟩ ?_)
    exact .cons (by decide) rfl (.nil (by decide))

end Sample

/-- One object in two texts is the same, and it is not the same once the items of its array are
turned. The start of its text is an error beside any other text. -/
theorem Drift.sameObject_compares_values_of_slashed :
    (sameObject Sample.slashedText Sample.slashed.render = .ok true ∧
      sameObject Sample.slashed.render Sample.slashedText = .ok true) ∧
    (sameObject Sample.slashedText Sample.inverted.render = .ok false ∧
      sameObject Sample.inverted.render Sample.slashedText = .ok false) ∧
    ∀ other,
      (∃ message, sameObject Sample.slashedStart other = .error (.malformedPolicy message)) ∧
        ∃ message, sameObject other Sample.slashedStart = .error (.malformedPolicy message) := by
  obtain ⟨compares, fails⟩ := sameObject_compares_values
  have legible : IsLegible nestingLimit Sample.slashed :=
    ⟨by decide, by decide, trivial, ⟨by decide, ⟨by decide, by decide⟩, trivial, trivial⟩, trivial⟩
  have readable : IsLegible nestingLimit Sample.inverted :=
    ⟨by decide, by decide, trivial, ⟨by decide, trivial, ⟨by decide, by decide⟩, trivial⟩, trivial⟩
  have renders := Sample.renders_slashedText
  have alike : Alike Sample.slashed Sample.slashed :=
    (Json.arranged_eq_iff _ _ legible legible).1 rfl
  have apart : ¬ Alike Sample.slashed Sample.inverted := fun alike =>
    absurd ((Json.arranged_eq_iff _ _ legible readable).2 alike) (by decide)
  have enclosed : IsEnclosed Sample.slashedText :=
    .inr ⟨_, Json.read_of_renders legible renders, rfl⟩
  exact ⟨(compares _ _ legible legible _ _ renders (Json.renders_render legible)).1 alike,
    (compares _ _ legible readable _ _ renders (Json.renders_render readable)).2 apart,
    fun other => fails _ _ other enclosed (by decide) (by decide)⟩

end Steward
