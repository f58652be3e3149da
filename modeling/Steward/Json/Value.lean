/-
This file holds the values that a JSON text denotes.
The members of an object are kept in the order of their names, so two objects with the same
members are the same value.
-/

import Steward.Table

namespace Steward.Json

/-- A number: a whole number of at most 64 bits, or a real held by the bits of its double. -/
inductive Number where
  | integer (value : Int)
  | real (bits : UInt64)
  deriving DecidableEq, Repr

inductive Value where
  | null
  | bool (value : Bool)
  | number (value : Number)
  | string (text : String)
  | array (items : List Value)
  | object (members : List (String × Value))
  deriving Repr, Inhabited

namespace Value

mutual

def decEq : (first second : Value) → Decidable (first = second)
  | .null, .null => .isTrue rfl
  | .bool first, .bool second => decidable_of_iff (first = second) (by simp)
  | .number first, .number second => decidable_of_iff (first = second) (by simp)
  | .string first, .string second => decidable_of_iff (first = second) (by simp)
  | .array first, .array second =>
      match decEqItems first second with
      | .isTrue same => .isTrue (by rw [same])
      | .isFalse different => .isFalse (by simpa using different)
  | .object first, .object second =>
      match decEqMembers first second with
      | .isTrue same => .isTrue (by rw [same])
      | .isFalse different => .isFalse (by simpa using different)
  | .null, .bool _ | .null, .number _ | .null, .string _ | .null, .array _ | .null, .object _
  | .bool _, .null | .bool _, .number _ | .bool _, .string _ | .bool _, .array _
  | .bool _, .object _ | .number _, .null | .number _, .bool _ | .number _, .string _
  | .number _, .array _ | .number _, .object _ | .string _, .null | .string _, .bool _
  | .string _, .number _ | .string _, .array _ | .string _, .object _ | .array _, .null
  | .array _, .bool _ | .array _, .number _ | .array _, .string _ | .array _, .object _
  | .object _, .null | .object _, .bool _ | .object _, .number _ | .object _, .string _
  | .object _, .array _ => .isFalse (by simp)

def decEqItems : (first second : List Value) → Decidable (first = second)
  | [], [] => .isTrue rfl
  | [], _ :: _ | _ :: _, [] => .isFalse (by simp)
  | first :: rest, second :: others =>
      match decEq first second, decEqItems rest others with
      | .isTrue same, .isTrue tail => .isTrue (by rw [same, tail])
      | .isFalse different, _ => .isFalse (by simp [different])
      | _, .isFalse different => .isFalse (by simp [different])

def decEqMembers : (first second : List (String × Value)) → Decidable (first = second)
  | [], [] => .isTrue rfl
  | [], _ :: _ | _ :: _, [] => .isFalse (by simp)
  | (firstName, first) :: rest, (secondName, second) :: others =>
      if name : firstName = secondName then
        match decEq first second, decEqMembers rest others with
        | .isTrue same, .isTrue tail => .isTrue (by rw [name, same, tail])
        | .isFalse different, _ => .isFalse (by simp [different])
        | _, .isFalse different => .isFalse (by simp [different])
      else .isFalse (by simp [name])

end

instance : DecidableEq Value :=
  decEq

/-- An object of the given members; of two members with one name the later counts. -/
def ofMembers (members : List (String × Value)) : Value :=
  .object <|
    members.foldl (fun kept member => Table.insertEntries member.1 member.2 kept) []

/-- An object whose absent members are left out. -/
def ofPresent (members : List (String × Option Value)) : Value :=
  ofMembers <| members.filterMap fun member => member.2.map fun value => (member.1, value)

def ofNat (number : Nat) : Value :=
  .number (.integer number)

def ofOption {α : Type} (encode : α → Value) : Option α → Value
  | none => .null
  | some value => encode value

def ofStrings (texts : List String) : Value :=
  .array (texts.map .string)

/-- The member of an object under a name. -/
def member? (value : Value) (name : String) : Option Value :=
  match value with
  | .object members => Table.lookupEntries name members
  | _ => none

end Value

end Steward.Json
