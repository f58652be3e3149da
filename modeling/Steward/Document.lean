/-
This file holds what documents of all formats have in common, and the rules by which fields
are read from them.
A plain scalar is text whose kind is settled only by the field that it fills.
-/

import Steward.Json.Value
import Steward.Text.Digits

namespace Steward

open Text

/-- What the tag of a scalar asks of its words. -/
inductive ScalarTag where
  | bool
  | integer
  | real
  | null
  | named (name : String)
  deriving DecidableEq, Repr, Inhabited

/-- A document as its format wrote it, before its fields are known. -/
inductive Document where
  | null
  | bool (value : Bool)
  | integer (value : Int)
  | real
  | text (words : String)
  | plain (words : String)
  | tagged (tag : ScalarTag) (isQuoted : Bool) (words : String)
  | list (items : List Document)
  | table (entries : List (Document × Document))
  /-- What stands for no value at all. -/
  | invalid
  deriving Repr, Inhabited

namespace Document

section Plain

/-- The value of digits in the given base, if all are digits and there is one. -/
def digitsIn? (base : Nat) (characters : List Char) : Option Nat :=
  if characters = [] then none
  else
    characters.foldl
      (fun value character => do
        let value ← value
        let digit ← hexDigit? character
        if digit < base then some (base * value + digit) else none)
      (some 0)

/-- The characters of a number after its sign. -/
def unsignedPart : List Char → List Char
  | '-' :: rest | '+' :: rest => rest
  | characters => characters

/-- Digits that start with a zero but are not the number zero stand for text. -/
def zeroLed (characters : List Char) : Bool :=
  let digits := unsignedPart characters
  1 < digits.length && digits.head? = some '0' && digits.all isDigit

/-- A whole number in base ten, or in base sixteen, eight or two after its mark. -/
def wholeMagnitude? : List Char → Option Nat
  | '0' :: 'x' :: digits => digitsIn? 16 digits
  | '0' :: 'o' :: digits => digitsIn? 8 digits
  | '0' :: 'b' :: digits => digitsIn? 2 digits
  | digits => digitsIn? 10 digits

/-- Whether a whole number fits into 128 bits, with a sign or without. -/
def isWide (value : Int) : Bool :=
  -(Word.signedBound * (Word.max + 1) : Int) ≤ value && value < (Word.max + 1) * (Word.max + 1)

/-- Whether a whole number fits into 64 bits, with a sign or without. -/
def isNarrow (value : Int) : Bool :=
  -(Word.signedBound : Int) ≤ value && value ≤ Word.max

/-- The whole number that a plain scalar stands for. -/
def wholeNumber? (characters : List Char) : Option Int := do
  if zeroLed characters then none
  let value ←
    match characters with
    | '-' :: digits => (wholeMagnitude? digits).map fun value => -(value : Int)
    | '+' :: digits => (wholeMagnitude? digits).map fun value => (value : Int)
    | digits => (wholeMagnitude? digits).map fun value => (value : Int)
  if isWide value then some value else none

/-- The digits and the power of ten of a decimal number, of which at least one digit stands
before or after the point. -/
def decimalParts? (characters : List Char) : Option (List Char × Int) :=
  let (whole, rest) := spanDigits characters
  let (fraction, rest) := match rest with
    | '.' :: after => spanDigits after
    | _ => ([], rest)
  if whole = [] ∧ fraction = [] then none
  else
    match rest with
    | [] => some (whole ++ fraction, -(fraction.length : Int))
    | mark :: exponent =>
        let (negative, digits) := match exponent with
          | '-' :: digits => (true, digits)
          | '+' :: digits => (false, digits)
          | _ => (false, exponent)
        if (mark = 'e' ∨ mark = 'E') ∧ digits ≠ [] ∧ digits.all isDigit then
          let power : Int := digitsValue digits
          some (whole ++ fraction, (if negative then -power else power) - fraction.length)
        else none

/-- Whether a decimal number is below the bound at which doubles end. -/
def isFinite (digits : List Char) (power : Int) : Bool :=
  let digits := digits.dropWhile (· = '0')
  let magnitude : Int := digits.length + power
  if digits = [] ∨ magnitude < 309 then true
  else if 309 < magnitude then false
  else
    let bound := Nat.pow 2 1024 - Nat.pow 2 970
    match power with
    | .ofNat places => digitsValue digits * Nat.pow 10 places < bound
    | .negSucc places => digitsValue digits < bound * Nat.pow 10 (places + 1)

/-- A plain scalar that stands for a real number. -/
def isReal (characters : List Char) : Bool :=
  let unsigned := unsignedPart characters
  let word := String.ofList unsigned
  word ∈ [".inf", ".Inf", ".INF"] ||
    (characters = unsigned && word ∈ [".nan", ".NaN", ".NAN"]) ||
    (decimalParts? unsigned).any fun (digits, power) => isFinite digits power

/-- The kind of value that a plain scalar stands for. -/
def ofPlain (words : String) : Document :=
  if words = "~" ∨ words = "null" then .null
  else if words = "true" then .bool true
  else if words = "false" then .bool false
  else
    match wholeNumber? words.toList with
    | some value => .integer value
    | none =>
        if ¬ zeroLed words.toList ∧ isReal words.toList then .real else .text words

/-- The value of words that a tag says the kind of; quotes make no difference. -/
def ofTagged (tag : ScalarTag) (words : String) : Document :=
  match tag with
  | .named _ => .text words
  | .null => if words = "~" ∨ words = "null" then .null else .invalid
  | .bool =>
      if words = "true" then .bool true
      else if words = "false" then .bool false
      else .invalid
  | .integer =>
      let digits := unsignedPart words.toList
      let value : Int := digitsValue digits
      let value := if words.toList.head? = some '-' then -value else value
      if digits ≠ [] ∧ digits.all isDigit ∧ -(Word.signedBound : Int) ≤ value ∧
          value < Word.signedBound then .integer value
      else .invalid
  | .real =>
      let unsigned := unsignedPart words.toList
      if String.ofList (unsigned.map Char.toLower) ∈ ["inf", "infinity", "nan"] ∨
          (decimalParts? unsigned).isSome then .real
      else .invalid

end Plain

/-- The document with a scalar whose kind is open replaced by the value it stands for. -/
def settled : Document → Document
  | .plain words => ofPlain words
  | .tagged tag _ words => ofTagged tag words
  | document => document

/-- Whether a scalar stands for a value, of 64 bits if it is a whole number. -/
def isSoundScalar : Document → Bool
  | .integer value => isNarrow value
  | .invalid => false
  | _ => true

mutual

/-- Whether every scalar in a document stands for a value, of 64 bits if it is a whole number. -/
def isSound : Document → Bool
  | .null | .bool _ | .real | .text _ => true
  | .integer value => isNarrow value
  | .plain words => isSoundScalar (ofPlain words)
  | .tagged tag _ words => isSoundScalar (ofTagged tag words)
  | .list items => areSound items
  | .table entries => entriesAreSound entries
  | .invalid => false

def areSound : List Document → Bool
  | [] => true
  | first :: rest => isSound first && areSound rest

def entriesAreSound : List (Document × Document) → Bool
  | [] => true
  | (key, value) :: rest => isSound key && isSound value && entriesAreSound rest

end

/-- The text of a field that takes any scalar's text. -/
def string? : Document → Option String
  | .text words | .plain words | .tagged _ _ words => some words
  | _ => none

def bool? (document : Document) : Option Bool :=
  match document.settled with
  | .bool value => some value
  | _ => none

/-- A whole number from zero up to 64 bits. -/
def unsigned? (document : Document) : Option Nat :=
  match document.settled with
  | .integer value => if 0 ≤ value ∧ value ≤ Word.max then some value.toNat else none
  | _ => none

/-- A value that may be left open. Words tagged as null are, unless they are quoted. -/
def option? {α : Type} (decode : Document → Option α) (document : Document) :
    Option (Option α) :=
  match document with
  | .null => some none
  | .plain words =>
      if words = "~" ∨ words = "null" then some none else (decode document).map some
  | .tagged .null false words =>
      if words = "~" ∨ words = "null" then some none else none
  | _ => (decode document).map some

def list? {α : Type} (decode : Document → Option α) : Document → Option (List α)
  | .list items => items.mapM decode
  | _ => none

/-- The entries of a table, with their keys as text. -/
def entries? : Document → Option (List (String × Document))
  | .table entries => entries.mapM fun (key, value) => (key.string?).map (·, value)
  | _ => none

/-- A table of values by name; of two entries with one name the later counts. -/
def tableOf? {α : Type} (decode : Document → Option α) (document : Document) :
    Option (Table String α) := do
  let entries ← document.entries?
  let decoded ← entries.mapM fun (name, value) => (decode value).map (name, ·)
  return Table.ofList decoded

/-- The fields of a structure by name. -/
abbrev Fields := List (String × Document)

/-- The fields of a table that have one of the given names, if none is given twice. -/
def namedFields? (names : List String) (document : Document) : Option Fields := do
  let entries ← document.entries?
  let known := entries.filter fun entry => entry.1 ∈ names
  if (known.map Prod.fst).Nodup then some known else none

/-- The fields of a table that have none of the given names, which stand for values before
anything asks for them. -/
def looseFields? (names : List String) (document : Document) : Option Fields := do
  let entries ← document.entries?
  let loose := entries.filter fun entry => entry.1 ∉ names
  if loose.all fun entry => entry.2.isSound then
    some (loose.map fun entry => (entry.1, entry.2.settled))
  else none

/-- The fields of a structure, given by name, or by position in a list. -/
def fields? (names : List String) (document : Document) : Option Fields :=
  match document with
  | .list items => if items.length ≤ names.length then some (names.zip items) else none
  | _ => document.namedFields? names

namespace Fields

def find? (fields : Fields) (name : String) : Option Document :=
  fields.lookup name

/-- A field that must be there. -/
def required {α : Type} (fields : Fields) (name : String) (decode : Document → Option α) :
    Option α :=
  (fields.find? name).bind decode

/-- A field with a value to fall back on when it is not there. -/
def withDefault {α : Type} (fields : Fields) (name : String) (fallback : α)
    (decode : Document → Option α) : Option α :=
  match fields.find? name with
  | some document => decode document
  | none => some fallback

/-- A field that may be missing or left open. -/
def optional {α : Type} (fields : Fields) (name : String) (decode : Document → Option α) :
    Option (Option α) :=
  fields.withDefault name none (option? decode)

end Fields

/-- The name of a variant, and its content if it has any: a text, or a table of one entry.
A scalar whose tag is the name of a variant does not give that variant. -/
def variant? (names : List String) (document : Document) :
    Option (String × Option Document) :=
  match document with
  | .table [(key, content)] => (key.string?).map (·, some content)
  | .table _ => none
  | .tagged (.named name) _ words => if name ∈ names then none else some (words, none)
  | _ => (document.string?).map (·, none)

/-- The variant of the given names that has no content; the content may be written as null. -/
def choice? {α : Type} (choices : List (String × α)) (document : Document) : Option α := do
  let (name, content) ← document.variant? (choices.map Prod.fst)
  let value ← choices.lookup name
  match content.map settled with
  | none | some .null => some value
  | some _ => none

mutual

/-- A JSON value as a document. -/
def ofJson : Json.Value → Document
  | .null => .null
  | .bool value => .bool value
  | .number (.integer value) => .integer value
  | .number (.real _) => .real
  | .string words => .text words
  | .array items => .list (ofJsonItems items)
  | .object members => .table (ofJsonMembers members)

def ofJsonItems : List Json.Value → List Document
  | [] => []
  | first :: rest => ofJson first :: ofJsonItems rest

def ofJsonMembers : List (String × Json.Value) → List (Document × Document)
  | [] => []
  | (name, first) :: rest => (.text name, ofJson first) :: ofJsonMembers rest

end

end Document

end Steward
