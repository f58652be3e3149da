/-
This file reads the numbers, truth values and dates of TOML.
A scalar without quotes is one word, or two when it is a date and a time with a blank between
them.
-/

import Steward.Document
import Steward.Timestamp
import Steward.Toml.Text

namespace Steward.Toml

open Text (digitsValue hexDigit? isDigit)

/-- The digits of a number without the underscores, each of which stands between two digits. -/
def plainDigits? (test : Char → Bool) : List Char → Option (List Char)
  | [] => none
  | [digit] => if test digit then some [digit] else none
  | digit :: '_' :: rest =>
      if test digit then (plainDigits? test rest).map (digit :: ·) else none
  | digit :: rest => if test digit then (plainDigits? test rest).map (digit :: ·) else none

/-- The value of digits in the given base, with underscores between them. -/
def magnitude? (base : Nat) (characters : List Char) : Option Nat := do
  let digits ← plainDigits? (fun character => (hexDigit? character).any (· < base)) characters
  Document.digitsIn? base digits

/-- Decimal digits that do not start with a needless zero. -/
def wholeDigits? (characters : List Char) : Option (List Char) := do
  let digits ← plainDigits? isDigit characters
  if 1 < digits.length ∧ digits.head? = some '0' then none else return digits

/-- A sign, if there is one, and what follows. -/
def readSign : List Char → Option Char × List Char
  | '+' :: rest => (some '+', rest)
  | '-' :: rest => (some '-', rest)
  | rest => (none, rest)

/-- The whole number that a word stands for. A base other than ten admits no sign. -/
def integer? (word : List Char) : Option Int :=
  match word with
  | '0' :: 'x' :: digits => (magnitude? 16 digits).map Int.ofNat
  | '0' :: 'o' :: digits => (magnitude? 8 digits).map Int.ofNat
  | '0' :: 'b' :: digits => (magnitude? 2 digits).map Int.ofNat
  | _ => do
      let (sign, digits) := readSign word
      let value : Int := digitsValue (← wholeDigits? digits)
      return if sign = some '-' then -value else value

/-- The least and the greatest whole number that can be told. -/
def integerRange : Int × Int :=
  (-(Nat.pow 2 127 : Nat), Nat.pow 2 128 - 1)

/-- Whether a word is a decimal number with a fraction, an exponent or both, and not too great
to be told. -/
def isDecimal (word : List Char) : Bool :=
  let (_, unsigned) := readSign word
  let isMark := fun character => character = 'e' || character = 'E'
  let mantissa := unsigned.takeWhile fun character => !isMark character
  let exponent := unsigned.drop mantissa.length
  let whole := mantissa.takeWhile (· ≠ '.')
  let fraction := mantissa.drop whole.length
  let power? : Option Int := match exponent with
    | [] => some 0
    | _ :: rest =>
        let (sign, digits) := readSign rest
        (plainDigits? isDigit digits).map fun digits =>
          let value : Int := digitsValue digits
          if sign = some '-' then -value else value
  let places? : Option (List Char) := match fraction with
    | [] => some []
    | _ :: rest => plainDigits? isDigit rest
  match wholeDigits? whole, places?, power? with
  | some digits, some places, some power =>
      (fraction ≠ [] || exponent ≠ []) &&
        Document.isFinite (digits ++ places) (power - places.length)
  | _, _, _ => false

def isSpecial (word : List Char) : Bool :=
  String.ofList (readSign word).2 ∈ ["inf", "nan"]

/-- A number of exactly the given count of digits, and what follows. -/
def readFixed (count : Nat) (characters : List Char) : Option (Nat × List Char) :=
  let digits := characters.take count
  if digits.length = count ∧ digits.all isDigit then
    some (digitsValue digits, characters.drop count)
  else none

def readMark (mark : Char) : List Char → Option (List Char)
  | [] => none
  | first :: rest => if first = mark then some rest else none

/-- Reads a day of the calendar. -/
def readDate (characters : List Char) : Option (List Char) := do
  let (year, rest) ← readFixed 4 characters
  let (month, rest) ← readFixed 2 (← readMark '-' rest)
  let (day, rest) ← readFixed 2 (← readMark '-' rest)
  if Timestamp.Date.valid ⟨year, month, day⟩ then return rest else none

/-- Reads the seconds of a time with their fraction. -/
def readSeconds (characters : List Char) : Option (List Char) := do
  let (second, rest) ← readFixed 2 characters
  if 60 < second then none
  match rest with
  | '.' :: rest =>
      let digits := rest.takeWhile isDigit
      if digits = [] then none else return rest.drop digits.length
  | _ => return rest

/-- Reads a time of day; the seconds may be left out. -/
def readClock (characters : List Char) : Option (List Char) := do
  let (hour, rest) ← readFixed 2 characters
  let (minute, rest) ← readFixed 2 (← readMark ':' rest)
  if 23 < hour ∨ 59 < minute then none
  match rest with
  | ':' :: rest => readSeconds rest
  | _ => return rest

/-- Reads a distance from the time at Greenwich, if there is one. -/
def readOffset (characters : List Char) : Option (List Char) :=
  match characters with
  | 'Z' :: rest | 'z' :: rest => some rest
  | '+' :: rest | '-' :: rest => do
      let (hour, rest) ← readFixed 2 rest
      let (minute, rest) ← readFixed 2 (← readMark ':' rest)
      if 23 < hour ∨ 59 < minute then none else return rest
  | _ => some characters

/-- Whether a word is a date, a time, or both. -/
def isDatetime (word : List Char) : Bool :=
  match readDate word with
  | some [] => true
  | some (mark :: rest) =>
      mark ∈ ['T', 't', ' '] && ((readClock rest).bind readOffset).any List.isEmpty
  | none => (readClock word).any List.isEmpty

/-- The name of the only entry in the table that a date is told as. -/
def datetimeKey : String :=
  "$__toml_private_datetime"

/-- The value of a word. -/
def ofWord? (word : List Char) : Option Document :=
  match String.ofList word with
  | "true" => some (.bool true)
  | "false" => some (.bool false)
  | text =>
      match integer? word with
      | some value =>
          if integerRange.1 ≤ value ∧ value ≤ integerRange.2 then some (.integer value) else none
      | none =>
          if isDecimal word || isSpecial word then some .real
          else if isDatetime word then some (.table [(.text datetimeKey, .text text)])
          else none

def isWordChar (character : Char) : Bool :=
  character.isAlphanum || character ∈ ['_', '-', '+', '.', ':']

/-- Reads a scalar without quotes. A date and a time may have one blank between them. -/
def readWord (characters : List Char) : Option (Document × List Char) := do
  let word := characters.takeWhile isWordChar
  let rest := characters.drop word.length
  let (word, rest) := match rest with
    | ' ' :: digit :: _ =>
        if (readDate word).any List.isEmpty && isDigit digit then
          let time := (rest.drop 1).takeWhile isWordChar
          (word ++ ' ' :: time, rest.drop (time.length + 1))
        else (word, rest)
    | _ => (word, rest)
  return (← ofWord? word, rest)

end Steward.Toml
