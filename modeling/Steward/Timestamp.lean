/-
This file holds points in time, given by their calendar date and clock time at Greenwich.
A fraction of a second of a billion nanoseconds or more marks a leap second.
-/

import Steward.Text.Basic
import Steward.Text.Digits

namespace Steward

open Text

/-- A point in time. -/
structure Timestamp where
  year : Int
  month : Nat
  day : Nat
  hour : Nat
  minute : Nat
  second : Nat
  nanosecond : Nat
  deriving DecidableEq, Repr, Inhabited

namespace Timestamp

def minYear : Int := -262143

def maxYear : Int := 262142

def leapYear (year : Int) : Bool :=
  year % 4 == 0 && (year % 100 != 0 || year % 400 == 0)

def daysInMonth (year : Int) (month : Nat) : Nat :=
  if month = 2 then
    if leapYear year then 29 else 28
  else if month = 4 ∨ month = 6 ∨ month = 9 ∨ month = 11 then 30
  else 31

/-- A day of the calendar. -/
structure Date where
  year : Int
  month : Nat
  day : Nat
  deriving DecidableEq, Repr

def Date.valid (date : Date) : Bool :=
  minYear ≤ date.year && date.year ≤ maxYear && 1 ≤ date.month && date.month ≤ 12 &&
    1 ≤ date.day && date.day ≤ daysInMonth date.year date.month

def Date.next (date : Date) : Date :=
  if date.day < daysInMonth date.year date.month then
    { date with day := date.day + 1 }
  else if date.month < 12 then ⟨date.year, date.month + 1, 1⟩
  else ⟨date.year + 1, 1, 1⟩

def Date.previous (date : Date) : Date :=
  if 1 < date.day then { date with day := date.day - 1 }
  else if 1 < date.month then
    ⟨date.year, date.month - 1, daysInMonth date.year (date.month - 1)⟩
  else ⟨date.year - 1, 12, 31⟩

/-- The point in time that a local date and clock time denote, `offset` seconds east. -/
def ofLocal? (date : Date) (hour minute second nanosecond : Nat) (offset : Int) :
    Option Timestamp :=
  let seconds : Int := hour * 3600 + minute * 60 + second - offset
  let shifted := if seconds < 0 then date.previous
    else if 86400 ≤ seconds then date.next else date
  let clock := (seconds % 86400).toNat
  if date.valid && shifted.valid then
    some ⟨shifted.year, shifted.month, shifted.day, clock / 3600, clock / 60 % 60, clock % 60,
      nanosecond⟩
  else none

section Writing

/-- The year with four digits, and with a sign when four digits do not hold it. -/
def yearText (year : Int) : List Char :=
  if 0 ≤ year ∧ year ≤ 9999 then padded 4 year.toNat
  else if year < 0 then '-' :: padded 4 year.natAbs
  else '+' :: padded 4 year.natAbs

/-- The fraction with as few of three, six or nine digits as hold it. -/
def fractionText (nanosecond : Nat) : List Char :=
  if nanosecond = 0 then []
  else if nanosecond % 1000000 = 0 then '.' :: padded 3 (nanosecond / 1000000)
  else if nanosecond % 1000 = 0 then '.' :: padded 6 (nanosecond / 1000)
  else '.' :: padded 9 nanosecond

/-- The time in the form `2030-01-01T00:00:00Z`; a leap second is written as second sixty. -/
def render (time : Timestamp) : String :=
  let second := time.second + time.nanosecond / 1000000000
  String.ofList <|
    yearText time.year ++ '-' :: padded 2 time.month ++ '-' :: padded 2 time.day ++
      'T' :: padded 2 time.hour ++ ':' :: padded 2 time.minute ++ ':' :: padded 2 second ++
      fractionText (time.nanosecond % 1000000000) ++ ['Z']

end Writing

section Reading

/-- A number of at least one and at most `width` digits, after any blanks. -/
def readNumber (width : Nat) (characters : List Char) : Option (Nat × List Char) :=
  match takeDigits width (trimStartChars characters) with
  | ([], _) => none
  | (digits, rest) => some (digitsValue digits, rest)

/-- A year of at most four digits, or of any length after a sign. -/
def readYear (characters : List Char) : Option (Int × List Char) :=
  let whole : List Char → Option (Nat × List Char) := fun digits =>
    match spanDigits digits with
    | ([], _) => none
    | (run, rest) => some (digitsValue run, rest)
  match trimStartChars characters with
  | '-' :: rest => (whole rest).map fun (year, after) => (-(year : Int), after)
  | '+' :: rest => (whole rest).map fun (year, after) => ((year : Int), after)
  | start => (readNumber 4 start).map fun (year, after) => ((year : Int), after)

/-- The given character, after any blanks. -/
def readMark (mark : Char) (characters : List Char) : Option (List Char) :=
  match trimStartChars characters with
  | first :: rest => if first = mark then some rest else none
  | [] => none

/-- An optional fraction; digits after the ninth do not count. -/
def readFraction : List Char → Option (Nat × List Char)
  | '.' :: rest =>
      match takeDigits 9 rest with
      | ([], _) => none
      | (digits, after) =>
          some (digitsValue digits * Nat.pow 10 (9 - digits.length), after.dropWhile isDigit)
  | characters => some (0, characters)

/-- The distance from Greenwich in seconds, east counted positive. -/
def readOffset (characters : List Char) : Option (Int × List Char) :=
  let distance : Int → List Char → Option (Int × List Char) := fun direction digits =>
    match digits with
    | tens :: ones :: rest =>
        if isDigit tens && isDigit ones then
          match rest.dropWhile fun mark => mark == ':' || isBlankChar mark with
          | minuteTens :: minuteOnes :: after =>
              if '0' ≤ minuteTens && minuteTens ≤ '5' && isDigit minuteOnes then
                let hours := digitsValue [tens, ones]
                let minutes := digitsValue [minuteTens, minuteOnes]
                some (direction * (hours * 3600 + minutes * 60), after)
              else none
          | _ => none
        else none
    | _ => none
  match characters with
  | first :: rest =>
      if first = 'Z' ∨ first = 'z' then some (0, rest)
      else if first = '+' then distance 1 rest
      else if first = '-' ∨ first = '\u2212' then distance (-1) rest
      else
        match characters with
        | u :: t :: c :: after =>
            if (u = 'U' ∨ u = 'u') ∧ (t = 'T' ∨ t = 't') ∧ (c = 'C' ∨ c = 'c') then
              some (0, after)
            else none
        | _ => none
  | [] => none

/-- Reads a date, a clock time and a distance from Greenwich, with blanks allowed between
them; gives nothing when the text has another form or names no point in time. -/
def read? (text : String) : Option Timestamp := do
  let (year, characters) ← readYear text.toList
  let (month, characters) ← readNumber 2 (← readMark '-' characters)
  let (day, characters) ← readNumber 2 (← readMark '-' characters)
  let characters ← match characters with
    | first :: rest => if first = 't' ∨ first = 'T' ∨ first = ' ' then some rest else none
    | [] => none
  let (hour, characters) ← readNumber 2 characters
  let (minute, characters) ← readNumber 2 (← readMark ':' characters)
  let (second, characters) ← readNumber 2 (← readMark ':' characters)
  let (fraction, characters) ← readFraction characters
  let (offset, characters) ← readOffset (trimStartChars characters)
  if ¬ characters.all isBlankChar then none
  if ¬ (hour ≤ 23 ∧ minute ≤ 59 ∧ second ≤ 60 ∧ offset.natAbs < 86400) then none
  let leap := second = 60
  ofLocal? ⟨year, month, day⟩ hour minute (if leap then 59 else second)
    (if leap then fraction + 1000000000 else fraction) offset

end Reading

end Timestamp

end Steward
