/-
This file reads and writes runs of decimal digits, and reads whole numbers of 64 bits.
Why a text is no such number is decided by the first character that cannot be part of one.
-/

namespace Steward

namespace Word

/-- The greatest number without a sign. -/
def max : Nat :=
  0xFFFFFFFFFFFFFFFF

/-- The magnitude of the least number with a sign. -/
def signedBound : Nat :=
  0x8000000000000000

end Word

namespace Text

def isDigit (character : Char) : Bool :=
  '0' ≤ character && character ≤ '9'

def digitValue (character : Char) : Nat :=
  character.toNat - '0'.toNat

/-- The number that a run of digits denotes. -/
def digitsValue (digits : List Char) : Nat :=
  digits.foldl (fun value digit => 10 * value + digitValue digit) 0

/-- The longest run of digits at the start, of at most `limit` characters, and the rest. -/
def takeDigits (limit : Nat) (characters : List Char) : List Char × List Char :=
  let digits := (characters.take limit).takeWhile isDigit
  (digits, characters.drop digits.length)

/-- The whole run of digits at the start, and the rest. -/
def spanDigits (characters : List Char) : List Char × List Char :=
  (characters.takeWhile isDigit, characters.dropWhile isDigit)

/-- The value of a hexadecimal digit. -/
def hexDigit? (character : Char) : Option Nat :=
  if isDigit character then some (digitValue character)
  else if 'a' ≤ character ∧ character ≤ 'f' then some (character.toNat - 'a'.toNat + 10)
  else if 'A' ≤ character ∧ character ≤ 'F' then some (character.toNat - 'A'.toNat + 10)
  else none

def decimal (number : Nat) : List Char :=
  Nat.toDigits 10 number

/-- A number with zeros in front up to the given width. -/
def padded (width number : Nat) : List Char :=
  let digits := decimal number
  List.replicate (width - digits.length) '0' ++ digits

/-- Why a text is no whole number. -/
inductive UnsignedError where
  | empty
  | invalidDigit
  | tooLarge
  deriving DecidableEq, Repr

def UnsignedError.message : UnsignedError → String
  | .empty => "cannot parse integer from empty string"
  | .invalidDigit => "invalid digit found in string"
  | .tooLarge => "number too large to fit in target type"

/-- Goes on with a number by one digit. -/
def appendDigit (value : Nat) (digit : Char) : Except UnsignedError Nat :=
  if ¬ isDigit digit then .error .invalidDigit
  else
    let next := 10 * value + digitValue digit
    if Word.max < next then .error .tooLarge else .ok next

/-- Reads digits, after a plus sign if there is one. -/
def readUnsigned (text : String) : Except UnsignedError Nat :=
  match text.toList with
  | [] => .error .empty
  | ['+'] => .error .invalidDigit
  | '+' :: digits => digits.foldlM appendDigit 0
  | digits => digits.foldlM appendDigit 0

end Text

end Steward
