/-
This file reads JSON numbers.
A whole number of at most 64 bits keeps its value. Any other number becomes a double: as many
leading digits as fit in 64 bits are kept, and one multiplication or division by a power of
ten places the point.
-/

import Steward.Json.Value
import Steward.Text.Digits

namespace Steward.Json

open Text

/-- Why a text is not a JSON value. -/
inductive ReadError where
  | unexpectedEnd
  | unexpectedCharacter (found : Char)
  | controlCharacter
  | invalidEscape
  | loneSurrogate
  | invalidNumber
  | numberOutOfRange
  | nestedTooDeep
  | trailingCharacters
  deriving DecidableEq, Repr

def ReadError.message : ReadError → String
  | .unexpectedEnd => "the text ends inside a value"
  | .unexpectedCharacter found => "unexpected character " ++ String.singleton found
  | .controlCharacter => "control character in a string"
  | .invalidEscape => "invalid escape"
  | .loneSurrogate => "surrogate without its pair"
  | .invalidNumber => "invalid number"
  | .numberOutOfRange => "number out of range"
  | .nestedTooDeep => "nesting exceeds the limit"
  | .trailingCharacters => "trailing characters"

/-- The number of the leading digits that fit in 64 bits after `significand`, and the digits
that are left over. -/
def keepDigits (significand : Nat) : List Char → Nat × List Char
  | [] => (significand, [])
  | digit :: rest =>
      let longer := 10 * significand + digitValue digit
      if longer ≤ Word.max then keepDigits longer rest else (significand, digit :: rest)

/-- The double next to `significand * 10 ^ exponent`, if there is a finite one. -/
def scaledDouble (significand : Nat) (exponent : Int) : Option Float :=
  let value := Float.ofNat significand
  let power := fun (places : Nat) => Float.ofScientific 1 false places
  if significand = 0 then some value
  else
    match exponent with
    | .ofNat places =>
        if places ≤ 308 then
          let product := value * power places
          if product.isInf then none else some product
        else none
    | .negSucc places =>
        let places := places + 1
        if places ≤ 308 then some (value / power places)
        else if places ≤ 616 then some (value / power 308 / power (places - 308))
        else some 0

/-- The number for a double; zero has one form whatever its sign. -/
def Number.ofDouble (negative : Bool) (magnitude : Float) : Number :=
  let bits := magnitude.toBits
  .real (if negative && bits != 0 then bits ||| 0x8000000000000000 else bits)

/-- The number with the given sign, digits before and after the point, and exponent. -/
def Number.ofParts (negative : Bool) (whole fraction : List Char) (exponent : Int) :
    Except ReadError Number :=
  let (significand, dropped) := keepDigits 0 whole
  let (significand, ignored) := keepDigits significand fraction
  let places : Int := dropped.length - (fraction.length - ignored.length) + exponent
  match scaledDouble significand places with
  | some magnitude => .ok (.ofDouble negative magnitude)
  | none => .error .numberOutOfRange

/-- The number of a run of digits without point or exponent. -/
def Number.ofWhole (negative : Bool) (digits : List Char) : Except ReadError Number :=
  let value := digitsValue digits
  if negative then
    if value ≠ 0 ∧ value ≤ Word.signedBound then .ok (.integer (-value))
    else Number.ofParts true digits [] 0
  else if value ≤ Word.max then .ok (.integer value)
  else Number.ofParts false digits [] 0

/-- A run of at least one digit, with the characters that follow. -/
def readDigits (characters : List Char) : Except ReadError (List Char × List Char) :=
  match spanDigits characters with
  | ([], []) => .error .unexpectedEnd
  | ([], _ :: _) => .error .invalidNumber
  | read => .ok read

/-- Whether an exponent is negative, and what follows its sign if it has one. -/
def splitSign : List Char → Bool × List Char
  | '-' :: rest => (true, rest)
  | '+' :: rest => (false, rest)
  | characters => (false, characters)

/-- The exponent after its letter, with the characters that follow. -/
def readExponent (characters : List Char) : Except ReadError (Int × List Char) := do
  let (negative, characters) := splitSign characters
  let (digits, rest) ← readDigits characters
  let value : Int := digitsValue digits
  return (if negative then -value else value, rest)

/-- The number whose digits have been read, with the exponent that may follow them. -/
def readScale (negative : Bool) (whole fraction characters : List Char) :
    Except ReadError (Number × List Char) :=
  match characters with
  | 'e' :: rest | 'E' :: rest => do
      let (exponent, rest) ← readExponent rest
      return (← Number.ofParts negative whole fraction exponent, rest)
  | _ => return (← Number.ofParts negative whole fraction 0, characters)

/-- A number at the start of the text after its sign, with the characters that follow. -/
def readUnsigned (negative : Bool) (characters : List Char) :
    Except ReadError (Number × List Char) := do
  let (whole, rest) ← readDigits characters
  if whole.head? = some '0' ∧ 1 < whole.length then .error .invalidNumber
  else
    match rest with
    | '.' :: afterPoint =>
        let (fraction, rest) ← readDigits afterPoint
        readScale negative whole fraction rest
    | 'e' :: _ | 'E' :: _ => readScale negative whole [] rest
    | _ => return (← Number.ofWhole negative whole, rest)

/-- A number at the start of the text, with the characters that follow. -/
def readNumber (characters : List Char) : Except ReadError (Number × List Char) :=
  match characters with
  | '-' :: rest => readUnsigned true rest
  | _ => readUnsigned false characters

end Steward.Json
