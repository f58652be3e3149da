/-
This file writes JSON values without blanks between their parts.
-/

import Steward.Json.Value
import Steward.Text.Digits

namespace Steward.Json

open Text

/-- One character as it stands in a JSON string: quotes, backslashes and control characters
are escaped, all others stand for themselves. -/
def escapedChar (character : Char) : List Char :=
  if character = '"' then ['\\', '"']
  else if character = '\\' then ['\\', '\\']
  else if character = '\x08' then ['\\', 'b']
  else if character = '\t' then ['\\', 't']
  else if character = '\n' then ['\\', 'n']
  else if character = '\x0c' then ['\\', 'f']
  else if character = '\r' then ['\\', 'r']
  else if character.toNat < 0x20 then
    let digits := Nat.toDigits 16 character.toNat
    ['\\', 'u'] ++ List.replicate (4 - digits.length) '0' ++ digits
  else [character]

def stringText (text : String) : List Char :=
  '"' :: (text.toList.flatMap escapedChar ++ ['"'])

def integerText (number : Int) : List Char :=
  if number < 0 then '-' :: decimal number.natAbs else decimal number.natAbs

/-- The exact decimal text of the double with the given bits. -/
def realText (bits : UInt64) : List Char :=
  let bits := bits.toNat
  let fraction := bits % 0x10000000000000
  let scale := bits / 0x10000000000000 % 0x800
  let significand := if scale = 0 then fraction else fraction + 0x10000000000000
  let exponent : Int := ((if scale = 0 then 1 else scale : Nat) : Int) - 1075
  let sign := if bits / 0x8000000000000000 = 1 then ['-'] else []
  match exponent with
  | .ofNat power => sign ++ decimal (significand * Nat.pow 2 power) ++ ['.', '0']
  | .negSucc power =>
      let places := power + 1
      let digits := padded (places + 1) (significand * Nat.pow 5 places)
      sign ++ digits.take (digits.length - places) ++ '.' :: digits.drop (digits.length - places)

def numberText : Number → List Char
  | .integer value => integerText value
  | .real bits => realText bits

namespace Value

mutual

def chars : Value → List Char
  | .null => ['n', 'u', 'l', 'l']
  | .bool true => ['t', 'r', 'u', 'e']
  | .bool false => ['f', 'a', 'l', 's', 'e']
  | .number value => numberText value
  | .string text => stringText text
  | .array items => '[' :: (itemChars items ++ [']'])
  | .object members => '\x7b' :: (memberChars members ++ ['\x7d'])

def itemChars : List Value → List Char
  | [] => []
  | [last] => chars last
  | first :: rest => chars first ++ ',' :: itemChars rest

def memberChars : List (String × Value) → List Char
  | [] => []
  | [(name, last)] => stringText name ++ ':' :: chars last
  | (name, first) :: rest => stringText name ++ ':' :: (chars first ++ ',' :: memberChars rest)

end

/-- The text of a value. -/
def render (value : Value) : String :=
  String.ofList (chars value)

end Value

end Steward.Json
