/-
This file writes the labels of domain names that go beyond ASCII in letters and digits only.
-/

import Steward.Text.Digits

namespace Steward.Url.Punycode

/-- The next bias, from the distance just written and the number of characters so far. -/
def adapt (distance count : Nat) (first : Bool) : Nat :=
  let distance := if first then distance / 700 else distance / 2
  let rec reduce (rounds distance bias : Nat) : Nat :=
    match rounds with
    | 0 => bias + 36 * distance / (distance + 38)
    | rounds + 1 =>
        if 455 < distance then reduce rounds (distance / 35) (bias + 36)
        else bias + 36 * distance / (distance + 38)
  reduce 64 (distance + distance / count) 0

def digitChar (digit : Nat) : Char :=
  if digit < 26 then Char.ofNat ('a'.toNat + digit) else Char.ofNat ('0'.toNat + digit - 26)

def digitOf? (character : Char) : Option Nat :=
  if 'a' ≤ character ∧ character ≤ 'z' then some (character.toNat - 'a'.toNat)
  else if 'A' ≤ character ∧ character ≤ 'Z' then some (character.toNat - 'A'.toNat)
  else if Text.isDigit character then some (character.toNat - '0'.toNat + 26)
  else none

def threshold (position bias : Nat) : Nat :=
  if position ≤ bias then 1 else if bias + 26 ≤ position then 26 else position - bias

/-- A number in digits of falling weight. -/
def variableDigits (rounds number position bias : Nat) : List Char :=
  match rounds with
  | 0 => []
  | rounds + 1 =>
      let limit := threshold position bias
      if number < limit then [digitChar number]
      else
        digitChar (limit + (number - limit) % (36 - limit)) ::
          variableDigits rounds ((number - limit) / (36 - limit)) (position + 36) bias

structure Progress where
  written : List Char
  distance : Nat
  bias : Nat
  done : Nat

/-- Writes the places of one character of the label. -/
def encodePlaces (code basicCount : Nat) (label : List Char) (progress : Progress) : Progress :=
  label.foldl
    (fun progress character =>
      if character.toNat < code then { progress with distance := progress.distance + 1 }
      else if character.toNat = code then
        { written := progress.written ++ variableDigits 64 progress.distance 36 progress.bias
          distance := 0
          bias := adapt progress.distance (progress.done + 1) (progress.done = basicCount)
          done := progress.done + 1 }
      else progress)
    progress

def encodeFrom (rounds code basicCount : Nat) (label : List Char) (progress : Progress) :
    List Char :=
  match rounds with
  | 0 => progress.written
  | rounds + 1 =>
      match ((label.map Char.toNat).filter (code ≤ ·)).min? with
      | none => progress.written
      | some next =>
          let moved := { progress with
            distance := progress.distance + (next - code) * (progress.done + 1) }
          let encoded := encodePlaces next basicCount label moved
          encodeFrom rounds (next + 1) basicCount label
            { encoded with distance := encoded.distance + 1 }

/-- The label in ASCII, without the mark that goes before it. -/
def encode (label : List Char) : List Char :=
  let basic := label.filter fun character => character.toNat < 0x80
  let start := if basic = [] then [] else basic ++ ['-']
  encodeFrom (label.length + 1) 0x80 basic.length label ⟨start, 0, 72, basic.length⟩

/-- One distance at the start of the digits, with what follows. -/
def decodeDistance (digits : List Char) (weight position bias distance : Nat) :
    Option (Nat × List Char) :=
  match digits with
  | [] => none
  | character :: rest => do
      let digit ← digitOf? character
      let distance := distance + digit * weight
      let limit := threshold position bias
      if digit < limit then some (distance, rest)
      else decodeDistance rest (weight * (36 - limit)) (position + 36) bias distance

def decodeFrom (rounds : Nat) (digits label : List Char) (code place bias : Nat) :
    Option (List Char) :=
  match rounds, digits with
  | _, [] => some label
  | 0, _ => none
  | rounds + 1, _ => do
      let (distance, rest) ← decodeDistance digits 1 36 bias 0
      let count := label.length + 1
      let code := code + (place + distance) / count
      let place := (place + distance) % count
      if code.isValidChar then
        decodeFrom rounds rest (label.insertIdx place (Char.ofNat code)) code (place + 1)
          (adapt distance count (label.all fun character => character.toNat < 0x80))
      else none

/-- The label that an ASCII form stands for, if it stands for one. -/
def decode? (encoded : List Char) : Option (List Char) :=
  let reversed := encoded.reverse
  let digits := (reversed.takeWhile (· ≠ '-')).reverse
  let basic := ((reversed.dropWhile (· ≠ '-')).drop 1).reverse
  if encoded.all fun character => character.toNat < 0x80 then
    decodeFrom (digits.length + 1) digits basic 0x80 0 72
  else none

end Steward.Url.Punycode
