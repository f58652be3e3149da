/-
This file writes bytes as a percent sign and two hexadecimal digits, and reads them back.
-/

import Steward.Text.Digits

namespace Steward.Url

open Text

/-- Controls, the delete character and all above ASCII are written by their bytes everywhere. -/
def isControl (character : Char) : Bool :=
  character.toNat < 0x20 || 0x7E < character.toNat

def inFragment (character : Char) : Bool :=
  isControl character || character ∈ [' ', '"', '<', '>', '\x60']

def inQuery (character : Char) : Bool :=
  isControl character || character ∈ [' ', '"', '#', '<', '>', '\'']

def inPath (character : Char) : Bool :=
  inFragment character || character ∈ ['#', '?', '\x7b', '\x7d']

def inUserInfo (character : Char) : Bool :=
  inPath character || character ∈ ['/', ':', ';', '=', '@', '[', '\\', ']', '^', '|']

def upperHex (digit : Nat) : Char :=
  if digit < 10 then Char.ofNat ('0'.toNat + digit) else Char.ofNat ('A'.toNat + digit - 10)

def encodedByte (byte : UInt8) : List Char :=
  ['%', upperHex (byte.toNat / 16), upperHex (byte.toNat % 16)]

/-- Writes the characters of a set by their bytes, and the others as they are. -/
def encode (inSet : Char → Bool) (characters : List Char) : List Char :=
  characters.flatMap fun character =>
    if inSet character then (String.utf8EncodeChar character).flatMap encodedByte
    else [character]

def decodeBytes : List UInt8 → List UInt8
  | [] => []
  | percent :: high :: low :: rest =>
      match hexDigit? (Char.ofNat high.toNat), hexDigit? (Char.ofNat low.toNat) with
      | some highDigit, some lowDigit =>
          if percent.toNat = '%'.toNat then
            UInt8.ofNat (highDigit * 16 + lowDigit) :: decodeBytes rest
          else percent :: decodeBytes (high :: low :: rest)
      | _, _ => percent :: decodeBytes (high :: low :: rest)
  | byte :: rest => byte :: decodeBytes rest

/-- The text whose bytes are written by percent signs, if they are the bytes of a text. -/
def decode? (characters : List Char) : Option (List Char) :=
  let bytes := decodeBytes (String.ofList characters).toUTF8.toList
  (String.fromUTF8? ⟨bytes.toArray⟩).map String.toList

end Steward.Url
