/-
This file writes a text between quotes, with the characters that would be lost to a reader
written by their codes.
-/

import Steward.Text.Hidden

namespace Steward.Text

def lowerHexDigits (number : Nat) : List Char :=
  Nat.toDigits 16 number

/-- One character as it stands between double quotes. -/
def quotedChar (character : Char) : List Char :=
  if character = '\x00' then ['\\', '0']
  else if character = '\t' then ['\\', 't']
  else if character = '\r' then ['\\', 'r']
  else if character = '\n' then ['\\', 'n']
  else if character = '\\' then ['\\', '\\']
  else if character = '"' then ['\\', '"']
  else if isHiddenChar character then
    ['\\', 'u', '\x7b'] ++ lowerHexDigits character.toNat ++ ['\x7d']
  else [character]

/-- The text in double quotes. -/
def quoted (text : String) : String :=
  String.ofList ('"' :: (text.toList.flatMap quotedChar ++ ['"']))

/-- An optional value in its written form, with the word for its presence. -/
def quotedOption {α : Type} (render : α → String) : Option α → String
  | none => "None"
  | some value => "Some(" ++ render value ++ ")"

/-- The word that stands for a secret. -/
def redacted : String := quoted "<redacted>"

end Steward.Text
