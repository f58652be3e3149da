/-
This file reads JSON texts.
A text is one value with blanks around it, nested less than 128 deep. The steps that a reading
may take are counted, and one more than the length of the text is always enough.
-/

import Steward.Json.Number

namespace Steward.Json

open Text

/-- Containers may be nested this deep, less one. -/
def nestingLimit : Nat := 128

def isBlankChar (character : Char) : Bool :=
  character == ' ' || character == '\n' || character == '\t' || character == '\r'

def skipBlanks (characters : List Char) : List Char :=
  characters.dropWhile isBlankChar

/-- A code of four hexadecimal digits. -/
def readHex4 : List Char → Except ReadError (Nat × List Char)
  | first :: second :: third :: fourth :: rest =>
      match hexDigit? first, hexDigit? second, hexDigit? third, hexDigit? fourth with
      | some a, some b, some c, some d => .ok (((a * 16 + b) * 16 + c) * 16 + d, rest)
      | _, _, _, _ => .error .invalidEscape
  | _ => .error .unexpectedEnd

/-- The character of an escape by code, whose letter has been read; a code of the first half
of a surrogate pair takes the second half with it. -/
def readCodeEscape (characters : List Char) : Except ReadError (Char × List Char) := do
  let (code, rest) ← readHex4 characters
  if 0xDC00 ≤ code ∧ code ≤ 0xDFFF then .error .loneSurrogate
  else if 0xD800 ≤ code ∧ code ≤ 0xDBFF then
    match rest with
    | '\\' :: 'u' :: after =>
        let (second, rest) ← readHex4 after
        if 0xDC00 ≤ second ∧ second ≤ 0xDFFF then
          .ok (Char.ofNat (0x10000 + (code - 0xD800) * 0x400 + (second - 0xDC00)), rest)
        else .error .loneSurrogate
    | _ => .error .loneSurrogate
  else .ok (Char.ofNat code, rest)

/-- The character of an escape, whose backslash has been read. -/
def readEscape : List Char → Except ReadError (Char × List Char)
  | '"' :: rest => .ok ('"', rest)
  | '\\' :: rest => .ok ('\\', rest)
  | '/' :: rest => .ok ('/', rest)
  | 'b' :: rest => .ok ('\x08', rest)
  | 'f' :: rest => .ok ('\x0c', rest)
  | 'n' :: rest => .ok ('\n', rest)
  | 'r' :: rest => .ok ('\r', rest)
  | 't' :: rest => .ok ('\t', rest)
  | 'u' :: rest => readCodeEscape rest
  | [] => .error .unexpectedEnd
  | _ :: _ => .error .invalidEscape

/-- The characters of a string up to its closing quote; the opening one has been read. -/
def readStringChars (steps : Nat) (characters : List Char) :
    Except ReadError (List Char × List Char) :=
  match steps with
  | 0 => .error .unexpectedEnd
  | steps + 1 =>
      match characters with
      | [] => .error .unexpectedEnd
      | '"' :: rest => .ok ([], rest)
      | '\\' :: rest => do
          let (character, rest) ← readEscape rest
          let (characters, rest) ← readStringChars steps rest
          return (character :: characters, rest)
      | character :: rest =>
          if character.toNat < 0x20 then .error .controlCharacter
          else do
            let (characters, rest) ← readStringChars steps rest
            return (character :: characters, rest)

def readString (steps : Nat) (characters : List Char) :
    Except ReadError (String × List Char) := do
  let (characters, rest) ← readStringChars steps characters
  return (String.ofList characters, rest)

mutual

/-- A value at the start of the text, in a place where `depth` more containers may be nested. -/
def readValue (steps depth : Nat) (characters : List Char) :
    Except ReadError (Value × List Char) :=
  match steps with
  | 0 => .error .unexpectedEnd
  | steps + 1 =>
      match characters with
      | [] => .error .unexpectedEnd
      | 'n' :: 'u' :: 'l' :: 'l' :: rest => .ok (.null, rest)
      | 't' :: 'r' :: 'u' :: 'e' :: rest => .ok (.bool true, rest)
      | 'f' :: 'a' :: 'l' :: 's' :: 'e' :: rest => .ok (.bool false, rest)
      | '"' :: rest => do
          let (text, rest) ← readString steps rest
          return (.string text, rest)
      | '[' :: rest =>
          if depth ≤ 1 then .error .nestedTooDeep
          else
            match skipBlanks rest with
            | ']' :: rest => .ok (.array [], rest)
            | rest => do
                let (items, rest) ← readItems steps (depth - 1) rest
                return (.array items, rest)
      | '\x7b' :: rest =>
          if depth ≤ 1 then .error .nestedTooDeep
          else
            match skipBlanks rest with
            | '\x7d' :: rest => .ok (.object [], rest)
            | rest => do
                let (members, rest) ← readMembers steps (depth - 1) rest
                return (.ofMembers members, rest)
      | first :: rest =>
          if first = '-' ∨ isDigit first then do
            let (number, rest) ← readNumber (first :: rest)
            return (.number number, rest)
          else .error (.unexpectedCharacter first)

/-- The items of an array up to its closing bracket, of which there is at least one. -/
def readItems (steps depth : Nat) (characters : List Char) :
    Except ReadError (List Value × List Char) :=
  match steps with
  | 0 => .error .unexpectedEnd
  | steps + 1 => do
      let (item, rest) ← readValue steps depth characters
      match skipBlanks rest with
      | ']' :: rest => .ok ([item], rest)
      | ',' :: rest => do
          let (items, rest) ← readItems steps depth (skipBlanks rest)
          return (item :: items, rest)
      | found :: _ => .error (.unexpectedCharacter found)
      | [] => .error .unexpectedEnd

/-- The members of an object up to its closing brace, of which there is at least one. -/
def readMembers (steps depth : Nat) (characters : List Char) :
    Except ReadError (List (String × Value) × List Char) :=
  match steps with
  | 0 => .error .unexpectedEnd
  | steps + 1 =>
      match characters with
      | '"' :: rest => do
          let (name, rest) ← readString steps rest
          match skipBlanks rest with
          | ':' :: rest => do
              let (value, rest) ← readValue steps depth (skipBlanks rest)
              match skipBlanks rest with
              | '\x7d' :: rest => .ok ([(name, value)], rest)
              | ',' :: rest => do
                  let (members, rest) ← readMembers steps depth (skipBlanks rest)
                  return ((name, value) :: members, rest)
              | found :: _ => .error (.unexpectedCharacter found)
              | [] => .error .unexpectedEnd
          | found :: _ => .error (.unexpectedCharacter found)
          | [] => .error .unexpectedEnd
      | found :: _ => .error (.unexpectedCharacter found)
      | [] => .error .unexpectedEnd

end

/-- The value that the characters of a whole text denote. -/
def readChars (characters : List Char) : Except ReadError Value := do
  let (value, rest) ← readValue (2 * characters.length + 2) nestingLimit (skipBlanks characters)
  match skipBlanks rest with
  | [] => return value
  | _ :: _ => .error .trailingCharacters

/-- The value that a text denotes. -/
def read (text : String) : Except ReadError Value :=
  readChars text.toList

end Steward.Json
