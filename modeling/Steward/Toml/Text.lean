/-
This file reads the texts of TOML: quoted strings, keys, and the comments and blanks between
them.
-/

import Steward.Text.Digits

namespace Steward.Toml

open Text (hexDigit? isDigit)

def isBlank (character : Char) : Bool :=
  character = ' ' || character = '\t'

/-- The control characters, which may not be written as they are; a tab is not one of them. -/
def isControl (character : Char) : Bool :=
  (character.toNat < 0x20 && character ≠ '\t') || character.toNat = 0x7F

def skipBlanks (characters : List Char) : List Char :=
  characters.dropWhile isBlank

/-- Moves over a line break, if one is here. -/
def skipBreak? : List Char → Option (List Char)
  | '\n' :: rest | '\r' :: '\n' :: rest => some rest
  | _ => none

/-- Moves to the end of a line, over a comment if there is one. -/
def skipToBreak (characters : List Char) : List Char :=
  match skipBlanks characters with
  | '#' :: rest => rest.dropWhile fun character => !isControl character
  | rest => rest

/-- Moves to the next line, if nothing but a comment is left of this one. -/
def skipLine? (characters : List Char) : Option (List Char) :=
  match skipToBreak characters with
  | [] => some []
  | rest => skipBreak? rest

/-- Moves over blanks, comments and line breaks. -/
def skipLines : Nat → List Char → List Char
  | 0, characters => characters
  | fuel + 1, characters =>
      let rest := skipToBreak characters
      match skipBreak? rest with
      | some rest => skipLines fuel rest
      | none => rest

/-- The number of hexadecimal digits after a letter. -/
def codeLength? : Char → Option Nat
  | 'x' => some 2
  | 'u' => some 4
  | 'U' => some 8
  | _ => none

/-- The characters that are written as a backslash and a letter. -/
def escaped? : Char → Option Char
  | 'b' => some '\x08'
  | 't' => some '\t'
  | 'n' => some '\n'
  | 'f' => some '\x0c'
  | 'r' => some '\r'
  | 'e' => some '\x1b'
  | '"' => some '"'
  | '\\' => some '\\'
  | _ => none

/-- The character of an escape after its backslash, and what follows. -/
def readEscape : List Char → Option (Char × List Char)
  | [] => none
  | letter :: rest =>
      match codeLength? letter with
      | some length => do
          let digits ← (rest.take length).mapM hexDigit?
          let code := digits.foldl (fun code digit => 16 * code + digit) 0
          if digits.length = length ∧ code.isValidChar then
            return (Char.ofNat code, rest.drop length)
          else none
      | none => (escaped? letter).map (·, rest)

/-- Reads a string on one line up to its closing quote; only the double quote has escapes. -/
def readLine (quote : Char) : Nat → List Char → Option (List Char × List Char)
  | 0, _ => none
  | fuel + 1, characters =>
      match characters with
      | [] => none
      | character :: rest =>
          if character = quote then some ([], rest)
          else if character = '\\' ∧ quote = '"' then do
            let (character, rest) ← readEscape rest
            let (characters, rest) ← readLine quote fuel rest
            return (character :: characters, rest)
          else if isControl character then none
          else do
            let (characters, rest) ← readLine quote fuel rest
            return (character :: characters, rest)

/-- Moves over blanks and line breaks after a backslash at the end of a line. -/
def skipEscapedBreak? (characters : List Char) : Option (List Char) :=
  (skipBreak? (skipBlanks characters)).map
    (·.dropWhile fun character => isBlank character || character = '\n' || character = '\r')

/-- Reads a string of several lines up to its three closing quotes, before which two more may
stand. -/
def readLines (quote : Char) : Nat → List Char → Option (List Char × List Char)
  | 0, _ => none
  | fuel + 1, characters =>
      match characters with
      | [] => none
      | character :: rest =>
          let quotes := (characters.takeWhile (· = quote)).length
          if 3 ≤ quotes then
            if 5 < quotes then none
            else some (List.replicate (quotes - 3) quote, characters.drop quotes)
          else if character = '\\' ∧ quote = '"' then
            match skipEscapedBreak? rest with
            | some rest => readLines quote fuel rest
            | none => do
                let (character, rest) ← readEscape rest
                let (characters, rest) ← readLines quote fuel rest
                return (character :: characters, rest)
          else if isControl character ∧ (skipBreak? characters).isNone then none
          else if character = '\r' then do
            let (characters, rest) ← readLines quote fuel (rest.drop 1)
            return ('\r' :: '\n' :: characters, rest)
          else do
            let (characters, rest) ← readLines quote fuel rest
            return (character :: characters, rest)

/-- Reads a string that starts here; a line break after three opening quotes is left out. -/
def readString? (characters : List Char) : Option (String × List Char) := do
  let quote ← characters.head?
  if quote ≠ '"' ∧ quote ≠ '\'' then none
  let rest := characters.drop 1
  let fuel := characters.length + 1
  let (words, rest) ←
    if rest.take 2 = [quote, quote] then
      let body := rest.drop 2
      readLines quote fuel ((skipBreak? body).getD body)
    else readLine quote fuel rest
  return (String.ofList words, rest)

def isKeyChar (character : Char) : Bool :=
  character.isAlphanum || character = '_' || character = '-'

/-- Reads one part of a key: bare, or a string on one line. -/
def readKeyPart (characters : List Char) : Option (String × List Char) :=
  match characters with
  | '"' :: rest | '\'' :: rest => do
      let quote ← characters.head?
      let (words, rest) ← readLine quote (rest.length + 1) rest
      return (String.ofList words, rest)
  | _ =>
      let word := characters.takeWhile isKeyChar
      if word = [] then none else some (String.ofList word, characters.drop word.length)

/-- Reads the parts of a key, with blanks around them and points between them. -/
def readKey : Nat → List Char → Option (List String × List Char)
  | 0, _ => none
  | fuel + 1, characters => do
      let (part, rest) ← readKeyPart (skipBlanks characters)
      match skipBlanks rest with
      | '.' :: rest =>
          let (parts, rest) ← readKey fuel rest
          return (part :: parts, rest)
      | rest => return ([part], rest)

end Steward.Toml
