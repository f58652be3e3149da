/-
This file reads TOML texts.
-/

import Steward.Toml.Scalar
import Steward.Toml.Tree

namespace Steward

namespace Toml

/-- Arrays and inline tables may be nested this deep. -/
def depthLimit : Nat :=
  80

mutual

/-- Reads a value, in a place where `depth` more collections may be nested. -/
def readValue (fuel depth : Nat) (characters : List Char) : Option (Document × List Char) :=
  match fuel with
  | 0 => none
  | fuel + 1 =>
      match characters with
      | '"' :: _ | '\'' :: _ =>
          (readString? characters).map fun (words, rest) => (.text words, rest)
      | '[' :: rest =>
          if depth = 0 then none
          else
            (readItems fuel (depth - 1) (skipLines (rest.length + 1) rest)).map
              fun (items, rest) => (.list items, rest)
      | '\x7b' :: rest =>
          if depth = 0 then none
          else
            (readEntries fuel (depth - 1) (skipLines (rest.length + 1) rest) []).map
              fun (entries, rest) => (.table (entryDocuments entries), rest)
      | _ => readWord characters

/-- Reads the items of an array up to its end; a comma may follow the last one. -/
def readItems (fuel depth : Nat) (characters : List Char) :
    Option (List Document × List Char) :=
  match fuel with
  | 0 => none
  | fuel + 1 =>
      match characters with
      | ']' :: rest => some ([], rest)
      | _ => do
          let (item, rest) ← readValue fuel depth characters
          match skipLines (rest.length + 1) rest with
          | ',' :: rest =>
              let (items, rest) ← readItems fuel depth (skipLines (rest.length + 1) rest)
              return (item :: items, rest)
          | ']' :: rest => return ([item], rest)
          | _ => none

/-- Reads the entries of an inline table up to its end; a comma may follow the last one. -/
def readEntries (fuel depth : Nat) (characters : List Char) (entries : Entries) :
    Option (Entries × List Char) :=
  match fuel with
  | 0 => none
  | fuel + 1 =>
      match characters with
      | '\x7d' :: rest => some (entries, rest)
      | _ => do
          let (path, rest) ← readKey (characters.length + 1) characters
          let (document, rest) ← readValue fuel depth (skipBlanks (← readMark '=' rest))
          let entries ← entries.set? path.dropLast (path.getLastD "") document
          match skipLines (rest.length + 1) rest with
          | ',' :: rest => readEntries fuel depth (skipLines (rest.length + 1) rest) entries
          | '\x7d' :: rest => return (entries, rest)
          | _ => none

end

/-- The tables so far, and the path of the header that was opened last. -/
structure Progress where
  entries : Entries := []
  table : List String := []

/-- Reads a header after its first bracket. -/
def readHeader (characters : List Char) (progress : Progress) : Option (Progress × List Char) := do
  let (isItem, start) := match characters with
    | '[' :: rest => (true, rest)
    | _ => (false, characters)
  let (path, rest) ← readKey (start.length + 1) start
  let rest ← readMark ']' rest
  let rest ← if isItem then readMark ']' rest else some rest
  let before := path.dropLast
  let key := path.getLastD ""
  let entries ← if isItem then progress.entries.openItem? before key
    else progress.entries.openTable? before key
  return (⟨entries, path⟩, rest)

/-- Reads a key and its value. -/
def readPair (characters : List Char) (progress : Progress) :
    Option (Progress × List Char) := do
  let (path, rest) ← readKey (characters.length + 1) characters
  let value := skipBlanks (← readMark '=' rest)
  let (document, rest) ← readValue (2 * value.length + 2) depthLimit value
  let entries ← progress.entries.setIn? progress.table path.dropLast (path.getLastD "") document
  return ({ progress with entries }, rest)

/-- Reads the lines of a text, each with one header or one pair at most. -/
def readText : Nat → List Char → Progress → Option Entries
  | 0, _, _ => none
  | fuel + 1, characters, progress =>
      match skipBlanks characters with
      | [] => some progress.entries
      | '[' :: rest => do
          let (progress, rest) ← readHeader rest progress
          readText fuel (← skipLine? rest) progress
      | start =>
          match skipLine? start with
          | some rest => readText fuel rest progress
          | none => do
              let (progress, rest) ← readPair start progress
              readText fuel (← skipLine? rest) progress

end Toml

/-- The document that a TOML text holds; a mark of byte order may precede it. -/
def Document.ofToml? (text : String) : Option Document := do
  let characters := match text.toList with
    | '\ufeff' :: rest => rest
    | characters => characters
  let entries ← Toml.readText (characters.length + 1) characters {}
  return .table (Toml.entryDocuments entries)

end Steward
