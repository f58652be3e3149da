/-
This file moves through the characters of a YAML text and keeps count of lines and columns.
A text ends at its first null character.
-/

namespace Steward.Yaml

def isBlank (character : Char) : Bool :=
  character = ' ' || character = '\t'

def isBreak (character : Char) : Bool :=
  character = '\n' || character = '\r'

/-- The characters that stand between words. -/
def isSpace (character : Char) : Bool :=
  isBlank character || isBreak character

/-- The characters that stand for themselves only outside of flow collections. -/
def isFlowMark (character : Char) : Bool :=
  character ∈ [',', '[', ']', '\x7b', '\x7d']

/-- The characters of names. -/
def isNameChar (character : Char) : Bool :=
  character.isAlphanum || character = '_' || character = '-'

/-- Whether a word ends before the given characters. -/
def endsWord (characters : List Char) : Bool :=
  characters.head?.all isSpace

/-- A place in a text. -/
structure Cursor where
  rest : List Char
  index : Nat := 0
  line : Nat := 0
  column : Nat := 0
  deriving Repr

namespace Cursor

def ofString (text : String) : Cursor :=
  { rest := text.toList.takeWhile (· ≠ '\x00') }

def atEnd (cursor : Cursor) : Bool :=
  cursor.rest.isEmpty

def head? (cursor : Cursor) : Option Char :=
  cursor.rest.head?

def isAt (cursor : Cursor) (test : Char → Bool) : Bool :=
  cursor.head?.any test

/-- Moves over one character; only a line feed starts a new line. -/
def skip (cursor : Cursor) : Cursor :=
  match cursor.rest with
  | [] => cursor
  | '\n' :: rest => ⟨rest, cursor.index + 1, cursor.line + 1, 0⟩
  | _ :: rest => ⟨rest, cursor.index + 1, cursor.line, cursor.column + 1⟩

def skipMany : Nat → Cursor → Cursor
  | 0, cursor => cursor
  | count + 1, cursor => skipMany count cursor.skip

/-- The characters up to the first one that fails the test, and the place after them. -/
def span (cursor : Cursor) (test : Char → Bool) : List Char × Cursor :=
  let characters := cursor.rest.takeWhile test
  (characters, cursor.skipMany characters.length)

def skipWhile (cursor : Cursor) (test : Char → Bool) : Cursor :=
  (cursor.span test).2

/-- Moves over a line break, of which a carriage return before a line feed is a part. -/
def skipBreak (cursor : Cursor) : Cursor :=
  match cursor.rest with
  | '\r' :: '\n' :: _ => cursor.skip.skip
  | _ => if cursor.isAt isBreak then cursor.skip else cursor

/-- Moves over a comment, if there is one. -/
def skipComment (cursor : Cursor) : Cursor :=
  if cursor.isAt (· = '#') then cursor.skipWhile fun character => !isBreak character
  else cursor

/-- Whether three of the given marks stand alone at the start of a line. -/
def atMarker (cursor : Cursor) (mark : Char) : Bool :=
  cursor.column = 0 &&
    match cursor.rest with
    | first :: second :: third :: rest =>
        first = mark && second = mark && third = mark && endsWord rest
    | _ => false

/-- Whether a document starts or ends here. -/
def atDocumentMarker (cursor : Cursor) : Bool :=
  cursor.atMarker '-' || cursor.atMarker '.'

end Cursor

end Steward.Yaml
