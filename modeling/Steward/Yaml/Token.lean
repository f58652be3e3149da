/-
This file cuts YAML texts into tokens.
The start of a block and the key of an entry have no mark of their own. They are told by
indentation and by a colon that follows, so that a key is put before tokens already read.
-/

import Steward.Yaml.Scalar

namespace Steward.Yaml

inductive Token where
  | directive
  | documentStart
  | documentEnd
  | blockSequenceStart
  | blockMappingStart
  | blockEnd
  | flowSequenceStart
  | flowSequenceEnd
  | flowMappingStart
  | flowMappingEnd
  | blockEntry
  | flowEntry
  | key
  | value
  | alias (name : String)
  | anchor (name : String)
  | tag (handle suffix : String)
  | plain (words : String)
  | text (words : String)
  deriving DecidableEq, Repr

/-- A place where the key of an entry may have started. -/
structure KeyPlace where
  /-- The number of tokens before it. -/
  number : Nat
  index : Nat
  line : Nat
  column : Nat
  isRequired : Bool
  deriving Repr

structure Lexer where
  cursor : Cursor
  /-- The tokens so far, the last one first. -/
  reversed : List Token := []
  count : Nat := 0
  keyAllowed : Bool := true
  /-- The possible key of each open flow collection and of the block around them, the
  innermost one first. -/
  keys : List (Option KeyPlace) := [none]
  /-- The column of the innermost block, or -1 outside of all blocks. -/
  indent : Int := -1
  /-- The columns of the blocks around it. -/
  outer : List Int := []
  /-- The place after a quoted scalar, at which a colon needs no blank in a flow collection. -/
  quoteEnd : Option Nat := none

namespace Lexer

/-- The number of open flow collections. -/
def flowLevel (lexer : Lexer) : Nat :=
  lexer.keys.length - 1

def inFlow (lexer : Lexer) : Bool :=
  lexer.flowLevel ≠ 0

def flowLimit : Nat :=
  255

def push (lexer : Lexer) (token : Token) : Lexer :=
  { lexer with reversed := token :: lexer.reversed, count := lexer.count + 1 }

/-- Puts a token behind the first tokens of the given number. -/
def insert (lexer : Lexer) (number : Nat) (token : Token) : Lexer :=
  let later := lexer.count - number
  { lexer with
    reversed := lexer.reversed.take later ++ token :: lexer.reversed.drop later
    count := lexer.count + 1 }

def allowKey (lexer : Lexer) (allowed : Bool) : Lexer :=
  { lexer with keyAllowed := allowed }

def moveTo (lexer : Lexer) (cursor : Cursor) : Lexer :=
  { lexer with cursor }

/-- Closes the blocks that are further in than the given column. -/
def closeBlocks (column : Int) (lexer : Lexer) : Lexer :=
  if lexer.inFlow then lexer
  else
    let columns := lexer.indent :: lexer.outer
    match columns.dropWhile (column < ·) with
    | [] => lexer
    | indent :: outer =>
        let closed := columns.length - (outer.length + 1)
        { lexer with
          reversed := List.replicate closed .blockEnd ++ lexer.reversed
          count := lexer.count + closed
          indent
          outer }

/-- Opens a block at a column that is further in than the innermost one. Its token goes to the
end, or behind the first tokens of the given number. -/
def openBlock (lexer : Lexer) (column : Nat) (number : Option Nat) (token : Token) : Lexer :=
  if lexer.inFlow ∨ (column : Int) ≤ lexer.indent then lexer
  else
    let opened := match number with
      | some number => lexer.insert number token
      | none => lexer.push token
    { opened with indent := column, outer := lexer.indent :: lexer.outer }

/-- Gives up the innermost possible key, which fails if one was required. -/
def dropKey (lexer : Lexer) : Option Lexer :=
  match lexer.keys with
  | some place :: rest =>
      if place.isRequired then none else some { lexer with keys := none :: rest }
  | _ => some lexer

/-- Notes that a key may start here. -/
def noteKey (lexer : Lexer) : Option Lexer :=
  if ¬ lexer.keyAllowed then some lexer
  else do
    let place := {
      number := lexer.count
      index := lexer.cursor.index
      line := lexer.cursor.line
      column := lexer.cursor.column
      isRequired := lexer.inFlow && lexer.indent = lexer.cursor.column }
    let lexer ← lexer.dropKey
    return { lexer with keys := some place :: lexer.keys.drop 1 }

/-- The most characters that a key without a mark of its own can have. -/
def keyLength : Nat :=
  1024

/-- Gives up the possible keys that are on an earlier line or too far back. -/
def dropStaleKeys (lexer : Lexer) : Option Lexer := do
  let keys ← lexer.keys.mapM fun key =>
    match key with
    | none => some none
    | some place =>
        if place.line < lexer.cursor.line ∨ place.index + keyLength < lexer.cursor.index then
          if place.isRequired then none else some none
        else some (some place)
  return { lexer with keys }

/-- Moves to the next token. A line break outside of flow collections allows a key, and a tab
is no indentation where a key is allowed. -/
def skipBlanks : Nat → Lexer → Lexer
  | 0, lexer => lexer
  | fuel + 1, lexer =>
      match lexer.cursor.head? with
      | some ' ' => skipBlanks fuel (lexer.moveTo lexer.cursor.skip)
      | some '\t' =>
          if lexer.inFlow ∨ ¬ lexer.keyAllowed then
            skipBlanks fuel (lexer.moveTo lexer.cursor.skip)
          else lexer
      | some '\n' | some '\r' =>
          let next := lexer.moveTo lexer.cursor.skipBreak
          skipBlanks fuel (if lexer.inFlow then next else next.allowKey true)
      | some '#' => skipBlanks fuel (lexer.moveTo lexer.cursor.skipComment)
      | _ => lexer

/-- Ends all blocks, as the start or the end of a document does. -/
def endBlocks (lexer : Lexer) : Option Lexer := do
  let lexer ← (lexer.closeBlocks (-1)).dropKey
  return lexer.allowKey false

def isUriChar (character : Char) : Bool :=
  isNameChar character ||
    character ∈ [';', '/', '?', ':', '@', '&', '=', '+', '$', ',', '.', '!', '~', '*', '\'', '(',
      ')', '[', ']']

/-- The number of bytes of a character by its first byte. -/
def leadLength? (octet : Nat) : Option Nat :=
  if octet < 0x80 then some 1
  else if octet / 0x20 = 6 then some 2
  else if octet / 0x10 = 14 then some 3
  else if octet / 0x08 = 30 then some 4
  else none

/-- One byte, written as a percent sign and two hexadecimal digits. -/
def readOctet : List Char → Option (Nat × List Char)
  | '%' :: high :: low :: rest => do
      return (16 * (← Text.hexDigit? high) + (← Text.hexDigit? low), rest)
  | _ => none

/-- The bytes of a character after its first one, joined into one number. -/
def readTrail : Nat → Nat → List Char → Option Nat
  | 0, code, _ => some code
  | count + 1, code, characters =>
      match readOctet characters with
      | some (octet, rest) =>
          if octet / 0x40 = 2 then readTrail count ((256 * code + octet) % 0x100000000) rest else none
      | none => none

/-- A character of a tag that is written by its bytes. -/
def readCoded (cursor : Cursor) : Option (Char × Cursor) := do
  let (lead, rest) ← readOctet cursor.rest
  let length ← leadLength? lead
  let code ← readTrail (length - 1) lead rest
  if code.isValidChar then return (Char.ofNat code, cursor.skipMany (3 * length)) else none

/-- The characters of a tag, the last one first. -/
def readUri : Nat → Cursor → List Char → Option (List Char × Cursor)
  | 0, _, _ => none
  | fuel + 1, cursor, reversed =>
      match cursor.head? with
      | some '%' =>
          match readCoded cursor with
          | some (character, cursor) => readUri fuel cursor (character :: reversed)
          | none => none
      | some character =>
          if isUriChar character then readUri fuel cursor.skip (character :: reversed)
          else some (reversed, cursor)
      | none => some (reversed, cursor)

/-- Reads the characters of a tag after some that belong to it. -/
def readSuffix (head : List Char) (cursor : Cursor) : Option (String × Cursor) := do
  let (reversed, cursor) ← readUri (cursor.rest.length + 1) cursor head.reverse
  return (String.ofList reversed.reverse, cursor)

/-- The handle of a tag: an exclamation mark, a name, and another mark if there is one. -/
def readHandle (cursor : Cursor) : Option (List Char × Bool × Cursor) :=
  if ¬ cursor.isAt (· = '!') then none
  else
    let (name, cursor) := cursor.skip.span isNameChar
    if cursor.isAt (· = '!') then some (name, true, cursor.skip) else some (name, false, cursor)

/-- Reads a tag: one written out between angle brackets, or a handle with a suffix. -/
def readTag (cursor : Cursor) : Option (Token × Cursor) := do
  let (token, cursor) ←
    match cursor.rest with
    | '!' :: '<' :: _ =>
        let (suffix, after) ← readSuffix [] cursor.skip.skip
        if suffix = "" ∨ ¬ after.isAt (· = '>') then none
        else pure (Token.tag "" suffix, after.skip)
    | _ =>
        let (name, isClosed, after) ← readHandle cursor
        if isClosed then
          let (suffix, after) ← readSuffix [] after
          if suffix = "" then none
          else pure (Token.tag (String.ofList ('!' :: name ++ ['!'])) suffix, after)
        else
          let (suffix, after) ← readSuffix name after
          pure (if suffix = "" then Token.tag "" "!" else Token.tag "!" suffix, after)
  if endsWord cursor.rest then return (token, cursor) else none

/-- Reads the version in a directive. -/
def readVersion (cursor : Cursor) : Option Cursor := do
  let (major, cursor) := (cursor.skipWhile isBlank).span Text.isDigit
  if major = [] ∨ 9 < major.length ∨ ¬ cursor.isAt (· = '.') then none
  let (minor, cursor) := cursor.skip.span Text.isDigit
  if minor = [] ∨ 9 < minor.length then none
  return cursor

/-- Reads the handle and the text that a directive gives it. -/
def readTagDirective (cursor : Cursor) : Option Cursor := do
  let (name, isClosed, cursor) ← readHandle (cursor.skipWhile isBlank)
  if ¬ isClosed ∧ name ≠ [] then none
  let (suffix, cursor) ← readSuffix [] (cursor.skipWhile isBlank)
  if suffix = "" ∨ ¬ endsWord cursor.rest then none
  return cursor

/-- Reads a directive. One with an unknown name is passed over. -/
def readDirective (cursor : Cursor) : Option Cursor := do
  let (name, cursor) := cursor.skip.span isNameChar
  if name = [] ∨ ¬ endsWord cursor.rest then none
  let cursor ←
    match String.ofList name with
    | "YAML" => readVersion cursor
    | "TAG" => readTagDirective cursor
    | _ => some (cursor.skipWhile fun character => !isBreak character)
  let cursor := (cursor.skipWhile isBlank).skipComment
  if cursor.head?.all isBreak then return cursor.skipBreak else none

/-- Reads a name after its mark. -/
def readName (cursor : Cursor) : Option (String × Cursor) :=
  let (name, cursor) := cursor.skip.span isNameChar
  let follows := cursor.head?.all fun character =>
    isSpace character || character ∈ ['?', ':', ',', ']', '\x7d', '%', '@', '\x60']
  if name = [] ∨ ¬ follows then none else some (String.ofList name, cursor)

/-- Opens a flow collection. -/
def openFlow (lexer : Lexer) (token : Token) : Option Lexer := do
  let lexer ← lexer.noteKey
  if flowLimit ≤ lexer.flowLevel then none
  return ({ lexer with
    keys := none :: lexer.keys
    keyAllowed := true
    cursor := lexer.cursor.skip }).push token

/-- Closes a flow collection, if one is open. -/
def closeFlow (lexer : Lexer) (token : Token) : Option Lexer := do
  let lexer ← lexer.dropKey
  return ({ lexer with
    keys := if lexer.inFlow then lexer.keys.drop 1 else lexer.keys
    keyAllowed := false
    cursor := lexer.cursor.skip }).push token

/-- Separates two entries of a flow collection. -/
def separateFlow (lexer : Lexer) : Option Lexer := do
  let lexer ← lexer.dropKey
  return ({ lexer with keyAllowed := true, cursor := lexer.cursor.skip }).push .flowEntry

/-- Starts an entry of a block sequence. -/
def startEntry (lexer : Lexer) : Option Lexer := do
  if lexer.inFlow ∨ ¬ lexer.keyAllowed then none
  let lexer ← (lexer.openBlock lexer.cursor.column none .blockSequenceStart).dropKey
  return ({ lexer with keyAllowed := true, cursor := lexer.cursor.skip }).push .blockEntry

/-- Opens a block mapping here, if a key may stand here. -/
def openMapping (lexer : Lexer) : Option Lexer :=
  if lexer.inFlow then some lexer
  else if ¬ lexer.keyAllowed then none
  else some (lexer.openBlock lexer.cursor.column none .blockMappingStart)

/-- Starts a key that has a mark of its own. -/
def startKey (lexer : Lexer) : Option Lexer := do
  let lexer ← (← lexer.openMapping).dropKey
  return ({ lexer with keyAllowed := !lexer.inFlow, cursor := lexer.cursor.skip }).push .key

/-- Starts the value of an entry. The possible key before it becomes one. -/
def startValue (lexer : Lexer) : Option Lexer := do
  let lexer ←
    match lexer.keys with
    | some place :: rest =>
        let keyed := (lexer.insert place.number .key).openBlock place.column
          (some place.number) .blockMappingStart
        some { keyed with keys := none :: rest, keyAllowed := false }
    | _ => lexer.openMapping.map fun lexer => lexer.allowKey (!lexer.inFlow)
  return (lexer.moveTo lexer.cursor.skip).push .value

/-- Reads a scalar or a property of a node, at which a key may start. -/
def readNode (lexer : Lexer) (read : Cursor → Option (Token × Cursor)) : Option Lexer := do
  let lexer ← lexer.noteKey
  let (token, cursor) ← read lexer.cursor
  return ({ lexer with keyAllowed := false, cursor }).push token

def readQuotedNode (lexer : Lexer) (quote : Char) : Option Lexer := do
  let lexer ← lexer.readNode fun cursor => do
    let (words, cursor) ← readQuoted quote cursor
    return (.text words, cursor)
  return { lexer with quoteEnd := some lexer.cursor.index }

def readBlockNode (lexer : Lexer) (literal : Bool) : Option Lexer := do
  let indent := lexer.indent
  let lexer ← lexer.readNode fun cursor => do
    let (words, cursor) ← readBlock literal indent cursor
    return (.text words, cursor)
  return lexer.allowKey true

def readPlainNode (lexer : Lexer) : Option Lexer := do
  let lexer ← lexer.noteKey
  let (words, isBroken, cursor) ←
    readPlain lexer.inFlow (lexer.indent + 1).toNat lexer.cursor
  return ({ lexer with keyAllowed := isBroken, cursor }).push (.plain words)

def readNameNode (lexer : Lexer) (token : String → Token) : Option Lexer :=
  lexer.readNode fun cursor => do
    let (name, cursor) ← readName cursor
    return (token name, cursor)

/-- Reads the token that starts with the given character. -/
def readToken (lexer : Lexer) (character : Char) : Option Lexer :=
  let rest := lexer.cursor.rest.drop 1
  let standsAlone := endsWord rest
  if character = '%' ∧ lexer.cursor.column = 0 then do
    let lexer ← lexer.endBlocks
    return (lexer.moveTo (← readDirective lexer.cursor)).push .directive
  else if lexer.cursor.atMarker '-' then do
    let lexer ← lexer.endBlocks
    return (lexer.moveTo (lexer.cursor.skipMany 3)).push .documentStart
  else if lexer.cursor.atMarker '.' then do
    let lexer ← lexer.endBlocks
    return (lexer.moveTo (lexer.cursor.skipMany 3)).push .documentEnd
  else
    match character with
    | '[' => lexer.openFlow .flowSequenceStart
    | '\x7b' => lexer.openFlow .flowMappingStart
    | ']' => lexer.closeFlow .flowSequenceEnd
    | '\x7d' => lexer.closeFlow .flowMappingEnd
    | ',' => lexer.separateFlow
    | '-' => if standsAlone then lexer.startEntry else lexer.readPlainNode
    | '?' => if standsAlone then lexer.startKey else lexer.readPlainNode
    | ':' =>
        let closesKey := lexer.inFlow &&
          (rest.head?.any isFlowMark || lexer.quoteEnd = some lexer.cursor.index)
        if standsAlone || closesKey then lexer.startValue else lexer.readPlainNode
    | '*' => lexer.readNameNode .alias
    | '&' => lexer.readNameNode .anchor
    | '!' => lexer.readNode readTag
    | '|' => if lexer.inFlow then lexer.readPlainNode else lexer.readBlockNode true
    | '>' => if lexer.inFlow then lexer.readPlainNode else lexer.readBlockNode false
    | '\'' | '"' => lexer.readQuotedNode character
    | '%' | '@' | '\x60' => none
    | _ => lexer.readPlainNode

/-- Ends the text on a line of its own. -/
def finish (lexer : Lexer) : Option Lexer :=
  lexer.endBlocks

/-- Reads all tokens; each of them takes a character at least. -/
def readAll : Nat → Lexer → Option Lexer
  | 0, _ => none
  | fuel + 1, lexer => do
      let lexer ← (skipBlanks (lexer.cursor.rest.length + 1) lexer).dropStaleKeys
      let lexer := lexer.closeBlocks lexer.cursor.column
      match lexer.cursor.head? with
      | none => lexer.finish
      | some character => readAll fuel (← lexer.readToken character)

end Lexer

/-- The tokens of a text. -/
def Token.scan? (text : String) : Option (List Token) := do
  let cursor := Cursor.ofString text
  let lexer ← Lexer.readAll (cursor.rest.length + 1) { cursor }
  return lexer.reversed.reverse

end Steward.Yaml
