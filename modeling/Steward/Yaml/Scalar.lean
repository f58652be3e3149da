/-
This file reads the scalars of YAML: plain ones, quoted ones, and blocks of lines.
A line break between words is folded into a space, and empty lines into line feeds.
-/

import Steward.Text.Digits
import Steward.Yaml.Cursor

namespace Steward.Yaml

/-- What stands between two words of a scalar. -/
inductive Gap where
  | none
  /-- Blanks on one line, the last one first. -/
  | blanks (characters : List Char)
  /-- A line break, escaped or not, and a number of empty lines. -/
  | breaks (escaped : Bool) (emptyLines : Nat)
  deriving Repr

namespace Gap

/-- The text of a gap, the last character first. -/
def reversed : Gap → List Char
  | .none => []
  | .blanks characters => characters
  | .breaks escaped 0 => if escaped then [] else [' ']
  | .breaks _ emptyLines => List.replicate emptyLines '\n'

def isBroken : Gap → Bool
  | .breaks _ _ => true
  | _ => false

/-- Reads blanks and line breaks. After a break, a tab before the given column is refused. -/
def read (tabColumn : Nat) : Nat → Cursor → Gap → Option (Gap × Cursor)
  | 0, _, _ => Option.none
  | fuel + 1, cursor, gap =>
      match cursor.head?, gap with
      | some character, gap =>
          if isBlank character then
            match gap with
            | .breaks _ _ =>
                if character = '\t' ∧ cursor.column < tabColumn then Option.none
                else read tabColumn fuel cursor.skip gap
            | .blanks before => read tabColumn fuel cursor.skip (.blanks (character :: before))
            | .none => read tabColumn fuel cursor.skip (.blanks [character])
          else if isBreak character then
            let next := match gap with
              | .breaks escaped emptyLines => .breaks escaped (emptyLines + 1)
              | _ => .breaks false 0
            read tabColumn fuel cursor.skipBreak next
          else some (gap, cursor)
      | Option.none, gap => some (gap, cursor)

end Gap

/-- The word of a plain scalar. A colon at the end of a word is not a part of it, and neither
is a mark of the flow collection around it. -/
def plainWord (inFlow : Bool) : List Char → List Char
  | [] => []
  | character :: rest =>
      let isColon := character = ':' && (endsWord rest || inFlow && rest.head?.any isFlowMark)
      if isSpace character || isColon || inFlow && isFlowMark character then []
      else character :: plainWord inFlow rest

/-- The words of a plain scalar, the last character first. The flag says whether the scalar is
followed by a line break. -/
def plainWords (inFlow : Bool) (indent : Nat) :
    Nat → Cursor → List Char → Gap → Option (List Char × Bool × Cursor)
  | 0, _, _, _ => none
  | fuel + 1, cursor, reversed, gap =>
      if cursor.atDocumentMarker || cursor.isAt (· = '#') then
        some (reversed, gap.isBroken, cursor)
      else
        let word := plainWord inFlow cursor.rest
        let cursor := cursor.skipMany word.length
        let (reversed, gap) := if word = [] then (reversed, gap)
          else (word.reverse ++ gap.reversed ++ reversed, .none)
        if ¬ cursor.isAt isSpace then some (reversed, gap.isBroken, cursor)
        else
          match gap.read indent (cursor.rest.length + 1) cursor with
          | none => none
          | some (gap, cursor) =>
              if ¬ inFlow ∧ cursor.column < indent then
                some (reversed, gap.isBroken, cursor)
              else plainWords inFlow indent fuel cursor reversed gap

/-- Reads a plain scalar. -/
def readPlain (inFlow : Bool) (indent : Nat) (cursor : Cursor) :
    Option (String × Bool × Cursor) := do
  let (reversed, isBroken, cursor) ←
    plainWords inFlow indent (cursor.rest.length + 1) cursor [] .none
  return (String.ofList reversed.reverse, isBroken, cursor)

/-- The characters that are written as a backslash and a letter. -/
def escaped? : Char → Option Char
  | '0' => some '\x00'
  | 'a' => some '\x07'
  | 'b' => some '\x08'
  | 't' | '\t' => some '\t'
  | 'n' => some '\n'
  | 'v' => some '\x0b'
  | 'f' => some '\x0c'
  | 'r' => some '\r'
  | 'e' => some '\x1b'
  | ' ' => some ' '
  | '"' => some '"'
  | '\'' => some '\''
  | '\\' => some '\\'
  | 'N' => some '\u0085'
  | '_' => some '\u00a0'
  | 'L' => some '\u2028'
  | 'P' => some '\u2029'
  | _ => none

/-- The number of hexadecimal digits after a letter. -/
def codeLength? : Char → Option Nat
  | 'x' => some 2
  | 'u' => some 4
  | 'U' => some 8
  | _ => none

/-- The character of a code given by hexadecimal digits. -/
def codedChar? (digits : List Char) : Option Char := do
  let values ← digits.mapM Text.hexDigit?
  let code := values.foldl (fun code value => 16 * code + value) 0
  if code.isValidChar then some (Char.ofNat code) else none

/-- The character of an escape after its backslash, and the place after it. -/
def readEscape (cursor : Cursor) : Option (Char × Cursor) := do
  let letter ← cursor.head?
  match codeLength? letter with
  | some length =>
      let digits := cursor.skip.rest.take length
      if digits.length ≠ length then none
      let character ← codedChar? digits
      return (character, cursor.skip.skipMany length)
  | none => return (← escaped? letter, cursor.skip)

/-- The word of a quoted scalar, after the characters before it. The flag says whether the
word ends in an escaped line break. -/
def quotedWord (quote : Char) : Nat → Cursor → List Char → Option (List Char × Bool × Cursor)
  | 0, _, _ => none
  | fuel + 1, cursor, reversed =>
      match cursor.rest with
      | [] => some (reversed, false, cursor)
      | character :: rest =>
          if isSpace character then some (reversed, false, cursor)
          else if character = quote then
            if quote = '\'' ∧ rest.head? = some quote then
              quotedWord quote fuel cursor.skip.skip (quote :: reversed)
            else some (reversed, false, cursor)
          else if character = '\\' ∧ quote = '"' then
            if rest.head?.any isBreak then some (reversed, true, cursor.skip.skipBreak)
            else
              match readEscape cursor.skip with
              | none => none
              | some (character, cursor) =>
                  quotedWord quote fuel cursor (character :: reversed)
          else quotedWord quote fuel cursor.skip (character :: reversed)

/-- The words of a quoted scalar up to its closing quote, the last character first. -/
def quotedWords (quote : Char) : Nat → Cursor → List Char → Option (List Char × Cursor)
  | 0, _, _ => none
  | fuel + 1, cursor, reversed =>
      if cursor.atDocumentMarker || cursor.atEnd then none
      else
        match quotedWord quote (cursor.rest.length + 1) cursor reversed with
        | none => none
        | some (reversed, isBroken, cursor) =>
            if cursor.isAt (· = quote) then some (reversed, cursor.skip)
            else
              let gap := if isBroken then .breaks true 0 else .none
              match Gap.read 0 (cursor.rest.length + 1) cursor gap with
              | none => none
              | some (gap, cursor) =>
                  quotedWords quote fuel cursor (gap.reversed ++ reversed)

/-- Reads a quoted scalar from its opening quote on. -/
def readQuoted (quote : Char) (cursor : Cursor) : Option (String × Cursor) := do
  let (reversed, cursor) ← quotedWords quote (cursor.rest.length + 1) cursor.skip []
  return (String.ofList reversed.reverse, cursor)

/-- What becomes of the line breaks at the end of a block. -/
inductive Chomping where
  | strip
  | clip
  | keep
  deriving DecidableEq, Repr

/-- The sign of a chomping, if there is one. -/
def readChomping (cursor : Cursor) : Option Chomping × Cursor :=
  match cursor.head? with
  | some '+' => (some .keep, cursor.skip)
  | some '-' => (some .strip, cursor.skip)
  | _ => (none, cursor)

/-- The digit of an indentation, which is not zero, if there is one. -/
def readIncrement (cursor : Cursor) : Option (Option Nat × Cursor) :=
  match cursor.head? with
  | some character =>
      if ¬ Text.isDigit character then some (none, cursor)
      else if character = '0' then none
      else some (some (Text.digitValue character), cursor.skip)
  | none => some (none, cursor)

/-- The signs after the mark of a block, in either order. -/
def readBlockSigns (cursor : Cursor) : Option (Chomping × Option Nat × Cursor) := do
  let (chomping, cursor) := readChomping cursor
  let (increment, cursor) ← readIncrement cursor
  match chomping with
  | some chomping => return (chomping, increment, cursor)
  | none =>
      if increment.isNone then return (.clip, none, cursor)
      let (chomping, cursor) := readChomping cursor
      return (chomping.getD .clip, increment, cursor)

/-- Reads empty lines and the indentation after them: the widest indentation, the number of
lines and the place after them. No tab may stand in the indentation. -/
def readEmptyLines (indent : Option Nat) :
    Nat → Cursor → Nat → Nat → Option (Nat × Nat × Cursor)
  | 0, _, _, _ => none
  | fuel + 1, cursor, widest, lines =>
      let spaces := (cursor.rest.takeWhile (· = ' ')).length
      let spaces := match indent with
        | some indent => min spaces (indent - cursor.column)
        | none => spaces
      let cursor := cursor.skipMany spaces
      let widest := max widest cursor.column
      if cursor.isAt (· = '\t') ∧ indent.all (cursor.column < ·) then none
      else if cursor.isAt isBreak then
        readEmptyLines indent fuel cursor.skipBreak widest (lines + 1)
      else some (widest, lines, cursor)

/-- The text of a block as far as it is read. -/
structure BlockText where
  /-- The characters, the last one first. -/
  reversed : List Char := []
  /-- Whether a line break follows that may still be folded. -/
  isBroken : Bool := false
  emptyLines : Nat := 0
  /-- Whether the last line started with a blank, which keeps the breaks around it. -/
  startedBlank : Bool := false

namespace BlockText

/-- Adds a line that starts with a blank or not. -/
def addLine (literal : Bool) (startsBlank : Bool) (line : List Char) (text : BlockText) :
    BlockText :=
  let folded := !literal && text.isBroken && !text.startedBlank && !startsBlank
  let joint := if folded then (if text.emptyLines = 0 then [' '] else [])
    else if text.isBroken then ['\n'] else []
  { reversed :=
      line.reverse ++ List.replicate text.emptyLines '\n' ++ joint ++ text.reversed
    startedBlank := startsBlank }

/-- The text, with the breaks at its end as the chomping has it. -/
def finish (chomping : Chomping) (text : BlockText) : String :=
  let last := if chomping ≠ .strip ∧ text.isBroken then ['\n'] else []
  let kept := if chomping = .keep then List.replicate text.emptyLines '\n' else []
  String.ofList (kept ++ last ++ text.reversed).reverse

end BlockText

/-- Reads the lines of a block that have its indentation. -/
def readBlockLines (literal : Bool) (indent : Nat) :
    Nat → Cursor → BlockText → Option (BlockText × Cursor)
  | 0, _, _ => none
  | fuel + 1, cursor, text =>
      if cursor.column ≠ indent ∨ cursor.atEnd then some (text, cursor)
      else
        let startsBlank := cursor.isAt isBlank
        let (line, cursor) := cursor.span fun character => !isBreak character
        let text := text.addLine literal startsBlank line
        if cursor.atEnd then some (text, cursor)
        else
          let cursor := cursor.skipBreak
          match readEmptyLines (some indent) (cursor.rest.length + 1) cursor 0 0 with
          | none => none
          | some (_, emptyLines, cursor) =>
              readBlockLines literal indent fuel cursor { text with isBroken := true, emptyLines }

/-- Reads a block from its mark on. Its indentation is given by a digit, or else is that of
the first line, and always greater than that around it. -/
def readBlock (literal : Bool) (parentIndent : Int) (cursor : Cursor) :
    Option (String × Cursor) := do
  let (chomping, increment, cursor) ← readBlockSigns cursor.skip
  let cursor := (cursor.skipWhile isBlank).skipComment
  if ¬ endsWord cursor.rest ∨ cursor.isAt isBlank then none
  let cursor := cursor.skipBreak
  let given := increment.map fun increment => (max parentIndent 0).toNat + increment
  let (widest, emptyLines, cursor) ←
    readEmptyLines given (cursor.rest.length + 1) cursor 0 0
  let indent := given.getD (max (max widest (parentIndent + 1).toNat) 1)
  let (text, cursor) ← readBlockLines literal indent (cursor.rest.length + 1) cursor
    { emptyLines }
  return (text.finish chomping, cursor)

end Steward.Yaml
