/-
This file reads the arguments of a command: options by a long or a short name, each with or
without a value.
A value is written in the same word as its option or is the next word. It may be missing until
something else follows, and is asked for only then.
-/

import Steward.Table

namespace Steward.CommandLine

/-- Why arguments do not make up a command, or what they ask for in place of one. -/
inductive UsageError where
  | unknownArgument
  | invalidValue
  | argumentConflict
  | tooManyValues
  | missingRequiredArgument
  | invalidSubcommand
  | missingSubcommand
  | nothingGiven
  /-- The help of a command, in full or in short. -/
  | helpWanted (command : Option String) (inFull : Bool)
  | versionWanted
  deriving DecidableEq, Repr

/-- What an option takes or does. -/
inductive OptionKind where
  | flag
  | text
  /-- A text that is not empty. -/
  | path
  | help
  | version
  deriving DecidableEq, Repr

def OptionKind.takesValue : OptionKind → Bool
  | .text | .path => true
  | .flag | .help | .version => false

/-- An option of a command. -/
structure CommandOption where
  long : String
  short : Option Char := none
  kind : OptionKind
  deriving DecidableEq, Repr

/-- The options given so far. -/
structure Scan where
  /-- The name of the command, unless it is the program itself. -/
  command : Option String
  values : Table String String := ∅
  /-- The last option, with its value if that has followed; it counts as given once something
  else follows. -/
  pending : Option (CommandOption × Option String) := none
  deriving DecidableEq, Repr

namespace Scan

/-- Gives an option its value, once at most. -/
def give (scan : Scan) (given : CommandOption) (value : String) : Except UsageError Scan :=
  if scan.values.contains given.long then .error .argumentConflict
  else if given.kind = .path ∧ value = "" then .error .invalidValue
  else .ok { scan with values := scan.values.insert given.long value }

/-- Gives the last option its value, which must have followed. -/
def settle (scan : Scan) : Except UsageError Scan :=
  match scan.pending with
  | none => .ok scan
  | some (_, none) => .error .invalidValue
  | some (given, some value) => { scan with pending := none }.give given value

/-- Whether the last option waits for its value. -/
def isWaiting (scan : Scan) : Bool :=
  match scan.pending with
  | some (_, none) => true
  | _ => false

/-- Takes an option that has no value in its own word. -/
def meet (scan : Scan) (met : CommandOption) (isLong : Bool) : Except UsageError Scan := do
  let scan ← scan.settle
  match met.kind with
  | .flag => scan.give met ""
  | .text | .path => return { scan with pending := some (met, none) }
  | .help => throw (.helpWanted scan.command isLong)
  | .version => throw .versionWanted

/-- Takes an option with a value in the same word. -/
def meetWith (scan : Scan) (met : CommandOption) (value : String) : Except UsageError Scan := do
  (← scan.settle).give met value

/-- Reads a word with a long name, after its two dashes. -/
def readLong (options : List CommandOption) (scan : Scan) (word : List Char) :
    Except UsageError Scan :=
  let name := String.ofList (word.takeWhile (· ≠ '='))
  match options.find? (·.long = name), word.dropWhile (· ≠ '=') with
  | none, _ => .error .unknownArgument
  | some met, [] => scan.meet met true
  | some met, _ :: value =>
      if met.kind.takesValue then scan.meetWith met (String.ofList value)
      else .error .tooManyValues

/-- Reads a word of short names, after its dash. The rest of the word after an option with a
value is the value. -/
def readShort (options : List CommandOption) : Scan → List Char → Except UsageError Scan
  | scan, [] => .ok scan
  | scan, name :: rest =>
      match options.find? (·.short = some name) with
      | none => .error .unknownArgument
      | some met =>
          if ¬ met.kind.takesValue then do
            let scan ← scan.meet met false
            readShort options scan rest
          else
            match rest with
            | [] => scan.meet met false
            | '=' :: value => scan.meetWith met (String.ofList value)
            | value => scan.meetWith met (String.ofList value)

/-- Reads a word that starts with a dash, or takes a word as the value of the option before it.
There is nothing if the word is neither. -/
def readWord (options : List CommandOption) (scan : Scan) (word : String) :
    Except UsageError (Option Scan) :=
  match word.toList, scan.pending with
  | '-' :: '-' :: name, _ => (scan.readLong options name).map some
  | '-' :: first :: rest, _ => (readShort options scan (first :: rest)).map some
  | _, some (waiting, none) => .ok (some { scan with pending := some (waiting, some word) })
  | _, _ => .ok none

/-- Reads the words of a command that takes options only. After two dashes all words count as
they are, and so none may follow. -/
def readOptions (options : List CommandOption) : List String → Scan → Except UsageError Scan
  | [], scan => scan.settle
  | "--" :: [], scan => scan.settle
  | "--" :: _ :: _, _ => .error .unknownArgument
  | word :: rest, scan => do
      match ← scan.readWord options word with
      | some scan => readOptions options rest scan
      | none => throw .unknownArgument

/-- Reads the words of a program up to the name of one of its commands. -/
def readUpTo (options : List CommandOption) (commands : List String) :
    List String → Scan → Except UsageError (Scan × Option (String × List String))
  | [], scan | "--" :: [], scan => do return (← scan.settle, none)
  | "--" :: word :: _, _ =>
      .error (if word ∈ commands then .unknownArgument else .invalidSubcommand)
  | word :: rest, scan => do
      if ¬ scan.isWaiting ∧ word ∈ commands then return (scan, some (word, rest))
      match ← scan.readWord options word with
      | some scan => readUpTo options commands rest scan
      | none => throw .invalidSubcommand

/-- Takes the value of an option from the environment, unless it was given. -/
def giveFrom (scan : Scan) (wanted : CommandOption) (value : Option String) :
    Except UsageError Scan :=
  match value with
  | some value => if scan.values.contains wanted.long then .ok scan else scan.give wanted value
  | none => .ok scan

end Scan

end Steward.CommandLine
